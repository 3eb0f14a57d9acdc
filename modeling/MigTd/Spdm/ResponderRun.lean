/- source: spdm_rsp.rs, spdm_rebind.rs
   digest: The responder's message loop and its two entry points, as runs with their history. -/

import MigTd.Lib.RunHistory
import MigTd.Spdm.Dispatcher

/-!
The library between the transport and the request handlers is a parameter: for every message it
either handles the message itself, which changes the context as its events say, or hands a
request to the dispatcher. Its `get_session_via_id` finds exactly the sessions that were started
and neither ended nor torn down since.
-/

set_option autoImplicit false

namespace MigTd.Spdm.ResponderRun

open Lib.ByteCodec Lib.StateProgram Lib.RunHistory Migration.Information Migration.MskExchange
  Migration.ServtdRecord Status Status.SpdmStatus Vdm Context Responder ResponderFrames
  ResponderSpecs Dispatcher Tdx.Module

/-- What the library itself does to the context while it handles a message. -/
inductive LibraryEvent where
  | negotiated (info : NegotiateInfo) (connectionState : UInt8)
  | sessionStarted (sid : UInt32) (th1 : SpdmDigestStruct)
  | sessionState (sid : UInt32) (state : SpdmSessionState)
  | sessionEnded (sid : UInt32)
  | lastSessionCleared
  | contextReset

namespace LibraryEvent

def apply (s : RspState) : LibraryEvent → RspState
  | negotiated info connectionState => { s with negotiateInfo := info, connectionState }
  | sessionStarted sid th1 =>
    { s with
      sessions := Function.update s.sessions sid (some ⟨.handshaking, th1, none⟩)
      lastSessionId := some sid }
  | sessionState sid state =>
    { s with
      sessions := Function.update s.sessions sid
        ((s.sessions sid).map fun session => { session with state }) }
  | sessionEnded sid => { s with sessions := Function.update s.sessions sid none }
  | lastSessionCleared => { s with lastSessionId := none }
  | contextReset =>
    { s with
      connectionState := 0
      sessions := fun _ => none
      lastSessionId := none
      vdmMessageTranscriptBeforeKeyExchange := none }

/-- The events after which a session may be gone. -/
def endsSession : LibraryEvent → Bool
  | sessionEnded _ | contextReset => true
  | _ => false

end LibraryEvent

/-- One round of `process_message`: nothing could be received, the library handled the message,
or it handed a request to the dispatcher and then perhaps failed to send the response. -/
inductive Message where
  | lost
  | library (events : List LibraryEvent) (result : Except SpdmStatus Unit)
  | vdm (delivery : Delivery) (sendError : Option SpdmStatus)

section

variable (P : Platform)

/-- `process_message`; no result stands for a failed reception. -/
def processMessage (s : RspState) : Message → Option (Except SpdmStatus Unit) × RspState
  | .lost => (none, s)
  | .library events result => (some result, events.foldl LibraryEvent.apply s)
  | .vdm d sendError =>
    let served := dispatch P d s
    let result := match sendError with
      | some e => .error e
      | none => (Except.mapError Prod.fst served.1).map fun _ => ()
    (some result, served.2)

def step (s : RspState) (m : Message) : RspState := (processMessage P s m).2

/-- The status with which a round's result ends the loop. -/
def loopError : Option (Except SpdmStatus Unit) → Option SpdmStatus
  | none => some SPDM_STATUS_RECEIVE_FAIL
  | some (.ok ()) => none
  | some (.error status) =>
    if status.severity = .error ∧ status.statusCode matches .vdm _ then some status
    else if status = SPDM_STATUS_INVALID_STATE_LOCAL then some status
    else none

/-- A tracked session that the library no longer knows. -/
def sessionGone (s : RspState) (sid : Option UInt32) : Bool :=
  match sid with
  | some sid => (s.sessions sid).isNone
  | none => false

/-- What the loop did with a list of messages; no result means that it waits for more. -/
structure LoopRun where
  result : Option (Except SpdmStatus Unit)
  visits : List (Visit RspState Message)
  state : RspState

/-- `rsp_handle_message`, with the session it tracks. The check for a vanished session comes
before the result of the round is looked at. -/
def rspHandleMessage : Option UInt32 → RspState → List Message → LoopRun
  | _, s, [] => ⟨none, [], s⟩
  | sid, s, m :: rest =>
    let processed := processMessage P s m
    let t := processed.2
    let sid := t.lastSessionId.or sid
    if sessionGone t sid then ⟨some (.ok ()), [⟨s, m, t⟩], t⟩
    else match loopError processed.1 with
      | some status => ⟨some (.error status), [⟨s, m, t⟩], t⟩
      | none =>
        let run := rspHandleMessage sid t rest
        { run with visits := ⟨s, m, t⟩ :: run.visits }

def spdmResponder (negotiateInfo : NegotiateInfo) (appContextDataSize : Nat) : RspState where
  negotiateInfo := negotiateInfo
  connectionState := 0
  sessions := fun _ => none
  lastSessionId := none
  myPubKey := none
  peerPubKey := none
  vdmMessageTranscriptBeforeKeyExchange := none
  appContextDataBuffer := List.replicate appContextDataSize 0
  peerData := []
  info := .none
  migInfoExchanged := false
  servtdExt := none
  log := []

def zeroizeAppContext (s : RspState) : RspState :=
  { s with appContextDataBuffer := List.replicate s.appContextDataBuffer.length 0 }

/-- Store the application context, run the loop, and wipe the buffer on every path. -/
def serve (context : SpdmAppContextData) (s : RspState) (messages : List Message) : LoopRun :=
  let written := overwrite s.appContextDataBuffer (context.encode P.build)
  let s := { s with appContextDataBuffer := written.2 }
  if written.1 then
    let run := rspHandleMessage P none s messages
    { run with state := zeroizeAppContext run.state }
  else ⟨some (.error SPDM_STATUS_BUFFER_FULL), [], zeroizeAppContext s⟩

/-- `spdm_responder_transfer_msk`, which sets the peer data and nothing else of the context. -/
def spdmResponderTransferMsk (s : RspState) (migInfo : MigtdMigrationInformation)
    (peerData : Octets) (messages : List Message) : LoopRun :=
  let peerData := if P.build.policyV2 then peerData else []
  serve P { migrationInfo := migInfo, privateKey := PrivateKeyDer.default } { s with peerData }
    messages

/-- `spdm_responder_rebind_new`, whose application context names no target TD. -/
def spdmResponderRebindNew (s : RspState) (rebindInfo : MigtdMigrationInformation)
    (peerData : Octets) (messages : List Message) : LoopRun :=
  serve P { migrationInfo := .default, privateKey := PrivateKeyDer.default }
    { s with peerData, info := .rebindInformation rebindInfo } messages

end

variable {messages : List Message} {s : RspState}

section

variable {P : Platform}

theorem rspHandleMessage_walk (sid : Option UInt32) (s : RspState) (messages : List Message) :
    Walk (step P) s (rspHandleMessage P sid s messages).visits
      (rspHandleMessage P sid s messages).state := by
  induction messages generalizing sid s with
  | nil => exact .nil s
  | cons m rest ih =>
    have hone : Walk (step P) s [⟨s, m, step P s m⟩] (step P s m) := .snoc (.nil s) m
    unfold rspHandleMessage
    dsimp only
    split
    · exact hone
    · split
      · exact hone
      · exact .cons m (ih _ (step P s m))

theorem rspHandleMessage_first (sid : Option UInt32) (s : RspState) (m : Message)
    (rest : List Message) :
    ⟨s, m, step P s m⟩ ∈ (rspHandleMessage P sid s (m :: rest)).visits := by
  unfold rspHandleMessage
  dsimp only
  split
  · exact List.mem_singleton.mpr rfl
  · split
    · exact List.mem_singleton.mpr rfl
    · exact List.mem_cons_self

theorem rspHandleMessage_ok {sid : Option UInt32}
    (h : (rspHandleMessage P sid s messages).result = some (.ok ())) :
    ∃ x, (rspHandleMessage P sid s messages).state.sessions x = none ∧
      (sid = some x ∨ ∃ v ∈ (rspHandleMessage P sid s messages).visits,
        v.after.lastSessionId = some x) := by
  induction messages generalizing sid s with
  | nil => cases h
  | cons m rest ih =>
    unfold rspHandleMessage at h ⊢
    dsimp only at h ⊢
    split at h
    · rename_i hgone
      rw [if_pos hgone]
      cases hlast : (processMessage P s m).2.lastSessionId with
      | some x =>
        rw [hlast] at hgone
        refine ⟨x, Option.isNone_iff_eq_none.mp hgone, .inr ⟨_, List.mem_singleton.mpr rfl, hlast⟩⟩
      | none =>
        rw [hlast, Option.none_or] at hgone
        cases hs : sid with
        | none =>
          rw [hs] at hgone
          cases hgone
        | some x =>
          rw [hs] at hgone
          exact ⟨x, Option.isNone_iff_eq_none.mp hgone, .inl rfl⟩
    · rename_i hgone
      rw [if_neg hgone]
      split at h
      · cases h
      · obtain ⟨x, hx, htracked⟩ := ih h
        refine ⟨x, hx, ?_⟩
        rcases htracked with htracked | ⟨v, hv, hlast⟩
        · cases hlast : (processMessage P s m).2.lastSessionId with
          | some y =>
            rw [hlast, Option.some_or] at htracked
            exact .inr ⟨_, List.mem_cons_self, by rw [hlast, htracked]⟩
          | none =>
            rw [hlast, Option.none_or] at htracked
            exact .inl htracked
        · exact .inr ⟨v, List.mem_cons_of_mem _ hv, hlast⟩

theorem serve_visits {context : SpdmAppContextData} : (∃ u, Walk (step P)
        { s with appContextDataBuffer :=
            (overwrite s.appContextDataBuffer (context.encode P.build)).2 }
        (serve P context s messages).visits u ∧
      (serve P context s messages).state = zeroizeAppContext u) := by
  unfold serve
  dsimp only
  split
  · exact ⟨_, rspHandleMessage_walk none _ messages, rfl⟩
  · exact ⟨_, .nil _, rfl⟩

end

structure Untouched (s t : RspState) : Prop where
  info : t.info = s.info
  peerData : t.peerData = s.peerData
  appContext : t.appContextDataBuffer = s.appContextDataBuffer
  flag : t.migInfoExchanged = s.migInfoExchanged
  ext : t.servtdExt = s.servtdExt
  log : t.log = s.log

theorem foldl_apply_untouched (events : List LibraryEvent) (s : RspState) :
    Untouched s (events.foldl LibraryEvent.apply s) := by
  induction events generalizing s with
  | nil => exact ⟨rfl, rfl, rfl, rfl, rfl, rfl⟩
  | cons e rest ih =>
    have hone : Untouched s (LibraryEvent.apply s e) := by
      cases e <;> exact ⟨rfl, rfl, rfl, rfl, rfl, rfl⟩
    have hrest := ih (LibraryEvent.apply s e)
    rw [List.foldl_cons]
    exact ⟨hrest.info.trans hone.info, hrest.peerData.trans hone.peerData,
      hrest.appContext.trans hone.appContext, hrest.flag.trans hone.flag,
      hrest.ext.trans hone.ext, hrest.log.trans hone.log⟩

/-- The state that a round leaves, and how it came about. -/
inductive StepEffect (P : Platform) (s : RspState) : Message → RspState → Prop
  | lost : StepEffect P s .lost s
  | library {events : List LibraryEvent} {result : Except SpdmStatus Unit} :
      StepEffect P s (.library events result) (events.foldl LibraryEvent.apply s)
  | unreadable {d : Delivery} {sendError : Option SpdmStatus} {e : SpdmErrorCode × SpdmStatus}
      (opened : openRequest s.negotiateInfo d.reqBytes = .error e) :
      StepEffect P s (.vdm d sendError) s
  | handled {d : Delivery} {sendError : Option SpdmStatus} {vdm : VdmMessage} {r : Octets}
      {x : Except SpdmStatus Octets} {t : RspState}
      (opened : openRequest s.negotiateInfo d.reqBytes = .ok (vdm, r))
      (effect : HandleEffect P d vdm r s x t) (frame : Frame P.build s t) :
      StepEffect P s (.vdm d sendError) t
  | marked {d : Delivery} {sendError : Option SpdmStatus} {vdm : VdmMessage}
      {r out transcript : Octets} {u : RspState}
      (opened : openRequest s.negotiateInfo d.reqBytes = .ok (vdm, r))
      (attest : vdm.opCode.isAttest = true)
      (effect : AttestEffect P d.services vdm.opCode d.sessionId r s (.ok out) u)
      (log : u.log = s.log) (flag : u.migInfoExchanged = s.migInfoExchanged)
      (frame : Frame P.build s u) (answered : (dispatch P d s).1.isOk = true) :
      StepEffect P s (.vdm d sendError) (markLastSession u transcript)

variable {P : Platform}

theorem handleEffect_keyTranscript {d : Delivery} {vdm : VdmMessage}
    {r : Octets} {t : RspState} {x : Except SpdmStatus Octets}
    {transcript : Option Octets} (h : HandleEffect P d vdm r s x t)
    (op : vdm.opCode = .exchangePubKeyReq) :
    HandleEffect P d vdm r s x { t with vdmMessageTranscriptBeforeKeyExchange := transcript } := by
  cases h with
  | other op log ext flag sessions info => exact .other op log ext flag sessions info
  | attest op' =>
    rw [op] at op'
    cases op'
  | migInfo op' =>
    rw [op] at op'
    cases op'
  | rebindInfo op' =>
    rw [op] at op'
    cases op'

theorem step_effect (P : Platform) (s : RspState) (m : Message) :
    StepEffect P s m (step P s m) := by
  cases m with
  | lost => exact .lost
  | library events result => exact .library
  | vdm d sendError =>
    have hserved : Served P d s (dispatch P d s).1 (step P s (.vdm d sendError)) :=
      dispatch_served P d s
    generalize hout : (dispatch P d s).1 = out at hserved
    generalize step P s (.vdm d sendError) = t at hserved ⊢
    have frame {vdm : VdmMessage} {r : Octets} {x : Except SpdmStatus Octets}
        {u : RspState} (handled : handle P d vdm r s = (x, u)) : Frame P.build s u :=
      (inferInstance : Keeps (Frame P.build) (handle P d vdm r)).of_ok handled
    have effect {vdm : VdmMessage} {r : Octets} {x : Except SpdmStatus Octets}
        {u : RspState} (handled : handle P d vdm r s = (x, u)) : HandleEffect P d vdm r s x u := by
      have h := handle_effect P d vdm r s
      unfold Post at h
      rwa [handled] at h
    cases hserved with
    | unreadable opened => exact .unreadable opened
    | failed opened handled => exact .handled opened (effect handled) (frame handled)
    | served opened handled rest response =>
      rcases rest with rfl | ⟨op, transcript, rfl⟩
      · exact .handled opened (effect handled) (frame handled)
      · have hf := frame handled
        exact .handled opened (handleEffect_keyTranscript (effect handled) op)
          ⟨hf.info, hf.peerData, hf.negotiateInfo, hf.lastSessionId, hf.sessions, hf.holds⟩
    | marked opened handled response attest =>
      cases effect handled with
      | attest op effect log flag =>
        refine .marked opened attest effect log flag (frame handled) ?_
        rw [hout]
        rfl
      | other op =>
        rw [attest] at op
        cases op
      | migInfo op =>
        rw [op] at attest
        cases attest
      | rebindInfo op =>
        rw [op] at attest
        cases attest

theorem markLastSession_same (u : RspState) (transcript : Octets) :
    markLastSession u transcript = { u with sessions := (markLastSession u transcript).sessions } := by
  unfold markLastSession
  split <;> rfl

/-- What a round did to the log: nothing, or what one of the two information requests does. -/
inductive CallEffect (P : Platform) (s : RspState) : Message → RspState → Prop
  | silent {m : Message} {t : RspState} (log : t.log = s.log)
      (flag : t.migInfoExchanged = s.migInfoExchanged) : CallEffect P s m t
  | keyFailed {d : Delivery} {sendError : Option SpdmStatus} {vdm : VdmMessage} {r : Octets}
      {sid : UInt32} {session : SpdmSession} {remote : ExchangeInformation}
      {context : SpdmAppContextData} {x : MigrationResult} {t : RspState}
      (opened : openRequest s.negotiateInfo d.reqBytes = .ok (vdm, r))
      (op : vdm.opCode = .exchangeMigrationInfoReq)
      (request : MigInfoRequest P d.sessionId vdm r s sid session remote context)
      (install : installMsk P context.migrationInfo remote s.log = (.error x, t.log))
      (flag : t.migInfoExchanged = s.migInfoExchanged) : CallEffect P s (.vdm d sendError) t
  | keyInstalled {d : Delivery} {sendError : Option SpdmStatus} {vdm : VdmMessage} {r : Octets}
      {sid : UInt32} {session : SpdmSession} {remote own : ExchangeInformation}
      {context : SpdmAppContextData} {log : TdLog} {t : RspState}
      (opened : openRequest s.negotiateInfo d.reqBytes = .ok (vdm, r))
      (op : vdm.opCode = .exchangeMigrationInfoReq)
      (request : MigInfoRequest P d.sessionId vdm r s sid session remote context)
      (install : installMsk P context.migrationInfo remote s.log = (.ok own, log))
      (approval : t.log = log ∨ P.build.policyV2 = true ∧ ∃ ext x, s.servtdExt = some ext ∧
        approve P ext log = (x, t.log))
      (flag : t.migInfoExchanged = true) : CallEffect P s (.vdm d sendError) t
  | rebind {d : Delivery} {sendError : Option SpdmStatus} {vdm : VdmMessage} {r : Octets}
      {sid : UInt32} {session : SpdmSession} {token : Bytes 32} {ext : ServtdExt}
      {x : Except MigrationResult Unit} {t : RspState}
      (opened : openRequest s.negotiateInfo d.reqBytes = .ok (vdm, r))
      (op : vdm.opCode = .exchangeRebindInfoReq)
      (request : RebindInfoRequest d.sessionId vdm r s sid session token ext)
      (install : installRebind P token ext s.log = (x, t.log))
      (build : t.log = s.log ∨ P.build.rebinding = true)
      (flag : t.migInfoExchanged = s.migInfoExchanged) : CallEffect P s (.vdm d sendError) t

theorem step_callEffect (P : Platform) (s : RspState) (m : Message) :
    CallEffect P s m (step P s m) := by
  have heffect := step_effect P s m
  generalize step P s m = t at heffect ⊢
  cases heffect with
  | lost => exact .silent rfl rfl
  | @library events result =>
    have hu := foldl_apply_untouched events s
    exact .silent hu.log hu.flag
  | unreadable => exact .silent rfl rfl
  | marked opened attest effect log flag frame =>
    rw [markLastSession_same]
    exact .silent log flag
  | handled opened effect frame =>
    cases effect with
    | other op log ext flag sessions => exact .silent log flag
    | attest op effect log flag => exact .silent log flag
    | migInfo op effect ext =>
      cases effect with
      | refused log flag sessions => exact .silent log flag
      | failed request install flag sessions => exact .keyFailed opened op request install flag
      | installed request install approval flag sessions response =>
        exact .keyInstalled opened op request install approval flag
    | rebindInfo op effect ext flag build =>
      cases effect with
      | refused log sessions => exact .silent log flag
      | wrote request install sessions complete =>
        exact .rebind opened op request install build flag

/-- What no round changes: the mode of the run, the peer's data, and the target TD in the
application context. -/
structure RunFrame (b : Build) (s t : RspState) : Prop where
  info : t.info = s.info
  peerData : t.peerData = s.peerData
  holds : ∀ i, SpdmAppContextData.Holds b i s.appContextDataBuffer →
    SpdmAppContextData.Holds b i t.appContextDataBuffer

theorem step_runFrame (P : Platform) (s : RspState) (m : Message) :
    RunFrame P.build s (step P s m) := by
  have heffect := step_effect P s m
  generalize step P s m = t at heffect ⊢
  cases heffect with
  | lost => exact ⟨rfl, rfl, fun _ h => h⟩
  | @library events result =>
    have hu := foldl_apply_untouched events s
    exact ⟨hu.info, hu.peerData, fun i hi => by rwa [hu.appContext]⟩
  | unreadable => exact ⟨rfl, rfl, fun _ h => h⟩
  | handled opened effect frame => exact ⟨frame.info, frame.peerData, frame.holds⟩
  | marked opened attest effect log flag frame =>
    rw [markLastSession_same]
    exact ⟨frame.info, frame.peerData, frame.holds⟩

theorem walk_runFrame {t : RspState} {h : List (Visit RspState Message)} (w : Walk (step P) s h t) :
    RunFrame P.build s t ∧ ∀ v ∈ h, RunFrame P.build s v.before ∧ RunFrame P.build s v.after := by
  refine w.always ⟨rfl, rfl, fun _ hi => hi⟩ ?_
  intro u i hu
  have hstep := step_runFrame P u i
  exact ⟨hstep.info.trans hu.info, hstep.peerData.trans hu.peerData,
    fun j hj => hstep.holds j (hu.holds j hj)⟩

variable {v : Visit RspState Message}

theorem serve_step {context : SpdmAppContextData} (hv : v ∈ (serve P context s messages).visits) :
    v.after = step P v.before v.input ∧
    RunFrame P.build { s with appContextDataBuffer :=
      (overwrite s.appContextDataBuffer (context.encode P.build)).2 } v.before ∧
    SpdmAppContextData.Holds P.build context.migrationInfo v.before.appContextDataBuffer := by
  unfold serve at hv
  dsimp only at hv
  split at hv
  · rename_i hwritten
    have hwalk := rspHandleMessage_walk (P := P) none { s with appContextDataBuffer :=
      (overwrite s.appContextDataBuffer (context.encode P.build)).2 } messages
    have hframe := ((walk_runFrame hwalk).2 v hv).1
    have hholds := SpdmAppContextData.holds_of_overwrite P.build (Prod.ext hwritten rfl)
    exact ⟨(hwalk.mem hv).1, hframe, hframe.holds _ hholds⟩
  · cases hv

def newEvents (v : Visit RspState Message) : TdLog := v.after.log.drop v.before.log.length

theorem newEvents_append (h : v.before.log <+: v.after.log) :
    v.after.log = v.before.log ++ newEvents v := by
  obtain ⟨added, hadded⟩ := h
  unfold newEvents
  rw [← hadded, List.drop_left]

theorem newEvents_of_issues {Q : TdCall → Prop}
    (h : Issues Q v.before.log v.after.log) : ∀ e ∈ newEvents v, Q e.call := by
  obtain ⟨added, hadded, hq⟩ := h
  unfold newEvents
  rw [hadded, List.drop_left]
  exact hq

end MigTd.Spdm.ResponderRun
