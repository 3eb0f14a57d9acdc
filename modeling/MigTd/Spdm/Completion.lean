/- source: spdm_rsp.rs, spdm_rebind.rs
   digest: When a session can disappear, and what a run that ends well has written by then. -/

import MigTd.Spdm.Granted
import MigTd.Spdm.SessionBinding

set_option autoImplicit false

namespace MigTd.Spdm.Completion

open Lib.ByteCodec Lib.RunHistory Lib.StateProgram Migration.Information Migration.MskExchange
  Migration.ServtdRecord Context Dispatcher Granted Responder ResponderRun ResponderSpecs
  SessionBinding Status Vdm Tdx.Module

/-- The handler of this request tears a session down. -/
def requestEnds (P : Platform) (d : Delivery) (s : RspState) (vdm : VdmMessage) (r : Octets) :
    Bool :=
  match vdm.opCode with
  | .exchangeMigrationInfoReq => shut s.migInfoExchanged d.sessionId s
  | .exchangeRebindInfoReq => s.info.isRebind && shut false d.sessionId s
  | opCode => match (d.sessionId.or s.lastSessionId).bind s.sessions with
    | some session =>
      !session.marked && dismissed P d.services s.peerData r session.th1 opCode
    | none => false

/-- The message ends a session: by the library's own events, or by a refused request. -/
def endsSession (P : Platform) (s : RspState) : Message → Bool
  | .lost => false
  | .library events _ => events.any LibraryEvent.endsSession
  | .vdm d _ => match openRequest s.negotiateInfo d.reqBytes with
    | .ok (vdm, r) => requestEnds P d s vdm r
    | .error _ => false

def Retains (s t : RspState) : Prop := ∀ x, (s.sessions x).isSome → (t.sessions x).isSome

variable {s t : RspState}

theorem retains_of_eq (h : t.sessions = s.sessions) : Retains s t := by
  intro x hx
  rwa [h]

def LastKnown (s : RspState) : Prop := ∀ x, s.lastSessionId = some x → (s.sessions x).isSome

theorem LastKnown.of_retains (h : LastKnown s) (hr : Retains s t)
    (hlast : t.lastSessionId = s.lastSessionId) : LastKnown t := by
  intro x hx
  rw [hlast] at hx
  exact hr x (h x hx)

section

variable {P : Platform}

theorem isSome_update {f : UInt32 → Option SpdmSession} {sid x : UInt32}
    {session : Option SpdmSession} (h : (f x).isSome) (hs : (f sid).isSome → session.isSome) :
    (Function.update f sid session x).isSome := by
  by_cases hx : x = sid
  · subst hx
    rw [Function.update_self]
    exact hs h
  · rwa [Function.update_of_ne hx]

theorem apply_retains {e : LibraryEvent} (h : e.endsSession = false) (s : RspState) :
    Retains s (e.apply s) ∧ (LastKnown s → LastKnown (e.apply s)) := by
  cases e with
  | negotiated => exact ⟨fun _ hx => hx, fun hl => hl⟩
  | sessionStarted sid th1 =>
    refine ⟨fun x hx => isSome_update hx fun _ => rfl, fun _ x hx => ?_⟩
    obtain rfl : sid = x := Option.some.inj hx
    change (Function.update s.sessions sid _ sid).isSome
    rw [Function.update_self]
    rfl
  | sessionState sid state =>
    have hr : Retains s (LibraryEvent.apply s (.sessionState sid state)) := by
      intro x hx
      refine isSome_update hx fun hs => ?_
      rwa [Option.isSome_map]
    exact ⟨hr, fun hl => hl.of_retains hr rfl⟩
  | sessionEnded => cases h
  | lastSessionCleared => exact ⟨fun _ hx => hx, fun _ x hx => by cases hx⟩
  | contextReset => cases h

theorem events_retain {events : List LibraryEvent}
    (h : events.any LibraryEvent.endsSession = false) (s : RspState) :
    Retains s (events.foldl LibraryEvent.apply s) ∧
      (LastKnown s → LastKnown (events.foldl LibraryEvent.apply s)) := by
  induction events generalizing s with
  | nil => exact ⟨fun _ hx => hx, fun hl => hl⟩
  | cons e rest ih =>
    rw [List.any_cons, Bool.or_eq_false_iff] at h
    have hone := apply_retains h.1 s
    have hrest := ih h.2 (e.apply s)
    exact ⟨fun x hx => hrest.1 x (hone.1 x hx), fun hl => hrest.2 (hone.2 hl)⟩

theorem handle_retains {d : Delivery} {vdm : VdmMessage} {r : Octets}
    {x : Except SpdmStatus Octets} (h : requestEnds P d s vdm r = false)
    (effect : HandleEffect P d vdm r s x t) : Retains s t := by
  apply retains_of_eq
  cases effect with
  | other op log ext flag sessions => exact sessions
  | attest op effect log flag =>
    cases effect with
    | refused => rfl
    | accepted mode target evidence sessions => exact sessions
    | @rejected e a t target sessions =>
      have hfound : (d.sessionId.or s.lastSessionId).bind s.sessions = some a.session := by
        rw [target.addressed]
        exact target.found
      refine sessions.resolve_right ?_
      intro hdismissed
      unfold requestEnds at h
      split at h
      · rename_i hop
        rw [hop] at op
        cases op
      · rename_i hop
        rw [hop] at op
        cases op
      · rw [hfound] at h
        dsimp only at h
        rw [target.fresh, hdismissed] at h
        cases h
  | migInfo op effect ext =>
    unfold requestEnds at h
    rw [op] at h
    cases effect with
    | refused log flag sessions =>
      refine sessions.resolve_right ?_
      dsimp only at h
      rw [h]
      exact Bool.false_ne_true
    | failed request install flag sessions => exact sessions
    | installed request install approval flag sessions => exact sessions
  | rebindInfo op effect ext flag =>
    unfold requestEnds at h
    rw [op] at h
    cases effect with
    | refused log sessions =>
      refine sessions.resolve_right ?_
      rintro ⟨hmode, hshut⟩
      dsimp only at h
      rw [hmode, hshut] at h
      cases h
    | wrote request install sessions => exact sessions

theorem markLastSession_retains (u : RspState) (transcript : Octets) :
    Retains u (markLastSession u transcript) := by
  intro x hx
  unfold markLastSession
  split
  · refine isSome_update hx fun hs => ?_
    rwa [Option.isSome_map]
  · exact hx

theorem step_retains {m : Message} (h : endsSession P s m = false) :
    Retains s (step P s m) ∧ (LastKnown s → LastKnown (step P s m)) := by
  have heffect := step_effect P s m
  generalize step P s m = t at heffect ⊢
  cases heffect with
  | lost => exact ⟨fun _ hx => hx, fun hl => hl⟩
  | library => exact events_retain h s
  | unreadable => exact ⟨fun _ hx => hx, fun hl => hl⟩
  | @handled d sendError vdm r x t opened effect frame =>
    rw [endsSession, opened] at h
    have hr := handle_retains h effect
    exact ⟨hr, fun hl => hl.of_retains hr frame.lastSessionId⟩
  | @marked d sendError vdm r out transcript u opened attest effect log flag frame =>
    rw [endsSession, opened] at h
    have hu : Retains s u := handle_retains h (.attest attest effect log flag)
    have hr : Retains s (markLastSession u transcript) := fun x hx =>
      markLastSession_retains u transcript x (hu x hx)
    refine ⟨hr, fun hl => hl.of_retains hr ?_⟩
    rw [markLastSession_same]
    exact frame.lastSessionId

end

variable {h : List (Visit RspState Message)} {granted : RspState → Message → Prop}

section

variable {P : Platform}

theorem walk_retains (w : Walk (step P) s h t) (start : LastKnown s)
    (none : ∀ v ∈ h, endsSession P v.before v.input = false) :
    LastKnown t ∧ ∀ v ∈ h, ∀ x, v.after.lastSessionId = some x → (t.sessions x).isSome := by
  refine w.invariant (P := fun h t => (∀ v ∈ h, endsSession P v.before v.input = false) →
    LastKnown t ∧ ∀ v ∈ h, ∀ x, v.after.lastSessionId = some x → (t.sessions x).isSome)
    (fun _ => ⟨start, by simp⟩) ?_ none
  intro h u i _ ih none
  obtain ⟨hlast, hall⟩ := ih fun v hv => none v (List.mem_append_left _ hv)
  have hstep := step_retains (none ⟨u, i, step P u i⟩ (by simp))
  refine ⟨hstep.2 hlast, ?_⟩
  intro v hv x hx
  rcases List.mem_append.mp hv with hv | hv
  · exact hstep.1 x (hall v hv x hx)
  · obtain rfl := List.mem_singleton.mp hv
    exact hstep.2 hlast x hx

theorem ends_of_ok {s : RspState} {messages : List Message} (start : LastKnown s)
    (h : (rspHandleMessage P none s messages).result = some (.ok ())) :
    ∃ v ∈ (rspHandleMessage P none s messages).visits, endsSession P v.before v.input = true := by
  by_contra hnone
  have hnone' : ∀ v ∈ (rspHandleMessage P none s messages).visits,
      endsSession P v.before v.input = false := by
    intro v hv
    by_contra hends
    exact hnone ⟨v, hv, Bool.not_eq_false _ ▸ hends⟩
  obtain ⟨x, hgone, htracked⟩ := rspHandleMessage_ok h
  have hkept := (walk_retains (rspHandleMessage_walk none s messages) start hnone').2
  rcases htracked with htracked | ⟨v, hv, hlast⟩
  · cases htracked
  · have hsome := hkept v hv x hlast
    rw [hgone] at hsome
    cases hsome

end

/-- Every message that ends a session comes after a granted request. -/
def Orderly (P : Platform) (granted : RspState → Message → Prop)
    (h : List (Visit RspState Message)) : Prop :=
  ∀ g v k, h = g ++ v :: k → endsSession P v.before v.input = true →
    ∃ u ∈ g, granted u.before u.input

theorem orderly_of_take {P : Platform} (n : Nat)
    (quiet : ((h.take n).all fun v => !endsSession P v.before v.input) = true)
    (answered : ∃ u ∈ h.take n, granted u.before u.input) : Orderly P granted h := by
  rintro g v k rfl hends
  obtain ⟨u, hu, hgranted⟩ := answered
  by_cases hn : n ≤ g.length
  · rw [List.take_append_of_le_length hn] at hu
    exact ⟨u, List.mem_of_mem_take hu, hgranted⟩
  · -- Otherwise the ending visit would be one of the first.
    have hv : v ∈ (g ++ v :: k).take n := by
      rw [List.take_append, List.mem_append]
      right
      obtain ⟨i, hi⟩ : ∃ i, n - g.length = i + 1 := ⟨n - g.length - 1, by omega⟩
      rw [hi, List.take_succ_cons]
      exact List.mem_cons_self
    have hquiet := List.all_eq_true.mp quiet v hv
    rw [hends] at hquiet
    cases hquiet

section

variable {P : Platform} {messages : List Message} {context : SpdmAppContextData} {s : RspState}

theorem granted_of_ok (h : (serve P context s messages).result = some (.ok ()))
    (orderly : Orderly P granted (serve P context s messages).visits)
    (start : s.lastSessionId = none) :
    ∃ v ∈ (serve P context s messages).visits, granted v.before v.input := by
  have hvisits : ∃ v ∈ (serve P context s messages).visits,
      endsSession P v.before v.input = true := by
    unfold serve at h ⊢
    dsimp only at h ⊢
    split at h
    · rename_i hwritten
      rw [if_pos hwritten]
      refine ends_of_ok ?_ h
      intro x hx
      rw [start] at hx
      cases hx
    · cases h
  obtain ⟨v, hv, hends⟩ := hvisits
  obtain ⟨g, k, hsplit⟩ := List.append_of_mem hv
  obtain ⟨u, hu, hgranted⟩ := orderly g v k hsplit hends
  refine ⟨u, ?_, hgranted⟩
  rw [hsplit]
  exact List.mem_append_left _ hu

theorem no_key_without_mode {v : Visit RspState Message} (mode : s.info = .none)
    (empty : ∀ sid, s.sessions sid = none) (hv : v ∈ (serve P context s messages).visits) :
    ¬KeyGranted P v.before v.input := by
  obtain ⟨u, w, -⟩ := @serve_visits messages s P context
  have hstart : ∀ sid session, s.sessions sid = some session → session.marked = false := by
    intro sid session hfound
    rw [empty sid] at hfound
    cases hfound
  have hall := (w.always (P := fun t => t.info = .none ∧
    ∀ sid session, t.sessions sid = some session → session.marked = false) ⟨mode, hstart⟩ ?_).2
  · rintro ⟨d, sendError, vdm, r, sid, session, remote, c, -, -, -, request, -⟩
    have hmarked := request.ready.attested
    rw [(hall v hv).1.2 sid session request.ready.found] at hmarked
    cases hmarked
  · rintro t m ⟨hmode, hunmarked⟩
    exact ⟨(step_runFrame P t m).info.trans hmode, step_unmarked hmode hunmarked⟩

/-- A run in which sessions end only after a granted information request, and which ends well, has
delivered its secret; a round delivers it exactly when its request is granted. On the context that
`spdm_responder` builds no round of a migration run delivers a key. -/
theorem success_delivered {s : RspState} {info : MigtdMigrationInformation} {peerData : Octets}
    (start : s.lastSessionId = none) :
    ((spdmResponderTransferMsk P s info peerData messages).result = some (.ok ()) →
      Orderly P (KeyGranted P) (spdmResponderTransferMsk P s info peerData messages).visits →
      ∃ v ∈ (spdmResponderTransferMsk P s info peerData messages).visits, KeyDelivered info v) ∧
    ((spdmResponderRebindNew P s info peerData messages).result = some (.ok ()) →
      Orderly P (RebindGranted P) (spdmResponderRebindNew P s info peerData messages).visits →
      ∃ v ∈ (spdmResponderRebindNew P s info peerData messages).visits, RebindDelivered P v) ∧
    (∀ v ∈ (spdmResponderTransferMsk P s info peerData messages).visits,
      (KeyDelivered info v ↔ KeyGranted P v.before v.input)) ∧
    (∀ v ∈ (spdmResponderRebindNew P s info peerData messages).visits,
      (RebindDelivered P v ↔ RebindGranted P v.before v.input)) ∧
    ∀ n size, ∀ v ∈ (spdmResponderTransferMsk P (spdmResponder n size) info peerData
      messages).visits, ¬KeyDelivered info v := by
  have key (s : RspState) : ∀ v ∈ (spdmResponderTransferMsk P s info peerData messages).visits,
      (KeyDelivered info v ↔ KeyGranted P v.before v.input) := by
    intro v hv
    obtain ⟨hstep, -, holds⟩ := serve_step hv
    exact keyDelivered_iff hstep holds
  have rebind : ∀ v ∈ (spdmResponderRebindNew P s info peerData messages).visits,
      (RebindDelivered P v ↔ RebindGranted P v.before v.input) :=
    fun v hv => rebindDelivered_iff (serve_step hv).1
  refine ⟨fun h orderly => ?_, fun h orderly => ?_, key s, rebind, fun n size v hv => ?_⟩
  · obtain ⟨v, hv, hgranted⟩ := granted_of_ok h orderly start
    exact ⟨v, hv, (key s v hv).mpr hgranted⟩
  · obtain ⟨v, hv, hgranted⟩ := granted_of_ok h orderly start
    exact ⟨v, hv, (rebind v hv).mpr hgranted⟩
  · rw [key _ v hv]
    exact no_key_without_mode rfl (fun _ => rfl) hv

end

/-- A complete run: a session is attested, finished, used for one request and ended. -/
def completeRun (attestation information : Octets) : List Message :=
  [Reference.connect, Reference.deliver none Reference.pubKeyRequest, Reference.startSession 7 1,
    Reference.deliver none attestation, Reference.finishSession 7,
    Reference.deliver (some 7) information, Reference.endSession 7]

def rebindMessages : List Message :=
  completeRun (Reference.rebindAttestRequest 1 (List.replicate 272 0)) Reference.rebindInfoRequest

def migrationMessages : List Message :=
  completeRun (Reference.migAttestRequest 1 (List.replicate 272 0)) Reference.migInfoRequest

def migrationContext : RspState :=
  { spdmResponder Reference.negotiated 400 with info := .migrationInformation .default }

theorem reference_completes (calls : List TdCall) (log : TdLog) :
    (complete Reference.tdx log calls).isSome := by
  induction calls generalizing log with
  | nil => rfl
  | cons call rest ih =>
    obtain ⟨v, hv⟩ : ∃ v, Reference.tdx log call = .ok v := by
      unfold Reference.tdx
      split
      · split <;> exact ⟨_, rfl⟩
      · exact ⟨_, rfl⟩
      · exact ⟨_, rfl⟩
    rw [complete, hv]
    exact ih _

theorem reference_installs (info : MigtdMigrationInformation) (log : TdLog) :
    Installs Reference.tdx info ⟨⟨[1, 2, 3, 4], rfl⟩, 1, 1, Bytes.zero 4⟩ log := by
  refine ⟨⟨⟨[TDCS_FIELD_MIG_ENC_KEY, TDCS_FIELD_MIG_ENC_KEY + 1, TDCS_FIELD_MIG_ENC_KEY + 1 + 1,
    TDCS_FIELD_MIG_ENC_KEY + 1 + 1 + 1], rfl⟩, 1, 1, Bytes.zero 4⟩, 1, rfl, ?_, rfl,
    reference_completes _ _⟩
  exact ⟨rfl, rfl, rfl, rfl, rfl, rfl, rfl, trivial⟩

/-- The message is this request in session 7, which is ready for it. -/
def asks (request : Octets) (v : Visit RspState Message) : Bool :=
  match v.input with
  | .vdm d _ => d.reqBytes == request && d.sessionId == some 7 &&
      v.before.negotiateInfo == Reference.negotiated &&
      (v.before.sessions 7).any fun x => x.state == .established && x.marked
  | _ => false

theorem asks_ready {request : Octets} {v : Visit RspState Message} (h : asks request v = true) :
    ∃ d sendError session, v.input = .vdm d sendError ∧ d.reqBytes = request ∧
      d.sessionId = some 7 ∧ v.before.negotiateInfo = Reference.negotiated ∧
      Ready v.before 7 session := by
  unfold asks at h
  split at h
  · rename_i d sendError hinput
    simp only [Bool.and_eq_true, beq_iff_eq, Option.any_eq_true] at h
    obtain ⟨⟨⟨hrequest, hsid⟩, hnegotiated⟩, session, hfound, hstate, hmarked⟩ := h
    exact ⟨d, sendError, session, hinput, hrequest, hsid, hnegotiated, hfound, hstate, hmarked⟩
  · cases h

theorem success_delivered_complete :
    (∃ v ∈ (spdmResponderTransferMsk Reference.platform migrationContext .default [8]
      migrationMessages).visits, KeyDelivered .default v) ∧
    ∃ v ∈ (spdmResponderRebindNew Reference.platform (spdmResponder Reference.negotiated 400)
      .default [8] rebindMessages).visits, RebindDelivered Reference.platform v := by
  have hkey :
      let run := spdmResponderTransferMsk Reference.platform migrationContext .default [8]
        migrationMessages
      run.result = some (.ok ()) ∧
        ((run.visits.take 6).all fun v => !endsSession Reference.platform v.before v.input) = true ∧
        ∃ v ∈ run.visits.take 6, asks Reference.migInfoRequest v = true ∧
          v.before.migInfoExchanged = false ∧ (SpdmAppContextData.read Reference.platform.build
            v.before.appContextDataBuffer).isSome = true := by
    decide +kernel
  have hrebind :
      let run := spdmResponderRebindNew Reference.platform (spdmResponder Reference.negotiated 400)
        .default [8] rebindMessages
      run.result = some (.ok ()) ∧
        ((run.visits.take 6).all fun v => !endsSession Reference.platform v.before v.input) = true ∧
        ∃ v ∈ run.visits.take 6, asks Reference.rebindInfoRequest v = true ∧
          v.before.info.isRebind = true ∧ (v.before.servtdExt.any fun ext =>
            (ext.calculateApprovedServtdExtHash Reference.shortDigest).isOk) = true := by
    decide +kernel
  have hrequests : openRequest Reference.negotiated Reference.migInfoRequest =
        .ok (⟨0, 0, .exchangeMigrationInfoReq, 2⟩, Reference.migInfoRequest.drop 17) ∧
      (migInfoReqElements (Reference.migInfoRequest.drop 17)).map Prod.fst =
        .ok ⟨⟨[1, 2, 3, 4], rfl⟩, 1, 1, Bytes.zero 4⟩ ∧
      openRequest Reference.negotiated Reference.rebindInfoRequest =
        .ok (⟨0, 0, .exchangeRebindInfoReq, 1⟩, Reference.rebindInfoRequest.drop 17) ∧
      (tokenElement (Reference.rebindInfoRequest.drop 17)).map Prod.fst = .ok (Bytes.zero 32) := by
    decide +kernel
  obtain ⟨hopenKey, hoffer, hopenToken, htoken⟩ := hrequests
  constructor
  · obtain ⟨hok, hquiet, v, hv, hasks, hfirst, hread⟩ := hkey
    obtain ⟨d, sendError, session, hinput, hrequest, hsid, hnegotiated, ready⟩ := asks_ready hasks
    obtain ⟨⟨context, rest⟩, hcontext⟩ := Option.isSome_iff_exists.mp hread
    obtain ⟨pair, hpair, hremote⟩ := map_ok.mp hoffer
    refine (success_delivered rfl).1 hok (orderly_of_take 6 hquiet ⟨v, hv, d, sendError,
      ⟨0, 0, .exchangeMigrationInfoReq, 2⟩, Reference.migInfoRequest.drop 17, 7, session, _, context,
      hinput, ?_, rfl, ⟨hsid, hfirst, ready, rfl, ⟨pair.2, ?_⟩, rest, hcontext⟩,
      reference_installs _ _⟩)
    · rw [hnegotiated, hrequest]
      exact hopenKey
    · rw [hpair, ← hremote]
  · obtain ⟨hok, hquiet, v, hv, hasks, hmode, hext⟩ := hrebind
    obtain ⟨d, sendError, session, hinput, hrequest, hsid, hnegotiated, ready⟩ := asks_ready hasks
    obtain ⟨ext, hkept, hhash⟩ := (Option.any_eq_true _ _).mp hext
    obtain ⟨hash, hhash⟩ : ∃ hash,
        ext.calculateApprovedServtdExtHash Reference.shortDigest = .ok hash := by
      cases hx : ext.calculateApprovedServtdExtHash Reference.shortDigest with
      | ok hash => exact ⟨hash, rfl⟩
      | error e =>
        rw [hx] at hhash
        cases hhash
    obtain ⟨pair, hpair, hvalue⟩ := map_ok.mp htoken
    refine (success_delivered rfl).2.1 hok (orderly_of_take 6 hquiet ⟨v, hv, d, sendError,
      ⟨0, 0, .exchangeRebindInfoReq, 1⟩, Reference.rebindInfoRequest.drop 17, 7, session,
      Bytes.zero 32, ext, hash, hinput, ?_, rfl, rfl, ⟨hmode, hsid, ready, rfl, ⟨pair.2, ?_⟩, hkept⟩,
      hhash, reference_completes _ _⟩)
    · rw [hnegotiated, hrequest]
      exact hopenToken
    · rw [hpair, ← hvalue]

/-- A session that was never attested asks for the key: the session is torn down for it. -/
def earlyKeyMessages : List Message :=
  [Reference.connect, Reference.startSession 7 1, Reference.finishSession 7,
    Reference.deliver (some 7) Reference.migInfoRequest]

def foreignEvidenceMessages : List Message :=
  [Reference.connect, Reference.deliver none Reference.pubKeyRequest, Reference.startSession 7 1,
    Reference.deliver none (Reference.rebindAttestRequest 2 (List.replicate 272 0))]

/-- Both runs end well although their only session was refused, and nothing was written. -/
theorem success_without_delivery :
    (spdmResponderTransferMsk Reference.platform (spdmResponder Reference.negotiated 400)
      .default [8] earlyKeyMessages).result = some (.ok ()) ∧
    (spdmResponderTransferMsk Reference.platform (spdmResponder Reference.negotiated 400)
      .default [8] earlyKeyMessages).state.log = [] ∧
    (spdmResponderRebindNew Reference.platform (spdmResponder Reference.negotiated 400)
      .default [8] foreignEvidenceMessages).result = some (.ok ()) ∧
    (spdmResponderRebindNew Reference.platform (spdmResponder Reference.negotiated 400)
      .default [8] foreignEvidenceMessages).state.log = [] := by
  decide +kernel

end MigTd.Spdm.Completion
