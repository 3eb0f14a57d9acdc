/- source: spdm_req.rs, spdm_rsp.rs
   digest: What the source and the destination of an SPDM migration offer, hear and install. -/

import MigTd.Migration.TlsAgreement
import MigTd.Spdm.ExchangeWire
import MigTd.Spdm.KeyInstallation
import MigTd.Spdm.RequesterFrames

-- The frame of a run is one search over all of its steps.
set_option synthInstance.maxSize 100000

set_option autoImplicit false

namespace MigTd.Spdm.ExchangePeers

open Lib.ByteCodec Lib.RunHistory Lib.StateProgram Migration.Information Migration.MskExchange
  Migration.ServtdRecord Dispatcher ExchangeWire Installation KeyInstallation Requester
  RequesterFrames ResponderRun ResponderSpecs Status Vdm Tdx.Module Migration.TlsAgreement Context
  Responder ResponderFrames

def inSession (sent : List (Option UInt32 × Octets)) : List (Option UInt32 × Octets) :=
  sent.filter fun request => request.1.isSome

variable {request : Octets} {sid : UInt32}

theorem inSession_append {sent sent' : List (Option UInt32 × Octets)}
    (h : inSession sent = []) (hsent : sent' = sent ++ [(some sid, request)]) :
    inSession sent' = [(some sid, request)] := by
  rw [hsent]
  unfold inSession at h ⊢
  rw [List.filter_append, h]
  rfl

/-- Up to the exchange the source only reads, and sends nothing in a session. -/
def Prepares (a b : Trace) : Prop := Issues ReadsOnly a.1 b.1 ∧ inSession b.2 = inSession a.2

instance : Std.Refl Prepares := ⟨fun a => ⟨refl_of _ a.1, rfl⟩⟩

instance : IsTrans Trace Prepares :=
  ⟨fun _ _ _ h k => ⟨trans_of _ h.1 k.1, k.2.trans h.2⟩⟩

instance : Keeps (OnTrace Prepares) (handOver none request) := by
  refine keeps_update fun s => ⟨refl_of _ s.log, ?_⟩
  unfold history inSession
  simp

instance (P : Platform) (info : MigtdMigrationInformation) :
    Keeps (OnTrace Prepares) (ownServtdExt P info) := by
  have hread : Keeps (Issues ReadsOnly)
      (readServtdExt P.tdx info.bindingHandle info.targetTdUuid) :=
    keeps_readServtdExt.mono fun _ _ hi => hi.mono fun _ hc => readsOnly_of_readsTarget hc
  exact keeps_embed hread fun _ _ h => ⟨h, rfl⟩

/-- The one request of the source in a session carries the offer that its module reported. -/
structure Requested (info : MigtdMigrationInformation) (capacity : Nat) (own : ExchangeInformation)
    (sid : UInt32) (request : Octets) (t : Trace) : Prop where
  reserved : own.reserved = Bytes.zero 4
  wrapped : ∃ n, sealRequest n capacity (migInfoReqFields own).flatten = .ok request
  sent : inSession t.2 = [(some sid, request)]
  offer : Offers info true own t.1

/-- What a source did: nothing was sent in a session, an offer was sent, or an offer was sent and
another one came back. -/
inductive SourceEffect (lib : SpdmLibrary) (info : MigtdMigrationInformation) (capacity : Nat) :
    Except SpdmStatus Unit → Trace → Prop
  | unsent {e : SpdmStatus} {t : Trace} (sent : inSession t.2 = []) (quiet : Quiet [] t.1) :
      SourceEffect lib info capacity (.error e) t
  | offered {e : SpdmStatus} {t : Trace} {own : ExchangeInformation} {sid : UInt32}
      {request : Octets} (requested : Requested info capacity own sid request t)
      (quiet : Quiet [] t.1) : SourceEffect lib info capacity (.error e) t
  | answered {x : Except SpdmStatus Unit} {t : Trace} {own remote : ExchangeInformation}
      {sid : UInt32} {request response elements rest : Octets} {n : NegotiateInfo}
      (requested : Requested info capacity own sid request t)
      (replied : lib.vendorRequest (some sid) request = .ok response)
      (opened : openResponse n response .exchangeMigrationInfoRsp
        VDM_MESSAGE_EXCHANGE_MIGRATION_INFO_RSP_ELEMENT_COUNT = .ok elements)
      (carried : migInfoRspElements elements = .ok (remote, rest))
      (settled : Settled info true own remote t.1 (x = .ok ())) :
      SourceEffect lib info capacity x t

variable {capacity : Nat} {t : Trace}

section

variable {P : Platform} {sv : Services} {lib : SpdmLibrary} {info : MigtdMigrationInformation}

theorem converse_post (sid : Option UInt32) (payload : Octets)
    (opCode : VdmMessageOpCode) (count : UInt8) (s : ReqState) :
    Post (converse P lib sid payload opCode count) s fun x t => t.log = s.log ∧
      ((t.sent = s.sent ∧ ∃ e, x = .error e) ∨
        ∃ n request, sealRequest n P.maxSpdmMsgSize payload = .ok request ∧
          t.sent = s.sent ++ [(sid, request)] ∧ ∀ a, x = .ok a → ∃ response,
            lib.vendorRequest sid request = .ok response ∧
            openResponse n response opCode count = .ok a.elements) := by
  refine post_bind.mpr (post_observe.mpr ?_)
  refine post_bind_lift.mpr ⟨fun request hseal => ?_, fun e _ => ⟨rfl, .inl ⟨rfl, e, rfl⟩⟩⟩
  have stop {e : SpdmStatus} : ∀ a : Answered, (.error e : Except SpdmStatus Answered) = .ok a →
      ∃ response, lib.vendorRequest sid request = .ok response ∧
        openResponse s.negotiateInfo response opCode count = .ok a.elements := by
    intro a h
    cases h
  refine post_bind.mpr (post_update.mpr ?_)
  refine post_bind.mpr (post_update.mpr ?_)
  refine post_bind_lift.mpr ⟨fun response hresponse => ?_,
    fun _ _ => ⟨rfl, .inr ⟨_, request, hseal, rfl, stop⟩⟩⟩
  refine post_bind_lift.mpr ⟨fun elements helements => ?_,
    fun _ _ => ⟨rfl, .inr ⟨_, request, hseal, rfl, stop⟩⟩⟩
  refine ⟨rfl, .inr ⟨_, request, hseal, rfl, ?_⟩⟩
  intro a ha
  cases ha
  exact ⟨response, hresponse, helements⟩

theorem exchangeMigrationInfo_effect {s : ReqState} (sid : UInt32) (hquiet : Quiet [] s.log)
    (hsent : inSession s.sent = []) :
    Post (sendAndReceiveSdmExchangeMigrationInfo P lib info (some sid)) s
      fun x t => SourceEffect lib info P.maxSpdmMsgSize x (history t) := by
  refine post_bind_embed (fun own log hown => ?_) fun _ log hown => .unsent hsent
    (trans_of _ hquiet (quiet_of_reads ((keeps_exchangeInfo true).of_ok hown)))
  have hreads : Quiet [] log :=
    trans_of _ hquiet (quiet_of_reads ((keeps_exchangeInfo true).of_ok hown))
  obtain ⟨reserved, hlog, -⟩ := exchangeInfo_iff.mp hown
  have hoffer : Offers info true own log := by
    rw [hlog]
    exact (List.suffix_append _ _).isInfix
  refine post_bind_lift.mpr ⟨fun payload hpayload => ?_, fun _ _ => .unsent hsent hreads⟩
  obtain rfl : payload = (migInfoReqFields own).flatten := by
    rw [write_ok (mapError_ok.mp hpayload), List.nil_append]
  refine post_bind_of (converse_post (some sid) _ _ _ _) ?_ ?_
  · rintro a t ⟨htlog, ⟨-, e, he⟩ | ⟨n, request, hseal, htsent, hanswer⟩⟩
    · cases he
    obtain ⟨response, hresponse, hopened⟩ := hanswer a rfl
    have requested (log' : TdLog) (h : Offers info true own log') :
        Requested info P.maxSpdmMsgSize own sid request (log', t.sent) :=
      ⟨reserved, ⟨n, hseal⟩, inSession_append hsent htsent, h⟩
    rw [← show t.log = log from htlog] at hoffer hreads
    refine post_bind_lift.mpr ⟨fun remote hremote => ?_,
      fun _ _ => .offered (requested t.log hoffer) hreads⟩
    obtain ⟨⟨_, rest⟩, hcarried, rfl⟩ := map_ok.mp hremote
    refine post_embed.mpr (post_bind_lift.mpr ⟨fun migVer hver => ?_,
      fun _ _ => .offered (requested t.log hoffer) hreads⟩)
    refine (install_settled hver hoffer).mono ?_
    intro y log' hsettled
    cases y with
    | ok _ =>
      exact .answered (requested log' hsettled.offered) hresponse hopened hcarried
        (hsettled.mono fun _ => rfl)
    | error e =>
      exact .answered (requested log' hsettled.offered) hresponse hopened hcarried
        (hsettled.mono fun h => by cases h)
  · rintro e t ⟨htlog, htsent⟩
    rw [← show t.log = log from htlog] at hoffer hreads
    rcases htsent with ⟨htsent, -⟩ | ⟨n, request, hseal, htsent, -⟩
    · refine .unsent ?_ hreads
      change inSession t.sent = []
      rw [htsent]
      exact hsent
    · have requested : Requested info P.maxSpdmMsgSize own sid request (history t) :=
        ⟨reserved, ⟨n, hseal⟩, inSession_append hsent htsent, hoffer⟩
      exact .offered requested hreads

theorem SourceEffect.failed (e : SpdmStatus) (h : SourceEffect lib info capacity (.ok ()) t) :
    SourceEffect lib info capacity (.error e) t := by
  cases h with
  | answered requested replied opened carried settled =>
    exact .answered requested replied opened carried (settled.mono fun h => by cases h)

theorem spdmRequesterTransferMsk_effect (peerData : Octets) (n : NegotiateInfo) (size : Nat) :
    Post (spdmRequesterTransferMsk P sv lib info peerData) (spdmRequester n size)
      fun x t => SourceEffect lib info P.maxSpdmMsgSize x (history t) := by
  change Post (spdmRequesterTransferMskInner P sv lib info peerData) (spdmRequester n size)
    fun x t => SourceEffect lib info P.maxSpdmMsgSize x (history t)
  have hopen : Keeps (OnTrace Prepares) (openSession P sv lib) := inferInstance
  refine post_bind_keeps hopen ?_ fun _ _ _ h => .unsent h.2 (quiet_of_reads h.1)
  intro sid s1 _ h1
  have hattest : Keeps (OnTrace Prepares)
      (sendAndReceiveSdmMigrationAttestInfo P sv lib info sid peerData) := inferInstance
  refine post_bind_keeps hattest ?_ fun _ _ _ h2 => .unsent (h2.2.trans h1.2)
    (quiet_of_reads (trans_of _ h1.1 h2.1))
  intro _ s2 _ h2
  have hquiet : Quiet [] s2.log := quiet_of_reads (trans_of _ h1.1 h2.1)
  have hsent : inSession s2.sent = [] := h2.2.trans h1.2
  refine post_bind_lift.mpr ⟨fun _ _ => ?_, fun _ _ => .unsent hsent hquiet⟩
  refine post_bind_of (exchangeMigrationInfo_effect sid hquiet hsent) ?_ fun _ _ h => h
  intro _ s3 h3
  cases hend : lib.endSession sid with
  | ok _ => exact h3
  | error e => exact h3.failed e

end

variable {x : Except SpdmStatus Unit} {info : MigtdMigrationInformation} {lib : SpdmLibrary}

theorem SourceEffect.settled (h : SourceEffect lib info capacity x t)
    (hw : Writes t.1 ∨ x = .ok ()) : ∃ own remote sid request response elements rest n,
      Requested info capacity own sid request t ∧
      lib.vendorRequest (some sid) request = .ok response ∧
      openResponse n response .exchangeMigrationInfoRsp
        VDM_MESSAGE_EXCHANGE_MIGRATION_INFO_RSP_ELEMENT_COUNT = .ok elements ∧
      migInfoRspElements elements = .ok (remote, rest) ∧
      Settled info true own remote t.1 (x = .ok ()) := by
  cases h with
  | unsent sent quiet =>
    rcases hw with hw | hw
    · exact (not_writes_of_quiet quiet hw).elim
    · cases hw
  | offered requested quiet =>
    rcases hw with hw | hw
    · exact (not_writes_of_quiet quiet hw).elim
    · cases hw
  | answered requested replied opened carried settled =>
    exact ⟨_, _, _, _, _, _, _, _, requested, replied, opened, carried, settled⟩

theorem SourceEffect.requested (h : SourceEffect lib info capacity x t)
    (hsent : (some sid, request) ∈ t.2) : ∃ own, Requested info capacity own sid request t := by
  have hmem : (some sid, request) ∈ inSession t.2 := List.mem_filter.mpr ⟨hsent, rfl⟩
  cases h with
  | unsent sent =>
    rw [sent] at hmem
    cases hmem
  | @offered _ _ own sid' request' requested =>
    rw [requested.sent, List.mem_singleton] at hmem
    cases hmem
    exact ⟨own, requested⟩
  | @answered _ _ own _ sid' request' _ _ _ _ requested =>
    rw [requested.sent, List.mem_singleton] at hmem
    cases hmem
    exact ⟨own, requested⟩

section

variable {P : Platform} {info : MigtdMigrationInformation} {s : RspState}

theorem walk_quiet {t : RspState} {h : List (Visit RspState Message)} (w : Walk (step P) s h t)
    (hflag : s.migInfoExchanged = true) : Quiet s.log t.log := by
  refine (w.invariant (P := fun _ u => u.migInfoExchanged = true ∧ Quiet s.log u.log)
    ⟨hflag, refl_of _ _⟩ ?_).2
  rintro _ u i - ⟨hu, hquiet⟩
  obtain ⟨hnext, hissues⟩ := (step_keyEffect P u i).after_flag hu
  exact ⟨hnext, trans_of _ hquiet hissues⟩

theorem answered_settled {d : Delivery} {n : NegotiateInfo}
    {x : ExchangeInformation} {response : Octets}
    (holds : SpdmAppContextData.Holds P.build info s.appContextDataBuffer)
    (reserved : x.reserved = Bytes.zero 4)
    (wrapped : sealRequest n capacity (migInfoReqFields x).flatten = .ok d.reqBytes)
    (answer : (dispatch P d s).1 = .ok response) :
    ∃ y, y.reserved = Bytes.zero 4 ∧
      sealResponse s.negotiateInfo d.rspCapacity (migInfoRspFields y).flatten = .ok response ∧
      Settled info false y x (dispatch P d s).2.log True ∧
      (dispatch P d s).2.migInfoExchanged = true := by
  obtain ⟨vdm, r, out, u, opened, effect, hseal, hlog, hflag⟩ := dispatch_answered answer
  obtain ⟨op, hoffer⟩ := request_received reserved wrapped opened
  rw [hlog, hflag]
  cases effect with
  | migInfo _ effect =>
    cases effect with
    | @installed _ _ sid session remote own context log request install approval flag sessions
        fields =>
      obtain ⟨rest, hremote⟩ := request.offer
      obtain ⟨_, hcontext⟩ := request.context
      rw [hoffer] at hremote
      cases hremote
      obtain ⟨hreserved, migVer, hver, added, rfl, hwrites⟩ := installMsk_ok install
      rw [fields out rfl] at hseal
      refine ⟨own, hreserved, hseal, ?_, flag⟩
      rw [holds.read P.build hcontext, exchangeEvents_carried] at approval
      rw [holds.read P.build hcontext, installWrites_carried] at hwrites
      obtain ⟨approved, happroved, hquiet⟩ := approval_issues approval
      have hinstalled : Installs info migVer x.key (s.log ++ exchangeEvents info false own ++
          [attrChecked info.bindingHandle info.targetTdUuid] ++ added) := by
        have hsucceeded := succeeded_append (s.log ++ exchangeEvents info false own ++
          [attrChecked info.bindingHandle info.targetTdUuid]) added
        rw [hwrites] at hsucceeded
        exact installs_of_succeeded hsucceeded
      refine ⟨?_, fun _ => ⟨migVer, hver⟩, fun _ => ⟨migVer, hver, ?_⟩⟩
      · rw [happroved]
        exact ⟨s.log, [attrChecked info.bindingHandle info.targetTdUuid] ++ added ++ approved, by
          simp only [List.append_assoc, SpdmAppContextData.carried_bindingHandle,
            SpdmAppContextData.carried_targetTdUuid]⟩
      · refine hinstalled.extend ⟨approved, happroved, ?_⟩
        intro e he
        exact isMigWrite_of_writesApproved (hquiet e he)
  | other _ _ _ _ _ hinfo =>
    rw [op] at hinfo
    cases hinfo
  | attest hop =>
    rw [op] at hop
    cases hop
  | rebindInfo hop =>
    rw [op] at hop
    cases hop

theorem step_guarded {m : Message}
    (holds : SpdmAppContextData.Holds P.build info s.appContextDataBuffer)
    (hw : Writes (newEvents ⟨s, m, step P s m⟩)) :
    ∃ d sendError sid vdm r remote rest own migVer, m = .vdm d sendError ∧ d.sessionId = some sid ∧
      openRequest s.negotiateInfo d.reqBytes = .ok (vdm, r) ∧
      migInfoReqElements r = .ok (remote, rest) ∧ calMigVersion false own remote = .ok migVer ∧
      Offers info false own (newEvents ⟨s, m, step P s m⟩) := by
  have loud (h : Quiet s.log (step P s m).log) : False := by
    obtain ⟨e, he, hmig⟩ := hw
    have hnot := newEvents_of_issues (v := ⟨s, m, step P s m⟩) h e he
    rw [hmig] at hnot
    cases hnot
  have offers {own : ExchangeInformation} {context : SpdmAppContextData} {rest : Octets}
      (hcontext : SpdmAppContextData.read P.build s.appContextDataBuffer = some (context, rest))
      (h : s.log ++ exchangeEvents context.migrationInfo false own <+: (step P s m).log) :
      Offers info false own (newEvents ⟨s, m, step P s m⟩) := by
    rw [holds.read P.build hcontext, exchangeEvents_carried] at h
    obtain ⟨added, hadded⟩ := h
    refine List.IsPrefix.isInfix ⟨added, ?_⟩
    change _ = (step P s m).log.drop s.log.length
    rw [← hadded, List.append_assoc, List.drop_left]
  have guarded {context : SpdmAppContextData} {remote : ExchangeInformation} {log : TdLog}
      {x : Except MigrationResult ExchangeInformation}
      (install : installMsk P context.migrationInfo remote s.log = (x, log)) :
      Quiet s.log log ∨ ∃ own migVer, own.reserved = Bytes.zero 4 ∧
        calMigVersion false own remote = .ok migVer ∧
        s.log ++ exchangeEvents context.migrationInfo false own <+: log := by
    have hpost := installMsk_guarded (P := P) context.migrationInfo remote s.log
    unfold Post at hpost
    rwa [install] at hpost
  cases step_callEffect P s m with
  | silent log =>
    refine (loud ?_).elim
    rw [log]
    exact refl_of _ s.log
  | rebind opened op request install =>
    refine (loud ((installRebind_issues install).mono ?_)).elim
    rintro c (hc | hc)
    · exact isMigWrite_of_writesApproved hc
    · exact isMigWrite_of_writesRebind hc
  | keyFailed opened op request install =>
    obtain ⟨rest, hremote⟩ := request.offer
    obtain ⟨_, hcontext⟩ := request.context
    rcases guarded install with hquiet | ⟨own, migVer, -, hver, hleads⟩
    · exact (loud hquiet).elim
    · exact ⟨_, _, _, _, _, _, rest, own, migVer, rfl, request.addressed, opened, hremote, hver,
        offers hcontext hleads⟩
  | keyInstalled opened op request install approval =>
    obtain ⟨rest, hremote⟩ := request.offer
    obtain ⟨_, hcontext⟩ := request.context
    have happroved := approval_issues approval
    rcases guarded install with hquiet | ⟨own, migVer, -, hver, hleads⟩
    · exact (loud (trans_of _ hquiet (happroved.mono fun _ => isMigWrite_of_writesApproved))).elim
    · obtain ⟨approved, heq, -⟩ := happroved
      refine ⟨_, _, _, _, _, _, rest, own, migVer, rfl, request.addressed, opened, hremote, hver,
        offers hcontext ?_⟩
      rw [heq]
      exact hleads.trans (List.prefix_append _ _)

end

structure SpdmSource where
  platform : Platform
  services : Services
  library : SpdmLibrary
  info : MigtdMigrationInformation
  peerData : Octets
  negotiateInfo : NegotiateInfo
  appContextDataSize : Nat

namespace SpdmSource

def run (p : SpdmSource) : Except SpdmStatus Unit × ReqState :=
  spdmRequesterTransferMsk p.platform p.services p.library p.info p.peerData
    (spdmRequester p.negotiateInfo p.appContextDataSize)

def log (p : SpdmSource) : TdLog := p.run.2.log

theorem effect (p : SpdmSource) :
    SourceEffect p.library p.info p.platform.maxSpdmMsgSize p.run.1 (history p.run.2) :=
  spdmRequesterTransferMsk_effect p.peerData p.negotiateInfo p.appContextDataSize

end SpdmSource

structure SpdmDestination where
  platform : Platform
  context : RspState
  info : MigtdMigrationInformation
  peerData : Octets
  messages : List Message

namespace SpdmDestination

def run (p : SpdmDestination) : LoopRun :=
  spdmResponderTransferMsk p.platform p.context p.info p.peerData p.messages

def log (p : SpdmDestination) : TdLog := p.run.state.log

theorem walk (p : SpdmDestination) :
    ∃ s u, Walk (step p.platform) s p.run.visits u ∧ p.log = u.log := by
  unfold log run spdmResponderTransferMsk
  obtain ⟨u, hwalk, hstate⟩ := serve_visits (P := p.platform)
  refine ⟨_, u, hwalk, ?_⟩
  rw [hstate]
  rfl

def start (p : SpdmDestination) : RspState :=
  { p.context with
    peerData := if p.platform.build.policyV2 then p.peerData else []
    appContextDataBuffer := (overwrite p.context.appContextDataBuffer
      (SpdmAppContextData.encode p.platform.build ⟨p.info, PrivateKeyDer.default⟩)).2 }

theorem first_visit {p : SpdmDestination} {m : Message} {rest : List Message}
    (hm : p.messages = m :: rest)
    (hroom : (overwrite p.context.appContextDataBuffer
      (SpdmAppContextData.encode p.platform.build ⟨p.info, PrivateKeyDer.default⟩)).1 = true) :
    ⟨p.start, m, step p.platform p.start m⟩ ∈ p.run.visits := by
  unfold run spdmResponderTransferMsk serve
  dsimp only
  rw [if_pos hroom, hm]
  exact rspHandleMessage_first none p.start m rest

end SpdmDestination

/-- A secured session between the two: what arrives in a session was sent in it, and the response
to a request is the one that the destination answered it with. -/
structure Secured (src : SpdmSource) (dst : SpdmDestination) : Prop where
  requests : ∀ v ∈ dst.run.visits, ∀ d sendError sid, v.input = .vdm d sendError →
    d.sessionId = some sid → (some sid, d.reqBytes) ∈ src.run.2.sent
  responses : ∀ sid request response, (some sid, request) ∈ src.run.2.sent →
    src.library.vendorRequest (some sid) request = .ok response →
    ∃ v ∈ dst.run.visits, ∃ d sendError, v.input = .vdm d sendError ∧ d.reqBytes = request ∧
      (dispatch dst.platform d v.before).1 = .ok response

section

variable {src : SpdmSource} {dst : SpdmDestination}

theorem Secured.settled (secured : Secured src dst) (hw : Writes src.log ∨ src.run.1 = .ok ()) :
    ∃ x y, Settled src.info true x y src.log (src.run.1 = .ok ()) ∧
      Settled dst.info false y x dst.log True := by
  obtain ⟨x, remote, sid, request, response, elements, rest, n, requested, replied, opened, carried,
    hsrc⟩ := src.effect.settled hw
  have hsent : (some sid, request) ∈ src.run.2.sent := by
    have hmem : (some sid, request) ∈ inSession (history src.run.2).2 := by
      rw [requested.sent]
      exact List.mem_cons_self
    exact (List.mem_filter.mp hmem).1
  obtain ⟨v, hv, d, sendError, hinput, rfl, answer⟩ := secured.responses sid request response hsent
    replied
  obtain ⟨k, wrapped⟩ := requested.wrapped
  obtain ⟨hstep, -, holds⟩ := serve_step hv
  obtain ⟨y, hreserved, hseal, hdst, hflag⟩ := answered_settled holds requested.reserved wrapped
    answer
  have hremote := response_received hreserved hseal opened
  rw [carried] at hremote
  cases hremote
  refine ⟨x, _, hsrc, ?_⟩
  -- From here on the destination writes neither version nor key.
  have hafter : v.after = (dispatch dst.platform d v.before).2 := by
    rw [hstep, hinput]
    rfl
  rw [← hafter] at hdst hflag
  obtain ⟨g, k, hsplit⟩ := List.append_of_mem hv
  obtain ⟨_, u, hwalk, hlog⟩ := dst.walk
  rw [hsplit] at hwalk
  rw [hlog]
  exact hdst.extend (walk_quiet hwalk.split.2.2 hflag)

theorem Secured.compatible_round (secured : Secured src dst) {v : Visit RspState Message}
    (hv : v ∈ dst.run.visits) (hw : Writes (newEvents v)) :
    Compatible src.info dst.info src.log (newEvents v) := by
  obtain ⟨hstep, -, holds⟩ := serve_step hv
  have hround : v = ⟨v.before, v.input, step dst.platform v.before v.input⟩ := by
    rw [← hstep]
  rw [hround] at hw ⊢
  obtain ⟨d, sendError, sid, vdm, r, remote, rest, own, migVer, hinput, haddressed, opened, hremote,
    hver, hoffer⟩ := step_guarded holds hw
  have hsent := secured.requests v hv d sendError sid hinput haddressed
  obtain ⟨x, requested⟩ := src.effect.requested hsent
  obtain ⟨k, wrapped⟩ := requested.wrapped
  have hreceived := (request_received requested.reserved wrapped opened).2
  rw [hremote] at hreceived
  cases hreceived
  rw [← calMigVersion_roles] at hver
  exact ⟨_, own, requested.offer, hoffer, _, (calMigVersion_isGreatest hver).1⟩

end

end MigTd.Spdm.ExchangePeers
