/- source: spdm_rsp.rs
   digest: What a served attestation or information request did, as a case distinction each. -/

import MigTd.Spdm.ResponderFrames

set_option autoImplicit false

namespace MigTd.Spdm.ResponderSpecs

open Lib.ByteCodec Lib.StateProgram Migration.Information Migration.ServtdRecord
  Migration.ServtdRecord.ServtdExt Migration.MskExchange Status Status.SpdmStatus Vdm Context
  Responder ResponderFrames Tdx.Module

/-- The element that carries the evidence of an attestation request. -/
def evidenceType : VdmMessageOpCode → VdmMessageElementType
  | .exchangeRebindAttestInfoReq => .tdReportMy
  | _ => .quoteMy

/-- The mode in which an attestation request passes the first check of its handler. -/
def modeOf : VdmMessageOpCode → ResponderContextExInfo → Bool
  | .exchangeRebindAttestInfoReq, info => info.isRebind
  | _, info => info.isMigration

/-- The attestation code accepted the request's evidence, which carries this REPORTDATA. -/
inductive Authenticated (P : Platform) (sv : Services) (e : AttestElements)
    (peerData : Octets) : VdmMessageOpCode → Octets → Prop
  | policyV1 {verifiedReportLocal report : Octets} (version : P.build.policyV2 = false)
      (verified : sv.verifyQuote e.evidence = some report)
      (policy : sv.authenticatePolicy false verifiedReportLocal report e.eventLog = true) :
      Authenticated P sv e peerData .exchangeMigrationAttestInfoReq (quoteReportData report)
  | policyV2 {initTdInfo report : Octets} (version : P.build.policyV2 = true)
      (policyHash : e.migPolicyHash = P.sha384 peerData)
      (verified : sv.authenticateMigrationSourceWithInitTdinfo e.evidence peerData e.eventLog
        initTdInfo e.servtdExt = some report) :
      Authenticated P sv e peerData .exchangeMigrationAttestInfoReq (quoteReportData report)
  | rebinding {initTdInfo report : Octets} (policyHash : e.migPolicyHash = P.sha384 peerData)
      (verified : sv.authenticateRebindingOld e.evidence e.eventLog peerData initTdInfo
        e.servtdExt = some report) :
      Authenticated P sv e peerData .exchangeRebindAttestInfoReq (tdreportReportData report)

/-- The request carries these elements, and its evidence is bound to a session with this TH1. -/
structure Accepted (P : Platform) (sv : Services) (opCode : VdmMessageOpCode)
    (r peerData : Octets) (th1 : SpdmDigestStruct) (e : AttestElements) : Prop where
  carried : ∃ rest, attestElements (evidenceType opCode) r = .ok (e, rest)
  bound : ∃ reportData, Authenticated P sv e peerData opCode reportData ∧
    BindsTh1 P.sha384 reportData REQUESTER_ROLE th1

variable {report : Octets}

section

variable {P : Platform} {sv : Services} {e : AttestElements} {role : Octets}
  {th1 : SpdmDigestStruct} {peerData : Octets}

variable {sha384 : Octets → Octets} {hash : Octets}

theorem sessionDigest_ok {data d : Octets}
    (h : sessionDigest sha384 data = .ok d) : d = sha384 data := by
  unfold sessionDigest at h
  split at h
  · rename_i d' hd
    cases h
    exact (digestSha384_ok hd).1
  · cases h

theorem buildReportData_ok {data : Octets} (h : buildReportData role th1 = .ok data) :
    data = role ++ th1.data.1.take th1.dataSize.toNat := by
  unfold buildReportData at h
  split at h
  · cases h
  · cases h
    rfl

theorem verifyReportDataBinding_ok (h : verifyReportDataBinding sha384 report role th1 = .ok ()) :
    BindsTh1 sha384 (quoteReportData report) role th1 := by
  unfold verifyReportDataBinding at h
  split at h
  · cases h
  · rename_i data hdata
    unfold verifyPeerReportData at h
    split at h
    · cases h
    · obtain ⟨hash, hhash, h⟩ := except_bind_ok.mp h
      split at h
      · cases h
      · rename_i heq
        rw [BindsTh1, not_not.mp heq, sessionDigest_ok hhash, buildReportData_ok hdata]

theorem verifyTdreportDataBinding_ok
    (h : verifyTdreportDataBinding sha384 report role th1 = .ok ()) :
    BindsTh1 sha384 (tdreportReportData report) role th1 := by
  unfold verifyTdreportDataBinding at h
  split at h
  · cases h
  · split at h
    · cases h
    · rename_i data hdata
      obtain ⟨hash, hhash, h⟩ := except_bind_ok.mp h
      split at h
      · cases h
      · rename_i heq
        rw [BindsTh1, not_not.mp heq, sessionDigest_ok hhash, buildReportData_ok hdata]

private theorem checkPeerDataHash_ok
    (h : checkPeerDataHash P hash peerData = .ok ()) : hash = P.sha384 peerData := by
  unfold checkPeerDataHash at h
  split at h
  · cases h
  · rename_i d hd
    split at h
    · cases h
    · rename_i heq
      rw [not_not.mp heq]
      exact (digestSha384_ok hd).1

theorem verifyAttestationV2_ok {policyCheck : Option Octets}
    {binding : Octets → Except MigrationResult Unit}
    (h : verifyAttestationV2 P hash peerData policyCheck binding = .ok ()) :
    hash = P.sha384 peerData ∧ ∃ report, policyCheck = some report ∧ binding report = .ok () := by
  obtain ⟨_, hhash, h⟩ := except_bind_ok.mp h
  obtain ⟨report, hr, h⟩ := except_bind_ok.mp h
  split at h
  · cases h
  · rename_i hb
    exact ⟨checkPeerDataHash_ok hhash, report, orElse_ok.mp hr, hb⟩

private theorem verifyAttestationV1_ok {isSrc : Bool} {verifiedReportLocal quote eventLog : Octets}
    (h : verifyAttestationV1 P sv isSrc role verifiedReportLocal quote eventLog th1 = .ok ()) :
    ∃ report, sv.verifyQuote quote = some report ∧
      BindsTh1 P.sha384 (quoteReportData report) role th1 ∧
      sv.authenticatePolicy isSrc verifiedReportLocal report eventLog = true := by
  obtain ⟨report, hr, h⟩ := except_bind_ok.mp h
  split at h
  · cases h
  · rename_i hb
    split at h
    · rename_i hp
      exact ⟨report, orElse_ok.mp hr, verifyReportDataBinding_ok hb, hp⟩
    · cases h

theorem migVerdict_ok {verifiedReportLocal tdReportInit : Octets}
    (h : migVerdict P sv verifiedReportLocal e tdReportInit peerData th1 = .ok ()) :
    ∃ reportData, Authenticated P sv e peerData .exchangeMigrationAttestInfoReq reportData ∧
      BindsTh1 P.sha384 reportData REQUESTER_ROLE th1 := by
  unfold migVerdict at h
  split at h
  · rename_i hv
    obtain ⟨hhash, report, hr, hb⟩ := verifyAttestationV2_ok h
    exact ⟨_, .policyV2 hv hhash hr, verifyReportDataBinding_ok hb⟩
  · rename_i hv
    obtain ⟨report, hr, hb, hp⟩ := verifyAttestationV1_ok h
    exact ⟨_, .policyV1 (Bool.eq_false_iff.mpr hv) hr hp, hb⟩

theorem rspVerifyRebindAttestation_ok {tdReportInit : Octets}
    (h : rspVerifyRebindAttestation P sv e tdReportInit peerData th1 = .ok ()) :
    ∃ reportData, Authenticated P sv e peerData .exchangeRebindAttestInfoReq reportData ∧
      BindsTh1 P.sha384 reportData REQUESTER_ROLE th1 := by
  obtain ⟨hhash, report, hr, hb⟩ := verifyAttestationV2_ok h
  exact ⟨_, .rebinding hhash hr, verifyTdreportDataBinding_ok hb⟩

end

variable {status : SpdmStatus} {α : Type} {a : α}

section

variable {P : Platform} {sv : Services} {s t : RspState} {sid : UInt32}

theorem getSessionViaId_ok {session : SpdmSession}
    (h : getSessionViaId sid s = (.ok session, t)) : s.sessions sid = some session := by
  obtain ⟨found, ho, hl⟩ := bind_same_ok inferInstance h
  obtain ⟨rfl, -⟩ := observe_ok.mp ho
  exact orElse_ok.mp (lift_ok.mp hl).1

/-- The session that an attestation request addresses, found and not yet attested. -/
structure Target (s : RspState) (sessionId : Option UInt32) (a : Addressed) : Prop where
  addressed : sessionId.or s.lastSessionId = some a.sid
  found : s.sessions a.sid = some a.session
  fresh : a.session.marked = false

theorem attestSession_ok {sessionId : Option UInt32} {a : Addressed}
    (h : attestSession sessionId s = (.ok a, t)) : Target s sessionId a := by
  obtain ⟨last, hlast, h⟩ := bind_same_ok inferInstance h
  obtain ⟨x, hx, h⟩ := bind_same_ok inferInstance h
  obtain ⟨session, hs, h⟩ := bind_same_ok inferInstance h
  obtain ⟨_, hfresh, h⟩ := bind_same_ok inferInstance h
  obtain ⟨rfl, -⟩ := pure_ok.mp h
  obtain ⟨rfl, -⟩ := observe_ok.mp hlast
  exact ⟨orElse_ok.mp (lift_ok.mp hx).1, getSessionViaId_ok hs, (ensure_ok.mp hfresh).1⟩

/-- A session in which a secret may be exchanged. -/
structure Ready (s : RspState) (sid : UInt32) (session : SpdmSession) : Prop where
  found : s.sessions sid = some session
  established : session.state = .established
  attested : session.marked = true

/-- At most one session is torn down, and nothing else changes. -/
def Sheds (sid : UInt32) (s t : RspState) : Prop :=
  t = s ∨ t = { s with sessions := Function.update s.sessions sid none }

instance : Std.Refl (Sheds sid) := ⟨fun _ => .inl rfl⟩

instance : IsTrans RspState (Sheds sid) := ⟨by
  rintro s t u (rfl | rfl) (rfl | rfl)
  · exact .inl rfl
  · exact .inr rfl
  · exact .inr rfl
  · right
    simp⟩

instance : Keeps (Sheds sid) (teardown sid) := keeps_update fun _ => .inr rfl

theorem Sheds.log (h : Sheds sid s t) : t.log = s.log := by
  rcases h with rfl | rfl <;> rfl

theorem Sheds.flag (h : Sheds sid s t) : t.migInfoExchanged = s.migInfoExchanged := by
  rcases h with rfl | rfl <;> rfl

private theorem refuseSession_ok
    (h : (refuseSession sid status : RspProgram α) s = (.ok a, t)) : False := by
  obtain ⟨_, _, h⟩ := bind_same_ok inferInstance h
  obtain ⟨_, _, _, h⟩ := bind_ok.mp h
  exact raise_ok.mp h

theorem refuseSession_post {Q : Except SpdmStatus α → RspState → Prop}
    (h : ∀ e t, Sheds sid s t → Q (.error e) t) :
    Post (refuseSession sid status : RspProgram α) s Q := by
  refine Keeps.post (R := Sheds sid) inferInstance ?_
  rintro (e | a) t ran hshed
  · exact h e t hshed
  · exact (refuseSession_ok ran).elim

theorem keepServtdExt_run (P : Platform) (bytes : Octets) (s : RspState) :
    keepServtdExt P bytes s = (.ok (),
      { s with servtdExt := if P.build.policyV2 then readFromBytes bytes else s.servtdExt }) := by
  unfold keepServtdExt
  cases hv : P.build.policyV2 with
  | true => rfl
  | false => rfl

/-- An information request whose session is torn down for it: a replay, or a session that is not
ready. -/
def shut (replayed : Bool) (sessionId : Option UInt32) (s : RspState) : Bool :=
  match sessionId.bind s.sessions with
  | some session => replayed || !(session.state == .established && session.marked)
  | none => false

theorem attestedSession_post (sid : UInt32) (s : RspState) :
    Post (attestedSession sid) s fun r t => match r with
      | .ok _ => t = s ∧ ∃ session, Ready s sid session
      | .error _ => Sheds sid s t ∧ (t = s ∨ shut false (some sid) s = true) := by
  refine post_bind_same inferInstance ?_ fun e _ => ⟨.inl rfl, .inl rfl⟩
  intro session hsession
  have hfound := getSessionViaId_ok hsession
  by_cases hr : session.state = .established ∧ session.marked = true
  · rw [if_pos hr]
    exact ⟨rfl, session, hfound, hr.1, hr.2⟩
  · rw [if_neg hr]
    have hshut : shut false (some sid) s = true := by
      rw [shut, Option.bind_some, hfound]
      rw [not_and_or, Bool.not_eq_true] at hr
      simpa using hr
    exact refuseSession_post fun _ _ hshed => ⟨hshed, .inr hshut⟩

theorem teardown_replay (sid : UInt32) (s : RspState) :
    Function.update s.sessions sid none = s.sessions ∨ shut true (some sid) s = true := by
  cases hs : s.sessions sid with
  | none =>
    left
    rw [← hs]
    exact Function.update_eq_self sid s.sessions
  | some session =>
    right
    rw [shut, Option.bind_some, hs]
    rfl

theorem accept_post (sid : UInt32) (verdict : Except Refusal Unit) (s : RspState) :
    Post (accept sid verdict) s fun r t => match r with
      | .ok _ => verdict = .ok () ∧ t = s
      | .error _ => t = s ∨ ∃ status, verdict = .error ⟨status, true⟩ := by
  unfold accept
  split
  · exact ⟨rfl, rfl⟩
  · exact .inl rfl
  · exact refuseSession_post fun _ _ _ => .inr ⟨_, rfl⟩

def ownReport (P : Platform) (sv : Services) (quote : Octets) : Except Refusal Octets :=
  if P.build.policyV2 then .ok []
  else orElse (sv.verifyQuote quote) ⟨SPDM_STATUS_INVALID_MSG_FIELD, true⟩

theorem verifyOwnQuote_post (sid : UInt32) (quote : Octets) (s : RspState) :
    Post (verifyOwnQuote P sv sid quote) s fun r t => match r with
      | .ok report => t = s ∧ ownReport P sv quote = .ok report
      | .error _ => ownReport P sv quote = .error ⟨SPDM_STATUS_INVALID_MSG_FIELD, true⟩ := by
  unfold verifyOwnQuote ownReport
  split
  · exact ⟨rfl, rfl⟩
  · split
    · rename_i report hq
      exact ⟨rfl, by rw [hq]; rfl⟩
    · rename_i hq
      rw [hq]
      exact refuseSession_post fun _ _ _ => rfl

end

def attestVerdict (P : Platform) (sv : Services) (peerData r : Octets)
    (th1 : SpdmDigestStruct) : VdmMessageOpCode → Except Refusal Unit
  | .exchangeMigrationAttestInfoReq => do
    let reportData ← Except.mapError (⟨·, false⟩) (buildReportData RESPONDER_ROLE th1)
    let quote ← Except.mapError (⟨ofMigrationResult ·, false⟩) (genQuoteSpdm P sv reportData)
    let verifiedReportLocal ← ownReport P sv quote
    let parsed ← Except.mapError (⟨·, false⟩) (attestElements .quoteMy r)
    let tdReportInit ← Except.mapError (⟨·, false⟩)
      ((initTdInfoElement P.build.policyV2 parsed.2).map Prod.fst)
    migVerdict P sv verifiedReportLocal parsed.1 tdReportInit peerData th1
  | .exchangeRebindAttestInfoReq => do
    let parsed ← Except.mapError (⟨·, false⟩) (attestElements .tdReportMy r)
    let tdReportInit ← Except.mapError (⟨·, false⟩) ((initTdInfoElement true parsed.2).map Prod.fst)
    rspVerifyRebindAttestation P sv parsed.1 tdReportInit peerData th1
  | _ => .ok ()

section

variable {P : Platform} {sv : Services} {peerData r reportData quote tdReportInit : Octets}
  {th1 : SpdmDigestStruct} {parsed : AttestElements × Octets} {refusal : Refusal}

theorem bind_of_ok {ε ε' β : Type} {x : Except ε α} {h : ε → ε'}
    {f : α → Except ε' β} (hx : x = .ok a) : (Except.mapError h x >>= f) = f a := by
  rw [hx]
  rfl

theorem attestVerdict_ownReport (built : buildReportData RESPONDER_ROLE th1 = .ok reportData)
    (quoted : genQuoteSpdm P sv reportData = .ok quote)
    (own : ownReport P sv quote = .error refusal) :
    attestVerdict P sv peerData r th1 .exchangeMigrationAttestInfoReq = .error refusal := by
  rw [attestVerdict, bind_of_ok built, bind_of_ok quoted, own]
  rfl

theorem attestVerdict_migration (built : buildReportData RESPONDER_ROLE th1 = .ok reportData)
    (quoted : genQuoteSpdm P sv reportData = .ok quote) (own : ownReport P sv quote = .ok report)
    (elements : attestElements .quoteMy r = .ok parsed)
    (init : (initTdInfoElement P.build.policyV2 parsed.2).map Prod.fst = .ok tdReportInit)
    (refused : migVerdict P sv report parsed.1 tdReportInit peerData th1 = .error refusal) :
    attestVerdict P sv peerData r th1 .exchangeMigrationAttestInfoReq = .error refusal := by
  rw [attestVerdict, bind_of_ok built, bind_of_ok quoted, own]
  exact (bind_of_ok elements).trans ((bind_of_ok init).trans refused)

theorem attestVerdict_rebind (elements : attestElements .tdReportMy r = .ok parsed)
    (init : (initTdInfoElement true parsed.2).map Prod.fst = .ok tdReportInit)
    (refused : rspVerifyRebindAttestation P sv parsed.1 tdReportInit peerData th1 =
      .error refusal) :
    attestVerdict P sv peerData r th1 .exchangeRebindAttestInfoReq = .error refusal := by
  rw [attestVerdict]
  exact (bind_of_ok elements).trans ((bind_of_ok init).trans refused)

end

/-- The session that an attestation request was for ends with its refusal. -/
def dismissed (P : Platform) (sv : Services) (peerData r : Octets) (th1 : SpdmDigestStruct)
    (opCode : VdmMessageOpCode) : Bool :=
  match attestVerdict P sv peerData r th1 opCode with
  | .error ⟨_, true⟩ => true
  | _ => false

theorem dismissed_of_verdict {P : Platform} {sv : Services} {peerData r : Octets}
    {th1 : SpdmDigestStruct} {opCode : VdmMessageOpCode}
    (h : attestVerdict P sv peerData r th1 opCode = .error ⟨status, true⟩) :
    dismissed P sv peerData r th1 opCode = true := by
  unfold dismissed
  rw [h]

/-- What serving an attestation request did to sessions and to the kept record. -/
inductive AttestEffect (P : Platform) (sv : Services) (opCode : VdmMessageOpCode)
    (sessionId : Option UInt32) (r : Octets) (s : RspState) :
    Except SpdmStatus Octets → RspState → Prop
  | refused {e : SpdmStatus} : AttestEffect P sv opCode sessionId r s (.error e) s
  /-- Refused later, after which the kept record may be any. -/
  | rejected {e : SpdmStatus} {a : Addressed} {t : RspState} (target : Target s sessionId a)
      (sessions : t.sessions = s.sessions ∨
        dismissed P sv s.peerData r a.session.th1 opCode = true) :
      AttestEffect P sv opCode sessionId r s (.error e) t
  | accepted {out : Octets} {a : Addressed} {t : RspState} {elements : AttestElements}
      (mode : modeOf opCode s.info = true) (target : Target s sessionId a)
      (evidence : Accepted P sv opCode r s.peerData a.session.th1 elements)
      (sessions : t.sessions = s.sessions)
      (kept : P.build.policyV2 = true → t.servtdExt = readFromBytes elements.servtdExt) :
      AttestEffect P sv opCode sessionId r s (.ok out) t

section

variable (P : Platform) (sv : Services) (sessionId : Option UInt32) (vdm : VdmMessage)
  (r : Octets)

theorem attestResponse_effect {opCode rsp : VdmMessageOpCode} {count : UInt8}
    {evidenceType' : VdmMessageElementType} {evidence : Except SpdmStatus Octets}
    {s u : RspState} {a : Addressed} {elements : AttestElements}
    (mode : modeOf opCode s.info = true) (target : Target s sessionId a)
    (accepted : Accepted P sv opCode r s.peerData a.session.th1 elements)
    (sessions : u.sessions = s.sessions)
    (kept : P.build.policyV2 = true → u.servtdExt = readFromBytes elements.servtdExt) :
    Post (attestResponse P sv rsp count evidenceType' evidence) u
      (AttestEffect P sv opCode sessionId r s) := by
  refine post_same inferInstance ?_
  rintro (e | out) -
  · exact .rejected target (.inl sessions)
  · exact .accepted mode target accepted sessions kept

theorem handleExchangeMigAttestInfoReq_effect (s : RspState) :
    Post (handleExchangeMigAttestInfoReq P sv sessionId vdm r) s
      (AttestEffect P sv .exchangeMigrationAttestInfoReq sessionId r s) := by
  refine post_bind_same inferInstance (fun info hinfo => ?_) fun _ _ => .refused
  refine post_bind_same inferInstance (fun _ hmode => ?_) fun _ _ => .refused
  have mode : s.info.isMigration = true := by
    rw [(observe_ok.mp hinfo).1]
    exact (ensure_ok.mp hmode).1
  refine post_bind_same inferInstance (fun a ha => ?_) fun _ _ => .refused
  have target := attestSession_ok ha
  refine post_bind_same inferInstance (fun _ _ => ?_) fun _ _ => .refused
  refine post_bind_same inferInstance (fun _ _ => ?_) fun _ _ => .refused
  refine post_bind_same inferInstance (fun reportData hdata => ?_) fun _ _ => .refused
  refine post_bind_same inferInstance (fun quote hquote => ?_) fun _ _ => .refused
  refine post_bind.mpr ((verifyOwnQuote_post a.sid quote s).mono ?_)
  intro x t hx
  have hbuilt := (lift_ok.mp hdata).1
  have hquoted : genQuoteSpdm P sv reportData = .ok quote := mapError_ok.mp (lift_ok.mp hquote).1
  cases x with
  | error e =>
    exact .rejected target (.inr (dismissed_of_verdict (attestVerdict_ownReport hbuilt hquoted hx)))
  | ok verifiedReportLocal =>
    obtain ⟨rfl, hreport⟩ := hx
    refine post_bind_same inferInstance (fun parsed hlift => ?_) fun _ _ => .refused
    have hparsed := (lift_ok.mp hlift).1
    -- From here on the record of the request is in the context.
    refine post_bind_run (keepServtdExt_run P parsed.1.servtdExt t) ?_
    refine post_bind_same inferInstance (fun tdReportInit hinit => ?_)
      fun _ _ => .rejected target (.inl rfl)
    refine post_bind_same inferInstance (fun peerData hpeer => ?_)
      fun _ _ => .rejected target (.inl rfl)
    obtain ⟨rfl, -⟩ := observe_ok.mp hpeer
    refine post_bind.mpr ((accept_post a.sid _ _).mono ?_)
    intro x u hx
    cases x with
    | error e =>
      rcases hx with rfl | ⟨status, hstatus⟩
      · exact .rejected target (.inl rfl)
      · exact .rejected target (.inr (dismissed_of_verdict
          (attestVerdict_migration hbuilt hquoted hreport hparsed (lift_ok.mp hinit).1 hstatus)))
    | ok _ =>
      obtain ⟨hverdict, rfl⟩ := hx
      have hbound := migVerdict_ok hverdict
      refine attestResponse_effect P sv sessionId r mode target ⟨⟨_, hparsed⟩, hbound⟩ rfl ?_
      intro hv
      simp [hv]

theorem handleExchangeRebindAttestInfoReq_effect (s : RspState) :
    Post (handleExchangeRebindAttestInfoReq P sv sessionId vdm r) s
      (AttestEffect P sv .exchangeRebindAttestInfoReq sessionId r s) := by
  refine post_bind_same inferInstance (fun info hinfo => ?_) fun _ _ => .refused
  refine post_bind_same inferInstance (fun _ hmode => ?_) fun _ _ => .refused
  have mode : s.info.isRebind = true := by
    rw [(observe_ok.mp hinfo).1]
    exact (ensure_ok.mp hmode).1
  refine post_bind_same inferInstance (fun a ha => ?_) fun _ _ => .refused
  have target := attestSession_ok ha
  refine post_bind_same inferInstance (fun _ _ => ?_) fun _ _ => .refused
  refine post_bind_same inferInstance (fun _ _ => ?_) fun _ _ => .refused
  refine post_bind_same inferInstance (fun reportData _ => ?_) fun _ _ => .refused
  refine post_bind_same inferInstance (fun parsed hlift => ?_) fun _ _ => .refused
  have hparsed := (lift_ok.mp hlift).1
  refine post_bind_same inferInstance (fun tdReportInit hinit => ?_) fun _ _ => .refused
  refine post_bind_same inferInstance (fun peerData hpeer => ?_) fun _ _ => .refused
  obtain ⟨rfl, -⟩ := observe_ok.mp hpeer
  refine post_bind.mpr ((accept_post a.sid _ s).mono ?_)
  intro x u hx
  cases x with
  | error e =>
    rcases hx with rfl | ⟨status, hstatus⟩
    · exact .refused
    · exact .rejected target (.inr (dismissed_of_verdict
        (attestVerdict_rebind hparsed (lift_ok.mp hinit).1 hstatus)))
  | ok _ =>
    obtain ⟨hverdict, rfl⟩ := hx
    refine post_bind.mpr (post_update.mpr ?_)
    exact attestResponse_effect P sv sessionId r mode target
      ⟨⟨_, hparsed⟩, rspVerifyRebindAttestation_ok hverdict⟩ rfl fun _ => rfl

end

/-- The response to a migration information request: the own versions and key. -/
def migInfoRspFields (x : ExchangeInformation) : List Octets :=
  ((VdmMessage.current .exchangeMigrationInfoRsp
      VDM_MESSAGE_EXCHANGE_MIGRATION_INFO_RSP_ELEMENT_COUNT).encode ++
    VdmMessageElement.encode ⟨.migrationImportVersion, VDM_MESSAGE_MIGRATION_IMPORT_VERSION_SIZE⟩ ++
    [putU16 x.minVer, putU16 x.maxVer] ++
    VdmMessageElement.encode
      ⟨.backwardMigrationSessionKey, VDM_MESSAGE_BACKWARD_MIGRATION_SESSION_KEY_SIZE⟩) ++
    [putWords x.key.1]

/-- What a migration information request names: a ready session, the peer's offer and the target
TD of the run. -/
structure MigInfoRequest (P : Platform) (sessionId : Option UInt32) (vdm : VdmMessage)
    (r : Octets) (s : RspState) (sid : UInt32) (session : SpdmSession)
    (remote : ExchangeInformation) (context : SpdmAppContextData) : Prop where
  addressed : sessionId = some sid
  first : s.migInfoExchanged = false
  ready : Ready s sid session
  header : vdm.check .exchangeMigrationInfoReq
    VDM_MESSAGE_EXCHANGE_MIGRATION_INFO_REQ_ELEMENT_COUNT = .ok ()
  offer : ∃ rest, migInfoReqElements r = .ok (remote, rest)
  context : ∃ rest, SpdmAppContextData.read P.build s.appContextDataBuffer = some (context, rest)

inductive MigInfoEffect (P : Platform) (sessionId : Option UInt32) (vdm : VdmMessage)
    (r : Octets) (s : RspState) : Except SpdmStatus Octets → RspState → Prop
  | refused {e : SpdmStatus} {t : RspState} (log : t.log = s.log)
      (flag : t.migInfoExchanged = s.migInfoExchanged)
      (sessions : t.sessions = s.sessions ∨ shut s.migInfoExchanged sessionId s = true) :
      MigInfoEffect P sessionId vdm r s (.error e) t
  | failed {e : SpdmStatus} {t : RspState} {sid : UInt32} {session : SpdmSession}
      {remote : ExchangeInformation} {context : SpdmAppContextData} {x : MigrationResult}
      (request : MigInfoRequest P sessionId vdm r s sid session remote context)
      (install : installMsk P context.migrationInfo remote s.log = (.error x, t.log))
      (flag : t.migInfoExchanged = s.migInfoExchanged) (sessions : t.sessions = s.sessions) :
      MigInfoEffect P sessionId vdm r s (.error e) t
  /-- The key is in place; approving the stored record and answering may still fail. -/
  | installed {out : Except SpdmStatus Octets} {t : RspState} {sid : UInt32}
      {session : SpdmSession} {remote own : ExchangeInformation} {context : SpdmAppContextData}
      {log : TdLog} (request : MigInfoRequest P sessionId vdm r s sid session remote context)
      (install : installMsk P context.migrationInfo remote s.log = (.ok own, log))
      (approval : t.log = log ∨ P.build.policyV2 = true ∧ ∃ ext x, s.servtdExt = some ext ∧
        approve P ext log = (x, t.log))
      (flag : t.migInfoExchanged = true) (sessions : t.sessions = s.sessions)
      (response : ∀ bytes, out = .ok bytes → bytes = (migInfoRspFields own).flatten) :
      MigInfoEffect P sessionId vdm r s out t

/-- What a rebinding information request names: a ready session in the right mode, the token and
the record that attestation left. -/
structure RebindInfoRequest (sessionId : Option UInt32) (vdm : VdmMessage) (r : Octets)
    (s : RspState) (sid : UInt32) (session : SpdmSession) (token : Bytes 32) (ext : ServtdExt) :
    Prop where
  mode : s.info.isRebind = true
  addressed : sessionId = some sid
  ready : Ready s sid session
  header : vdm.check .exchangeRebindInfoReq VDM_MESSAGE_EXCHANGE_REBIND_INFO_ELEMENT_REQ_COUNT =
    .ok ()
  carried : ∃ rest, tokenElement r = .ok (token, rest)
  kept : s.servtdExt = some ext

inductive RebindInfoEffect (P : Platform) (sessionId : Option UInt32) (vdm : VdmMessage)
    (r : Octets) (s : RspState) : Except SpdmStatus Octets → RspState → Prop
  | refused {e : SpdmStatus} {t : RspState} (log : t.log = s.log)
      (sessions : t.sessions = s.sessions ∨
        s.info.isRebind = true ∧ shut false sessionId s = true) :
      RebindInfoEffect P sessionId vdm r s (.error e) t
  | wrote {out : Except SpdmStatus Octets} {t : RspState} {sid : UInt32}
      {session : SpdmSession} {token : Bytes 32} {ext : ServtdExt} {x : Except MigrationResult Unit}
      (request : RebindInfoRequest sessionId vdm r s sid session token ext)
      (install : installRebind P token ext s.log = (x, t.log)) (sessions : t.sessions = s.sessions)
      (complete : ∀ bytes, out = .ok bytes → x = .ok ()) :
      RebindInfoEffect P sessionId vdm r s out t

section

variable {P : Platform} {s : RspState} {σ : Type}

private theorem tdCalls_run (m : TdProgram α) (s : RspState) :
    tdCalls m s = (Except.mapError ofMigrationResult (m s.log).1, { s with log := (m s.log).2 }) := by
  unfold tdCalls embed
  rcases m s.log with ⟨x, log⟩
  cases x <;> rfl

theorem parse_ok {reader : ElementReader α} {r : Octets} {s t : σ}
    (h : parse reader r s = (.ok a, t)) : ∃ rest, reader r = .ok (a, rest) := by
  obtain ⟨pair, hpair, rfl⟩ := map_ok.mp (lift_ok.mp h).1
  exact ⟨pair.2, hpair⟩

theorem append_ok {used out : Octets}
    {fields : List Octets} {s t : σ} (h : append P status used fields s = (.ok out, t)) :
    out = used ++ fields.flatten :=
  write_ok (mapError_ok.mp (lift_ok.mp h).1)

theorem approveStored_post (stored : Option ServtdExt) (s : RspState) :
    Post (approveStored P stored) s fun _ t => t = { s with log := t.log } ∧
      (t.log = s.log ∨ ∃ ext x, stored = some ext ∧ approve P ext s.log = (x, t.log)) := by
  cases stored with
  | none => exact ⟨rfl, .inl rfl⟩
  | some ext =>
    change Post (tdCalls (approve P ext)) s _
    unfold Post
    rw [tdCalls_run]
    exact ⟨rfl, .inr ⟨ext, _, rfl, rfl⟩⟩

theorem handleExchangeMigInfoReq_effect (sessionId : Option UInt32) (vdm : VdmMessage)
    (r : Octets) (s : RspState) :
    Post (handleExchangeMigInfoReq P sessionId vdm r) s (MigInfoEffect P sessionId vdm r s) := by
  refine post_bind_same inferInstance (fun sid hsid => ?_) fun _ _ => .refused rfl rfl (.inl rfl)
  obtain rfl : sessionId = some sid := orElse_ok.mp (lift_ok.mp hsid).1
  refine post_bind_same inferInstance (fun exchanged hexchanged => ?_)
    fun _ _ => .refused rfl rfl (.inl rfl)
  have hexchanged := (observe_ok.mp hexchanged).1
  cases exchanged with
  | true =>
    refine .refused rfl rfl ?_
    rw [hexchanged]
    exact teardown_replay sid s
  | false =>
    simp only [Bool.false_eq_true, ↓reduceIte]
    refine post_bind.mpr ((attestedSession_post sid s).mono ?_)
    intro x t hx
    cases x with
    | error e =>
      refine .refused hx.1.log hx.1.flag ?_
      rw [hexchanged]
      exact hx.2.imp (congrArg fun u : RspState => u.sessions) id
    | ok _ =>
      obtain ⟨rfl, session, ready⟩ := hx
      refine post_bind_same inferInstance (fun _ hcheck => ?_)
        fun _ _ => .refused rfl rfl (.inl rfl)
      refine post_bind_same inferInstance (fun remote hremote => ?_)
        fun _ _ => .refused rfl rfl (.inl rfl)
      refine post_bind_same inferInstance (fun context hcontext => ?_)
        fun _ _ => .refused rfl rfl (.inl rfl)
      have request : MigInfoRequest P (some sid) vdm r t sid session remote context :=
        ⟨rfl, hexchanged, ready, (lift_ok.mp hcheck).1, parse_ok hremote,
          (readAppContext_ok hcontext).2⟩
      refine post_bind_embed (fun own log hrun => ?_) fun x log hrun => .failed request hrun rfl rfl
      -- The flag is set before anything else can fail.
      refine post_bind.mpr (post_update.mpr ?_)
      refine post_bind.mpr (post_observe.mpr ?_)
      refine post_bind.mpr ((approveStored_post _ _).mono ?_)
      rintro z u ⟨hstate, hlog⟩
      have flag : u.migInfoExchanged = true := by rw [hstate]
      have sessions : u.sessions = t.sessions := by rw [hstate]
      have approval : u.log = log ∨ P.build.policyV2 = true ∧ ∃ ext x,
          t.servtdExt = some ext ∧ approve P ext log = (x, u.log) := by
        rcases hlog with hlog | ⟨ext, w, hext, hlog⟩
        · exact .inl hlog
        · right
          split at hext
          · rename_i hv
            exact ⟨hv, ext, w, hext, hlog⟩
          · cases hext
      cases z with
      | error e => exact .installed request hrun approval flag sessions fun _ h => by cases h
      | ok _ =>
        refine post_bind_same inferInstance (fun out hout => ?_) fun _ _ =>
          .installed request hrun approval flag sessions fun _ h => by cases h
        refine post_same inferInstance fun w hw => ?_
        refine .installed request hrun approval flag sessions ?_
        intro bytes hbytes
        rw [hbytes] at hw
        rw [append_ok hw, append_ok hout, List.nil_append]
        exact List.flatten_append.symm

theorem handleExchangeRebindInfoReq_effect (sessionId : Option UInt32) (vdm : VdmMessage)
    (r : Octets) (s : RspState) :
    Post (handleExchangeRebindInfoReq P sessionId vdm r) s
      (RebindInfoEffect P sessionId vdm r s) := by
  refine post_bind_same inferInstance (fun info hinfo => ?_) fun _ _ => .refused rfl (.inl rfl)
  refine post_bind_same inferInstance (fun _ hmode => ?_) fun _ _ => .refused rfl (.inl rfl)
  have mode : s.info.isRebind = true := by
    rw [(observe_ok.mp hinfo).1]
    exact (ensure_ok.mp hmode).1
  refine post_bind_same inferInstance (fun sid hsid => ?_) fun _ _ => .refused rfl (.inl rfl)
  obtain rfl : sessionId = some sid := orElse_ok.mp (lift_ok.mp hsid).1
  refine post_bind.mpr ((attestedSession_post sid s).mono ?_)
  intro x t hx
  cases x with
  | error e =>
    exact .refused hx.1.log (hx.2.imp (congrArg fun u : RspState => u.sessions) fun h => ⟨mode, h⟩)
  | ok _ =>
    obtain ⟨rfl, session, ready⟩ := hx
    refine post_bind_same inferInstance (fun _ hcheck => ?_) fun _ _ => .refused rfl (.inl rfl)
    refine post_bind_same inferInstance (fun token htoken => ?_) fun _ _ => .refused rfl (.inl rfl)
    refine post_bind_same inferInstance (fun stored hstored => ?_)
      fun _ _ => .refused rfl (.inl rfl)
    refine post_bind_same inferInstance (fun ext hext => ?_) fun _ _ => .refused rfl (.inl rfl)
    have kept : t.servtdExt = some ext := by
      rw [(observe_ok.mp hstored).1]
      exact orElse_ok.mp (lift_ok.mp hext).1
    have request : RebindInfoRequest (some sid) vdm r t sid session token ext :=
      ⟨mode, rfl, ready, (lift_ok.mp hcheck).1, parse_ok htoken, kept⟩
    refine post_bind_embed (fun _ log hrun => ?_) fun x log hrun =>
      .wrote request hrun rfl fun _ h => by cases h
    refine post_same inferInstance fun w _ => ?_
    exact .wrote request hrun rfl fun _ _ => rfl

end

end MigTd.Spdm.ResponderSpecs
