/- source: spdm/mod.rs, session.rs
   digest: Every failure of a requester run, and the code that the host is told for it. -/

import MigTd.Lib.FailureClass
import MigTd.Spdm.Reference
import MigTd.Spdm.Requester

-- The errors of a run are one search over all of its steps.
set_option synthInstance.maxSize 100000

set_option autoImplicit false

namespace MigTd.Spdm.SessionErrors

open Lib.ByteCodec Lib.FailureClass Lib.StateProgram Migration.Information Migration.MskExchange
  Context Dispatcher Requester Status Status.SpdmStatus Vdm Tdx.Module Responder

/-- An error of the library, which carries no application code of its own. -/
def IsLibraryStatus (e : SpdmStatus) : Prop :=
  e.severity = .error ∧ ∃ code, e.statusCode = .library code

/-- The statuses with which a requester run can end: errors of the library, with or without a
received ERROR message, and local failures that carry their code. -/
def Reportable (e : SpdmStatus) : Prop :=
  IsLibraryStatus e ∨ ∃ r : MigrationResult, r ≠ .success ∧ e = ofMigrationResult r

/-- The library fails with statuses of its own only. -/
structure Faithful (lib : SpdmLibrary) : Prop where
  version : Erring IsLibraryStatus lib.version
  capability : Erring IsLibraryStatus lib.capability
  algorithm : Erring IsLibraryStatus lib.algorithm
  keyExchange : Erring IsLibraryStatus lib.keyExchange
  vendorRequest : ∀ sid req, Erring IsLibraryStatus (lib.vendorRequest sid req)
  finish : ∀ sid, Erring IsLibraryStatus (lib.finish sid)
  endSession : ∀ sid, Erring IsLibraryStatus (lib.endSession sid)

/-- What the host is told about a finished session: `decode_spdm_session_err` of a failure. -/
def statusForHost (result : Except SpdmStatus Unit) : MigrationResult :=
  match result with
  | .ok () => .success
  | .error e => decodeSpdmSessionErr e

variable {e : SpdmStatus}

theorem decode_reportable (h : Reportable e) : decodeSpdmSessionErr e ≠ .success ↔
      ¬∃ bytes, e.errorData = some bytes ∧ MuteVendorError bytes := by
  rcases h with ⟨hs, code, hc⟩ | ⟨r, hr, rfl⟩
  · rw [← decode_library_success hs hc]
  · have hdata : (ofMigrationResult r).errorData = none := by
      rw [ofMigrationResult, if_neg hr]
    rw [decode_ofMigrationResult hr, hdata]
    simp [hr]

theorem reportable_ofLibrary (code : LibraryCode) : Reportable (ofLibrary code) :=
  .inl ⟨rfl, code, rfl⟩

instance : Fact (Reportable SPDM_STATUS_INVALID_MSG_FIELD) := ⟨reportable_ofLibrary _⟩
instance : Fact (Reportable SPDM_STATUS_INVALID_MSG_SIZE) := ⟨reportable_ofLibrary _⟩
instance : Fact (Reportable SPDM_STATUS_INVALID_STATE_LOCAL) := ⟨reportable_ofLibrary _⟩
instance : Fact (Reportable SPDM_STATUS_UNSUPPORTED_CAP) := ⟨reportable_ofLibrary _⟩
instance : Fact (Reportable SPDM_STATUS_BUFFER_FULL) := ⟨reportable_ofLibrary _⟩
instance : Fact (Reportable SPDM_STATUS_CRYPTO_ERROR) := ⟨reportable_ofLibrary _⟩

abbrev Failure (r : MigrationResult) : Prop := r ≠ .success

instance : Fact (Failure .invalidParameter) := ⟨by decide⟩
instance : Fact (Failure .mutualAttestationError) := ⟨by decide⟩
instance : Fact (Failure .policyUnsatisfiedError) := ⟨by decide⟩
instance : Fact (Failure .secureSessionError) := ⟨by decide⟩

theorem reportable_ofMigrationResult {r : MigrationResult} (h : Failure r) :
    Reportable (ofMigrationResult r) := .inr ⟨r, h, rfl⟩

instance (r : MigrationResult) [h : Fact (Failure r)] : Fact (Reportable (ofMigrationResult r)) :=
  ⟨reportable_ofMigrationResult h.out⟩

/-- A refused verification, by the status that it leads to. -/
abbrev Refused (x : Refusal) : Prop := Reportable x.status

section

variable (tdx : TdxModule) (info : MigtdMigrationInformation)

instance (call : TdCall) : Fails Failure (tdCall tdx call) := by
  constructor
  intro log e log' h
  unfold tdCall at h
  cases hr : tdx log call with
  | ok v =>
    rw [hr] at h
    cases h
  | error x =>
    rw [hr] at h
    cases h
    decide

instance (n : Nat) (field : UInt64) : Fails Failure (readWords tdx info n field) := by
  induction n generalizing field with
  | zero => exact fails_pure _
  | succ n ih =>
    unfold readWords
    infer_instance

instance (field : UInt64) (ws : List UInt64) : Fails Failure (writeWords tdx info field ws) := by
  induction ws generalizing field with
  | nil => exact fails_pure ()
  | cons w ws ih =>
    unfold writeWords
    infer_instance

end

section

variable (P : Platform) (sv : Services)

instance (data : Octets) : Erring Failure (sessionDigest P.sha384 data) := by
  unfold sessionDigest
  split <;> infer_instance

instance (reportData : Octets) :
    Erring Reportable (Except.mapError ofMigrationResult (genQuoteSpdm P sv reportData)) := by
  have hq : Erring Failure (genQuoteSpdm P sv reportData) := by
    unfold genQuoteSpdm
    infer_instance
  exact erring_mapError hq fun _ => reportable_ofMigrationResult

instance (hash peerData : Octets) : Erring Refused (checkPeerDataHash P hash peerData) := by
  unfold checkPeerDataHash
  split <;> infer_instance

instance (isSrc : Bool) (role own quote eventLog : Octets) (th1 : SpdmDigestStruct) :
    Erring Refused (verifyAttestationV1 P sv isSrc role own quote eventLog th1) := by
  have hb (report : Octets) : Erring Refused
      (match verifyReportDataBinding P.sha384 report role th1 with
        | .error _ => .error ⟨SPDM_STATUS_INVALID_MSG_FIELD, true⟩
        | .ok () => if sv.authenticatePolicy isSrc own report eventLog then .ok ()
          else .error ⟨SPDM_STATUS_INVALID_MSG_FIELD, false⟩) := by
    split <;> infer_instance
  unfold verifyAttestationV1
  infer_instance

instance (hash peerData : Octets) (policyCheck : Option Octets)
    (binding : Octets → Except MigrationResult Unit) :
    Erring Refused (verifyAttestationV2 P hash peerData policyCheck binding) := by
  have hb (report : Octets) : Erring Refused (match binding report with
        | .error _ => .error ⟨ofMigrationResult .mutualAttestationError, true⟩
        | .ok () => .ok ()) := by
    split <;> infer_instance
  unfold verifyAttestationV2
  infer_instance

instance (n : NegotiateInfo) (capacity : Nat) (payload : Octets) :
    Erring Reportable (sealRequest n capacity payload) := by
  have hencode (p : VdmPayload) (used : Octets) :
      Erring (fun x : SpdmStatus × Octets => Reportable x.1)
        (p.spdmEncode n capacity used) := by
    constructor
    intro e he
    unfold VdmPayload.spdmEncode at he
    split at he
    · cases he
      exact reportable_ofLibrary _
    · split at he
      · cases he
        exact reportable_ofLibrary _
      · split at he
        · cases he
          exact reportable_ofLibrary _
        · cases he
  have hmap (p : VdmPayload) (used : Octets) :
      Erring Reportable (Except.mapError Prod.fst (p.spdmEncode n capacity used)) :=
    erring_mapError (hencode p used) fun _ h => h
  unfold sealRequest
  infer_instance

end

variable {α : Type}

section

instance (d : Decoder α) : Misreads Reportable (reading d) :=
  ⟨fun r e h => (inferInstance : Erring Reportable
    (orElse (d r) SPDM_STATUS_INVALID_MSG_SIZE)).of e h⟩

instance (e : SpdmStatus) [h : Fact (Reportable e)] :
    Misreads Reportable (refuse e : ElementReader α) := ⟨fun _ _ he => by cases he; exact h.out⟩

end

section

variable (P : Platform) (sv : Services) (info : MigtdMigrationInformation)

instance (m : TdProgram α) [hm : Fails Failure m] : Fails Reportable (Requester.tdCalls m) :=
  fails_embed hm fun _ => reportable_ofMigrationResult

instance (status : SpdmStatus) (m : TdProgram α) [h : Fact (Reportable status)] :
    Fails Reportable (tdCallsOr (fun _ => status) m) := by
  have hm : Fails (fun _ => True) m := ⟨fun _ _ _ _ => trivial⟩
  exact fails_embed hm fun _ _ => h.out

instance (sid : UInt32) (verdict : Except Refusal Unit) [hv : Erring Refused verdict] :
    Fails Reportable (Requester.accept sid verdict) := by
  unfold Requester.accept
  split
  · infer_instance
  · rename_i status
    have hstatus : Fact (Reportable status) := ⟨hv.of _ rfl⟩
    infer_instance
  · rename_i status
    have hstatus : Fact (Reportable status) := ⟨hv.of _ rfl⟩
    infer_instance

instance (sid : UInt32) (quote : Octets) :
    Fails Reportable (Requester.verifyOwnQuote P sv sid quote) := by
  unfold Requester.verifyOwnQuote
  split
  · infer_instance
  · split <;> infer_instance

instance : Fails Reportable (ownServtdExt P info) := by
  unfold ownServtdExt
  infer_instance

instance (report : Octets) (e : AttestRspElements) (peerData : Octets)
    (th1 : SpdmDigestStruct) :
    Erring Refused (verifyPeerAttestation P sv report e peerData th1) := by
  unfold verifyPeerAttestation
  infer_instance

variable {lib : SpdmLibrary} (hlib : Faithful lib)

include hlib

theorem fails_converse (sid : Option UInt32) (payload : Octets)
    (opCode : VdmMessageOpCode) (count : UInt8) :
    Fails Reportable (converse P lib sid payload opCode count) := by
  have hv (sid : Option UInt32) (req : Octets) : Erring Reportable (lib.vendorRequest sid req) :=
    ⟨fun e h => .inl ((hlib.vendorRequest sid req).of e h)⟩
  unfold converse
  infer_instance

theorem fails_openSession : Fails Reportable (openSession P sv lib) := by
  have hc := fails_converse P hlib
  have h1 : Erring Reportable lib.version := ⟨fun e h => .inl (hlib.version.of e h)⟩
  have h2 : Erring Reportable lib.capability := ⟨fun e h => .inl (hlib.capability.of e h)⟩
  have h3 : Erring Reportable lib.algorithm := ⟨fun e h => .inl (hlib.algorithm.of e h)⟩
  have h4 : Erring Reportable lib.keyExchange := ⟨fun e h => .inl (hlib.keyExchange.of e h)⟩
  unfold openSession sendAndReceivePubKey
  infer_instance

theorem fails_spdmRequesterTransferMsk (peerData : Octets) :
    Fails Reportable (spdmRequesterTransferMskInner P sv lib info peerData) := by
  have hc := fails_converse P hlib
  have ho := fails_openSession P sv hlib
  have hf (sid : UInt32) : Erring Reportable (lib.finish sid) :=
    ⟨fun e h => .inl ((hlib.finish sid).of e h)⟩
  have he (sid : UInt32) : Erring Reportable (lib.endSession sid) :=
    ⟨fun e h => .inl ((hlib.endSession sid).of e h)⟩
  unfold spdmRequesterTransferMskInner sendAndReceiveSdmMigrationAttestInfo migrationAttestRequest
    attestPeer sendAndReceiveSdmExchangeMigrationInfo
  infer_instance

theorem fails_spdmRequesterRebindOld (peerData : Octets) :
    Fails Reportable (spdmRequesterRebindOldInner P sv lib info peerData) := by
  have hc := fails_converse P hlib
  have ho := fails_openSession P sv hlib
  have hf (sid : UInt32) : Erring Reportable (lib.finish sid) :=
    ⟨fun e h => .inl ((hlib.finish sid).of e h)⟩
  have he (sid : UInt32) : Erring Reportable (lib.endSession sid) :=
    ⟨fun e h => .inl ((hlib.endSession sid).of e h)⟩
  unfold spdmRequesterRebindOldInner sendAndReceiveSdmRebindAttestInfo rebindAttestRequest attestPeer
    sendAndReceiveSdmRebindInfo
  infer_instance

end

section

variable {P : Platform} {d : Delivery} {s u : RspState} {vdm : VdmMessage} {r : Octets}

theorem dispatch_failed (room : 4 ≤ d.rspCapacity)
    (opened : openRequest s.negotiateInfo d.reqBytes = .ok (vdm, r))
    (handled : handle P d vdm r s = (.error e, u)) :
    (dispatch P d s).1 = .error (e,
      spdmError s.negotiateInfo.spdmVersionSel .vendorDefined e.appError) := by
  have hserved : Served P d s (dispatch P d s).1 (dispatch P d s).2 := dispatch_served P d s
  have hwhole : writeSpdmError s.negotiateInfo .vendorDefined e.appError d.rspCapacity [] =
      spdmError s.negotiateInfo.spdmVersionSel .vendorDefined e.appError := by
    unfold writeSpdmError
    rw [List.nil_append, List.length_nil, Nat.sub_zero]
    exact List.take_of_length_le room
  generalize (dispatch P d s).1 = out at hserved ⊢
  generalize (dispatch P d s).2 = t at hserved
  cases hserved with
  | unreadable hopened =>
    rw [opened] at hopened
    cases hopened
  | failed hopened hhandled =>
    rw [opened] at hopened
    cases hopened
    rw [handled] at hhandled
    cases hhandled
    rw [hwhole]
  | served hopened hhandled =>
    rw [opened] at hopened
    cases hopened
    rw [handled] at hhandled
    cases hhandled
  | marked hopened hhandled =>
    rw [opened] at hopened
    cases hopened
    rw [handled] at hhandled
    cases hhandled

theorem dispatch_app_error {c : MigrationResult} (hc : c ≠ .success) (room : 4 ≤ d.rspCapacity)
    (opened : openRequest s.negotiateInfo d.reqBytes = .ok (vdm, r))
    (handled : handle P d vdm r s = (.error (ofMigrationResult c), u)) :
    (dispatch P d s).1 = .error (ofMigrationResult c,
      spdmError s.negotiateInfo.spdmVersionSel .vendorDefined c.asU8) := by
  rw [dispatch_failed room opened handled, appError_ofMigrationResult hc]

end

/-- A failed requester run is reported as a failure unless the ERROR message that ended it is a
mute vendor error; and an application code with which the responder's handler failed arrives
unchanged. -/
theorem session_failure_reported {P : Platform} {sv : Services} {lib : SpdmLibrary}
    {info : MigtdMigrationInformation} {peerData : Octets} {s : ReqState} {e : SpdmStatus}
    (hlib : Faithful lib)
    (hrun : (spdmRequesterTransferMsk P sv lib info peerData s).1 = .error e ∨
      (spdmRequesterRebindOld P sv lib info peerData s).1 = .error e) :
    (statusForHost (.error e) ≠ .success ↔
      ¬∃ bytes, e.errorData = some bytes ∧ MuteVendorError bytes) ∧
    ∀ {P' : Platform} {d : Delivery} {s' u : RspState} {vdm : VdmMessage} {r rsp : Octets}
      {c : MigrationResult}, c ≠ .success → 4 ≤ d.rspCapacity →
      openRequest s'.negotiateInfo d.reqBytes = .ok (vdm, r) →
      handle P' d vdm r s' = (.error (ofMigrationResult c), u) →
      (dispatch P' d s').1 = .error (ofMigrationResult c, rsp) →
      IsLibraryStatus e → e.errorData = some rsp → statusForHost (.error e) = c := by
  have hreport : Reportable e := by
    rcases hrun with hrun | hrun
    · exact (fails_spdmRequesterTransferMsk P sv info hlib peerData).of s e _ (Prod.ext hrun rfl)
    · exact (fails_spdmRequesterRebindOld P sv info hlib peerData).of s e _ (Prod.ext hrun rfl)
  refine ⟨decode_reportable hreport, ?_⟩
  intro P' d s' u vdm r rsp c hc room opened handled hdispatch hstatus hdata
  rw [dispatch_app_error hc room opened handled] at hdispatch
  obtain ⟨hseverity, code, hcode⟩ := hstatus
  cases hdispatch
  exact decode_vendorDefined hseverity hcode hdata

/-- A library that ends every run at once with this ERROR message of the peer. -/
def failingLibrary (errorData : Octets) : SpdmLibrary where
  version := .error ⟨.error, .library (.other 0), some errorData⟩
  capability := .ok ()
  algorithm := .ok Reference.negotiated
  keyExchange := .ok (7, Reference.th1Of 1)
  vendorRequest := fun _ _ => .ok []
  sessionsAfter := fun _ sessions => sessions
  finish := fun _ => .ok ()
  endSession := fun _ => .ok ()

theorem failingLibrary_faithful (errorData : Octets) : Faithful (failingLibrary errorData) where
  version := ⟨fun e h => by cases h; exact ⟨rfl, _, rfl⟩⟩
  capability := erring_ok _
  algorithm := erring_ok _
  keyExchange := erring_ok _
  vendorRequest := fun _ _ => erring_ok _
  finish := fun _ => erring_ok _
  endSession := fun _ => erring_ok _

def refusingPlatform : Platform := { Reference.platform with tdx := fun _ _ => .error 1 }

def migInfoElements : Octets := Reference.migInfoRequest.drop 17

def migInfoDelivery : Delivery := ⟨Reference.services, some 7, Reference.migInfoRequest, 8192⟩

theorem session_failure_reported_tdx :
    statusForHost (spdmRequesterTransferMsk Reference.platform Reference.services
      (failingLibrary [0x12, 0x7F, 0xFF, 4]) .default [8] (spdmRequester Reference.negotiated 400)).1
        = .tdxModuleError := by
  have opened : openRequest Reference.attestedContext.negotiateInfo migInfoDelivery.reqBytes =
      .ok (⟨0, 0, .exchangeMigrationInfoReq, 2⟩, migInfoElements) := by
    decide +kernel
  have handled : (handle refusingPlatform migInfoDelivery ⟨0, 0, .exchangeMigrationInfoReq, 2⟩
      migInfoElements Reference.attestedContext).1 = .error (ofMigrationResult .tdxModuleError) := by
    decide +kernel
  obtain ⟨u, hfailed⟩ := run_of_result handled
  have hbytes := dispatch_app_error (by decide) (by decide) opened hfailed
  have hrun : (spdmRequesterTransferMsk Reference.platform Reference.services
      (failingLibrary [0x12, 0x7F, 0xFF, 4]) .default [8]
      (spdmRequester Reference.negotiated 400)).1 =
        .error ⟨.error, .library (.other 0), some [0x12, 0x7F, 0xFF, 4]⟩ := rfl
  rw [hrun]
  exact (session_failure_reported (failingLibrary_faithful _) (.inl hrun)).2 (by decide)
    (by decide) opened hfailed hbytes ⟨rfl, _, rfl⟩ rfl

def keylessDelivery (request : Octets) : Delivery :=
  ⟨{ Reference.services with newSigningKey := none }, none, request, 8192⟩

/-- A library in front of that responder, which hands on the bytes of an ERROR message. -/
def keylessLibrary : SpdmLibrary where
  version := .ok ()
  capability := .ok ()
  algorithm := .ok Reference.negotiated
  keyExchange := .ok (7, Reference.th1Of 1)
  vendorRequest := fun _ request => Except.mapError
    (fun e => ⟨.error, .library (.other 0), some e.2⟩)
    (dispatch Reference.platform (keylessDelivery request) Reference.attestedContext).1
  sessionsAfter := fun _ sessions => sessions
  finish := fun _ => .ok ()
  endSession := fun _ => .ok ()

theorem session_failure_muted : Faithful keylessLibrary ∧
    ∃ e, (spdmRequesterTransferMsk Reference.platform Reference.services keylessLibrary .default [8]
        (spdmRequester Reference.negotiated 400)).1 = .error e ∧
      statusForHost (.error e) = .success := by
  have hvendor (sid : Option UInt32) (request : Octets) :
      Erring IsLibraryStatus (keylessLibrary.vendorRequest sid request) := by
    constructor
    intro e he
    obtain ⟨x, -, rfl⟩ := mapError_error.mp he
    exact ⟨rfl, _, rfl⟩
  refine ⟨⟨erring_ok _, erring_ok _, erring_ok _, erring_ok _, hvendor, fun _ => erring_ok _,
    fun _ => erring_ok _⟩, ⟨.error, .library (.other 0), some [0x12, 0x7F, 0xFF, 0]⟩, ?_, rfl⟩
  decide +kernel

end MigTd.Spdm.SessionErrors
