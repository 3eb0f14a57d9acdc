/- source: spdm_req.rs
   digest: A requester lets nothing out before the peer of its session has been attested. -/

import MigTd.Spdm.AttestWire
import MigTd.Spdm.ExchangePeers

-- The frame of a run is one search over all of its steps.
set_option synthInstance.maxSize 100000

set_option autoImplicit false

namespace MigTd.Spdm.Disclosure

open Lib.StateProgram Migration.Information Migration.MskExchange Context ExchangePeers Requester
  RequesterFrames Status Vdm Tdx.Module AttestWire Lib.ByteCodec
open Responder (Services Refusal verifyAttestationV2 genQuoteSpdm parse)

/-- The report of the own quote for a session, which policy v1 compares with that of the peer. -/
def OwnReport (P : Platform) (sv : Services) (th1 : SpdmDigestStruct) (report : Octets) : Prop :=
  P.build.policyV2 = true ∨ ∃ reportData quote,
    buildReportData REQUESTER_ROLE th1 = .ok reportData ∧ genQuoteSpdm P sv reportData = .ok quote ∧
      sv.verifyQuote quote = some report

/-- The elements that the requester reads from a response, under what was negotiated. -/
def Carries (lib : SpdmLibrary) (opCode : VdmMessageOpCode) (count : UInt8)
    (evidenceType : VdmMessageElementType) (response : Octets) (e : AttestRspElements) : Prop :=
  ∃ n elements, lib.algorithm = .ok n ∧ openResponse n response opCode count = .ok elements ∧
    (attestRspElements evidenceType elements).map Prod.fst = .ok e

/-- The evidence in this response of a migration destination was accepted for the session with this
TH1. -/
def DestinationAttested (P : Platform) (sv : Services) (lib : SpdmLibrary) (peerData : Octets)
    (th1 : SpdmDigestStruct) (response : Octets) : Prop :=
  ∃ e report, Carries lib .exchangeMigrationAttestInfoRsp
      VDM_MESSAGE_EXCHANGE_MIGRATION_ATTEST_INFO_RSP_ELEMENT_COUNT .quoteMy response e ∧
    OwnReport P sv th1 report ∧ verifyPeerAttestation P sv report e peerData th1 = .ok ()

/-- The evidence in this response of a new MigTD was accepted for the session with this TH1. -/
def NewAttested (P : Platform) (sv : Services) (lib : SpdmLibrary) (peerData : Octets)
    (th1 : SpdmDigestStruct) (response : Octets) : Prop :=
  ∃ e, Carries lib .exchangeRebindAttestInfoRsp
      VDM_MESSAGE_EXCHANGE_REBIND_ATTEST_INFO_RSP_ELEMENT_COUNT .tdReportMy response e ∧
    verifyAttestationV2 P e.migPolicyHash peerData
      (sv.authenticateRebindingNew e.evidence e.eventLog peerData)
      (fun report => verifyTdreportDataBinding P.sha384 report RESPONDER_ROLE th1) = .ok ()

/-- More calls, and more requests in the session. -/
def Continues (sid : UInt32) (a b : Trace) : Prop :=
  a.1 <+: b.1 ∧ ∃ more, b.2 = a.2 ++ more ∧ ∀ request ∈ more, request.1 = some sid

instance (sid : UInt32) : Std.Refl (Continues sid) :=
  ⟨fun _ => ⟨List.prefix_rfl, [], (List.append_nil _).symm, List.forall_mem_nil _⟩⟩

instance (sid : UInt32) : IsTrans Trace (Continues sid) := by
  constructor
  rintro a b c ⟨calls, first, hfirst, hall⟩ ⟨calls', second, hsecond, hall'⟩
  refine ⟨calls.trans calls', first ++ second, ?_, List.forall_mem_append.mpr ⟨hall, hall'⟩⟩
  rw [hsecond, hfirst, List.append_assoc]

/-- A run that has only read and has sent nothing in a session. -/
def Withheld (t : Trace) : Prop := Issues ReadsOnly [] t.1 ∧ inSession t.2 = []

/-- Either the target was only read and nothing was sent in a session; or this was so up to the
moment when the peer of the session was attested by its response to the last request, and all
that was done and sent later was sent in that session. -/
def Guarded (lib : SpdmLibrary) (Attested : SpdmDigestStruct → Octets → Prop) (t : Trace) :
    Prop :=
  Withheld t ∨ ∃ sid th1 request response before, lib.keyExchange = .ok (sid, th1) ∧
    Withheld before ∧ before.2.getLast? = some (none, request) ∧
    lib.vendorRequest none request = .ok response ∧ Attested th1 response ∧ Continues sid before t

variable {P : Platform} {sv : Services} {lib : SpdmLibrary} {info : MigtdMigrationInformation}
  {peerData : Octets} {sid : UInt32} {th1 : SpdmDigestStruct} {s t : ReqState}

instance (request : Octets) :
    Keeps (OnTrace (Continues sid)) (handOver (some sid) request) :=
  keeps_update fun s => ⟨List.prefix_rfl, [(some sid, request)], rfl, by simp⟩

theorem continues_of_issues (sid : UInt32) {α : Type} {Q : TdCall → Prop} {m : TdProgram α}
    (h : Keeps (Issues Q) m) (status : MigrationResult → SpdmStatus) :
    Keeps (OnTrace (Continues sid)) (tdCallsOr status m) := by
  refine keeps_embed h fun s log ⟨added, hadded, _⟩ => ?_
  exact ⟨⟨added, hadded.symm⟩, [], (List.append_nil _).symm, List.forall_mem_nil _⟩

structure Found (lib : SpdmLibrary) (s : ReqState) (sid : UInt32) (th1 : SpdmDigestStruct) :
    Prop where
  session : s.sessions sid = some ⟨.handshaking, th1, none⟩
  negotiated : lib.algorithm = .ok s.negotiateInfo

abbrev SameNegotiated : ReqState → ReqState → Prop := Same ReqState.negotiateInfo

instance (f : (UInt32 → Option SpdmSession) → UInt32 → Option SpdmSession) :
    Keeps SameNegotiated (setSessions f) := keeps_update fun _ => rfl

instance (sid : Option UInt32) (request : Octets) :
    Keeps SameNegotiated (handOver sid request) := keeps_update fun _ => rfl

instance (buffer : Octets) : Keeps SameNegotiated (setAppContext buffer) :=
  keeps_update fun _ => rfl

instance (my peer : Octets) : Keeps SameNegotiated (provisionPubKeys my peer) :=
  keeps_update fun _ => rfl

instance (transcript : Octets) :
    Keeps SameNegotiated (setTranscriptBeforeKeyExchange transcript) :=
  keeps_update fun _ => rfl

instance : Keeps SameNegotiated (sendAndReceivePubKey P sv lib) := by
  unfold sendAndReceivePubKey converse
  infer_instance

theorem openSession_found (h : openSession P sv lib s = (.ok sid, t)) :
    ∃ th1, lib.keyExchange = .ok (sid, th1) ∧ Found lib t sid th1 := by
  iterate 2 obtain ⟨_, _, -, h⟩ := bind_ok.mp h
  obtain ⟨n, _, halgorithm, h⟩ := bind_ok.mp h
  obtain ⟨_, _, hset, h⟩ := bind_ok.mp h
  obtain ⟨_, u, hkeys, h⟩ := bind_ok.mp h
  obtain ⟨started, _, hstarted, h⟩ := bind_ok.mp h
  obtain ⟨_, _, hsessions, h⟩ := bind_ok.mp h
  obtain ⟨rfl, rfl⟩ := pure_ok.mp h
  obtain rfl := update_ok.mp hsessions
  obtain ⟨hexchanged, rfl⟩ := lift_ok.mp hstarted
  have hkept : SameNegotiated _ u := Keeps.of_ok inferInstance hkeys
  obtain rfl := update_ok.mp hset
  refine ⟨started.2, hexchanged, Function.update_self .., ?_⟩
  rw [(lift_ok.mp halgorithm).1]
  exact congrArg Except.ok hkept

private theorem accept_ok {verdict : Except Refusal Unit} {x : Unit}
    (h : accept sid verdict s = (.ok x, t)) : verdict = .ok () := by
  unfold accept at h
  split at h
  · rfl
  · cases h
  · iterate 2 obtain ⟨_, _, -, h⟩ := bind_ok.mp h
    cases h

variable {evidenceType : VdmMessageElementType} {opCode : VdmMessageOpCode} {count : UInt8}

theorem attestPeer_accepted {out : Octets}
    {verdict : AttestRspElements → Except Refusal Unit} (hn : lib.algorithm = .ok s.negotiateInfo)
    (h : attestPeer P lib sid out opCode count evidenceType verdict s = (.ok (), t)) :
    ∃ request response e, t.sent.getLast? = some (none, request) ∧
      lib.vendorRequest none request = .ok response ∧
      Carries lib opCode count evidenceType response e ∧ verdict e = .ok () := by
  simp only [attestPeer, converse, parse, handOver, setSessions, setTranscriptBeforeFinish, bind_ok,
    observe_ok, update_ok, lift_ok, pure_ok, and_assoc, exists_and_left, exists_eq_left'] at h
  obtain ⟨answered, u, ⟨request, -, _, _, response, hresponse, elements, hopened, rfl, rfl⟩, e,
    hparsed, _, v, haccepted, _, -, _, -, rfl⟩ := h
  have hsame : Same outbox _ v := Keeps.of_ok inferInstance haccepted
  have hsent : s.sent ++ [(none, request)] = v.sent := congrArg Prod.snd hsame
  refine ⟨request, response, e, ?_, hresponse, ⟨_, elements, hn, hopened, hparsed⟩,
    accept_ok haccepted⟩
  rw [← hsent]
  exact List.getLast?_concat

theorem attested_for_session {request : ReqProgram AttestRequest}
    {verdict : AttestRequest → AttestRspElements → Except Refusal Unit}
    (hkeeps : Keeps (Same outbox) request) (hfound : Found lib s sid th1)
    (hsession : ∀ built, (request s).1 = .ok built →
      ∃ session, s.sessions sid = some session ∧ session.th1 = built.th1)
    (h : (do let built ← request
             attestPeer P lib sid built.payload opCode count evidenceType (verdict built)) s =
      (.ok (), t)) :
    ∃ built sent response e, (request s).1 = .ok built ∧ th1 = built.th1 ∧
      t.sent.getLast? = some (none, sent) ∧ lib.vendorRequest none sent = .ok response ∧
      Carries lib opCode count evidenceType response e ∧ verdict built e = .ok () := by
  obtain ⟨built, u, hbuilt, h⟩ := bind_ok.mp h
  have hrun := congrArg Prod.fst hbuilt
  obtain ⟨session, hin, hth1⟩ := hsession built hrun
  have hn := hfound.negotiated
  rw [show s.negotiateInfo = _ from congrArg Prod.fst (hkeeps.of_ok hbuilt)] at hn
  obtain ⟨sent, response, e, haccepted⟩ := attestPeer_accepted hn h
  refine ⟨built, sent, response, e, hrun, ?_, haccepted⟩
  rw [← hth1, ← Option.some.inj (hfound.session.symm.trans hin)]

theorem migrationAttestInfo_accepted (hfound : Found lib s sid th1)
    (h : sendAndReceiveSdmMigrationAttestInfo P sv lib info sid peerData s = (.ok (), t)) :
    ∃ request response, t.sent.getLast? = some (none, request) ∧
      lib.vendorRequest none request = .ok response ∧
      DestinationAttested P sv lib peerData th1 response := by
  obtain ⟨built, request, response, e, hbuilt, rfl, hlast, hresponse, hcarries, hverdict⟩ :=
    attested_for_session inferInstance hfound (fun _ hrun => by
      obtain ⟨_, _, gathered, -⟩ := migrationAttestRequest_iff.mp hrun
      exact gathered.session) h
  refine ⟨request, response, hlast, hresponse, e, built.verifiedReportLocal, hcarries, ?_, hverdict⟩
  obtain ⟨own, _, gathered, -⟩ := migrationAttestRequest_iff.mp hbuilt
  obtain ⟨reportData, hreport, hquote⟩ := gathered.quote
  have hverified := gathered.verified
  split_ifs at hverified with v2
  · exact .inl v2
  · exact .inr ⟨reportData, own.evidence, hreport, hquote, hverified⟩

instance : Keeps (Same outbox) (rebindAttestRequest P sv info sid) := by
  unfold rebindAttestRequest
  infer_instance

private theorem rebindAttestRequest_session {built : AttestRequest}
    (h : (rebindAttestRequest P sv info sid s).1 = .ok built) :
    ∃ session, s.sessions sid = some session ∧ session.th1 = built.th1 := by
  replace h : rebindAttestRequest P sv info sid s = (.ok built, _) := Prod.ext h rfl
  simp only [rebindAttestRequest, Requester.requirePubKeys, Requester.getSessionViaId, bind_ok,
    observe_ok, ensure_ok, lift_ok, pure_ok, orElse_ok, append_iff encode_ne_nil,
    append_iff elementFields_ne_nil, and_assoc, exists_and_left, exists_eq_left,
    exists_eq_left'] at h
  obtain ⟨-, -, -, session, hsession, _, -, _, -, -, _, -, -, _, -, -, _, -, _, _, -, -, -, rfl, -⟩ := h
  exact ⟨session, hsession, rfl⟩

theorem rebindAttestInfo_accepted (hfound : Found lib s sid th1)
    (h : sendAndReceiveSdmRebindAttestInfo P sv lib info sid peerData s = (.ok (), t)) :
    ∃ request response, t.sent.getLast? = some (none, request) ∧
      lib.vendorRequest none request = .ok response ∧
      NewAttested P sv lib peerData th1 response := by
  obtain ⟨built, request, response, e, -, rfl, hlast, hresponse, hcarries, hverdict⟩ :=
    attested_for_session inferInstance hfound (fun _ => rebindAttestRequest_session) h
  exact ⟨request, response, hlast, hresponse, e, hcarries, hverdict⟩

theorem guarded_run {Attested : SpdmDigestStruct → Octets → Prop}
    {attest exchange : UInt32 → ReqProgram Unit}
    (hattest : ∀ sid, Keeps (OnTrace Prepares) (attest sid))
    (haccept : ∀ s t sid th1, Found lib s sid th1 → attest sid s = (.ok (), t) →
      ∃ request response, t.sent.getLast? = some (none, request) ∧
        lib.vendorRequest none request = .ok response ∧ Attested th1 response)
    (hexchange : ∀ sid, Keeps (OnTrace (Continues sid)) (exchange sid))
    (n : NegotiateInfo) (size : Nat) :
    Post (do
      let sid ← openSession P sv lib
      attest sid
      exchange sid) (spdmRequester n size) fun _ t => Guarded lib Attested (history t) := by
  have hopen : Keeps (OnTrace Prepares) (openSession P sv lib) := inferInstance
  refine post_bind_keeps hopen ?_ fun _ _ _ h => .inl h
  intro sid t opened h
  refine post_bind_keeps (hattest sid) ?_ fun _ _ _ h' => .inl (trans_of Prepares h h')
  intro _ u accepted h'
  obtain ⟨th1, hkey, hfound⟩ := openSession_found opened
  obtain ⟨request, response, hlast, hresponse, hattested⟩ :=
    haccept t u sid th1 hfound accepted
  exact .inr ⟨sid, th1, request, response, history u, hkey, trans_of Prepares h h', hlast, hresponse,
    hattested, (hexchange sid).rel u⟩

/-- Against every library, peer and TDX module: what a migration source or an old MigTD sends in a
session, and every TDCALL of its run that does more than read, comes after the evidence in the
response of its peer was accepted for the TH1 of that session. -/
theorem disclosed_after_attestation (P : Platform) (sv : Services) (lib : SpdmLibrary)
    (info : MigtdMigrationInformation) (peerData : Octets) (n : NegotiateInfo) (size : Nat) :
    Guarded lib (DestinationAttested P sv lib peerData)
      (history (spdmRequesterTransferMsk P sv lib info peerData (spdmRequester n size)).2) ∧
    Guarded lib (NewAttested P sv lib peerData)
      (history (spdmRequesterRebindOld P sv lib info peerData (spdmRequester n size)).2) := by
  refine ⟨guarded_run (fun _ => inferInstance) (fun _ _ _ _ => migrationAttestInfo_accepted) ?_ n
    size, guarded_run ?_ (fun _ _ _ _ => rebindAttestInfo_accepted) ?_ n size⟩ <;> intro sid
  · have hoffer : Keeps (Issues ReadsOnly) (exchangeInfo P.tdx info true) := inferInstance
    have hinstall (own remote : ExchangeInformation) :
        Keeps (Issues (WritesMig info.bindingHandle info.targetTdUuid))
          (installPeerKey P info own remote) := inferInstance
    have hread := continues_of_issues sid hoffer
    have hwrite (own remote : ExchangeInformation) :=
      continues_of_issues sid (hinstall own remote)
    unfold sendAndReceiveSdmExchangeMigrationInfo Requester.tdCalls
    infer_instance
  · unfold sendAndReceiveSdmRebindAttestInfo rebindAttestRequest
    infer_instance
  · have happrove (token : Bytes 32) (status : MigrationResult → SpdmStatus) :=
      continues_of_issues sid (m := approveRebinding P info token)
        (Q := fun _ => True) (by
          have hcall : Keeps (Issues fun _ => True) (tdCall P.tdx
              (.servtdRebindApprove info.bindingHandle token.1 info.targetTdUuid)) :=
            keeps_tdCall P.tdx trivial
          unfold approveRebinding
          infer_instance) status
    unfold sendAndReceiveSdmRebindInfo
    infer_instance

/-- A migration source sends at most one request in a session, and this one is the offer that the
module reported for the target. -/
theorem offer_sent_once (P : Platform) (sv : Services) (lib : SpdmLibrary)
    (info : MigtdMigrationInformation) (peerData : Octets) (n : NegotiateInfo) (size : Nat) :
    Post (spdmRequesterTransferMsk P sv lib info peerData) (spdmRequester n size) fun _ t =>
      inSession t.sent = [] ∨
        ∃ own sid request, Requested info P.maxSpdmMsgSize own sid request (history t) := by
  refine (spdmRequesterTransferMsk_effect peerData n size).mono ?_
  intro _ t effect
  cases effect with
  | unsent sent => exact .inl sent
  | offered requested => exact .inr ⟨_, _, _, requested⟩
  | answered requested => exact .inr ⟨_, _, _, requested⟩

end MigTd.Spdm.Disclosure
