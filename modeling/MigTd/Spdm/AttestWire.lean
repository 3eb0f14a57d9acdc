/- source: spdm_vdm.rs, vmcall_msg.rs, spdm_req.rs, spdm_rsp.rs
   digest: Vendor-defined payloads, frames and attestation requests are taken apart as they were built. -/

import MigTd.Spdm.ExchangeWire
import MigTd.Spdm.Reference
import MigTd.Spdm.RequesterFrames
import MigTd.Spdm.VmcallMessages

-- The frame of a run is one search over all of its steps.
set_option synthInstance.maxSize 100000

set_option autoImplicit false

namespace MigTd.Spdm.AttestWire

open Lib.ByteCodec Lib.StateProgram Migration.Information Migration.ServtdRecord ExchangeWire
  Requester Status Vdm VmcallMessages Context Dispatcher Responder
open Tdx.Module (TdLog)

theorem toUInt32_toNat {n : Nat} (h : n < 2 ^ 32) : n.toUInt32.toNat = n := by
  rw [Nat.toUInt32_eq, UInt32.toNat_ofNat', Nat.mod_eq_of_lt h]

section

variable {elementType : VdmMessageElementType} {content : Octets}

theorem elementFields_flatten : (elementFields elementType content).flatten =
    (VdmMessageElement.encode ⟨elementType, content.length.toUInt32⟩).flatten ++ content := by
  simp [elementFields]

theorem reads_expectElement (size : UInt32)
    (h : VdmMessageElementType.ofU16 elementType.getU16 = elementType) :
    Reads (expectElement elementType) size
      (VdmMessageElement.encode ⟨elementType, size⟩).flatten := by
  have hheader := reads_reading (VdmMessageElement.decodes_read ⟨elementType, size⟩ h)
  rw [← List.append_nil (VdmMessageElement.encode ⟨elementType, size⟩).flatten]
  refine Reads.bind hheader ?_
  intro rest
  rw [if_neg (not_not_intro rfl)]
  rfl

theorem reads_take (hlen : content.length < 2 ^ 32) :
    Reads (reading (take content.length.toUInt32.toNat)) content content := by
  rw [toUInt32_toNat hlen]
  exact reads_reading (decodes_take content)

theorem reads_takeElement (h : VdmMessageElementType.ofU16 elementType.getU16 = elementType)
    (hlen : content.length < 2 ^ 32) :
    Reads (takeElement elementType) content (elementFields elementType content).flatten := by
  rw [elementFields_flatten]
  exact Reads.bind (reads_expectElement _ h) (reads_take hlen)

theorem reads_initTdInfoElement {sized : Bool} (hlen : content.length < 2 ^ 32)
    (hsize : sized = true → content.length = TD_INFO_SIZE) :
    Reads (initTdInfoElement sized) content (elementFields .tdReportInit content).flatten := by
  rw [elementFields_flatten]
  refine Reads.bind (reads_expectElement _ rfl) ?_
  have haccept : ¬(sized = true ∧ content.length.toUInt32.toNat ≠ TD_INFO_SIZE) := by
    rw [toUInt32_toNat hlen]
    exact fun h => h.2 (hsize h.1)
  rw [if_neg haccept]
  exact reads_take hlen

end

def attestBytes (e : AttestElements) : Octets :=
  (elementFields .quoteMy e.evidence).flatten ++ ((elementFields .eventLogMy e.eventLog).flatten ++
    ((elementFields .migPolicyMy e.migPolicyHash).flatten ++
      (elementFields .serVtdExt e.servtdExt).flatten))

structure Short (e : AttestElements) : Prop where
  evidence : e.evidence.length < 2 ^ 32
  eventLog : e.eventLog.length < 2 ^ 32
  migPolicyHash : e.migPolicyHash.length < 2 ^ 32
  servtdExt : e.servtdExt.length < 2 ^ 32

variable {e : AttestElements}

theorem reads_attestElements (short : Short e) :
    Reads (attestElements .quoteMy) e (attestBytes e) := by
  refine Reads.bind (reads_takeElement rfl short.evidence) ?_
  refine Reads.bind (reads_takeElement rfl short.eventLog) ?_
  refine Reads.bind (reads_takeElement rfl short.migPolicyHash) ?_
  exact (reads_takeElement rfl short.servtdExt).last fun servtdExt =>
    (⟨e.evidence, e.eventLog, e.migPolicyHash, servtdExt⟩ : AttestElements)

def attestHeader : VdmMessage :=
  VdmMessage.current .exchangeMigrationAttestInfoReq
    VDM_MESSAGE_EXCHANGE_MIGRATION_ATTEST_INFO_REQ_ELEMENT_COUNT

/-- The responder takes the request apart into these five values. -/
def Splits (sized : Bool) (n : NegotiateInfo) (request : Octets) (e : AttestElements)
    (tdInfo : Octets) : Prop :=
  ∃ elements rest, openRequest n request = .ok (attestHeader, elements) ∧
    attestElements .quoteMy elements = .ok (e, rest) ∧
      initTdInfoElement sized rest = .ok (tdInfo, [])

variable {tdInfo : Octets} {n : NegotiateInfo} {capacity : Nat} {m : VdmMessage}

theorem openRequest_sealRequest {elements request : Octets}
    (hm : VdmMessageOpCode.ofU8 m.opCode.getU8 = m.opCode)
    (hlen : (m.encode.flatten ++ elements).length < 2 ^ 32)
    (h : sealRequest n capacity (m.encode.flatten ++ elements) = .ok request) :
    openRequest n request = .ok (m, elements) := by
  obtain ⟨framed, rfl⟩ := sealRequest_ok h
  have hheader := SpdmMessageHeader.decodes_read
    ⟨n.spdmVersionSel, SPDM_REQUEST_VENDOR_DEFINED_REQUEST⟩
    (VdmPayload.headFields n (VdmPayload.ofVendor (m.encode.flatten ++ elements)) ++
      VdmPayload.tailFields n (VdmPayload.ofVendor (m.encode.flatten ++ elements))).flatten
  have hframe := VdmPayload.decodes_spdmRead framed []
  have hpayload : (VdmPayload.ofVendor (m.encode.flatten ++ elements)).trim.payload.take
      (VdmPayload.ofVendor (m.encode.flatten ++ elements)).trim.length.toNat =
        m.encode.flatten ++ elements := by
    change ((m.encode.flatten ++ elements).take (m.encode.flatten ++ elements).length.toUInt32.toNat
      ).take (m.encode.flatten ++ elements).length.toUInt32.toNat = _
    rw [toUInt32_toNat hlen, List.take_length, List.take_length]
  rw [List.append_nil] at hframe
  unfold openRequest
  rw [enclosed, hheader]
  simp only [ne_eq, not_true_eq_false, ↓reduceIte, hframe, hpayload]
  rw [VdmMessage.decodes_read m hm elements]
  exact if_neg (by rintro (h | h) <;> exact h rfl)

def attestPayload (e : AttestElements) (tdInfo : Octets) : Octets :=
  attestHeader.encode.flatten ++ (attestBytes e ++ (elementFields .tdReportInit tdInfo).flatten)

theorem elementFields_length (elementType : VdmMessageElementType) (content : Octets) :
    content.length ≤ (elementFields elementType content).flatten.length := by
  rw [elementFields_flatten, List.length_append]
  exact Nat.le_add_left _ _

private theorem attestPayload_short
    (h : (attestPayload e tdInfo).length < 2 ^ 32) : Short e ∧ tdInfo.length < 2 ^ 32 := by
  have hquote := elementFields_length .quoteMy e.evidence
  have hlog := elementFields_length .eventLogMy e.eventLog
  have hhash := elementFields_length .migPolicyMy e.migPolicyHash
  have hext := elementFields_length .serVtdExt e.servtdExt
  have hinfo := elementFields_length .tdReportInit tdInfo
  simp only [attestPayload, attestBytes, List.length_append] at h
  exact ⟨⟨by omega, by omega, by omega, by omega⟩, by omega⟩

theorem splits_of_sealed {sized : Bool}
    {request : Octets} (hlen : (attestPayload e tdInfo).length < 2 ^ 32)
    (hsize : sized = true → tdInfo.length = TD_INFO_SIZE)
    (h : sealRequest n capacity (attestPayload e tdInfo) = .ok request) :
    Splits sized n request e tdInfo := by
  obtain ⟨short, hinfo⟩ := attestPayload_short hlen
  have hlast := reads_initTdInfoElement hinfo hsize []
  rw [List.append_nil] at hlast
  exact ⟨_, _, openRequest_sealRequest rfl hlen h, reads_attestElements short _, hlast⟩

def outbox (s : ReqState) : NegotiateInfo × List (Option UInt32 × Octets) :=
  (s.negotiateInfo, s.sent)

section

variable (P : Platform) (sv : Services) (info : MigtdMigrationInformation)

instance (f : (UInt32 → Option SpdmSession) → UInt32 → Option SpdmSession) :
    Keeps (Same outbox) (setSessions f) := keeps_update fun _ => rfl

instance : Keeps (Same outbox) (ownServtdExt P info) :=
  ⟨fun s => by
    rw [ownServtdExt, tdCallsOr, embed_state]
    rfl⟩

end

section

variable {P : Platform} {sv : Services} {lib : SpdmLibrary} {info : MigtdMigrationInformation}

/-- The request is built from these five values, which the requester gathers for its session. -/
structure Gathered (P : Platform) (sv : Services) (info : MigtdMigrationInformation)
    (sessionId : UInt32) (s : ReqState) (built : AttestRequest) (e : AttestElements)
    (tdInfo : Octets) : Prop where
  payload : attestPayload e tdInfo = built.payload
  pubKeys : (s.myPubKey.isSome && s.peerPubKey.isSome) = true
  session : ∃ session, s.sessions sessionId = some session ∧ session.th1 = built.th1
  quote : ∃ reportData, buildReportData REQUESTER_ROLE built.th1 = .ok reportData ∧
    genQuoteSpdm P sv reportData = .ok e.evidence
  verified : (if P.build.policyV2 then some [] else sv.verifyQuote e.evidence) =
    some built.verifiedReportLocal
  eventLog : sv.eventLog = some e.eventLog
  policyHash : localPolicyHash P sv = .ok e.migPolicyHash
  servtdExt : ∃ ext log, readServtdExt P.tdx info.bindingHandle info.targetTdUuid s.log =
    (.ok ext, log) ∧ ext.asBytes = e.servtdExt
  tdInfo : initTdInfo sv P.build.policyV2 info = some tdInfo

/-- Nothing was handed over, or one request, which is taken apart into what was gathered. -/
def Handed (P : Platform) (sv : Services) (info : MigtdMigrationInformation) (sessionId : UInt32)
    (s t : ReqState) : Prop :=
  t.sent = s.sent ∨ ∃ request built e tdInfo, t.sent = s.sent ++ [(none, request)] ∧
    Gathered P sv info sessionId s built e tdInfo ∧
    Splits P.build.policyV2 s.negotiateInfo request e tdInfo

variable {sessionId : UInt32} {peerData request : Octets} {s : ReqState}

theorem attestPeer_sent {payload : Octets} {opCode : VdmMessageOpCode} {count : UInt8}
    {evidenceType : VdmMessageElementType} {verdict : AttestRspElements → Except Refusal Unit}
    (s : ReqState) :
    Post (attestPeer P lib sessionId payload opCode count evidenceType verdict) s fun _ t =>
      match sealRequest s.negotiateInfo P.maxSpdmMsgSize payload with
      | .ok request => t.sent = s.sent ++ [(none, request)]
      | .error _ => t.sent = s.sent := by
  cases hsealed : sealRequest s.negotiateInfo P.maxSpdmMsgSize payload with
  | error e =>
    refine post_bind.mpr (post_bind.mpr (post_observe.mpr ?_))
    exact post_bind_lift.mpr ⟨fun _ h => (by cases hsealed.symm.trans h), fun _ _ => rfl⟩
  | ok request =>
    refine post_bind_of (H := fun _ t => t.sent = s.sent ++ [(none, request)]) ?_ ?_ fun _ _ h => h
    · refine post_bind.mpr (post_observe.mpr ?_)
      refine post_bind_run (lift_ok.mpr ⟨hsealed, rfl⟩) ?_
      refine post_bind.mpr (post_update.mpr (post_bind.mpr (post_update.mpr ?_)))
      refine post_bind_lift.mpr ⟨fun _ _ => ?_, fun _ _ => rfl⟩
      exact post_bind_lift.mpr ⟨fun _ _ => rfl, fun _ _ => rfl⟩
    · intro a u hu
      have hlater : Keeps (Same outbox) (do
          let e ← parse (attestRspElements evidenceType) a.elements
          accept sessionId (verdict e)
          let transcript ← lift (vdmTranscript P a.request a.response)
          setTranscriptBeforeFinish sessionId transcript) := inferInstance
      exact (congrArg Prod.snd (hlater.rel u)).symm.trans hu

theorem initTdInfo_length
    (hown : ∀ bytes, sv.localInitTdInfo = some bytes → bytes.length = TD_INFO_SIZE)
    {policyV2 : Bool} (h : initTdInfo sv policyV2 info = some tdInfo) :
    tdInfo.length = TD_INFO_SIZE := by
  unfold initTdInfo at h
  split at h
  · cases hgiven : info.initTdInfoIfPresent with
    | none =>
      rw [hgiven] at h
      exact hown tdInfo h
    | some given =>
      rw [hgiven] at h
      cases h
      exact given.2
  · exact hown tdInfo h

theorem append_iff {σ : Type} {u v : σ} {status : SpdmStatus} {used out : Octets}
    {fields : List Octets} (hne : fields ≠ []) : append P status used fields u = (.ok out, v) ↔
      out = used ++ fields.flatten ∧ out.length ≤ P.maxVendorDefinedPayloadSize ∧ u = v := by
  rw [append, lift_ok, mapError_ok, write_iff hne, and_assoc]

theorem encode_ne_nil : m.encode ≠ [] := List.cons_ne_nil _ _

theorem elementFields_ne_nil {elementType : VdmMessageElementType} {content : Octets} :
    elementFields elementType content ≠ [] := List.cons_ne_nil _ _

private theorem verifyOwnQuote_iff {quote report : Octets} {t : ReqState} :
    Requester.verifyOwnQuote P sv sessionId quote s = (.ok report, t) ↔
      (if P.build.policyV2 then some [] else sv.verifyQuote quote) = some report ∧ s = t := by
  unfold Requester.verifyOwnQuote
  split_ifs with v2
  · rw [pure_ok, Option.some_inj]
  · cases sv.verifyQuote quote with
    | some own => rw [pure_ok, Option.some_inj]
    | none => simp [Requester.refuseSession, bind_ok, raise_ok]

variable {built : AttestRequest}

theorem migrationAttestRequest_iff :
    (migrationAttestRequest P sv info sessionId s).1 = .ok built ↔ ∃ e tdInfo,
      Gathered P sv info sessionId s built e tdInfo ∧
        built.payload.length ≤ P.maxVendorDefinedPayloadSize := by
  have hrun (run : Except SpdmStatus AttestRequest × ReqState) :
      run.1 = .ok built ↔ ∃ t, run = (.ok built, t) :=
    ⟨fun h => ⟨run.2, Prod.ext h rfl⟩, fun ⟨_, h⟩ => congrArg Prod.fst h⟩
  rw [hrun]
  simp only [migrationAttestRequest, Requester.requirePubKeys, Requester.getSessionViaId,
    ownServtdExt, tdCallsOr, bind_ok, observe_ok, ensure_ok, lift_ok, pure_ok, embed_ok, orElse_ok,
    mapError_ok, verifyOwnQuote_iff, append_iff encode_ne_nil, append_iff elementFields_ne_nil,
    and_assoc, exists_and_left, exists_eq_left, exists_eq_left']
  constructor
  · rintro ⟨hkeys, -, -, -, session, hsession, reportData, hreport, quote, hquote, own, hown, -,
      eventLog, hlog, -, policyHash, hhash, -, ext, _, ⟨log, hread, -⟩, -, tdInfo, hinfo, hfits, rfl, -⟩
    refine ⟨⟨quote, eventLog, policyHash, ext.asBytes⟩, tdInfo, ⟨?_, hkeys, ⟨session, hsession, rfl⟩,
      ⟨reportData, hreport, hquote⟩, hown, hlog, hhash, ⟨ext, log, hread, rfl⟩, hinfo⟩, hfits⟩
    simp [attestPayload, attestBytes, attestHeader]
  · rintro ⟨e, tdInfo, ⟨hpayload, hkeys, ⟨session, hsession, hth1⟩, ⟨reportData, hreport, hquote⟩, hown, hlog,
      hhash, ⟨ext, log, hread, hext⟩, hinfo⟩, hfits⟩
    rw [← hpayload, attestPayload, attestBytes, attestHeader, ← hext] at hfits
    simp only [List.length_append] at hfits
    refine ⟨hkeys, ?_, _, (), session, hsession, reportData, hth1 ▸ hreport, e.evidence, hquote, _,
      hown, ?_, e.eventLog, hlog, ?_, e.migPolicyHash, hhash, ?_, ext, _, ⟨log, hread, rfl⟩, ?_,
      tdInfo, hinfo, ?_, ?_, rfl⟩
    -- what is written so far is no longer than the whole
    iterate 6 · simp only [List.length_append, List.length_nil]; omega
    obtain ⟨_, _, _⟩ := built
    obtain rfl : session.th1 = _ := hth1
    rw [AttestRequest.mk.injEq]
    refine ⟨rfl, rfl, Eq.trans ?_ hpayload⟩
    simp [attestPayload, attestBytes, attestHeader, hext]

instance : Keeps (Same outbox) (migrationAttestRequest P sv info sessionId) := by
  unfold migrationAttestRequest
  infer_instance

theorem attestInfo_handed (hmax : P.maxVendorDefinedPayloadSize < 2 ^ 32)
    (hown : ∀ bytes, sv.localInitTdInfo = some bytes → bytes.length = TD_INFO_SIZE)
    (sessionId : UInt32) (peerData : Octets) (s : ReqState) :
    Post (sendAndReceiveSdmMigrationAttestInfo P sv lib info sessionId peerData) s
      fun _ t => Handed P sv info sessionId s t := by
  refine post_bind_keeps (R := Same outbox) inferInstance ?_ fun _ t _ h =>
    .inl (congrArg Prod.snd h).symm
  intro built t hbuilt hsame
  have hinfo : s.negotiateInfo = t.negotiateInfo := congrArg Prod.fst hsame
  have hsent : s.sent = t.sent := congrArg Prod.snd hsame
  obtain ⟨e, tdInfo, hgathered, hfits⟩ := migrationAttestRequest_iff.mp (congrArg Prod.fst hbuilt)
  refine (attestPeer_sent t).mono fun _ u hu => ?_
  split at hu
  · rename_i request hsealed
    rw [← hgathered.payload, ← hinfo] at hsealed
    rw [← hgathered.payload] at hfits
    exact .inr ⟨request, built, e, tdInfo, hu.trans (by rw [hsent]), hgathered,
      splits_of_sealed (hfits.trans_lt hmax) (fun _ => initTdInfo_length hown hgathered.tdInfo) hsealed⟩
  · exact .inl (hu.trans hsent.symm)

theorem attestInfo_sends (h : Gathered P sv info sessionId s built e tdInfo)
    (hfits : built.payload.length ≤ P.maxVendorDefinedPayloadSize)
    (hsealed : sealRequest s.negotiateInfo P.maxSpdmMsgSize built.payload = .ok request) :
    (sendAndReceiveSdmMigrationAttestInfo P sv lib info sessionId peerData s).2.sent =
      s.sent ++ [(none, request)] := by
  have hbuilt := migrationAttestRequest_iff.mpr ⟨e, tdInfo, h, hfits⟩
  cases hrun : migrationAttestRequest P sv info sessionId s with | mk result t =>
  obtain rfl : result = _ := (congrArg Prod.fst hrun).symm.trans hbuilt
  have hsame : Same outbox s t := Keeps.of_ok inferInstance hrun
  have hinfo : s.negotiateInfo = t.negotiateInfo := congrArg Prod.fst hsame
  have hsent : s.sent = t.sent := congrArg Prod.snd hsame
  rw [hinfo] at hsealed
  rw [hsent]
  refine post_bind_run (Q := fun _ u => u.sent = t.sent ++ [(none, request)]) hrun ?_
  refine (attestPeer_sent t).mono fun _ u hu => ?_
  rwa [hsealed] at hu

end

/-- The frame gives back the header and the message, and nothing behind it is looked at. -/
structure FrameReturned (secured : Bool) (spdmBuffer frame : Octets) : Prop where
  header : ∀ more, VmCallMessageHeader.read (frame ++ more) =
    some (headerOf secured spdmBuffer, spdmBuffer ++ more)
  consumed : (headerOf secured spdmBuffer).frameSize = frame.length
  message : ∀ room more, spdmBuffer.length ≤ room →
    decap room (frame ++ more) = .ok (spdmBuffer, secured)

section

variable {capacity : Nat} {spdmBuffer : Octets} {secured : Bool}

theorem headerOf_length : (headerOf secured spdmBuffer).length =
    spdmBuffer.length.toUInt32 := rfl

theorem frame_length : ((headerOf secured spdmBuffer).encode.flatten ++ spdmBuffer).length =
    VMCALL_SPDM_MESSAGE_HEADER_SIZE + spdmBuffer.length := by
  rw [List.length_append, VmCallMessageHeader.encode_length]

theorem frameReturned_iff :
    FrameReturned secured spdmBuffer ((headerOf secured spdmBuffer).encode.flatten ++ spdmBuffer) ↔
      spdmBuffer.length < 2 ^ 32 := by
  constructor
  · intro h
    have hconsumed := h.consumed
    have hlt := (headerOf secured spdmBuffer).length.toNat_lt
    rw [frame_length, VmCallMessageHeader.frameSize] at hconsumed
    omega
  · intro hlen
    have hread (more : Octets) :
        VmCallMessageHeader.read ((headerOf secured spdmBuffer).encode.flatten ++ spdmBuffer ++ more) =
          some (headerOf secured spdmBuffer, spdmBuffer ++ more) := by
      rw [List.append_assoc]
      exact VmCallMessageHeader.decodes_read rfl _
    refine ⟨hread, ?_, ?_⟩
    · rw [frame_length, VmCallMessageHeader.frameSize, headerOf_length, toUInt32_toNat hlen]
    · intro room more hroom
      have hsize : ((headerOf secured spdmBuffer).encode.flatten ++ spdmBuffer ++ more).length -
          (spdmBuffer ++ more).length = VMCALL_SPDM_MESSAGE_HEADER_SIZE := by
        rw [List.length_append, frame_length, List.length_append]
        omega
      have hdeclared : (headerOf secured spdmBuffer).length.toNat = spdmBuffer.length := by
        rw [headerOf_length, toUInt32_toNat hlen]
      have hbytes : (((headerOf secured spdmBuffer).encode.flatten ++ spdmBuffer ++ more).drop
          VMCALL_SPDM_MESSAGE_HEADER_SIZE).take spdmBuffer.length = spdmBuffer := by
        rw [List.append_assoc, List.drop_left' (VmCallMessageHeader.encode_length _),
          List.take_left]
      have htype : decide ((headerOf secured spdmBuffer).msgType = .securedSpdmMessage) =
          secured := by
        cases secured <;> rfl
      unfold decap
      rw [hread more]
      refine except_bind_ok.mpr ⟨_, rfl, ?_⟩
      dsimp only
      rw [hsize, hdeclared, hbytes, htype]
      refine except_bind_ok.mpr ⟨(), require_ok.mpr ?_, ?_⟩
      · rw [List.length_append, frame_length]
        omega
      · exact except_bind_ok.mpr ⟨(), require_ok.mpr hroom, rfl⟩

end

/-- Vendor-defined payloads are read back as they were encoded, the requests of an attestation are
split into the values that they were built from and are sent whenever these fit the buffers, and a
frame gives its message back exactly when the message is shorter than 4 GiB. -/
theorem vdm_codec (P : Platform) (sv : Services) (lib : SpdmLibrary)
    (info : MigtdMigrationInformation) (hmax : P.maxVendorDefinedPayloadSize < 2 ^ 32)
    (hown : ∀ bytes, sv.localInitTdInfo = some bytes → bytes.length = TD_INFO_SIZE) :
    (∀ (n : NegotiateInfo) (p : VdmPayload) (capacity : Nat) (used out : Octets),
      p.spdmEncode n capacity used = .ok out →
        ∃ bytes, out = used ++ bytes ∧ Decodes (VdmPayload.spdmRead n) p.trim bytes) ∧
    (∀ (sessionId : UInt32) (peerData : Octets) (s : ReqState),
      Handed P sv info sessionId s
          (sendAndReceiveSdmMigrationAttestInfo P sv lib info sessionId peerData s).2 ∧
        ∀ built e tdInfo request, Gathered P sv info sessionId s built e tdInfo →
          built.payload.length ≤ P.maxVendorDefinedPayloadSize →
          sealRequest s.negotiateInfo P.maxSpdmMsgSize built.payload = .ok request →
            (sendAndReceiveSdmMigrationAttestInfo P sv lib info sessionId peerData s).2.sent =
              s.sent ++ [(none, request)]) ∧
    ∀ (capacity : Nat) (spdmBuffer : Octets) (secured : Bool) (frame : Octets),
      encap capacity spdmBuffer secured = .ok frame →
        (FrameReturned secured spdmBuffer frame ↔ spdmBuffer.length < 2 ^ 32) := by
  refine ⟨?_, ?_, ?_⟩
  · intro n p capacity used out h
    obtain ⟨framed, hout⟩ := VdmPayload.spdmEncode_ok h
    exact ⟨_, hout, VdmPayload.decodes_spdmRead framed⟩
  · intro sessionId peerData s
    refine ⟨attestInfo_handed hmax hown sessionId peerData s, ?_⟩
    intro built e tdInfo request hgathered hfits hsealed
    exact attestInfo_sends hgathered hfits hsealed
  · intro capacity spdmBuffer secured frame hframe
    rw [encap_ok hframe]
    exact frameReturned_iff

theorem sealRequest_of_fits {n : NegotiateInfo} {capacity : Nat} {payload : Octets}
    (framed : VdmPayload.Framed n (VdmPayload.ofVendor payload))
    (h : (enclosed ⟨n.spdmVersionSel, SPDM_REQUEST_VENDOR_DEFINED_REQUEST⟩ n payload).length ≤
      capacity) :
    ∃ request, sealRequest n capacity payload = .ok request := by
  simp only [enclosed, List.length_append, List.flatten_append] at h
  have hstart : write capacity [] (SpdmMessageHeader.encode
      ⟨n.spdmVersionSel, SPDM_REQUEST_VENDOR_DEFINED_REQUEST⟩) = .ok _ :=
    write_of_fits (by rw [List.length_nil]; omega)
  have hencode : ∃ request, (VdmPayload.ofVendor payload).spdmEncode n capacity
      ([] ++ (SpdmMessageHeader.encode
        ⟨n.spdmVersionSel, SPDM_REQUEST_VENDOR_DEFINED_REQUEST⟩).flatten) = .ok request := by
    unfold VdmPayload.spdmEncode
    rw [write_of_fits (by rw [List.nil_append]; omega)]
    dsimp only
    rw [if_neg, write_of_fits (by rw [List.nil_append, List.length_append]; omega)]
    · exact ⟨_, rfl⟩
    · rintro (hshort | ⟨hsmall, hlarge⟩)
      · exact absurd framed.1 (Nat.not_le_of_lt hshort)
      · exact framed.2.elim hsmall fun hle => absurd hle (Nat.not_le_of_lt hlarge)
  obtain ⟨request, hrequest⟩ := hencode
  exact ⟨request, except_bind_ok.mpr ⟨_, mapError_ok.mpr hstart, mapError_ok.mpr hrequest⟩⟩

/-- A library over which every vendor-defined request is sent and none is answered. -/
def silentLibrary : SpdmLibrary where
  version := .ok ()
  capability := .ok ()
  algorithm := .ok Reference.negotiated
  keyExchange := .ok (7, Reference.th1Of 1)
  vendorRequest := fun _ _ => .error SpdmStatus.SPDM_STATUS_RECEIVE_FAIL
  sessionsAfter := fun _ sessions => sessions
  finish := fun _ => .ok ()
  endSession := fun _ => .ok ()

/-- A requester whose session 7 is in its handshake. -/
def handshaking : ReqState where
  negotiateInfo := Reference.negotiated
  sessions := fun sid => if sid = 7 then some ⟨.handshaking, Reference.th1Of 1, none⟩ else none
  myPubKey := some [1, 2, 3]
  peerPubKey := some [4, 5, 6]
  vdmMessageTranscriptBeforeKeyExchange := none
  appContextDataBuffer := []
  log := []
  sent := []

theorem handshaking_gathered : ∃ built e tdInfo,
    Gathered Reference.platform Reference.services .default 7 handshaking built e tdInfo ∧
      built.payload.length ≤ 4096 ∧
      ∃ request, sealRequest Reference.negotiated 8192 built.payload = .ok request := by
  obtain ⟨built, hrun⟩ := exists_ok_of_isOk (x := (migrationAttestRequest Reference.platform
    Reference.services .default 7 handshaking).1) (by decide +kernel)
  obtain ⟨e, tdInfo, hgathered, hfits⟩ := migrationAttestRequest_iff.mp hrun
  have hlength : (VdmPayload.ofVendor built.payload).length.toNat ≤ built.payload.length :=
    Nat.mod_le _ _
  have hshort : built.payload.length ≤ 4096 := hfits
  refine ⟨built, e, tdInfo, hgathered, hfits, sealRequest_of_fits ⟨hlength, .inr (by omega)⟩ ?_⟩
  simp [enclosed, SpdmMessageHeader.encode, VdmPayload.headFields, VdmPayload.tailFields,
    VdmPayload.ofVendor, VDM_MESSAGE_VENDOR_ID, Reference.negotiated, NegotiateInfo.largePayload,
    putU8, putU16, leBytes]
  omega

theorem vdm_codec_reference :
    (∃ request built e tdInfo, (sendAndReceiveSdmMigrationAttestInfo Reference.platform Reference.services
        silentLibrary .default 7 [8] handshaking).2.sent = [(none, request)] ∧
      Gathered Reference.platform Reference.services .default 7 handshaking built e tdInfo ∧
      Splits true Reference.negotiated request e tdInfo) ∧
    ∃ frame, encap 64 [0x10, 0x84, 0, 0] true = .ok frame ∧
      FrameReturned true [0x10, 0x84, 0, 0] frame := by
  have hown : ∀ bytes, Reference.services.localInitTdInfo = some bytes →
      bytes.length = TD_INFO_SIZE := by
    intro bytes h
    cases h
    exact List.length_replicate
  obtain ⟨-, hattest, hframe⟩ := vdm_codec Reference.platform Reference.services silentLibrary
    .default (by decide) hown
  refine ⟨?_, _, rfl, (hframe 64 [0x10, 0x84, 0, 0] true _ rfl).mpr (by decide)⟩
  obtain ⟨built, e, tdInfo, hgathered, hfits, request, hsealed⟩ := handshaking_gathered
  obtain ⟨hhanded, hsends⟩ := hattest 7 [8] handshaking
  have hsent := hsends built e tdInfo request hgathered hfits hsealed
  rcases hhanded with hnone | hsome
  · rw [hnone] at hsent
    cases hsent
  · exact hsome

end MigTd.Spdm.AttestWire
