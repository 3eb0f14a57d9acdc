/- source: spdm/mod.rs, spdm_rsp.rs, quote.rs
   digest: SPDM sessions, the responder context, its serialized application data, TH1 bindings. -/

import MigTd.Spdm.Vdm

set_option autoImplicit false

namespace MigTd.Spdm.Context

open Lib.ByteCodec Lib.StateProgram Migration.Information Migration.ServtdRecord Status
  Status.SpdmStatus Vdm Tdx.Module

/-- The parameters of a build on one platform: features, the digest of the crypto library, the
TDX module and the buffer sizes of the SPDM library. -/
structure Platform where
  build : Build
  sha384 : Octets → Octets
  tdx : TdxModule
  maxVendorDefinedPayloadSize : Nat
  managedVdmBufferSize : Nat
  maxCertChainDataSize : Nat
  maxSpdmMsgSize : Nat

def SPDM_MAX_HASH_SIZE : Nat := 64

structure SpdmDigestStruct where
  dataSize : UInt16
  data : Bytes SPDM_MAX_HASH_SIZE
  deriving DecidableEq

/-- The ASCII bytes of `MigTDReq`. -/
def REQUESTER_ROLE : Octets := [0x4D, 0x69, 0x67, 0x54, 0x44, 0x52, 0x65, 0x71]

/-- The ASCII bytes of `MigTDRsp`. -/
def RESPONDER_ROLE : Octets := [0x4D, 0x69, 0x67, 0x54, 0x44, 0x52, 0x73, 0x70]

/-- `build_report_data`: the role in front of the bytes in use of TH1. -/
abbrev buildReportData (role : Octets) (th1 : SpdmDigestStruct) :
    Except SpdmStatus Octets :=
  if SPDM_MAX_HASH_SIZE < th1.dataSize.toNat then .error SPDM_STATUS_BUFFER_FULL
  else .ok (role ++ th1.data.1.take th1.dataSize.toNat)

def REPORT_DATA_OFFSET : Nat := 520
def REPORT_DATA_SIZE : Nat := 48

/-- The digest part of REPORTDATA in the data that quote verification returns. -/
def quoteReportData (supplementalData : Octets) : Octets :=
  (supplementalData.drop REPORT_DATA_OFFSET).take REPORT_DATA_SIZE

def TD_REPORT_SIZE : Nat := 1024
def TD_REPORT_DATA_OFFSET : Nat := 128

/-- The digest part of `report_mac.report_data` of a TDREPORT. -/
def tdreportReportData (tdreport : Octets) : Octets :=
  (tdreport.drop TD_REPORT_DATA_OFFSET).take REPORT_DATA_SIZE

section

variable (sha384 : Octets → Octets)

def sessionDigest (data : Octets) : Except MigrationResult Octets :=
  match digestSha384 sha384 data with
  | .ok d => .ok d
  | .error _ => .error .secureSessionError

def verifyPeerReportData (supplementalData expectedReportData : Octets) :
    Except MigrationResult Unit := do
  if supplementalData.length < REPORT_DATA_OFFSET + REPORT_DATA_SIZE then
    .error .invalidParameter
  else do
    let hash ← sessionDigest sha384 expectedReportData
    if quoteReportData supplementalData ≠ hash then .error .invalidParameter else .ok ()

def verifyReportDataBinding (supplementalData peerRole : Octets) (th1 : SpdmDigestStruct) :
    Except MigrationResult Unit :=
  match buildReportData peerRole th1 with
  | .error _ => .error .invalidParameter
  | .ok reportData => verifyPeerReportData sha384 supplementalData reportData

def verifyTdreportDataBinding (tdreportBytes peerRole : Octets) (th1 : SpdmDigestStruct) :
    Except MigrationResult Unit :=
  if tdreportBytes.length < TD_REPORT_SIZE then .error .invalidParameter
  else match buildReportData peerRole th1 with
    | .error _ => .error .invalidParameter
    | .ok expected => do
      let expectedHash ← sessionDigest sha384 expected
      if tdreportReportData tdreportBytes ≠ expectedHash then .error .invalidParameter else .ok ()

end

/-- REPORTDATA carries the digest of the role and of this session's TH1. -/
def BindsTh1 (sha384 : Octets → Octets) (reportData role : Octets)
    (th1 : SpdmDigestStruct) : Prop :=
  reportData = sha384 (role ++ th1.data.1.take th1.dataSize.toNat)

/-- The digests of a request and its response, as the transcript hooks of the library expect
them. -/
abbrev vdmTranscript (P : Platform) (reqBytes rspBytes : Octets) :
    Except SpdmStatus Octets := do
  let src ← Except.mapError (fun _ => SPDM_STATUS_CRYPTO_ERROR) (digestSha384 P.sha384 reqBytes)
  let dst ← Except.mapError (fun _ => SPDM_STATUS_CRYPTO_ERROR) (digestSha384 P.sha384 rspBytes)
  if P.managedVdmBufferSize < src.length + dst.length then .error SPDM_STATUS_BUFFER_FULL
  else .ok (src ++ dst)

inductive SpdmSessionState where
  | notStarted
  | handshaking
  | established
  deriving DecidableEq, Repr

structure SpdmSession where
  state : SpdmSessionState
  th1 : SpdmDigestStruct
  vdmMessageTranscriptBeforeFinish : Option Octets
  deriving DecidableEq

def SpdmSession.marked (s : SpdmSession) : Bool := s.vdmMessageTranscriptBeforeFinish.isSome

def ECDSA_P384_SHA384_PRIVATE_KEY_LENGTH : Nat := 0xb9

/-- `PrivateKeyDer`; the conversion from a slice asserts the bound. -/
abbrev PrivateKeyDer := {bs : Octets // bs.length ≤ ECDSA_P384_SHA384_PRIVATE_KEY_LENGTH}

def PrivateKeyDer.default : PrivateKeyDer := ⟨[], Nat.zero_le _⟩

structure SpdmAppContextData where
  migrationInfo : MigtdMigrationInformation
  privateKey : PrivateKeyDer

namespace SpdmAppContextData

variable (b : Build)

def infoFields (i : MigtdMigrationInformation) : List Octets :=
  [putU64 i.migRequestId, putU8 i.migrationSource] ++ i.targetTdUuid.1.map putU64 ++
    [putU64 i.bindingHandle] ++
    if b.vmcallRaw then [] else [putU64 i.migPolicyId, putU64 i.communicationId]

def encode (d : SpdmAppContextData) : List Octets :=
  infoFields b d.migrationInfo ++
    (putU16 d.privateKey.1.length.toUInt16 :: VdmPayload.eachByte d.privateKey.1)

def readInfo : Decoder MigtdMigrationInformation := do
  let migRequestId ← u64
  let migrationSource ← u8
  let targetTdUuid ← wordArray 4
  let bindingHandle ← u64
  let d := MigtdMigrationInformation.default
  if b.vmcallRaw then
    return { d with migRequestId, migrationSource, targetTdUuid, bindingHandle }
  else do
    let migPolicyId ← u64
    let communicationId ← u64
    return { d with
      migRequestId, migrationSource, targetTdUuid, bindingHandle, migPolicyId, communicationId }

def readKey : Decoder PrivateKeyDer := do
  let dataSize ← u16
  if h : dataSize.toNat ≤ ECDSA_P384_SHA384_PRIVATE_KEY_LENGTH then do
    let data ← array dataSize.toNat
    return ⟨data.1, by rw [data.2]; exact h⟩
  else fun _ => none

def read : Decoder SpdmAppContextData := do
  let migrationInfo ← readInfo b
  let privateKey ← readKey
  return { migrationInfo, privateKey }

/-- The part of the information that survives the serialized form. -/
def carried (i : MigtdMigrationInformation) : MigtdMigrationInformation :=
  { i with
    hasInitData := 0
    initTdInfo := Bytes.zero TD_INFO_SIZE
    migPolicyId := if b.vmcallRaw then 0 else i.migPolicyId
    communicationId := if b.vmcallRaw then 0 else i.communicationId }

@[simp] theorem carried_bindingHandle (i : MigtdMigrationInformation) :
    (carried b i).bindingHandle = i.bindingHandle := rfl

@[simp] theorem carried_targetTdUuid (i : MigtdMigrationInformation) :
    (carried b i).targetTdUuid = i.targetTdUuid := rfl

private theorem flatten_infoFields (i : MigtdMigrationInformation) :
    (infoFields b i).flatten = putU64 i.migRequestId ++ (putU8 i.migrationSource ++
      (putWords i.targetTdUuid.1 ++ (putU64 i.bindingHandle ++
        if b.vmcallRaw then [] else putU64 i.migPolicyId ++ putU64 i.communicationId))) := by
  cases hb : b.vmcallRaw <;> simp [infoFields, putWords, List.flatMap_def, hb]

theorem decodes_readInfo (i : MigtdMigrationInformation) :
    Decodes (readInfo b) (carried b i) (infoFields b i).flatten := by
  rw [flatten_infoFields]
  refine Decodes.bind (decodes_u64 i.migRequestId) ?_
  refine Decodes.bind (decodes_u8 i.migrationSource) ?_
  refine Decodes.bind (decodes_wordArray i.targetTdUuid) ?_
  unfold carried
  cases hb : b.vmcallRaw with
  | true =>
    simp only [↓reduceIte, List.append_nil]
    exact (decodes_u64 i.bindingHandle).last fun bindingHandle =>
      { MigtdMigrationInformation.default with
        migRequestId := i.migRequestId
        migrationSource := i.migrationSource
        targetTdUuid := i.targetTdUuid
        bindingHandle }
  | false =>
    simp only [Bool.false_eq_true, ↓reduceIte]
    refine Decodes.bind (decodes_u64 i.bindingHandle) ?_
    refine Decodes.bind (decodes_u64 i.migPolicyId) ?_
    exact (decodes_u64 i.communicationId).last fun communicationId =>
      { i with hasInitData := 0, initTdInfo := Bytes.zero TD_INFO_SIZE, communicationId }

/-- The buffer starts with the serialized information of this run. -/
def Holds (i : MigtdMigrationInformation) (buffer : Octets) : Prop :=
  (infoFields b i).flatten <+: buffer

variable {d : SpdmAppContextData} {i : MigtdMigrationInformation}

theorem Holds.read {buffer rest : Octets}
    (h : Holds b i buffer) (hr : read b buffer = some (d, rest)) :
    d.migrationInfo = carried b i := by
  obtain ⟨tail, rfl⟩ := h
  obtain ⟨info, r, hi, hk⟩ := decoder_bind.mp hr
  obtain ⟨key, r', -, hp⟩ := decoder_bind.mp hk
  rw [decodes_readInfo b i tail] at hi
  have hinfo : carried b i = info := congrArg Prod.fst (Option.some.inj hi)
  have hd : d.migrationInfo = info := by
    cases hp
    rfl
  rw [hd, hinfo]

private theorem infoFields_carried (i : MigtdMigrationInformation) :
    infoFields b (carried b i) = infoFields b i := by
  unfold infoFields carried
  cases hb : b.vmcallRaw <;> rfl

theorem Holds.store {buffer : Octets}
    (h : Holds b i buffer) (hd : d.migrationInfo = carried b i) :
    Holds b i (overwrite buffer (d.encode b)).2 := by
  have hlen : (infoFields b i).flatten.length ≤ buffer.length := h.length_le
  unfold Holds encode
  rw [hd, infoFields_carried]
  exact overwrite_leads hlen

theorem holds_of_overwrite {buffer out : Octets}
    (h : overwrite buffer (d.encode b) = (true, out)) :
    Holds b d.migrationInfo out := by
  unfold overwrite at h
  split at h
  · rename_i o ho
    cases h
    rw [write_ok ho, List.nil_append]
    unfold Holds encode
    rw [List.flatten_append, List.append_assoc]
    exact List.prefix_append _ _
  · cases h

end SpdmAppContextData

/-- `ResponderContextExInfo`: which flow the responder was started for. -/
inductive ResponderContextExInfo where
  | migrationInformation (info : MigtdMigrationInformation)
  | rebindInformation (info : MigtdMigrationInformation)
  | none
  deriving DecidableEq

namespace ResponderContextExInfo

def isMigration : ResponderContextExInfo → Bool
  | migrationInformation _ => true
  | _ => false

def isRebind : ResponderContextExInfo → Bool
  | rebindInformation _ => true
  | _ => false

end ResponderContextExInfo

/-- `ResponderContextEx` with the parts of the library's context that the handlers use. -/
structure ResponderContextEx where
  negotiateInfo : NegotiateInfo
  connectionState : UInt8
  sessions : UInt32 → Option SpdmSession
  lastSessionId : Option UInt32
  myPubKey : Option Octets
  peerPubKey : Option Octets
  vdmMessageTranscriptBeforeKeyExchange : Option Octets
  appContextDataBuffer : Octets
  peerData : Octets
  info : ResponderContextExInfo
  migInfoExchanged : Bool
  servtdExt : Option ServtdExt

/-- The context together with the TDCALLs issued so far. -/
structure RspState extends ResponderContextEx where
  log : TdLog

abbrev RspProgram := Program RspState SpdmStatus

def tdCalls {α : Type} (m : TdProgram α) : RspProgram α :=
  embed RspState.log (fun s log => { s with log }) ofMigrationResult m

abbrev getSessionViaId (sessionId : UInt32) : RspProgram SpdmSession := do
  let session ← observe fun s => s.sessions sessionId
  lift (orElse session SPDM_STATUS_INVALID_STATE_LOCAL)

def teardown (sessionId : UInt32) : RspProgram Unit :=
  update fun s => { s with sessions := Function.update s.sessions sessionId none }

abbrev refuseSession {α : Type} (sessionId : UInt32) (status : SpdmStatus) : RspProgram α := do
  let _ ← getSessionViaId sessionId
  teardown sessionId
  raise status

end MigTd.Spdm.Context
