/- source: spdm_vdm.rs
   digest: Vendor-defined messages on the wire: headers, elements, payload frames and readers. -/

import MigTd.Migration.MskExchange
import MigTd.Spdm.Status

set_option autoImplicit false

namespace MigTd.Spdm.Vdm

open Lib.ByteCodec Migration.MskExchange Status Status.SpdmStatus Lib.StateProgram

def VDM_MESSAGE_VENDOR_ID : Octets := [0x57, 0x1, 0x0, 0x0]
def VDM_MESSAGE_MAJOR_VERSION : UInt8 := 0
def VDM_MESSAGE_MINOR_VERSION : UInt8 := 0
def VDM_MESSAGE_EXCHANGE_PUB_KEY_REQ_ELEMENT_COUNT : UInt8 := 1
def VDM_MESSAGE_EXCHANGE_PUB_KEY_RSP_ELEMENT_COUNT : UInt8 := 1
def VDM_MESSAGE_EXCHANGE_MIGRATION_ATTEST_INFO_REQ_ELEMENT_COUNT : UInt8 := 5
def VDM_MESSAGE_EXCHANGE_MIGRATION_ATTEST_INFO_RSP_ELEMENT_COUNT : UInt8 := 3
def VDM_MESSAGE_EXCHANGE_MIGRATION_INFO_REQ_ELEMENT_COUNT : UInt8 := 2
def VDM_MESSAGE_EXCHANGE_MIGRATION_INFO_RSP_ELEMENT_COUNT : UInt8 := 2
def VDM_MESSAGE_EXCHANGE_REBIND_ATTEST_INFO_REQ_WITH_HISTORY_INFO_ELEMENT_COUNT : UInt8 := 5
def VDM_MESSAGE_EXCHANGE_REBIND_ATTEST_INFO_RSP_ELEMENT_COUNT : UInt8 := 3
def VDM_MESSAGE_EXCHANGE_REBIND_INFO_ELEMENT_REQ_COUNT : UInt8 := 1
def VDM_MESSAGE_EXCHANGE_REBIND_INFO_ELEMENT_RSP_COUNT : UInt8 := 0
def VDM_MESSAGE_MIGRATION_EXPORT_VERSION_SIZE : UInt32 := 4
def VDM_MESSAGE_FORWARD_MIGRATION_SESSION_KEY_SIZE : UInt32 := 32
def VDM_MESSAGE_MIGRATION_IMPORT_VERSION_SIZE : UInt32 := 4
def VDM_MESSAGE_BACKWARD_MIGRATION_SESSION_KEY_SIZE : UInt32 := 32
def VDM_MESSAGE_REBIND_SESSION_TOKEN_SIZE : UInt32 := 32

inductive VdmMessageOpCode where
  | opCodeUnknown
  | exchangePubKeyReq
  | exchangePubKeyRsp
  | exchangeMigrationAttestInfoReq
  | exchangeMigrationAttestInfoRsp
  | exchangeMigrationInfoReq
  | exchangeMigrationInfoRsp
  | exchangeRebindAttestInfoReq
  | exchangeRebindAttestInfoRsp
  | exchangeRebindInfoReq
  | exchangeRebindInfoRsp
  | unknown (value : UInt8)
  deriving DecidableEq, Repr

namespace VdmMessageOpCode

def getU8 : VdmMessageOpCode → UInt8
  | opCodeUnknown => 0x00
  | exchangePubKeyReq => 0x01
  | exchangePubKeyRsp => 0x02
  | exchangeMigrationAttestInfoReq => 0x03
  | exchangeMigrationAttestInfoRsp => 0x04
  | exchangeMigrationInfoReq => 0x05
  | exchangeMigrationInfoRsp => 0x06
  | exchangeRebindAttestInfoReq => 0x07
  | exchangeRebindAttestInfoRsp => 0x08
  | exchangeRebindInfoReq => 0x09
  | exchangeRebindInfoRsp => 0x0A
  | unknown value => value

def ofU8 (value : UInt8) : VdmMessageOpCode :=
  match value with
  | 0x00 => opCodeUnknown
  | 0x01 => exchangePubKeyReq
  | 0x02 => exchangePubKeyRsp
  | 0x03 => exchangeMigrationAttestInfoReq
  | 0x04 => exchangeMigrationAttestInfoRsp
  | 0x05 => exchangeMigrationInfoReq
  | 0x06 => exchangeMigrationInfoRsp
  | 0x07 => exchangeRebindAttestInfoReq
  | 0x08 => exchangeRebindAttestInfoRsp
  | 0x09 => exchangeRebindInfoReq
  | 0x0A => exchangeRebindInfoRsp
  | value => unknown value

/-- The two requests whose success marks a session as attested. -/
def isAttest : VdmMessageOpCode → Bool
  | exchangeMigrationAttestInfoReq => true
  | exchangeRebindAttestInfoReq => true
  | _ => false

/-- The two requests that carry the secret of a flow. -/
def isInfo : VdmMessageOpCode → Bool
  | exchangeMigrationInfoReq => true
  | exchangeRebindInfoReq => true
  | _ => false

end VdmMessageOpCode

inductive VdmMessageElementType where
  | elementUnknown
  | pubKeyMy
  | tdReportMy
  | quoteMy
  | eventLogMy
  | migPolicyMy
  | serVtdExt
  | tdReportInit
  | eventLogInit
  | migrationExportVersion
  | migrationImportVersion
  | forwardMigrationSessionKey
  | backwardMigrationSessionKey
  | rebindSessionToken
  | unknown (value : UInt16)
  deriving DecidableEq, Repr

namespace VdmMessageElementType

def getU16 : VdmMessageElementType → UInt16
  | elementUnknown => 0x00
  | pubKeyMy => 0x01
  | tdReportMy => 0x02
  | quoteMy => 0x03
  | eventLogMy => 0x04
  | migPolicyMy => 0x05
  | serVtdExt => 0x10
  | tdReportInit => 0x12
  | eventLogInit => 0x14
  | migrationExportVersion => 0x81
  | migrationImportVersion => 0x82
  | forwardMigrationSessionKey => 0x83
  | backwardMigrationSessionKey => 0x84
  | rebindSessionToken => 0x85
  | unknown value => value

def ofU16 (value : UInt16) : VdmMessageElementType :=
  match value with
  | 0x00 => elementUnknown
  | 0x01 => pubKeyMy
  | 0x02 => tdReportMy
  | 0x03 => quoteMy
  | 0x04 => eventLogMy
  | 0x05 => migPolicyMy
  | 0x10 => serVtdExt
  | 0x12 => tdReportInit
  | 0x14 => eventLogInit
  | 0x81 => migrationExportVersion
  | 0x82 => migrationImportVersion
  | 0x83 => forwardMigrationSessionKey
  | 0x84 => backwardMigrationSessionKey
  | 0x85 => rebindSessionToken
  | value => unknown value

end VdmMessageElementType

structure VdmMessage where
  majorVersion : UInt8
  minorVersion : UInt8
  opCode : VdmMessageOpCode
  elementCount : UInt8
  deriving DecidableEq, Repr

namespace VdmMessage

def encode (m : VdmMessage) : List Octets :=
  [putU8 m.majorVersion, putU8 m.minorVersion, putU8 m.opCode.getU8, putU8 m.elementCount]

def read : Decoder VdmMessage := do
  let majorVersion ← u8
  let minorVersion ← u8
  let opCode ← u8
  let elementCount ← u8
  return { majorVersion, minorVersion, opCode := .ofU8 opCode, elementCount }

def current (opCode : VdmMessageOpCode) (elementCount : UInt8) : VdmMessage :=
  ⟨VDM_MESSAGE_MAJOR_VERSION, VDM_MESSAGE_MINOR_VERSION, opCode, elementCount⟩

/-- The header checks that every handler makes, each with the same refusal. -/
abbrev check (m : VdmMessage) (opCode : VdmMessageOpCode) (elementCount : UInt8) :
    Except SpdmStatus Unit :=
  if m.majorVersion ≠ VDM_MESSAGE_MAJOR_VERSION then .error SPDM_STATUS_INVALID_MSG_FIELD
  else if m.minorVersion ≠ VDM_MESSAGE_MINOR_VERSION then .error SPDM_STATUS_INVALID_MSG_FIELD
  else if m.opCode ≠ opCode then .error SPDM_STATUS_INVALID_MSG_FIELD
  else if m.elementCount ≠ elementCount then .error SPDM_STATUS_INVALID_MSG_FIELD
  else .ok ()

theorem decodes_read (m : VdmMessage) (h : VdmMessageOpCode.ofU8 m.opCode.getU8 = m.opCode) :
    Decodes read m m.encode.flatten := by
  have hl := (decodes_u8 m.elementCount).last fun count =>
    (⟨m.majorVersion, m.minorVersion, .ofU8 m.opCode.getU8, count⟩ : VdmMessage)
  rw [h] at hl
  have he : m.encode.flatten = putU8 m.majorVersion ++ (putU8 m.minorVersion ++
      (putU8 m.opCode.getU8 ++ putU8 m.elementCount)) := by
    simp [encode]
  rw [he]
  refine Decodes.bind (decodes_u8 m.majorVersion) ?_
  refine Decodes.bind (decodes_u8 m.minorVersion) ?_
  refine Decodes.bind (decodes_u8 m.opCode.getU8) ?_
  rw [h]
  exact hl

end VdmMessage

structure VdmMessageElement where
  elementType : VdmMessageElementType
  length : UInt32
  deriving DecidableEq, Repr

namespace VdmMessageElement

def encode (e : VdmMessageElement) : List Octets :=
  [putU16 e.elementType.getU16, putU32 e.length]

def read : Decoder VdmMessageElement := do
  let elementType ← u16
  let length ← u32
  return { elementType := .ofU16 elementType, length }

theorem decodes_read (e : VdmMessageElement)
    (h : VdmMessageElementType.ofU16 e.elementType.getU16 = e.elementType) :
    Decodes read e e.encode.flatten := by
  have hl := (decodes_u32 e.length).last fun length =>
    (⟨.ofU16 e.elementType.getU16, length⟩ : VdmMessageElement)
  have he : e.encode.flatten = putU16 e.elementType.getU16 ++ putU32 e.length := by
    simp [encode]
  rw [he]
  refine Decodes.bind (decodes_u16 e.elementType.getU16) ?_
  rw [h] at hl ⊢
  exact hl

end VdmMessageElement

def elementFields (elementType : VdmMessageElementType) (content : Octets) :
    List Octets :=
  VdmMessageElement.encode ⟨elementType, content.length.toUInt32⟩ ++ [content]

abbrev ElementReader (α : Type) : Type := StateT Octets (Except SpdmStatus) α

def refuse {α : Type} (e : SpdmStatus) : ElementReader α := fun _ => .error e

/-- A plain reader; running out of bytes is a size error. -/
def reading {α : Type} (d : Decoder α) : ElementReader α := fun r =>
  orElse (d r) SPDM_STATUS_INVALID_MSG_SIZE

/-- The header of an element that must be of the given type. -/
abbrev expectElement (elementType : VdmMessageElementType) : ElementReader UInt32 := do
  let element ← reading VdmMessageElement.read
  if element.elementType ≠ elementType then refuse SPDM_STATUS_INVALID_MSG_FIELD
  else return element.length

/-- An element of the given type with whatever content it declares. -/
abbrev takeElement (elementType : VdmMessageElementType) : ElementReader Octets := do
  let length ← expectElement elementType
  reading (take length.toNat)

/-- The header of an element of the given type and size; both mismatches are field errors. -/
abbrev expectSized (elementType : VdmMessageElementType) (size : UInt32) : ElementReader Unit := do
  let element ← reading VdmMessageElement.read
  if element.elementType ≠ elementType ∨ element.length ≠ size then
    refuse SPDM_STATUS_INVALID_MSG_FIELD
  else return ()

/-- The versions and the key of an exchange message, in either direction. -/
abbrev exchangeElements (versionType : VdmMessageElementType) (versionSize : UInt32)
    (keyType : VdmMessageElementType) (keySize : UInt32) : ElementReader ExchangeInformation := do
  expectSized versionType versionSize
  let minVer ← reading u16
  let maxVer ← reading u16
  expectSized keyType keySize
  let key ← reading (wordArray 4)
  return { key, minVer, maxVer, reserved := Bytes.zero 4 }

def migInfoReqElements : ElementReader ExchangeInformation :=
  exchangeElements .migrationExportVersion VDM_MESSAGE_MIGRATION_EXPORT_VERSION_SIZE
    .forwardMigrationSessionKey VDM_MESSAGE_FORWARD_MIGRATION_SESSION_KEY_SIZE

abbrev migInfoRspElements : ElementReader ExchangeInformation :=
  exchangeElements .migrationImportVersion VDM_MESSAGE_MIGRATION_IMPORT_VERSION_SIZE
    .backwardMigrationSessionKey VDM_MESSAGE_BACKWARD_MIGRATION_SESSION_KEY_SIZE

/-! The frame that carries a vendor-defined payload. -/

/-- The negotiated parameters that decide the frame format. -/
structure NegotiateInfo where
  spdmVersionSel : UInt8
  rspLargeRespCap : Bool
  reqLargeRespCap : Bool
  deriving DecidableEq, Repr

def SPDM_VERSION_14 : UInt8 := 0x14

def NegotiateInfo.largePayload (n : NegotiateInfo) : Bool :=
  SPDM_VERSION_14 ≤ n.spdmVersionSel && n.rspLargeRespCap && n.reqLargeRespCap

def USE_LARGE_PAYLOAD : UInt8 := 0x01
def STANDARD_ID_IANA : UInt16 := 0x04
def SPDM_REQUEST_VENDOR_DEFINED_REQUEST : UInt8 := 0xFE
def SPDM_RESPONSE_VENDOR_DEFINED_RESPONSE : UInt8 := 0x7E

structure SpdmMessageHeader where
  version : UInt8
  requestResponseCode : UInt8
  deriving DecidableEq, Repr

namespace SpdmMessageHeader

def encode (h : SpdmMessageHeader) : List Octets :=
  [putU8 h.version, putU8 h.requestResponseCode]

def read : Decoder SpdmMessageHeader := do
  let version ← u8
  let requestResponseCode ← u8
  return { version, requestResponseCode }

theorem decodes_read (h : SpdmMessageHeader) : Decodes read h h.encode.flatten := by
  have he : h.encode.flatten = putU8 h.version ++ putU8 h.requestResponseCode := by
    simp [encode]
  rw [he]
  refine Decodes.bind (decodes_u8 h.version) ?_
  exact (decodes_u8 h.requestResponseCode).last fun code => { h with requestResponseCode := code }

end SpdmMessageHeader

abbrev VendorId := {bs : Octets // bs.length < 256}

/-- `SpdmVdmRequestPayload` and `SpdmVdmResponsePayload`, which differ in field names only. -/
structure VdmPayload where
  standardId : UInt16
  vendorId : VendorId
  length : UInt32
  payload : Octets
  deriving DecidableEq

namespace VdmPayload

def ofVendor (payload : Octets) : VdmPayload where
  standardId := STANDARD_ID_IANA
  vendorId := ⟨VDM_MESSAGE_VENDOR_ID, by decide⟩
  length := payload.length.toUInt32
  payload := payload

def eachByte (bs : Octets) : List Octets := bs.map fun b => [b]

@[simp] theorem flatten_eachByte (bs : Octets) : (eachByte bs).flatten = bs := by
  induction bs with
  | nil => rfl
  | cons b bs ih => simpa [eachByte] using ih

def headFields (n : NegotiateInfo) (p : VdmPayload) : List Octets :=
  [putU8 (if n.largePayload then USE_LARGE_PAYLOAD else 0), putU8 0, putU16 p.standardId,
    putU8 p.vendorId.1.length.toUInt8] ++ eachByte p.vendorId.1

def tailFields (n : NegotiateInfo) (p : VdmPayload) : List Octets :=
  (if n.largePayload then [putU16 0, putU32 p.length] else [putU16 p.length.toUInt16]) ++
    eachByte (p.payload.take p.length.toNat)

/-- `spdm_encode`, into a writer that already used some bytes; a failure reports what was
written by then. -/
def spdmEncode (n : NegotiateInfo) (p : VdmPayload) (capacity : Nat) (used : Octets) :
    Except (SpdmStatus × Octets) Octets :=
  match write capacity used (headFields n p) with
  | .error out => .error (SPDM_STATUS_BUFFER_FULL, out)
  | .ok out =>
    if p.payload.length < p.length.toNat ∨ (¬n.largePayload ∧ 0xFFFF < p.length.toNat) then
      .error (SPDM_STATUS_INVALID_MSG_FIELD, out)
    else match write capacity out (tailFields n p) with
      | .error out => .error (SPDM_STATUS_BUFFER_FULL, out)
      | .ok out => .ok out

/-- The fields of a frame behind its two parameters. -/
def readFields (large : Bool) : Decoder VdmPayload := do
  let standardId ← u16
  let vendorLen ← u8
  let vendorId ← array vendorLen.toNat
  let length ← if large then (do let _ ← u16; u32) else UInt16.toUInt32 <$> u16
  let payload ← take length.toNat
  return {
    standardId
    vendorId := ⟨vendorId.1, by rw [vendorId.2]; exact vendorLen.toNat_lt⟩
    length, payload }

/-- `spdm_read`; a large payload is accepted only when it was negotiated. -/
def spdmRead (n : NegotiateInfo) : Decoder VdmPayload := do
  let param1 ← u8
  let _ ← u8
  let large := param1 &&& USE_LARGE_PAYLOAD != 0
  if large && !n.largePayload then fun _ => none else readFields large

/-- The payload with nothing behind its declared length. -/
def trim (p : VdmPayload) : VdmPayload := { p with payload := p.payload.take p.length.toNat }

def Framed (n : NegotiateInfo) (p : VdmPayload) : Prop :=
  p.length.toNat ≤ p.payload.length ∧ (n.largePayload ∨ p.length.toNat ≤ 0xFFFF)

theorem spdmEncode_ok {n : NegotiateInfo} {p : VdmPayload} {capacity : Nat}
    {used out : Octets} (h : spdmEncode n p capacity used = .ok out) :
    Framed n p ∧ out = used ++ (headFields n p ++ tailFields n p).flatten := by
  unfold spdmEncode at h
  cases hw : write capacity used (headFields n p) with
  | error o =>
    rw [hw] at h
    cases h
  | ok o =>
    simp only [hw] at h
    split at h
    · cases h
    · rename_i hl
      have hf : Framed n p := by
        rw [not_or, not_and_or, not_not] at hl
        exact ⟨Nat.le_of_not_lt hl.1, hl.2.imp id Nat.le_of_not_lt⟩
      refine ⟨hf, ?_⟩
      split at h
      · cases h
      · rename_i o' hw'
        cases h
        rw [write_ok hw', write_ok hw, List.flatten_append, List.append_assoc]

theorem decodes_length_large (p : VdmPayload) :
    Decodes (do let _ ← u16; u32) p.length ([putU16 0, putU32 p.length].flatten) := by
  have he : [putU16 0, putU32 p.length].flatten = putU16 0 ++ putU32 p.length := by simp
  rw [he]
  exact Decodes.bind (decodes_u16 0) (decodes_u32 p.length)

theorem decodes_length_small (p : VdmPayload) (h : p.length.toNat ≤ 0xFFFF) :
    Decodes (UInt16.toUInt32 <$> u16) p.length [putU16 p.length.toUInt16].flatten := by
  have hl : p.length.toUInt16.toUInt32 = p.length := by
    apply UInt32.toNat_inj.mp
    rw [UInt16.toNat_toUInt32, UInt32.toNat_toUInt16]
    omega
  have hd := (decodes_u16 p.length.toUInt16).map UInt16.toUInt32
  rw [hl] at hd
  simpa using hd

theorem decodes_vendor (p : VdmPayload) : Decodes (array p.vendorId.1.length.toUInt8.toNat)
      ⟨p.vendorId.1, by
        rw [Nat.toUInt8_eq, UInt8.toNat_ofNat']
        exact (Nat.mod_eq_of_lt p.vendorId.2).symm⟩ p.vendorId.1 :=
  decodes_array _

theorem decodes_spdmRead {n : NegotiateInfo} {p : VdmPayload} (h : Framed n p) :
    Decodes (spdmRead n) p.trim (headFields n p ++ tailFields n p).flatten := by
  have hpay : (p.payload.take p.length.toNat).length = p.length.toNat := by
    rw [List.length_take]
    exact Nat.min_eq_left h.1
  have htake : Decodes (take p.length.toNat) (p.payload.take p.length.toNat)
      (p.payload.take p.length.toNat) := by
    have ht := decodes_take (p.payload.take p.length.toNat)
    rwa [hpay] at ht
  have hfields : (headFields n p ++ tailFields n p).flatten =
      putU8 (if n.largePayload then USE_LARGE_PAYLOAD else 0) ++ (putU8 0 ++
        (putU16 p.standardId ++ (putU8 p.vendorId.1.length.toUInt8 ++ (p.vendorId.1 ++
          ((if n.largePayload then [putU16 0, putU32 p.length]
            else [putU16 p.length.toUInt16]).flatten ++ p.payload.take p.length.toNat))))) := by
    simp [headFields, tailFields]
  rw [hfields]
  refine Decodes.bind (decodes_u8 _) ?_
  refine Decodes.bind (decodes_u8 0) ?_
  have hlast := htake.last fun payload => { p with payload }
  cases hn : n.largePayload with
  | true =>
    have hbit : (USE_LARGE_PAYLOAD &&& USE_LARGE_PAYLOAD != 0) = true := by decide
    simp only [↓reduceIte, hbit, Bool.not_true, Bool.and_false, Bool.false_eq_true]
    refine Decodes.bind (decodes_u16 p.standardId) ?_
    refine Decodes.bind (decodes_u8 _) ?_
    refine Decodes.bind (decodes_vendor p) ?_
    refine Decodes.bind (decodes_length_large p) ?_
    exact hlast
  | false =>
    have hsmall : p.length.toNat ≤ 0xFFFF := by
      rcases h.2 with hl | hl
      · rw [hn] at hl
        cases hl
      · exact hl
    have hbit : ((0 : UInt8) &&& USE_LARGE_PAYLOAD != 0) = false := by decide
    simp only [Bool.false_eq_true, ↓reduceIte, hbit, Bool.false_and]
    refine Decodes.bind (decodes_u16 p.standardId) ?_
    refine Decodes.bind (decodes_u8 _) ?_
    refine Decodes.bind (decodes_vendor p) ?_
    refine Decodes.bind (decodes_length_small p hsmall) ?_
    exact hlast

theorem spdmRead_agree {n m : NegotiateInfo} {bs : Octets} {x y : VdmPayload × Octets}
    (hx : spdmRead n bs = some x) (hy : spdmRead m bs = some y) : x = y := by
  have accepted {k : NegotiateInfo} {z : VdmPayload × Octets} (hz : spdmRead k bs = some z) :
      ∃ a r b r', u8 bs = some (a, r) ∧ u8 r = some (b, r') ∧
        readFields (a &&& USE_LARGE_PAYLOAD != 0) r' = some z := by
    obtain ⟨a, r, ha, hz⟩ := decoder_bind.mp hz
    obtain ⟨b, r', hb, hz⟩ := decoder_bind.mp hz
    refine ⟨a, r, b, r', ha, hb, ?_⟩
    split at hz
    · cases hz
    · exact hz
  obtain ⟨a, r, b, r', ha, hb, hx⟩ := accepted hx
  obtain ⟨a', q, b', q', ha', hb', hy⟩ := accepted hy
  rw [ha] at ha'
  cases ha'
  rw [hb] at hb'
  cases hb'
  rw [hx] at hy
  exact Option.some.inj hy

end VdmPayload

end MigTd.Spdm.Vdm
