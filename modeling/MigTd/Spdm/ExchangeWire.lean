/- source: spdm_req.rs, spdm_rsp.rs, spdm_vdm.rs
   digest: What one side wraps into a message of the key exchange is what the other side unwraps. -/

import MigTd.Spdm.Dispatcher
import MigTd.Spdm.Requester

set_option autoImplicit false

namespace MigTd.Spdm.ExchangeWire

open Lib.ByteCodec Lib.StateProgram Migration.MskExchange Dispatcher Requester Vdm ResponderSpecs

def Reads {α : Type} (reader : ElementReader α) (a : α) (bs : Octets) : Prop :=
  ∀ rest, reader (bs ++ rest) = .ok (a, rest)

variable {bs request response r : Octets}

section

variable {α β : Type} {a : α} {reader : ElementReader α}

theorem Reads.bind {f : α → ElementReader β} {b : β}
    {cs : Octets} (hr : Reads reader a bs) (hf : Reads (f a) b cs) :
    Reads (reader >>= f) b (bs ++ cs) := by
  intro rest
  have hread : reader (bs ++ (cs ++ rest)) = .ok (a, cs ++ rest) := hr (cs ++ rest)
  rw [List.append_assoc]
  exact except_bind_ok.mpr ⟨(a, cs ++ rest), hread, hf rest⟩

theorem Reads.last (f : α → β)
    (hr : Reads reader a bs) : Reads (reader >>= fun x => pure (f x)) (f a) bs := by
  intro rest
  exact except_bind_ok.mpr ⟨(a, rest), hr rest, rfl⟩

theorem reads_reading {d : Decoder α} (h : Decodes d a bs) : Reads (reading d) a bs := by
  intro rest
  unfold reading
  rw [h rest]
  rfl

theorem reads_expectSized {elementType : VdmMessageElementType} (size : UInt32)
    (h : VdmMessageElementType.ofU16 elementType.getU16 = elementType) :
    Reads (expectSized elementType size) ()
      (VdmMessageElement.encode ⟨elementType, size⟩).flatten := by
  have hheader := reads_reading (VdmMessageElement.decodes_read ⟨elementType, size⟩ h)
  rw [← List.append_nil (VdmMessageElement.encode ⟨elementType, size⟩).flatten]
  refine Reads.bind hheader ?_
  intro rest
  simp only [ne_eq, not_true_eq_false, or_self, ↓reduceIte]
  rfl

def offerBytes (versionType : VdmMessageElementType) (versionSize : UInt32)
    (keyType : VdmMessageElementType) (keySize : UInt32) (x : ExchangeInformation) : Octets :=
  (VdmMessageElement.encode ⟨versionType, versionSize⟩).flatten ++ (putU16 x.minVer ++
    (putU16 x.maxVer ++ ((VdmMessageElement.encode ⟨keyType, keySize⟩).flatten ++
      putWords x.key.1)))

theorem reads_exchangeElements {versionType keyType : VdmMessageElementType}
    {versionSize keySize : UInt32} {x : ExchangeInformation}
    (hv : VdmMessageElementType.ofU16 versionType.getU16 = versionType)
    (hk : VdmMessageElementType.ofU16 keyType.getU16 = keyType)
    (hx : x.reserved = Bytes.zero 4) :
    Reads (exchangeElements versionType versionSize keyType keySize) x
      (offerBytes versionType versionSize keyType keySize x) := by
  have hkey := (reads_reading (decodes_wordArray x.key)).last fun key =>
    (⟨key, x.minVer, x.maxVer, Bytes.zero 4⟩ : ExchangeInformation)
  have hwhole : (⟨x.key, x.minVer, x.maxVer, Bytes.zero 4⟩ : ExchangeInformation) = x := by
    rw [← hx]
  rw [hwhole] at hkey
  refine Reads.bind (reads_expectSized versionSize hv) ?_
  refine Reads.bind (reads_reading (decodes_u16 x.minVer)) ?_
  refine Reads.bind (reads_reading (decodes_u16 x.maxVer)) ?_
  exact Reads.bind (reads_expectSized keySize hk) hkey

end

/-- A header and the frame of a payload of this vendor. -/
def enclosed (header : SpdmMessageHeader) (n : NegotiateInfo) (payload : Octets) : Octets :=
  header.encode.flatten ++ (VdmPayload.headFields n (VdmPayload.ofVendor payload) ++
    VdmPayload.tailFields n (VdmPayload.ofVendor payload)).flatten

section

variable {n n' : NegotiateInfo} {payload : Octets} {header : SpdmMessageHeader} {capacity : Nat}

theorem enclosed_read {p : VdmPayload} {rest : Octets} {h : SpdmMessageHeader}
    (framed : VdmPayload.Framed n (VdmPayload.ofVendor payload)) (short : payload.length < 2 ^ 32)
    (hheader : SpdmMessageHeader.read (enclosed header n payload) = some (h, r))
    (hframe : VdmPayload.spdmRead n' r = some (p, rest)) :
    p.payload.take p.length.toNat = payload := by
  have hread := SpdmMessageHeader.decodes_read header ((VdmPayload.headFields n
    (VdmPayload.ofVendor payload) ++ VdmPayload.tailFields n (VdmPayload.ofVendor payload)).flatten)
  unfold enclosed at hheader
  rw [hread] at hheader
  cases hheader
  have hown := VdmPayload.decodes_spdmRead framed []
  rw [List.append_nil] at hown
  have hp := VdmPayload.spdmRead_agree hframe hown
  cases hp
  have hlength : (VdmPayload.ofVendor payload).length.toNat = payload.length := by
    change payload.length.toUInt32.toNat = payload.length
    rw [Nat.toUInt32_eq, UInt32.toNat_ofNat']
    omega
  change ((VdmPayload.ofVendor payload).payload.take (VdmPayload.ofVendor payload).length.toNat).take
    (VdmPayload.ofVendor payload).length.toNat = payload
  rw [hlength, List.take_take, Nat.min_self]
  exact List.take_length

theorem sealRequest_ok (h : sealRequest n capacity payload = .ok request) :
    VdmPayload.Framed n (VdmPayload.ofVendor payload) ∧
      request = enclosed ⟨n.spdmVersionSel, SPDM_REQUEST_VENDOR_DEFINED_REQUEST⟩ n payload := by
  obtain ⟨used, hused, h⟩ := except_bind_ok.mp h
  obtain ⟨framed, rfl⟩ := VdmPayload.spdmEncode_ok (mapError_ok.mp h)
  refine ⟨framed, ?_⟩
  rw [write_ok (mapError_ok.mp hused), List.nil_append]
  rfl

theorem sealResponse_ok (h : sealResponse n capacity payload = .ok response) :
    VdmPayload.Framed n (VdmPayload.ofVendor payload) ∧
      response = enclosed ⟨n.spdmVersionSel, SPDM_RESPONSE_VENDOR_DEFINED_RESPONSE⟩ n payload := by
  unfold sealResponse at h
  dsimp only at h
  split at h
  · cases h
  · rename_i used hused
    split at h
    · cases h
    · rename_i bytes hbytes
      cases h
      obtain ⟨framed, rfl⟩ := VdmPayload.spdmEncode_ok hbytes
      refine ⟨framed, ?_⟩
      rw [write_ok hused, List.nil_append]
      rfl

theorem openRequest_ok {vdm : VdmMessage} (h : openRequest n request = .ok (vdm, r)) :
    ∃ header p rest rest', SpdmMessageHeader.read request = some (header, rest) ∧
      VdmPayload.spdmRead n rest = some (p, rest') ∧
      VdmMessage.read (p.payload.take p.length.toNat) = some (vdm, r) := by
  unfold openRequest at h
  split at h
  · cases h
  · rename_i header rest hheader
    split at h
    · cases h
    · split at h
      · cases h
      · rename_i p rest' hframe
        split at h
        · cases h
        · exact ⟨header, p, rest, rest', hheader, hframe, orElse_ok.mp h⟩

theorem openResponse_ok {opCode : VdmMessageOpCode} {count : UInt8}
    (h : openResponse n response opCode count = .ok r) :
    ∃ header p vdm rest rest', SpdmMessageHeader.read response = some (header, rest) ∧
      VdmPayload.spdmRead n rest = some (p, rest') ∧
      VdmMessage.read (p.payload.take p.length.toNat) = some (vdm, r) := by
  obtain ⟨⟨header, rest⟩, hheader, h⟩ := except_bind_ok.mp h
  obtain ⟨⟨p, rest'⟩, hframe, h⟩ := except_bind_ok.mp h
  obtain ⟨⟨vdm, elements⟩, hmessage, h⟩ := except_bind_ok.mp h
  obtain ⟨-, -, h⟩ := except_bind_ok.mp h
  cases h
  exact ⟨header, p, vdm, rest, rest', orElse_ok.mp hheader, orElse_ok.mp hframe,
    orElse_ok.mp hmessage⟩

end

section

variable {n n' : NegotiateInfo} {capacity : Nat} {x : ExchangeInformation}

theorem offerBytes_length (versionType keyType : VdmMessageElementType)
    (versionSize keySize : UInt32) (x : ExchangeInformation) :
    (offerBytes versionType versionSize keyType keySize x).length = 48 := by
  have hheader (elementType : VdmMessageElementType) (size : UInt32) :
      (VdmMessageElement.encode ⟨elementType, size⟩).flatten.length = 6 := by
    simp [VdmMessageElement.encode, putU16, putU32]
  have hwords : (putWords x.key.1).length = 32 := by
    have h8 (w : UInt64) : (putU64 w).length = 8 := leBytes_length 8 w.toNat
    simp [putWords, List.length_flatMap, h8, x.key.2]
  have hver (v : UInt16) : (putU16 v).length = 2 := leBytes_length 2 v.toNat
  simp only [offerBytes, List.length_append, hheader, hver, hwords]

theorem header_length (m : VdmMessage) : m.encode.flatten.length = 4 := by
  simp [VdmMessage.encode, putU8]

theorem migInfoReqFields_flatten (x : ExchangeInformation) : (migInfoReqFields x).flatten =
      (VdmMessage.current .exchangeMigrationInfoReq
        VDM_MESSAGE_EXCHANGE_MIGRATION_INFO_REQ_ELEMENT_COUNT).encode.flatten ++
      offerBytes .migrationExportVersion VDM_MESSAGE_MIGRATION_EXPORT_VERSION_SIZE
        .forwardMigrationSessionKey VDM_MESSAGE_FORWARD_MIGRATION_SESSION_KEY_SIZE x := by
  simp [migInfoReqFields, offerBytes]

theorem migInfoRspFields_flatten (x : ExchangeInformation) : (migInfoRspFields x).flatten =
      (VdmMessage.current .exchangeMigrationInfoRsp
        VDM_MESSAGE_EXCHANGE_MIGRATION_INFO_RSP_ELEMENT_COUNT).encode.flatten ++
      offerBytes .migrationImportVersion VDM_MESSAGE_MIGRATION_IMPORT_VERSION_SIZE
        .backwardMigrationSessionKey VDM_MESSAGE_BACKWARD_MIGRATION_SESSION_KEY_SIZE x := by
  simp [migInfoRspFields, offerBytes]

theorem request_received {vdm : VdmMessage} (hx : x.reserved = Bytes.zero 4)
    (sealed : sealRequest n capacity (migInfoReqFields x).flatten = .ok request)
    (opened : openRequest n' request = .ok (vdm, r)) :
    vdm.opCode = .exchangeMigrationInfoReq ∧ migInfoReqElements r = .ok (x, []) := by
  obtain ⟨framed, rfl⟩ := sealRequest_ok sealed
  obtain ⟨header, p, rest, rest', hheader, hframe, hmessage⟩ := openRequest_ok opened
  have hlength : (migInfoReqFields x).flatten.length < 2 ^ 32 := by
    rw [migInfoReqFields_flatten, List.length_append, header_length, offerBytes_length]
    omega
  rw [enclosed_read framed hlength hheader hframe, migInfoReqFields_flatten,
    VdmMessage.decodes_read (VdmMessage.current .exchangeMigrationInfoReq
      VDM_MESSAGE_EXCHANGE_MIGRATION_INFO_REQ_ELEMENT_COUNT) rfl] at hmessage
  cases hmessage
  have hoffer : Reads migInfoReqElements x _ := reads_exchangeElements rfl rfl hx
  have hall := hoffer []
  rw [List.append_nil] at hall
  exact ⟨rfl, hall⟩

theorem response_received {opCode : VdmMessageOpCode} {count : UInt8}
    (hx : x.reserved = Bytes.zero 4)
    (sealed : sealResponse n capacity (migInfoRspFields x).flatten = .ok response)
    (opened : openResponse n' response opCode count = .ok r) :
    migInfoRspElements r = .ok (x, []) := by
  obtain ⟨framed, rfl⟩ := sealResponse_ok sealed
  obtain ⟨header, p, vdm, rest, rest', hheader, hframe, hmessage⟩ := openResponse_ok opened
  have hlength : (migInfoRspFields x).flatten.length < 2 ^ 32 := by
    rw [migInfoRspFields_flatten, List.length_append, header_length, offerBytes_length]
    omega
  rw [enclosed_read framed hlength hheader hframe, migInfoRspFields_flatten,
    VdmMessage.decodes_read (VdmMessage.current .exchangeMigrationInfoRsp
      VDM_MESSAGE_EXCHANGE_MIGRATION_INFO_RSP_ELEMENT_COUNT) rfl] at hmessage
  cases hmessage
  have hoffer : Reads migInfoRspElements x _ := reads_exchangeElements rfl rfl hx
  have hall := hoffer []
  rwa [List.append_nil] at hall

end

end MigTd.Spdm.ExchangeWire
