/- source: vmcall_msg.rs
   digest: Frames of the VMCALL transport: their header, how a message is put in one and taken out. -/

import MigTd.Lib.ByteCodec
import MigTd.Lib.StateProgram

set_option autoImplicit false

namespace MigTd.Spdm.VmcallMessages

open Lib.ByteCodec Lib.StateProgram

def VMCALL_SPDM_MESSAGE_HEADER_SIZE : Nat := 12
def VMCALL_SPDM_SIGNATURE : UInt32 := 0x4D445053
def VMCALL_SPDM_VERSION : UInt16 := 0x0100
def VMCALL_SPDM_MESSAGE_TYPE_SPDM_MESSAGE : UInt8 := 0x1
def VMCALL_SPDM_MESSAGE_TYPE_SECURED_SPDM_MESSAGE : UInt8 := 0x2

inductive VmCallMessageType where
  | spdmMessage
  | securedSpdmMessage
  deriving DecidableEq, Repr

namespace VmCallMessageType

def toU8 : VmCallMessageType → UInt8
  | spdmMessage => VMCALL_SPDM_MESSAGE_TYPE_SPDM_MESSAGE
  | securedSpdmMessage => VMCALL_SPDM_MESSAGE_TYPE_SECURED_SPDM_MESSAGE

def tryFrom (value : UInt8) : Option VmCallMessageType :=
  if value = VMCALL_SPDM_MESSAGE_TYPE_SPDM_MESSAGE then some spdmMessage
  else if value = VMCALL_SPDM_MESSAGE_TYPE_SECURED_SPDM_MESSAGE then some securedSpdmMessage
  else none

def read : Decoder VmCallMessageType := do
  let value ← u8
  match tryFrom value with
  | some t => return t
  | none => fun _ => none

theorem decodes_read (t : VmCallMessageType) : Decodes read t (putU8 t.toU8) := by
  cases t <;> exact (decodes_u8 _).last fun _ => _

theorem decidedBy_read : DecidedBy read 1 := by
  refine DecidedBy.bind (n := 0) decidedBy_u8 (fun value => ?_) rfl
  cases tryFrom value with
  | none => exact decidedBy_fail 0
  | some t => exact decidedBy_pure t

end VmCallMessageType

structure VmCallMessageHeader where
  version : UInt16
  msgType : VmCallMessageType
  length : UInt32
  deriving DecidableEq, Repr

namespace VmCallMessageHeader

def encode (h : VmCallMessageHeader) : List Octets :=
  [putU32 VMCALL_SPDM_SIGNATURE, putU16 h.version, putU8 h.msgType.toU8, putU8 0, putU32 h.length]

/-- Another signature, version or type, and a reserved byte that is set, are refused. -/
def read : Decoder VmCallMessageHeader := do
  let signature ← u32
  if signature ≠ VMCALL_SPDM_SIGNATURE then fun _ => none
  else
    let version ← u16
    if version ≠ VMCALL_SPDM_VERSION then fun _ => none
    else
      let msgType ← VmCallMessageType.read
      let reservedByte ← u8
      if reservedByte ≠ 0 then fun _ => none
      else
        let length ← u32
        return { version, msgType, length }

def frameSize (h : VmCallMessageHeader) : Nat := VMCALL_SPDM_MESSAGE_HEADER_SIZE + h.length.toNat

theorem encode_length (h : VmCallMessageHeader) :
    h.encode.flatten.length = VMCALL_SPDM_MESSAGE_HEADER_SIZE := by
  simp [encode, putU32, putU16, putU8, VMCALL_SPDM_MESSAGE_HEADER_SIZE]

theorem decodes_read {h : VmCallMessageHeader} (hversion : h.version = VMCALL_SPDM_VERSION) :
    Decodes read h h.encode.flatten := by
  have he : h.encode.flatten = putU32 VMCALL_SPDM_SIGNATURE ++ (putU16 h.version ++
      (putU8 h.msgType.toU8 ++ (putU8 0 ++ putU32 h.length))) := by
    simp [encode]
  rw [he]
  refine Decodes.bind (decodes_u32 _) ?_
  rw [if_neg (not_not_intro rfl)]
  refine Decodes.bind (decodes_u16 h.version) ?_
  rw [if_neg (not_not_intro hversion)]
  refine Decodes.bind (VmCallMessageType.decodes_read h.msgType) ?_
  refine Decodes.bind (decodes_u8 0) ?_
  rw [if_neg (not_not_intro rfl)]
  exact (decodes_u32 h.length).last fun length => { h with length := length }

theorem decidedBy_read : DecidedBy read VMCALL_SPDM_MESSAGE_HEADER_SIZE := by
  refine DecidedBy.bind (n := 8) decidedBy_u32 (fun signature => DecidedBy.guarded ?_) rfl
  refine DecidedBy.bind (n := 6) decidedBy_u16 (fun version => DecidedBy.guarded ?_) rfl
  refine DecidedBy.bind (n := 5) VmCallMessageType.decidedBy_read (fun msgType => ?_) rfl
  refine DecidedBy.bind (n := 4) decidedBy_u8 (fun reserved => DecidedBy.guarded ?_) rfl
  exact DecidedBy.bind (n := 0) decidedBy_u32 (fun length => decidedBy_pure _) rfl

end VmCallMessageHeader

/-- The failures of the transport: `SPDM_STATUS_ENCAP_FAIL`, `SPDM_STATUS_DECAP_FAIL` and
`SPDM_STATUS_SEND_FAIL`. -/
inductive TransportStatus where
  | encapFail
  | decapFail
  | sendFail
  deriving DecidableEq, Repr

def headerOf (secured : Bool) (spdmBuffer : Octets) : VmCallMessageHeader where
  version := VMCALL_SPDM_VERSION
  msgType := if secured then .securedSpdmMessage else .spdmMessage
  length := spdmBuffer.length.toUInt32

/-- The bytes that `encap` leaves at the start of a transport buffer of this capacity. -/
def encap (capacity : Nat) (spdmBuffer : Octets) (secured : Bool) :
    Except TransportStatus Octets :=
  match write capacity [] (headerOf secured spdmBuffer).encode with
  | .error _ => .error .encapFail
  | .ok header =>
    if capacity < header.length + spdmBuffer.length then .error .encapFail
    else .ok (header ++ spdmBuffer)

/-- `decap`, into a buffer with this much room. -/
def decap (room : Nat) (transportBuffer : Octets) :
    Except TransportStatus (Octets × Bool) := do
  let (header, rest) ← orElse (VmCallMessageHeader.read transportBuffer) .decapFail
  let headerSize := transportBuffer.length - rest.length
  let payloadSize := header.length.toNat
  require (headerSize + payloadSize ≤ transportBuffer.length) .decapFail
  require (payloadSize ≤ room) .decapFail
  return ((transportBuffer.drop headerSize).take payloadSize, header.msgType = .securedSpdmMessage)

theorem encap_ok {capacity : Nat} {spdmBuffer frame : Octets} {secured : Bool}
    (h : encap capacity spdmBuffer secured = .ok frame) :
    frame = (headerOf secured spdmBuffer).encode.flatten ++ spdmBuffer := by
  unfold encap at h
  cases hw : write capacity [] (headerOf secured spdmBuffer).encode with
  | error out =>
    rw [hw] at h
    cases h
  | ok header =>
    simp only [hw] at h
    split at h
    · cases h
    · cases h
      rw [write_ok hw, List.nil_append]

end MigTd.Spdm.VmcallMessages
