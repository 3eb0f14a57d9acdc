/- source: protocol.rs, vsock/src/lib.rs, vsock/src/transport/mod.rs
   digest: Addresses, errors and packet headers of the vsock device. -/

import MigTd.Lib.ByteCodec
import MigTd.Virtio.Queue

set_option autoImplicit false

namespace MigTd.Vsock.Protocol

open Lib.ByteCodec Lib.StateProgram Virtio.Queue

def PAGE_SIZE : Nat := 0x1000

def VSOCK_BUF_ALLOC : UInt32 := 0x40000

inductive VsockTransportError where
  | virtio (e : VirtioError)
  | vmcall
  | createVirtQueue
  | initilization
  | dmaAllocation
  | timeout
  | invalidParameter
  | invalidVsockPacket
  | interrupt
  | notReady
  deriving DecidableEq, Repr

inductive VsockError where
  | initialization
  | deviceNotAvailable
  | noAvailablePort
  | addressAlreadyUsed
  | transport (e : VsockTransportError)
  | truncated
  | malformed
  | illegal
  | refused
  | notReady
  deriving DecidableEq, Repr

def VsockError.from : VsockTransportError → VsockError
  | .notReady => .notReady
  | e => .transport e

structure VsockAddr where
  cid : UInt64
  port : UInt32
  deriving DecidableEq, Repr

namespace VsockAddr

def new (cid : UInt32) (port : UInt32) : VsockAddr := ⟨cid.toUInt64, port⟩

def default : VsockAddr := ⟨0, 0⟩

/-- The method `cid`, which keeps the low half, widened again for a header. -/
def lowCid (a : VsockAddr) : UInt64 := a.cid.toUInt32.toUInt64

end VsockAddr

structure VsockAddrPair where
  localAddr : VsockAddr
  remoteAddr : VsockAddr
  deriving DecidableEq, Repr

def alignUp (size : Nat) : Nat :=
  size / PAGE_SIZE * PAGE_SIZE + if size % PAGE_SIZE ≠ 0 then PAGE_SIZE else 0

def HEADER_LEN : Nat := 44

def TYPE_STREAM : UInt16 := 1

def FLAG_SHUTDOWN_READ : UInt32 := 1
def FLAG_SHUTDOWN_WRITE : UInt32 := 2

def OP_REQUEST : UInt16 := 1
def OP_RESPONSE : UInt16 := 2
def OP_RST : UInt16 := 3
def OP_SHUTDOWN : UInt16 := 4
def OP_RW : UInt16 := 5
def OP_CREDIT_UPDATE : UInt16 := 6
def OP_CREDIT_REQUEST : UInt16 := 7

def fieldAt (buffer : Octets) (first last : Nat) : Nat :=
  leValue ((buffer.drop first).take (last - first))

namespace Packet

variable (buffer : Octets)

def srcCid : UInt64 := .ofNat (fieldAt buffer 0 8)
def dstCid : UInt64 := .ofNat (fieldAt buffer 8 16)
def srcPort : UInt32 := .ofNat (fieldAt buffer 16 20)
def dstPort : UInt32 := .ofNat (fieldAt buffer 20 24)
def dataLen : UInt32 := .ofNat (fieldAt buffer 24 28)
def type : UInt16 := .ofNat (fieldAt buffer 28 30)
def op : UInt16 := .ofNat (fieldAt buffer 30 32)
def bufAlloc : UInt32 := .ofNat (fieldAt buffer 36 40)
def fwdCnt : UInt32 := .ofNat (fieldAt buffer 40 44)

/-- The last test bounds the payload by the buffer that the packet was made from. -/
def check : Except VsockError Unit := do
  require (HEADER_LEN ≤ buffer.length) .truncated
  require (type buffer = TYPE_STREAM) .malformed
  require (¬(op buffer = 0 ∨ 7 < op buffer)) .malformed
  require (HEADER_LEN + (dataLen buffer).toNat ≤ buffer.length) .truncated

/-- The connection that a received packet names. -/
def key : VsockAddrPair where
  localAddr := .new (dstCid buffer).toUInt32 (dstPort buffer)
  remoteAddr := .new (srcCid buffer).toUInt32 (srcPort buffer)

end Packet

/-- The values that a sender sets in a header. -/
structure Header where
  srcCid : UInt64
  dstCid : UInt64
  srcPort : UInt32
  dstPort : UInt32
  dataLen : UInt32
  type : UInt16
  op : UInt16
  flags : UInt32
  bufAlloc : UInt32
  fwdCnt : UInt32
  deriving DecidableEq, Repr

def Header.bytes (h : Header) : Octets :=
  putU64 h.srcCid ++ putU64 h.dstCid ++ putU32 h.srcPort ++ putU32 h.dstPort ++
    putU32 h.dataLen ++ putU16 h.type ++ putU16 h.op ++ putU32 h.flags ++
    putU32 h.bufAlloc ++ putU32 h.fwdCnt

@[simp] theorem Header.length_bytes (h : Header) : h.bytes.length = HEADER_LEN := by
  simp [Header.bytes, putU64, putU32, putU16, HEADER_LEN]

variable {first last : Nat} {front rest : Octets}

theorem fieldAt_skip (h : front.length ≤ first) :
    fieldAt (front ++ rest) first last =
      fieldAt rest (first - front.length) (last - front.length) := by
  have hwidth : last - first = last - front.length - (first - front.length) := by omega
  rw [fieldAt, fieldAt, List.drop_append, List.drop_eq_nil_of_le h, List.nil_append, hwidth]

theorem fieldAt_head {digits after : Octets} {last : Nat} (h : digits.length = last) :
    fieldAt (digits ++ after) 0 last = leValue digits := by
  subst h
  rw [fieldAt, List.drop_zero, Nat.sub_zero, List.take_left]

theorem fieldAt_append (h : last ≤ front.length) :
    fieldAt (front ++ rest) first last = fieldAt front first last := by
  have hnone : last - first - (front.drop first).length = 0 := by
    rw [List.length_drop]
    omega
  by_cases hfirst : first ≤ front.length
  · rw [fieldAt, fieldAt, List.drop_append_of_le_length hfirst, List.take_append, hnone,
      List.take_zero, List.append_nil]
  · have hempty : last - first = 0 := by omega
    rw [fieldAt, fieldAt, hempty, List.take_zero, List.take_zero]

section

@[simp] private theorem length_putU16 (v : UInt16) : (putU16 v).length = 2 := leBytes_length 2 _

@[simp] private theorem length_putU32 (v : UInt32) : (putU32 v).length = 4 := leBytes_length 4 _

@[simp] private theorem length_putU64 (v : UInt64) : (putU64 v).length = 8 := leBytes_length 8 _

@[simp] private theorem leValue_putU16 (v : UInt16) : leValue (putU16 v) = v.toNat :=
  leValue_leBytes 2 _ v.toNat_lt

@[simp] private theorem leValue_putU32 (v : UInt32) : leValue (putU32 v) = v.toNat :=
  leValue_leBytes 4 _ v.toNat_lt

variable (h : Header)

@[simp] theorem dataLen_bytes : Packet.dataLen h.bytes = h.dataLen := by
  simp [Packet.dataLen, Header.bytes, fieldAt_skip, fieldAt_head]

@[simp] theorem type_bytes : Packet.type h.bytes = h.type := by
  simp [Packet.type, Header.bytes, fieldAt_skip, fieldAt_head]

@[simp] theorem op_bytes : Packet.op h.bytes = h.op := by
  simp [Packet.op, Header.bytes, fieldAt_skip, fieldAt_head]

@[simp] theorem bufAlloc_bytes : Packet.bufAlloc h.bytes = h.bufAlloc := by
  simp [Packet.bufAlloc, Header.bytes, fieldAt_skip, fieldAt_head]

@[simp] theorem fwdCnt_bytes : Packet.fwdCnt h.bytes = h.fwdCnt := by
  have hlast := @fieldAt_head (putU32 h.fwdCnt) [] 4 (length_putU32 h.fwdCnt)
  rw [List.append_nil] at hlast
  simp [Packet.fwdCnt, Header.bytes, fieldAt_skip, hlast]

/-! The fields of a header with the data behind it. -/

variable (data : Octets)

private theorem fieldAt_packet (hlast : last ≤ HEADER_LEN) :
    fieldAt (h.bytes ++ data) first last = fieldAt h.bytes first last :=
  fieldAt_append (h.length_bytes.symm ▸ hlast)

theorem dataLen_packet : Packet.dataLen (h.bytes ++ data) = h.dataLen := by
  rw [Packet.dataLen, fieldAt_packet _ _ (by decide)]
  exact dataLen_bytes h

theorem type_packet : Packet.type (h.bytes ++ data) = h.type := by
  rw [Packet.type, fieldAt_packet _ _ (by decide)]
  exact type_bytes h

theorem op_packet : Packet.op (h.bytes ++ data) = h.op := by
  rw [Packet.op, fieldAt_packet _ _ (by decide)]
  exact op_bytes h

theorem bufAlloc_packet : Packet.bufAlloc (h.bytes ++ data) = h.bufAlloc := by
  rw [Packet.bufAlloc, fieldAt_packet _ _ (by decide)]
  exact bufAlloc_bytes h

theorem fwdCnt_packet : Packet.fwdCnt (h.bytes ++ data) = h.fwdCnt := by
  rw [Packet.fwdCnt, fieldAt_packet _ _ (by decide)]
  exact fwdCnt_bytes h

end

theorem check_ok {buffer : Octets} :
    Packet.check buffer = .ok () ↔ HEADER_LEN ≤ buffer.length ∧ Packet.type buffer = TYPE_STREAM ∧
      ¬(Packet.op buffer = 0 ∨ 7 < Packet.op buffer) ∧
      HEADER_LEN + (Packet.dataLen buffer).toNat ≤ buffer.length := by
  simp [Packet.check, except_bind_ok]

theorem dataLen_of_check {buffer : Octets} (hlength : buffer.length = HEADER_LEN)
    (h : Packet.check buffer = .ok ()) : Packet.dataLen buffer = 0 := by
  have hroom := (check_ok.mp h).2.2.2
  rw [hlength] at hroom
  exact UInt32.toNat_inj.mp (by simpa using hroom)

end MigTd.Vsock.Protocol
