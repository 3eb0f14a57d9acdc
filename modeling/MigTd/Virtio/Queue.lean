/- source: virtqueue.rs
   digest: The split virtqueue of the driver: private shadow, bitmaps and shared rings. -/

import MigTd.Lib.Bitmap
import MigTd.Lib.StateProgram
import Mathlib.Algebra.Order.Ring.Nat

set_option autoImplicit false

namespace MigTd.Virtio.Queue

open Lib.Bitmap Lib.StateProgram

def MAX_QUEUE_SIZE : Nat := 32

def PAGE_SIZE : Nat := 0x1000

inductive VirtioError where
  | invalidParameter
  | createVirtioQueue
  | bufferTooSmall
  | invalidDescriptorIndex
  | invalidDescriptor
  | invalidRingIndex
  | notReady
  deriving DecidableEq, Repr

structure VirtqueueBuf where
  addr : UInt64
  len : UInt32
  deriving DecidableEq, Repr

/-- The flags NEXT and WRITE; the driver never sets INDIRECT. -/
structure DescFlags where
  next : Bool
  write : Bool
  deriving DecidableEq, Repr

structure Descriptor where
  addr : UInt64
  len : UInt32
  flags : DescFlags
  next : Nat
  deriving DecidableEq, Repr

def Descriptor.default : Descriptor := ⟨0, 0, ⟨false, false⟩, 0⟩

structure AvailRing where
  idx : UInt16
  ring : Nat → Nat
  usedEvent : UInt16

structure UsedElem where
  id : UInt32
  len : UInt32

structure UsedRing where
  idx : UInt16
  ring : Nat → UsedElem

/-- The memory that the device can write at any time. -/
structure SharedMemory where
  desc : Nat → Descriptor
  avail : AvailRing
  used : UsedRing

/-- The driver's end of a queue. Slots are numbers below the queue size. -/
structure VirtQueue where
  shared : SharedMemory
  queueIdx : Nat
  queueSize : Nat
  numUsed : Nat
  freeHead : Nat
  availIdx : UInt16
  lastUsedIdx : UInt16
  descShadow : Nat → Descriptor
  inUse : BitVec 32
  isHead : BitVec 32

/-- What the transport answers while a queue is set up. -/
structure VirtioTransport where
  getQueueMaxSize : Except VirtioError UInt16
  setDescriptorsAddress : UInt64 → Except VirtioError Unit
  setAvailRing : UInt64 → Except VirtioError Unit
  setUsedRing : UInt64 → Except VirtioError Unit

def IsPowerOfTwo (n : Nat) : Prop := n ≠ 0 ∧ n &&& (n - 1) = 0
  deriving Decidable

def alignUp (size : Nat) : Nat := (size + PAGE_SIZE) / PAGE_SIZE * PAGE_SIZE

structure VirtQueueLayout where
  availOffset : Nat
  usedOffset : Nat

def VirtQueueLayout.new (queueSize : Nat) : Option VirtQueueLayout :=
  if IsPowerOfTwo queueSize ∧ queueSize ≤ 32768 then
    let desc := 16 * queueSize
    let avail := 2 * (3 + queueSize)
    some ⟨desc, alignUp (desc + avail)⟩
  else none

/-- The shadow after the loop that links each slot to the one behind it. -/
def linkedShadow (queueSize i : Nat) : Descriptor :=
  if i < queueSize - 1 then { Descriptor.default with next := i + 1 } else .default

/-- `VirtQueue::new` over DMA memory with some content. -/
def new (header : VirtioTransport) (idx : Nat) (dmaAddr : UInt64) (queueSize : UInt16)
    (memory : SharedMemory) : Except VirtioError VirtQueue := do
  require (IsPowerOfTwo queueSize.toNat) .invalidParameter
  let maxSize ← header.getQueueMaxSize
  require (queueSize ≤ maxSize ∧ queueSize.toNat ≤ MAX_QUEUE_SIZE) .invalidParameter
  let layout ← orElse (VirtQueueLayout.new queueSize.toNat) .createVirtioQueue
  header.setDescriptorsAddress dmaAddr
  header.setAvailRing (dmaAddr + UInt64.ofNat layout.availOffset)
  header.setUsedRing (dmaAddr + UInt64.ofNat layout.usedOffset)
  return {
    shared := { memory with desc := fun i =>
      if i < queueSize.toNat - 1 then { memory.desc i with next := i + 1 } else memory.desc i }
    queueIdx := idx
    queueSize := queueSize.toNat
    numUsed := 0
    freeHead := 0
    availIdx := 0
    lastUsedIdx := 0
    descShadow := linkedShadow queueSize.toNat
    inUse := 0
    isHead := 0 }

def SharedMemory.setDesc (m : SharedMemory) (i : Nat) (d : Descriptor) : SharedMemory :=
  { m with desc := Function.update m.desc i d }

/-- The assignments of `add_descriptor` behind its bounds check. The successor of the slot is
read from the shadow. -/
def VirtQueue.occupy (q : VirtQueue) (buf : VirtqueueBuf) (flag : DescFlags) : VirtQueue :=
  let index := q.freeHead
  let next := (q.descShadow index).next
  { q with
    shared := q.shared.setDesc index ⟨buf.addr, buf.len, flag, (q.shared.desc index).next⟩
    descShadow := Function.update q.descShadow index ⟨buf.addr, buf.len, flag, next⟩
    freeHead := next
    inUse := insert q.inUse index }

def addDescriptor (buf : VirtqueueBuf) (flag : DescFlags) : Program VirtQueue VirtioError Nat := do
  let q ← observe id
  ensure (q.freeHead < q.queueSize) .invalidDescriptorIndex
  update (·.occupy buf flag)
  return q.freeHead

/-- One of the two loops of `add`; its result is the last slot. -/
def addDescriptors (flag : DescFlags) : Nat → List VirtqueueBuf → Program VirtQueue VirtioError Nat
  | last, [] => return last
  | _, buf :: rest => do
    let last ← addDescriptor buf flag
    addDescriptors flag last rest

def VirtQueue.endChain (q : VirtQueue) (last : Nat) : VirtQueue :=
  let d := q.descShadow last
  { q with
    descShadow := Function.update q.descShadow last
      { d with flags := { d.flags with next := false } } }

def VirtQueue.mirrorFlags (q : VirtQueue) (i : Nat) : VirtQueue :=
  { q with
    shared := q.shared.setDesc i { q.shared.desc i with flags := (q.descShadow i).flags } }

def VirtQueue.publish (q : VirtQueue) (head : Nat) : VirtQueue :=
  let slot := q.availIdx.toNat &&& (q.queueSize - 1)
  { q with
    availIdx := q.availIdx + 1
    shared := { q.shared with avail :=
      ⟨q.availIdx + 1, Function.update q.shared.avail.ring slot head, q.availIdx + 1⟩ } }

def add (g2h h2g : List VirtqueueBuf) : Program VirtQueue VirtioError Nat := do
  ensure (¬(g2h = [] ∧ h2g = [])) .invalidParameter
  let q ← observe id
  ensure (g2h.length + h2g.length + q.numUsed ≤ q.queueSize) .bufferTooSmall
  let head := q.freeHead
  let last ← addDescriptors ⟨true, false⟩ head g2h
  let last ← addDescriptors ⟨true, true⟩ last h2g
  ensure (last < MAX_QUEUE_SIZE) .invalidDescriptorIndex
  update (·.endChain last)
  ensure (last < q.queueSize) .invalidDescriptorIndex
  update (·.mirrorFlags last)
  update fun q =>
    { q with numUsed := q.numUsed + (g2h.length + h2g.length), isHead := insert q.isHead head }
  ensure (q.availIdx.toNat &&& (q.queueSize - 1) < MAX_QUEUE_SIZE) .invalidDescriptorIndex
  update (·.publish head)
  return head

def VirtQueue.CanPop (q : VirtQueue) : Prop := q.lastUsedIdx ≠ q.shared.used.idx
  deriving Decidable

structure PopState where
  queue : VirtQueue
  g2h : List VirtqueueBuf
  h2g : List VirtqueueBuf

/-- Take one slot out of use and hand its recorded buffer back. -/
def PopState.consume (s : PopState) (index : Nat) : PopState :=
  let d := s.queue.descShadow index
  let buf : VirtqueueBuf := ⟨d.addr, d.len⟩
  { queue := { s.queue with
      inUse := remove s.queue.inUse index
      isHead := remove s.queue.isHead index
      numUsed := s.queue.numUsed - 1 }
    g2h := if d.flags.write then s.g2h else s.g2h ++ [buf]
    h2g := if d.flags.write then s.h2g ++ [buf] else s.h2g }

def PopState.relink (s : PopState) (index originFreeHead : Nat) : PopState :=
  { s with queue := { s.queue with
      descShadow := Function.update s.queue.descShadow index
        { s.queue.descShadow index with next := originFreeHead }
      shared := s.queue.shared.setDesc index
        { s.queue.shared.desc index with next := originFreeHead } } }

def saturatingAdd (a : Nat) (b : UInt32) : Nat := min (a + b.toNat) (2 ^ 32 - 1)

/-- The loop of `recycle_descriptors`. Each turn lowers `num_used`, so that its value at the start
bounds the number of turns. -/
def recycleLoop (originFreeHead : Nat) : Nat → Nat → Nat → Program PopState VirtioError Nat
  | 0, _, recordedLen => return recordedLen
  | turns + 1, head, recordedLen => do
    let s ← observe id
    if s.queue.numUsed = 0 then return recordedLen
    else
      ensure (head < s.queue.queueSize ∧ Has s.queue.inUse head) .invalidDescriptor
      let shadow := s.queue.descShadow head
      update (·.consume head)
      let recordedLen := saturatingAdd recordedLen shadow.len
      if shadow.flags.next then
        ensure (s.queue.numUsed - 1 ≠ 0) .invalidDescriptor
        recycleLoop originFreeHead turns shadow.next recordedLen
      else
        update (·.relink head originFreeHead)
        return recordedLen

def recycleDescriptors (head : Nat) : Program PopState VirtioError Nat := do
  let s ← observe id
  update fun s => { s with queue := { s.queue with freeHead := head } }
  recycleLoop s.queue.freeHead s.queue.numUsed head 0

def VirtQueue.usedElem (q : VirtQueue) : UsedElem :=
  q.shared.used.ring (q.lastUsedIdx.toNat &&& (q.queueSize - 1))

/-- The slot that the next used element names, cut down to 16 bits. -/
def VirtQueue.usedSlot (q : VirtQueue) : Nat := q.usedElem.id.toUInt16.toNat

def popUsed : Program PopState VirtioError Nat := do
  let s ← observe id
  let q := s.queue
  ensure q.CanPop .notReady
  ensure (q.lastUsedIdx.toNat &&& (q.queueSize - 1) < MAX_QUEUE_SIZE) .invalidRingIndex
  let index := q.usedSlot
  ensure (index < q.queueSize ∧ Has q.inUse index ∧ Has q.isHead index) .invalidDescriptor
  let recordedLen ← recycleDescriptors index
  update fun s => { s with queue := { s.queue with lastUsedIdx := s.queue.lastUsedIdx + 1 } }
  return min q.usedElem.len.toNat recordedLen

end MigTd.Virtio.Queue
