/- source: mmio.rs, layout.rs
   digest: The two MMIO windows, their bump allocators and the check against private memory. -/

import Mathlib.Algebra.Order.Ring.Nat

set_option autoImplicit false

namespace MigTd.Pci.Mmio

def MMIO32_START : Nat := 0xC0000000
def MMIO32_SIZE : Nat := 0x20000000
def MMIO64_START : Nat := 0x100000000
def MMIO64_SIZE : Nat := 0x40000000
inductive PciError where
  | invalidParameter
  | mmioOutofResource
  | invalidBarType
  | misaligned
  deriving DecidableEq, Repr

structure MemoryRange where
  addr : Nat
  size : Nat
  deriving DecidableEq, Repr

/-- The cursors of the two windows. They exist from `init_mmio` on, and never leave their window
at its lower end. -/
structure Cursors where
  mmio32 : Nat
  mmio64 : Nat
  start32 : MMIO32_START ≤ mmio32
  start64 : MMIO64_START ≤ mmio64

/-- Both windows lie outside a range of the memory map, whose end saturates. -/
def windowsClear (range : MemoryRange) : Bool :=
  let rangeEnd := min (range.addr + range.size) (2 ^ 64 - 1)
  !(decide (range.addr < MMIO32_START + MMIO32_SIZE) && decide (MMIO32_START < rangeEnd)) &&
    !(decide (range.addr < MMIO64_START + MMIO64_SIZE) && decide (MMIO64_START < rangeEnd))

/-- A memory map that reaches into a window is a panic. -/
def initMmio (memoryMap : List MemoryRange) : Option Cursors :=
  if memoryMap.all windowsClear then
    some ⟨MMIO32_START, MMIO64_START, Nat.le_refl _, Nat.le_refl _⟩
  else none

/-- The bits of a number outside a mask, `x & !mask`. -/
def andNot (x mask : Nat) : Nat := x - (x &&& mask)

def alignUp (addr align : Nat) : Option Nat :=
  if align = 0 then none
  else if 2 ^ 64 ≤ addr + align then none
  else some (andNot (addr + align - 1) (align - 1))

variable {size addr : Nat}

theorem le_alignUp {align aligned : Nat} (h : alignUp addr align = some aligned) :
    addr ≤ aligned := by
  unfold alignUp at h
  split_ifs at h with hzero hover
  have hmask : (addr + align - 1) &&& (align - 1) ≤ align - 1 := Nat.and_le_right
  have heq : aligned = andNot (addr + align - 1) (align - 1) := (Option.some.inj h).symm
  unfold andNot at heq
  omega

/-- The next address of a window for this many bytes, behind a cursor of the given width. -/
def allocIn (start windowSize width cursor size : Nat) : Except PciError Nat :=
  match alignUp cursor size with
  | none => .error .invalidParameter
  | some addr =>
    if windowSize < size ∨ start + windowSize - size < addr then .error .mmioOutofResource
    else if 2 ^ width ≤ addr + size then .error .invalidParameter
    else .ok addr

theorem allocIn_ok {start windowSize width cursor : Nat}
    (h : allocIn start windowSize width cursor size = .ok addr) :
    cursor ≤ addr ∧ addr + size ≤ start + windowSize := by
  unfold allocIn at h
  split at h
  · cases h
  · rename_i found halign
    split_ifs at h with hroom hover
    cases h
    have hle := le_alignUp halign
    omega

def allocMmio32 (size : Nat) (c : Cursors) : Except PciError (Nat × Cursors) :=
  match h : allocIn MMIO32_START MMIO32_SIZE 32 c.mmio32 size with
  | .error e => .error e
  | .ok addr =>
    have hstart : MMIO32_START ≤ addr + size :=
      Nat.le_trans c.start32 (Nat.le_add_right_of_le (allocIn_ok h).1)
    .ok (addr, { c with mmio32 := addr + size, start32 := hstart })

def allocMmio64 (size : Nat) (c : Cursors) : Except PciError (Nat × Cursors) :=
  match h : allocIn MMIO64_START MMIO64_SIZE 64 c.mmio64 size with
  | .error e => .error e
  | .ok addr =>
    have hstart : MMIO64_START ≤ addr + size :=
      Nat.le_trans c.start64 (Nat.le_add_right_of_le (allocIn_ok h).1)
    .ok (addr, { c with mmio64 := addr + size, start64 := hstart })

end MigTd.Pci.Mmio
