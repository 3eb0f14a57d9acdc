/- source: pci/src/config.rs
   digest: Configuration space accesses answered by the host, and the set-up of base addresses. -/

import MigTd.Lib.StateProgram
import MigTd.Pci.Mmio

-- The frame of a function is one search over all of its steps.
set_option synthInstance.maxSize 2000

set_option autoImplicit false

namespace MigTd.Pci.Config

open Lib.StateProgram Mmio

/-- An access to the configuration space of the device; widths are in bytes. -/
inductive ConfigAccess where
  | read (width offset : Nat)
  | write (width offset value : Nat)
  deriving DecidableEq, Repr

/-- The host answers a read as it likes, from all accesses up to this one, the last one first. -/
abbrev Host := List ConfigAccess → Nat

inductive PciBarType where
  | unused
  | memorySpace32
  | memorySpace64
  | ioSpace
  deriving DecidableEq, Repr

/-- An entry of the table of base addresses. The program probes the size of a memory range but
does not keep it. -/
structure PciBar where
  address : Nat
  barType : PciBarType
  size : Nat
  deriving DecidableEq, Repr

def PciBar.default : PciBar := ⟨0, .unused, 0⟩

/-- The accesses so far, the MMIO cursors and the table of base addresses by index. -/
structure PciDevice where
  log : List ConfigAccess
  cursors : Cursors
  bars : Nat → PciBar

def PciDevice.new (log : List ConfigAccess) (cursors : Cursors) : PciDevice :=
  ⟨log, cursors, fun _ => .default⟩

abbrev PciProgram (α : Type) := Program PciDevice (Bounded PciError) α

section

variable (host : Host)

/-- The space of a device starts at a page, so that the offset alone decides the alignment. -/
def readConfig (width offset : Nat) : PciProgram Nat := do
  ensure (offset % width = 0) (.failed .misaligned)
  update fun s => { s with log := .read width offset :: s.log }
  observe fun s => host s.log % 2 ^ (8 * width)

def writeConfig (width offset value : Nat) : PciProgram Unit := do
  ensure (offset % width = 0) (.failed .misaligned)
  update fun s => { s with log := .write width offset value :: s.log }

abbrev readU16 (offset : Nat) : PciProgram Nat := readConfig host 2 offset
abbrev readU32 (offset : Nat) : PciProgram Nat := readConfig host 4 offset
abbrev writeU16 (offset value : Nat) : PciProgram Unit := writeConfig 2 offset value
abbrev writeU32 (offset value : Nat) : PciProgram Unit := writeConfig 4 offset value

/-- The two's complement of the writable bits; no writable bit means no size. -/
def sizeOfMask (width masked : Nat) : Nat := if masked = 0 then 0 else 2 ^ width - masked

abbrev getBarSize (offset : Nat) : PciProgram Nat := do
  let restore ← readU32 host offset
  writeU32 offset 0xffffffff
  let size ← readU32 host offset
  writeU32 offset restore
  return sizeOfMask 32 (andNot size 15)

/-- The two halves of a 64-bit register, the lower one first. -/
abbrev readPair (offset : Nat) : PciProgram (Nat × Nat) := do
  let low ← readU32 host offset
  let high ← readU32 host (offset + 4)
  return (low, high)

abbrev writePair (offset low high : Nat) : PciProgram Unit := do
  writeU32 offset low
  writeU32 (offset + 4) high

abbrev getBarSize64 (offset : Nat) : PciProgram Nat := do
  let restore ← readPair host offset
  writePair offset 0xffffffff 0xffffffff
  let size ← readPair host offset
  writePair offset restore.1 restore.2
  return sizeOfMask 64 (size.2 * 2 ^ 32 + andNot size.1 15)

def allocate (alloc : Cursors → Except PciError (Nat × Cursors)) : PciProgram Nat := fun s =>
  match alloc s.cursors with
  | .ok (addr, cursors) => (.ok addr, { s with cursors })
  | .error e => (.error (.failed e), s)

/-- Take an address and store it in the register; a size that cannot be probed takes none. -/
abbrev assign (alloc : Nat → Cursors → Except PciError (Nat × Cursors))
    (store : Nat → PciProgram Unit) (size : Nat) : PciProgram Nat :=
  if 0 < size then do
    let addr ← allocate (alloc size)
    store addr
    return addr
  else pure 0

abbrev assign32 (offset size : Nat) : PciProgram Nat := assign allocMmio32 (writeU32 offset) size

abbrev assign64 (offset size : Nat) : PciProgram Nat :=
  assign allocMmio64 (fun addr => writePair offset (addr % 2 ^ 32) (addr / 2 ^ 32)) size

abbrev setBar (index : Nat) (bar : PciBar) : PciProgram Unit :=
  update fun s => { s with bars := Function.update s.bars index bar }

abbrev initMemory (barType : PciBarType) (probe : PciProgram Nat) (assignTo : Nat → PciProgram Nat)
    (index : Nat) : PciProgram Unit := do
  let size ← probe
  let addr ← assignTo size
  setBar index ⟨andNot addr 15, barType, size⟩

abbrev initMemory32 (offset index : Nat) : PciProgram Unit :=
  initMemory .memorySpace32 (getBarSize host offset) (assign32 offset) index

abbrev initMemory64 (offset index : Nat) : PciProgram Unit :=
  initMemory .memorySpace64 (getBarSize64 host offset) (assign64 offset) index

/-- One turn of the loop over the registers, for the value that the register shows. A 64-bit
register takes two places in the space and one in the table. -/
def barTurn (next : Nat → Nat → PciProgram Unit) (offset index bar : Nat) : PciProgram Unit :=
  if bar % 2 = 1 then do
    setBar index ⟨andNot bar 3, .ioSpace, 0⟩
    next (offset + 4) (index + 1)
  else if bar / 2 % 4 = 0 then do
    initMemory32 host offset index
    next (offset + 4) (index + 1)
  else if bar / 2 % 4 = 2 then do
    initMemory64 host offset index
    next (offset + 8) (index + 1)
  else raise (.failed .invalidBarType)

def initBars : Nat → Nat → Nat → PciProgram Unit
  | 0, _, _ => raise .diverged
  | turns + 1, offset, index =>
    if offset ≤ 0x24 then do
      let bar ← readU32 host offset
      barTurn host (initBars turns) offset index bar
    else pure ()

/-- Vendor, device, command and status are only logged. -/
def init : PciProgram Unit := do
  let _ ← readU32 host 0
  let _ ← readU16 host 4
  let _ ← readU16 host 6
  initBars host 7 0x10 0
  writeU16 4 7

end

def Quiet (s t : PciDevice) : Prop := ∃ log, t = { s with log }

instance : Std.Refl Quiet := ⟨fun s => ⟨s.log, rfl⟩⟩

instance : IsTrans PciDevice Quiet := by
  constructor
  rintro s t u ⟨log, rfl⟩ ⟨log', rfl⟩
  exact ⟨log', rfl⟩

variable {s t : PciDevice} {offset size addr index : Nat}

section

variable {host : Host}

theorem keeps_record (access : ConfigAccess) :
    Keeps Quiet (update fun s : PciDevice => { s with log := access :: s.log } : PciProgram Unit) :=
  keeps_update fun s => ⟨access :: s.log, rfl⟩

instance (width : Nat) : Keeps Quiet (readConfig host width offset) := by
  have hrecord := keeps_record (.read width offset)
  unfold readConfig
  infer_instance

instance (width value : Nat) : Keeps Quiet (writeConfig width offset value) := by
  have hrecord := keeps_record (.write width offset value)
  unfold writeConfig
  infer_instance

end

end MigTd.Pci.Config
