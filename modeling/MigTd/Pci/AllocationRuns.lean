/- source: mmio.rs
   digest: Runs of the two MMIO allocators in fixed-width arithmetic. -/

import MigTd.Lib.StateProgram
import MigTd.Pci.Mmio

set_option autoImplicit false

namespace MigTd.Pci.AllocationRuns

open Lib.StateProgram Mmio

/-! The functions on machine words. Sums that are not checked wrap around. -/

/-- `(addr.checked_add(align)? - 1) & !(align - 1)` -/
def alignUpWord (addr align : UInt64) : Option UInt64 :=
  if align = 0 then none
  else if 2 ^ 64 ≤ addr.toNat + align.toNat then none
  else some ((addr + align - 1) &&& ~~~(align - 1))

structure WordCursors where
  mmio32 : UInt32
  mmio64 : UInt64
  deriving DecidableEq, Repr

def initWords (memoryMap : List MemoryRange) : Option WordCursors :=
  (initMmio memoryMap).map fun c => ⟨.ofNat c.mmio32, .ofNat c.mmio64⟩

abbrev MmioProgram (α : Type) : Type := Program WordCursors PciError α

/-- The address is cut down to 32 bits after the check, and so is the difference in it. -/
def allocMmio32Word (size : UInt32) : MmioProgram UInt32 := do
  let cur ← observe WordCursors.mmio32
  let addr ← lift (orElse (alignUpWord cur.toUInt64 size.toUInt64) .invalidParameter)
  ensure (¬(0x20000000 < size ∨ (0xC0000000 + 0x20000000 - size).toUInt64 < addr))
    .mmioOutofResource
  ensure (addr.toUInt32.toNat + size.toNat < 2 ^ 32) .invalidParameter
  update fun c => { c with mmio32 := addr.toUInt32 + size }
  return addr.toUInt32

def allocMmio64Word (size : UInt64) : MmioProgram UInt64 := do
  let cur ← observe WordCursors.mmio64
  let addr ← lift (orElse (alignUpWord cur size) .invalidParameter)
  ensure (¬(0x40000000 < size ∨ 0x100000000 + 0x40000000 - size < addr)) .mmioOutofResource
  ensure (addr.toNat + size.toNat < 2 ^ 64) .invalidParameter
  update fun c => { c with mmio64 := addr + size }
  return addr

theorem toNat_and_not (x mask : UInt64) : (x &&& ~~~mask).toNat = andNot x.toNat mask.toNat := by
  have hapart : (x.toBitVec &&& ~~~mask.toBitVec) &&& (x.toBitVec &&& mask.toBitVec) = 0 := by
    ext i
    simp only [BitVec.getElem_and, BitVec.getElem_not]
    cases x.toBitVec[i] <;> cases mask.toBitVec[i] <;> simp
  have hjoin : (x.toBitVec &&& ~~~mask.toBitVec) ||| (x.toBitVec &&& mask.toBitVec) =
      x.toBitVec := by
    ext i
    simp only [BitVec.getElem_or, BitVec.getElem_and, BitVec.getElem_not]
    cases x.toBitVec[i] <;> cases mask.toBitVec[i] <;> rfl
  have hsum := BitVec.toNat_add_of_and_eq_zero hapart
  rw [BitVec.add_eq_or_of_and_eq_zero _ _ hapart, hjoin] at hsum
  have hand : (x.toBitVec &&& mask.toBitVec).toNat = x.toNat &&& mask.toNat :=
    BitVec.toNat_and _ _
  have hx : x.toNat = (x &&& ~~~mask).toNat + (x.toNat &&& mask.toNat) := by
    rw [← hand]
    exact hsum
  rw [andNot]
  omega

theorem alignUpWord_toNat (addr align : UInt64) :
    (alignUpWord addr align).map UInt64.toNat = alignUp addr.toNat align.toNat := by
  unfold alignUpWord alignUp
  by_cases hzero : align = 0
  · rw [if_pos hzero, if_pos (by rw [hzero]; rfl)]
    rfl
  · have hpos : align.toNat ≠ 0 := fun h => hzero (UInt64.toNat.inj h)
    rw [if_neg hzero, if_neg hpos]
    by_cases hover : 2 ^ 64 ≤ addr.toNat + align.toNat
    · rw [if_pos hover, if_pos hover]
      rfl
    · rw [if_neg hover, if_neg hover, Option.map_some, toNat_and_not]
      have hsum : (addr + align - 1).toNat = addr.toNat + align.toNat - 1 := by
        rw [UInt64.toNat_sub_of_le, UInt64.toNat_add]
        · have hone : (1 : UInt64).toNat = 1 := rfl
          rw [hone]
          omega
        · rw [UInt64.le_iff_toNat_le, UInt64.toNat_add]
          have hone : (1 : UInt64).toNat = 1 := rfl
          rw [hone]
          omega
      have hmask : (align - 1).toNat = align.toNat - 1 := by
        rw [UInt64.toNat_sub_of_le]
        · rfl
        · rw [UInt64.le_iff_toNat_le]
          have hone : (1 : UInt64).toNat = 1 := rfl
          rw [hone]
          omega
      rw [hsum, hmask]

theorem dvd_alignUp {addr aligned k : Nat} (h : alignUp addr (2 ^ k) = some aligned) :
    2 ^ k ∣ aligned := by
  unfold alignUp at h
  split_ifs at h with hzero hover
  have heq : aligned = andNot (addr + 2 ^ k - 1) (2 ^ k - 1) := (Option.some.inj h).symm
  rw [heq, andNot, Nat.and_two_pow_sub_one_eq_mod]
  exact Nat.dvd_sub_mod _

inductive Request where
  | mmio32 (size : UInt32)
  | mmio64 (size : UInt64)
  deriving DecidableEq, Repr

namespace Request

def size : Request → Nat
  | mmio32 size => size.toNat
  | mmio64 size => size.toNat

def start : Request → Nat
  | mmio32 _ => MMIO32_START
  | mmio64 _ => MMIO64_START

def stop : Request → Nat
  | mmio32 _ => MMIO32_START + MMIO32_SIZE
  | mmio64 _ => MMIO64_START + MMIO64_SIZE

def cursor (c : WordCursors) : Request → Nat
  | mmio32 _ => c.mmio32.toNat
  | mmio64 _ => c.mmio64.toNat

def alloc : Request → MmioProgram Nat
  | mmio32 size => do
    let addr ← allocMmio32Word size
    return addr.toNat
  | mmio64 size => do
    let addr ← allocMmio64Word size
    return addr.toNat

end Request

theorem granting_run {ω : Type} (found : Option UInt64) (full fits : UInt64 → Prop)
    [DecidablePred full] [DecidablePred fits] (word : UInt64 → ω)
    (put : UInt64 → WordCursors → WordCursors) (c : WordCursors)
    {start windowSize width cursor size : Nat}
    (hfound : found.map UInt64.toNat = alignUp cursor size)
    (hfull : ∀ a, full a ↔ windowSize < size ∨ start + windowSize - size < a.toNat)
    (hfits : ∀ a, ¬full a → fits a ∧ a.toNat + size < 2 ^ width) :
    let granting : MmioProgram ω := do
      let a ← lift (orElse found .invalidParameter)
      ensure (¬full a) .mmioOutofResource
      ensure (fits a) .invalidParameter
      update (put a)
      return word a
    (∀ n, allocIn start windowSize width cursor size = .ok n →
      ∃ a, a.toNat = n ∧ ¬full a ∧ granting c = (.ok (word a), put a c)) ∧
    ∀ e, allocIn start windowSize width cursor size = .error e → granting c = (.error e, c) := by
  intro granting
  rw [allocIn, ← hfound]
  cases found with
  | none =>
    refine ⟨fun n hn => (by cases hn), fun e he => ?_⟩
    cases he
    rfl
  | some a =>
    rw [Option.map_some]
    dsimp only
    by_cases hno : full a
    · rw [if_pos ((hfull a).mp hno)]
      refine ⟨fun n hn => (by cases hn), fun e he => ?_⟩
      cases he
      refine bind_error.mpr (.inr ⟨a, c, rfl, bind_error.mpr (.inl ?_)⟩)
      rw [ensure, if_neg (not_not.mpr hno)]
      rfl
    · obtain ⟨hfit, hsmall⟩ := hfits a hno
      rw [if_neg fun h => hno ((hfull a).mpr h), if_neg (Nat.not_le.mpr hsmall)]
      refine ⟨fun n hn => ⟨a, Except.ok.inj hn, hno, ?_⟩, fun e he => (by cases he)⟩
      refine bind_ok.mpr ⟨a, c, rfl, bind_ok.mpr ⟨(), c, ensure_ok.mpr ⟨hno, rfl⟩, ?_⟩⟩
      exact bind_ok.mpr ⟨(), c, ensure_ok.mpr ⟨hfit, rfl⟩, rfl⟩

theorem full32_iff (size : UInt32) (a : UInt64) :
    (0x20000000 < size ∨ (0xC0000000 + 0x20000000 - size).toUInt64 < a) ↔
      MMIO32_SIZE < size.toNat ∨ MMIO32_START + MMIO32_SIZE - size.toNat < a.toNat := by
  have hlarge : 0x20000000 < size ↔ MMIO32_SIZE < size.toNat := UInt32.lt_iff_toNat_lt
  rw [hlarge]
  refine or_congr_right' fun hsmall => ?_
  have hsum : (0xC0000000 + 0x20000000 : UInt32) = 0xE0000000 := by decide
  have hword : (0xE0000000 : UInt32).toNat = MMIO32_START + MMIO32_SIZE := by decide
  have hfits : size ≤ 0xE0000000 := by
    rw [UInt32.le_iff_toNat_le, hword]
    omega
  rw [hsum, UInt64.lt_iff_toNat_lt, UInt32.toNat_toUInt64, UInt32.toNat_sub_of_le _ _ hfits, hword]

theorem full64_iff (size a : UInt64) : (0x40000000 < size ∨ 0x100000000 + 0x40000000 - size < a) ↔
      MMIO64_SIZE < size.toNat ∨ MMIO64_START + MMIO64_SIZE - size.toNat < a.toNat := by
  have hlarge : 0x40000000 < size ↔ MMIO64_SIZE < size.toNat := UInt64.lt_iff_toNat_lt
  rw [hlarge]
  refine or_congr_right' fun hsmall => ?_
  have hsum : (0x100000000 + 0x40000000 : UInt64) = 0x140000000 := by decide
  have hword : (0x140000000 : UInt64).toNat = MMIO64_START + MMIO64_SIZE := by decide
  have hfits : size ≤ 0x140000000 := by
    rw [UInt64.le_iff_toNat_le, hword]
    omega
  rw [hsum, UInt64.lt_iff_toNat_lt, UInt64.toNat_sub_of_le _ _ hfits, hword]

theorem alignUp_of_allocIn {start windowSize width cursor size addr : Nat}
    (h : allocIn start windowSize width cursor size = .ok addr) :
    alignUp cursor size = some addr := by
  unfold allocIn at h
  split at h
  · cases h
  · rename_i found halign
    split_ifs at h
    rw [halign, Except.ok.inj h]

namespace Request

variable {r : Request} {c c' : WordCursors} {base : Nat}

/-- What the window of a request has for it, in numbers. -/
def reserve (c : WordCursors) : Request → Except PciError Nat
  | mmio32 size => allocIn MMIO32_START MMIO32_SIZE 32 c.mmio32.toNat size.toNat
  | mmio64 size => allocIn MMIO64_START MMIO64_SIZE 64 c.mmio64.toNat size.toNat

theorem alloc_run (r : Request) (c : WordCursors) :
    (∀ n, r.reserve c = .ok n → ∃ c', r.alloc c = (.ok n, c') ∧ r.cursor c' = n + r.size ∧
      ∀ other : Request, other.start ≠ r.start → other.cursor c' = other.cursor c) ∧
    ∀ e, r.reserve c = .error e → r.alloc c = (.error e, c) := by
  cases r with
  | mmio32 size =>
    have halign := alignUpWord_toNat c.mmio32.toUInt64 size.toUInt64
    rw [UInt32.toNat_toUInt64, UInt32.toNat_toUInt64] at halign
    have hcut (a : UInt64) (h : ¬(0x20000000 < size ∨
        (0xC0000000 + 0x20000000 - size).toUInt64 < a)) :
        a.toUInt32.toNat = a.toNat ∧ a.toNat + size.toNat < 2 ^ 32 := by
      rw [full32_iff, MMIO32_START, MMIO32_SIZE] at h
      rw [UInt64.toNat_toUInt32]
      omega
    obtain ⟨hok, herror⟩ := granting_run _ _
      (fun a => a.toUInt32.toNat + size.toNat < 2 ^ 32) UInt64.toUInt32
      (fun a c => { c with mmio32 := a.toUInt32 + size }) c halign (full32_iff size) fun a h =>
        ⟨by rw [(hcut a h).1]; exact (hcut a h).2, (hcut a h).2⟩
    refine ⟨fun n hn => ?_, fun e he => bind_error.mpr (.inl (herror e he))⟩
    obtain ⟨a, rfl, hroom, hrun⟩ := hok n hn
    obtain ⟨hword, hsmall⟩ := hcut a hroom
    refine ⟨_, bind_ok.mpr ⟨_, _, hrun, pure_ok.mpr ⟨hword, rfl⟩⟩, ?_, fun other hne => ?_⟩
    · change (a.toUInt32 + size).toNat = a.toNat + size.toNat
      rw [UInt32.toNat_add, hword]
      omega
    · cases other with
      | mmio32 _ => exact absurd rfl hne
      | mmio64 _ => rfl
  | mmio64 size =>
    have hsmall (a : UInt64) (h : ¬(0x40000000 < size ∨ 0x100000000 + 0x40000000 - size < a)) :
        a.toNat + size.toNat < 2 ^ 64 := by
      rw [full64_iff, MMIO64_START, MMIO64_SIZE] at h
      omega
    obtain ⟨hok, herror⟩ := granting_run _ _
      (fun a => a.toNat + size.toNat < 2 ^ 64) id (fun a c => { c with mmio64 := a + size }) c
      (alignUpWord_toNat c.mmio64 size) (full64_iff size) fun a h => ⟨hsmall a h, hsmall a h⟩
    refine ⟨fun n hn => ?_, fun e he => bind_error.mpr (.inl (herror e he))⟩
    obtain ⟨a, rfl, hroom, hrun⟩ := hok n hn
    refine ⟨_, bind_ok.mpr ⟨_, _, hrun, rfl⟩, ?_, fun other hne => ?_⟩
    · change (a + size).toNat = a.toNat + size.toNat
      rw [UInt64.toNat_add, Nat.mod_eq_of_lt (hsmall a hroom)]
    · cases other with
      | mmio32 _ => rfl
      | mmio64 _ => exact absurd rfl hne

private theorem reserve_ok {n : Nat} (h : r.reserve c = .ok n) :
    alignUp (r.cursor c) r.size = some n ∧ n + r.size ≤ r.stop := by
  cases r with
  | mmio32 _ => exact ⟨alignUp_of_allocIn h, (allocIn_ok h).2⟩
  | mmio64 _ => exact ⟨alignUp_of_allocIn h, (allocIn_ok h).2⟩

theorem alloc_ok (h : r.alloc c = (.ok base, c')) :
    alignUp (r.cursor c) r.size = some base ∧ base + r.size ≤ r.stop ∧ r.cursor c' = base + r.size ∧
      ∀ other : Request, other.start ≠ r.start → other.cursor c' = other.cursor c := by
  obtain ⟨hok, herror⟩ := alloc_run r c
  cases hreserve : r.reserve c with
  | error e => cases h.symm.trans (herror e hreserve)
  | ok n =>
    obtain ⟨_, hrun, hmoved⟩ := hok n hreserve
    cases h.symm.trans hrun
    obtain ⟨halign, hstop⟩ := reserve_ok hreserve
    exact ⟨halign, hstop, hmoved⟩

theorem alloc_refused {e : PciError} (h : r.alloc c = (.error e, c')) : c' = c := by
  obtain ⟨hok, herror⟩ := alloc_run r c
  cases hreserve : r.reserve c with
  | error e' =>
    cases h.symm.trans (herror e' hreserve)
    rfl
  | ok n =>
    obtain ⟨_, hrun, -⟩ := hok n hreserve
    cases h.symm.trans hrun

end Request

structure Allocation where
  request : Request
  base : Nat
  deriving DecidableEq, Repr

namespace Allocation

def stop (a : Allocation) : Nat := a.base + a.request.size

def InWindow (a : Allocation) : Prop := a.request.start ≤ a.base ∧ a.stop ≤ a.request.stop

def Apart (a b : Allocation) : Prop := a.stop ≤ b.base ∨ b.stop ≤ a.base

/-- A range whose size is a power of two starts at a multiple of it. -/
def Aligned (a : Allocation) : Prop := ∀ k, a.request.size = 2 ^ k → a.request.size ∣ a.base

end Allocation

/-- The cursors, with the ranges that were handed out so far. -/
structure Service where
  cursors : WordCursors
  granted : List Allocation
  deriving DecidableEq, Repr

def serve (s : Service) (r : Request) : Service :=
  match r.alloc s.cursors with
  | (.ok base, cursors) => ⟨cursors, s.granted ++ [⟨r, base⟩]⟩
  | (.error _, cursors) => ⟨cursors, s.granted⟩

def run (c : WordCursors) (requests : List Request) : Service := requests.foldl serve ⟨c, []⟩

/-- The cursors lie behind the start of their windows, and every range lies in front of its
cursor. -/
structure Behind (s : Service) : Prop where
  start : ∀ r : Request, r.start ≤ r.cursor s.cursors
  window : ∀ a ∈ s.granted, a.InWindow
  cursor : ∀ a ∈ s.granted, a.stop ≤ a.request.cursor s.cursors
  apart : s.granted.Pairwise Allocation.Apart
  aligned : ∀ a ∈ s.granted, a.Aligned

theorem behind_init {memoryMap : List MemoryRange} {c : WordCursors}
    (h : initWords memoryMap = some c) : Behind ⟨c, []⟩ := by
  unfold initWords initMmio at h
  split_ifs at h with hclear
  · cases h
    refine ⟨fun r => ?_, nofun, nofun, List.Pairwise.nil, nofun⟩
    cases r with
    | mmio32 size => exact Nat.le_refl MMIO32_START
    | mmio64 size => exact Nat.le_refl MMIO64_START
  · cases h

theorem windows_apart {r r' : Request} (h : r'.start ≠ r.start) :
    r.stop ≤ r'.start ∨ r'.stop ≤ r.start := by
  cases r with
  | mmio32 _ =>
    cases r' with
    | mmio32 _ => exact absurd rfl h
    | mmio64 _ => exact .inl (by decide : MMIO32_START + MMIO32_SIZE ≤ MMIO64_START)
  | mmio64 _ =>
    cases r' with
    | mmio32 _ => exact .inr (by decide : MMIO32_START + MMIO32_SIZE ≤ MMIO64_START)
    | mmio64 _ => exact absurd rfl h

theorem cursor_congr {r r' : Request} (h : r'.start = r.start) (c : WordCursors) :
    r'.cursor c = r.cursor c := by
  cases r with
  | mmio32 _ =>
    cases r' with
    | mmio32 _ => rfl
    | mmio64 _ => exact absurd h (by decide : MMIO64_START ≠ MMIO32_START)
  | mmio64 _ =>
    cases r' with
    | mmio32 _ => exact absurd h (by decide : MMIO32_START ≠ MMIO64_START)
    | mmio64 _ => rfl

theorem Behind.serve {s : Service} (hs : Behind s) (r : Request) : Behind (serve s r) := by
  unfold AllocationRuns.serve
  cases hrun : r.alloc s.cursors with
  | mk outcome c =>
    cases outcome with
    | error e =>
      obtain rfl := Request.alloc_refused hrun
      exact hs
    | ok base =>
      obtain ⟨halign, hstop, hcursor, hother⟩ := Request.alloc_ok hrun
      have hle : r.cursor s.cursors ≤ base := le_alignUp halign
      -- Every cursor has moved up or stayed.
      have hmoved : ∀ r' : Request, r'.cursor s.cursors ≤ r'.cursor c := by
        intro r'
        by_cases hsame : r'.start = r.start
        · rw [cursor_congr hsame, cursor_congr hsame, hcursor]
          omega
        · rw [hother r' hsame]
      have hwindow : Allocation.InWindow ⟨r, base⟩ := ⟨(hs.start r).trans hle, hstop⟩
      have hbehind : ∀ a ∈ s.granted, Allocation.Apart a ⟨r, base⟩ := by
        intro a ha
        by_cases hsame : a.request.start = r.start
        · have hfront := hs.cursor a ha
          rw [cursor_congr hsame] at hfront
          exact .inl (hfront.trans hle)
        · obtain ⟨hlow, hhigh⟩ := hs.window a ha
          rcases windows_apart hsame with hup | hdown
          · exact .inr (hstop.trans (hup.trans hlow))
          · exact .inl (hhigh.trans (hdown.trans hwindow.1))
      refine ⟨fun r' => (hs.start r').trans (hmoved r'), ?_, ?_, ?_, ?_⟩
      · intro a ha
        rcases List.mem_append.mp ha with hold | hnew
        · exact hs.window a hold
        · rw [List.mem_singleton.mp hnew]
          exact hwindow
      · intro a ha
        rcases List.mem_append.mp ha with hold | hnew
        · exact (hs.cursor a hold).trans (hmoved a.request)
        · rw [List.mem_singleton.mp hnew]
          exact hcursor.ge
      · refine List.pairwise_append.mpr ⟨hs.apart, List.pairwise_singleton _ _, ?_⟩
        intro a ha b hb
        rw [List.mem_singleton.mp hb]
        exact hbehind a ha
      · intro a ha
        rcases List.mem_append.mp ha with hold | hnew
        · exact hs.aligned a hold
        · rw [List.mem_singleton.mp hnew]
          intro k hk
          have hpower : r.size = 2 ^ k := hk
          rw [hpower] at halign
          rw [hk]
          exact dvd_alignUp halign

private theorem behind_run {c : WordCursors} (h : Behind ⟨c, []⟩) (requests : List Request) :
    Behind (run c requests) := by
  unfold run
  generalize (⟨c, []⟩ : Service) = s at h ⊢
  induction requests generalizing s with
  | nil => exact h
  | cons r rest ih => exact ih (serve s r) (h.serve r)

/-- After every sequence of requests behind `init_mmio`, the ranges that were handed out lie in
their windows, apart from each other and aligned, and a request that is refused then leaves the
cursors as they are. -/
theorem mmio_allocations_sound (memoryMap : List MemoryRange) (c : WordCursors)
    (hinit : initWords memoryMap = some c) (requests : List Request) :
    (∀ a ∈ (run c requests).granted, a.InWindow ∧ a.Aligned) ∧
      (run c requests).granted.Pairwise Allocation.Apart ∧
      ∀ (r : Request) (e : PciError), (r.alloc (run c requests).cursors).1 = .error e →
        (r.alloc (run c requests).cursors).2 = (run c requests).cursors := by
  have hs := behind_run (behind_init hinit) requests
  refine ⟨fun a ha => ⟨hs.window a ha, hs.aligned a ha⟩, hs.apart, fun r e he => ?_⟩
  exact Request.alloc_refused (Prod.ext he rfl)

/-- Four requests of the two kinds, of which the third is refused. -/
theorem mmio_allocations_sound_four : initWords [⟨0, 0x80000000⟩] = some ⟨0xC0000000, 0x100000000⟩ ∧
      (run ⟨0xC0000000, 0x100000000⟩
        [.mmio32 0x1000, .mmio64 0x4000, .mmio32 0x20000000, .mmio32 0x300]).granted =
        [⟨.mmio32 0x1000, 0xC0000000⟩, ⟨.mmio64 0x4000, 0x100000000⟩, ⟨.mmio32 0x300, 0xC0001000⟩] ∧
      (run ⟨0xC0000000, 0x100000000⟩
        [.mmio32 0x1000, .mmio64 0x4000, .mmio32 0x20000000, .mmio32 0x300]).granted.Pairwise
        Allocation.Apart :=
  ⟨by decide, by decide +kernel, (mmio_allocations_sound [⟨0, 0x80000000⟩]
    ⟨0xC0000000, 0x100000000⟩ (by decide)
    [.mmio32 0x1000, .mmio64 0x4000, .mmio32 0x20000000, .mmio32 0x300]).2.1⟩

end MigTd.Pci.AllocationRuns
