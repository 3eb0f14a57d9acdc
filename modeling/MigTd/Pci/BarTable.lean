/- source: pci/src/config.rs
   digest: Which register of the device an entry of the table of base addresses describes. -/

import MigTd.Pci.Config

set_option synthInstance.maxSize 2000

set_option autoImplicit false

namespace MigTd.Pci.BarTable

open Lib.StateProgram Mmio Config

/-- The loop of `init` with every entry kept under the number of its register. -/
def initBarsMeant (host : Host) : Nat → Nat → PciProgram Unit
  | 0, _ => raise .diverged
  | turns + 1, offset =>
    if offset ≤ 0x24 then do
      let bar ← readU32 host offset
      barTurn host (fun offset _ => initBarsMeant host turns offset) offset
        ((offset - 0x10) / 4) bar
    else pure ()

/-- What the device means: the accesses of `init`, with the entry of the register at offset
`0x10 + 4 * i` under the index `i`. -/
def initMeant (host : Host) : PciProgram Unit := do
  let _ ← readU32 host 0
  let _ ← readU16 host 4
  let _ ← readU16 host 6
  initBarsMeant host 7 0x10
  writeU16 4 7

abbrev Table := Nat → PciBar

/-- The program runs in the same way whatever the table holds, and leaves it as it is. -/
class Blind {α : Type} (m : PciProgram α) : Prop where
  run : ∀ s (bars : Table), m { s with bars } = ((m s).1, { (m s).2 with bars })

section

variable {α β : Type} {host : Host} {offset : Nat}

instance (a : α) : Blind (pure a : PciProgram α) := ⟨fun _ _ => rfl⟩

instance (m : PciProgram α) (f : α → PciProgram β) [hm : Blind m] [hf : ∀ a, Blind (f a)] :
    Blind (m >>= f) := by
  constructor
  intro s bars
  have moved := hm.run s bars
  rcases ran : m s with ⟨_ | a, t⟩
  · rw [ran] at moved
    rw [run_bind_error ran, run_bind_error moved]
  · rw [ran] at moved
    rw [run_bind_ok ran, run_bind_ok moved]
    exact (hf a).run t bars

instance (c : Prop) [Decidable c] (m n : PciProgram α) [Blind m] [Blind n] :
    Blind (if c then m else n) := by
  split <;> assumption

instance (width : Nat) : Blind (readConfig host width offset) := by
  constructor
  intro s bars
  by_cases aligned : offset % width = 0
  · simp only [readConfig, ensure, if_pos aligned]
    rfl
  · simp only [readConfig, ensure, if_neg aligned]
    rfl

instance (width value : Nat) : Blind (writeConfig width offset value) := by
  constructor
  intro s bars
  by_cases aligned : offset % width = 0
  · simp only [writeConfig, ensure, if_pos aligned]
    rfl
  · simp only [writeConfig, ensure, if_neg aligned]
    rfl

instance (alloc : Cursors → Except PciError (Nat × Cursors)) : Blind (allocate alloc) := by
  constructor
  intro s bars
  unfold allocate
  dsimp only
  rcases alloc s.cursors with _ | ⟨addr, cursors⟩ <;> rfl

theorem Blind.ok {m : PciProgram α} (blind : Blind m) {s t : PciDevice} {a : α}
    (h : m s = (.ok a, t)) (bars : Table) : m { s with bars } = (.ok a, { t with bars }) := by
  rw [blind.run, h]

end

def width (b : PciBar) : Nat := if b.barType = .memorySpace64 then 2 else 1

variable {host : Host} {s t : PciDevice} {offset index bar turns : Nat}

theorem initMemory_found {barType : PciBarType} {probe : PciProgram Nat}
    {assignTo : Nat → PciProgram Nat} [hp : Blind probe] [ha : ∀ size, Blind (assignTo size)]
    (h : initMemory barType probe assignTo index s = (.ok (), t)) :
    ∃ (b : PciBar) (v : PciDevice), b.barType = barType ∧ ∀ bars i,
      initMemory barType probe assignTo i { s with bars } =
        (.ok (), { v with bars := Function.update bars i b }) := by
  obtain ⟨size, u, probed, rest⟩ := bind_ok.mp h
  obtain ⟨addr, v, assigned, -⟩ := bind_ok.mp rest
  refine ⟨⟨andNot addr 15, barType, size⟩, v, rfl, ?_⟩
  intro bars i
  rw [initMemory, run_bind_ok (hp.ok probed bars), run_bind_ok ((ha size).ok assigned bars)]
  rfl

theorem barTurn_found {next : Nat → Nat → PciProgram Unit}
    (h : barTurn host next offset index bar s = (.ok (), t)) :
    ∃ (b : PciBar) (v : PciDevice), ∀ (next' : Nat → Nat → PciProgram Unit) bars i,
      barTurn host next' offset i bar { s with bars } =
        next' (offset + 4 * width b) (i + 1) { v with bars := Function.update bars i b } := by
  unfold barTurn at h ⊢
  split_ifs at h ⊢ with io narrow wide
  · exact ⟨⟨andNot bar 3, .ioSpace, 0⟩, s, fun _ _ _ => rfl⟩
  · obtain ⟨_, u, ran, -⟩ := bind_ok.mp h
    obtain ⟨b, v, kind, found⟩ := initMemory_found ran
    refine ⟨b, v, fun next' bars i => ?_⟩
    rw [run_bind_ok (found bars i), width, kind]
    rfl
  · obtain ⟨_, u, ran, -⟩ := bind_ok.mp h
    obtain ⟨b, v, kind, found⟩ := initMemory_found ran
    refine ⟨b, v, fun next' bars i => ?_⟩
    rw [run_bind_ok (found bars i), width, kind]
    rfl
  · cases h

/-- The entries one after the other from an index on, each a step behind the one before. -/
def laid (step : PciBar → Nat) : Nat → List PciBar → Table → Table
  | _, [], bars => bars
  | i, b :: rest, bars => laid step (i + step b) rest (Function.update bars i b)

/-- The base addresses found from a register on fill the six registers. -/
inductive Layout : Nat → List PciBar → Prop
  | nil {r : Nat} (ends : 6 ≤ r) : Layout r []
  | cons {r : Nat} {b : PciBar} {rest : List PciBar} (inside : r < 6)
      (later : Layout (r + width b) rest) : Layout r (b :: rest)

theorem initBars_found {r : Nat} (h : initBars host turns (0x10 + 4 * r) index s = (.ok (), t)) :
    ∃ found, Layout r found ∧ t.bars = laid (fun _ => 1) index found s.bars ∧
      ∀ bars, initBarsMeant host turns (0x10 + 4 * r) { s with bars } =
        (.ok (), { t with bars := laid width r found bars }) := by
  induction turns generalizing r index s with
  | zero => cases h
  | succ turns ih =>
    unfold initBars at h
    unfold initBarsMeant
    split_ifs at h ⊢ with inside
    · obtain ⟨bar, u, read, turn⟩ := bind_ok.mp h
      obtain ⟨b, v, found⟩ := barTurn_found turn
      have here : (0x10 + 4 * r - 0x10) / 4 = r := by omega
      have next : 0x10 + 4 * r + 4 * width b = 0x10 + 4 * (r + width b) := by omega
      have kept : u.bars = s.bars := by
        obtain ⟨log, rfl⟩ := Keeps.of_ok (R := Quiet) inferInstance read
        rfl
      rw [show u = { u with bars := u.bars } from rfl, found, next] at turn
      obtain ⟨rest, layout, actual, meant⟩ := ih turn
      refine ⟨b :: rest, .cons (by omega) layout, by rw [actual, kept]; rfl, fun bars => ?_⟩
      rw [run_bind_ok (Blind.ok inferInstance read bars), found, here, next]
      exact meant _
    · obtain ⟨-, rfl⟩ := pure_ok.mp h
      exact ⟨[], .nil (by omega), rfl, fun _ => rfl⟩

section

variable {β : Type} (f : PciBar → β) {step : PciBar → Nat} {i j r k : Nat} {found : List PciBar}
  {bars meant : Table}

theorem laid_before (h : k < i) : laid step i found bars k = bars k := by
  induction found generalizing i bars with
  | nil => rfl
  | cons b rest ih => rw [laid, ih (by omega), Function.update_of_ne (by omega)]

theorem laid_first (b : PciBar) (rest : List PciBar) (h : 0 < step b) :
    laid step i (b :: rest) bars i = b := by
  rw [laid, laid_before (by omega), Function.update_self]

theorem width_pos (b : PciBar) : 0 < width b := by
  unfold width
  split <;> omega

/-- From an index on, the table shows what an absent entry shows. -/
abbrev Blank (i : Nat) (bars : Table) : Prop := ∀ k, i ≤ k → f (bars k) = f .default

variable {f}

theorem Blank.update (h : Blank f i bars) (b : PciBar) (hk : k < j) (hi : i ≤ j) :
    Blank f j (Function.update bars k b) := by
  intro n hn
  rw [Function.update_of_ne (by omega)]
  exact h n (by omega)

theorem laid_blank (h : Blank f i bars) (shown : ∀ b ∈ found, f b = f .default) :
    Blank f i (laid step j found bars) := by
  induction found generalizing j bars with
  | nil => exact h
  | cons b rest ih =>
    refine ih (fun k hk => ?_) fun c hc => shown c (List.mem_cons_of_mem _ hc)
    by_cases same : k = j
    · rw [same, Function.update_self]
      exact shown b List.mem_cons_self
    · rw [Function.update_of_ne same]
      exact h k hk

theorem laid_mem (layout : Layout r found) (bars : Table) {b : PciBar} (hb : b ∈ found) :
    ∃ k, r ≤ k ∧ k < 6 ∧ laid width r found bars k = b := by
  induction layout generalizing bars with
  | nil => cases hb
  | @cons r c rest inside later ih =>
    rcases List.mem_cons.mp hb with rfl | hb
    · exact ⟨r, le_rfl, inside, laid_first _ _ (width_pos _)⟩
    · obtain ⟨k, low, high, same⟩ := ih _ hb
      exact ⟨k, by omega, high, same⟩

theorem shown_of_lag (layout : Layout r found) (lag : j < r) (hb : Blank f j bars)
    (hm : Blank f j meant)
    (agree : ∀ k < 6, f (laid (fun _ => 1) j found bars k) = f (laid width r found meant k)) :
    ∀ b ∈ found, f b = f .default := by
  induction layout generalizing j bars meant with
  | nil => intro b hb; cases hb
  | @cons r c rest inside later ih =>
    have first : f c = f .default := by
      have here := agree j (by omega)
      rwa [laid_first _ _ Nat.one_pos, laid_before lag, hm j le_rfl] at here
    intro b found
    rcases List.mem_cons.mp found with rfl | found
    · exact first
    · have wide := width_pos c
      refine ih (j := j + 1) (by omega) (hb.update c (by omega) (by omega)) ?_ agree b found
      intro k hk
      by_cases same : k = r
      · rw [same, Function.update_self, first]
      · rw [Function.update_of_ne same]
        exact hm k (by omega)

/-- No entry that shows something stands behind a 64-bit base address. -/
abbrev NoneBehind (f : PciBar → β) (i : Nat) (bars : Table) : Prop :=
  ∀ k r, i ≤ k → (bars k).barType = .memorySpace64 → k + 2 ≤ r → r < 6 → f (bars r) = f .default

theorem laid_agree (layout : Layout i found) (hb : Blank f i bars) :
    (∀ k < 6, f (laid (fun _ => 1) i found bars k) = f (laid width i found bars k)) ↔
      NoneBehind f i (laid width i found bars) := by
  induction layout generalizing bars with
  | nil ends => exact ⟨fun _ k r hk _ hr hr6 => absurd hr6 (by omega), fun _ _ _ => rfl⟩
  | @cons i b rest inside later ih =>
    have first : laid width i (b :: rest) bars i = b := laid_first _ _ (width_pos b)
    by_cases kind : b.barType = .memorySpace64
    · have two : width b = 2 := by rw [width, if_pos kind]
      simp only [laid, two] at first ⊢ later
      have blank := hb.update b (Nat.lt_succ_self i) (Nat.le_succ i)
      constructor
      · intro agree k r hk _ hr _
        refine laid_blank blank ?_ r (by omega)
        exact shown_of_lag later (Nat.lt_succ_self _) blank blank agree
      · intro none k hk
        have shown : ∀ c ∈ rest, f c = f .default := by
          intro c hc
          obtain ⟨r, low, high, rfl⟩ := laid_mem later (Function.update bars i b) hc
          exact none i r le_rfl (by rw [first, kind]) low high
        by_cases before : k ≤ i
        · rw [laid_before (by omega), laid_before (by omega)]
        · rw [laid_blank blank shown k (by omega), laid_blank blank shown k (by omega)]
    · have one : width b = 1 := by rw [width, if_neg kind]
      simp only [laid, one] at first ⊢ later
      rw [one] at ih
      rw [ih (hb.update b (Nat.lt_succ_self i) (Nat.le_succ i))]
      constructor
      · intro none k r hk wide
        refine none k r (lt_of_le_of_ne hk ?_) wide
        rintro rfl
        exact kind (first ▸ wide)
      · exact fun none k r hk => none k r (by omega)

end

theorem init_found {log : List ConfigAccess} {cursors : Cursors}
    (h : init host (.new log cursors) = (.ok (), t)) :
    ∃ found, Layout 0 found ∧ t.bars = laid (fun _ => 1) 0 found (fun _ => .default) ∧
      initMeant host (.new log cursors) =
        (.ok (), { t with bars := laid width 0 found fun _ => .default }) := by
  obtain ⟨_, u, details, rest⟩ := bind_ok.mp h
  obtain ⟨_, v, command, rest⟩ := bind_ok.mp rest
  obtain ⟨_, w, status, rest⟩ := bind_ok.mp rest
  obtain ⟨_, x, ran, wrote⟩ := bind_ok.mp rest
  obtain ⟨found, layout, actual, meant⟩ := initBars_found (r := 0) ran
  have fresh : w.bars = fun _ => .default := by
    obtain ⟨_, rfl⟩ := Keeps.of_ok (R := Quiet) inferInstance details
    obtain ⟨_, rfl⟩ := Keeps.of_ok (R := Quiet) inferInstance command
    obtain ⟨_, rfl⟩ := Keeps.of_ok (R := Quiet) inferInstance status
    rfl
  have kept : t.bars = x.bars := by
    obtain ⟨_, rfl⟩ := Keeps.of_ok (R := Quiet) inferInstance wrote
    rfl
  rw [fresh] at actual
  refine ⟨found, layout, by rw [kept, actual], ?_⟩
  rw [initMeant, run_bind_ok details, run_bind_ok command, run_bind_ok status, ← fresh,
    run_bind_ok (meant w.bars)]
  exact Blind.ok inferInstance wrote _

/-- Whatever the device answers, the table of `init` and the one the device means come from the
same accesses. For every reading of an entry (its address, its type, the whole entry) they agree
exactly when every entry two or more registers behind a 64-bit base address reads as absent. -/
theorem bars_meant_iff {β : Type} (f : PciBar → β) (host : Host) (log : List ConfigAccess)
    (cursors : Cursors) (t : PciDevice) (h : init host (.new log cursors) = (.ok (), t)) :
    ∃ u, initMeant host (.new log cursors) = (.ok (), u) ∧ u.log = t.log ∧ u.cursors = t.cursors ∧
      ((∀ i < 6, f (t.bars i) = f (u.bars i)) ↔
        ∀ i r, (u.bars i).barType = .memorySpace64 → i + 2 ≤ r → r < 6 →
          f (u.bars r) = f .default) := by
  obtain ⟨found, layout, actual, meant⟩ := init_found h
  refine ⟨_, meant, rfl, rfl, ?_⟩
  rw [actual, laid_agree layout fun _ _ => rfl]
  exact ⟨fun none k r => none k r (Nat.zero_le k), fun none k r _ => none k r⟩

/-- A device with a 64-bit range of 64 KiB at offset `0x10` and a 32-bit range of 4 KiB at
offset `0x18`: the registers always show the writable bits. -/
def mixedDevice : Host
  | .read _ 0x10 :: _ => 0xffff0004
  | .read _ 0x14 :: _ => 0xffffffff
  | .read _ 0x18 :: _ => 0xfffff000
  | _ => 0

def mixedStart : PciDevice := .new [] ⟨MMIO32_START, MMIO64_START, le_rfl, le_rfl⟩

/-- The 32-bit range is stored under the index 1; the index 2, by which the device names it,
selects an absent entry. -/
theorem bars_meant_mixed :
    (init mixedDevice mixedStart).1.isOk ∧ (initMeant mixedDevice mixedStart).1.isOk ∧
      (initMeant mixedDevice mixedStart).2.bars 2 = ⟨MMIO32_START, .memorySpace32, 0x1000⟩ ∧
      (init mixedDevice mixedStart).2.bars 1 = ⟨MMIO32_START, .memorySpace32, 0x1000⟩ ∧
      ((init mixedDevice mixedStart).2.bars 2).address = 0 := by
  decide +kernel

theorem bars_meant_iff_mixed : ∃ t, init mixedDevice mixedStart = (.ok (), t) ∧
      ∃ u, initMeant mixedDevice mixedStart = (.ok (), u) ∧
        ((∀ i < 6, (t.bars i).address = (u.bars i).address) ↔
          ∀ i r, (u.bars i).barType = .memorySpace64 → i + 2 ≤ r → r < 6 →
            (u.bars r).address = 0) := by
  have ends : (init mixedDevice mixedStart).1.isOk := by decide +kernel
  obtain ⟨_, done⟩ := exists_ok_of_isOk ends
  obtain ⟨t, ran⟩ := run_of_result done
  obtain ⟨u, meant, -, -, agree⟩ := bars_meant_iff PciBar.address _ _ _ _ ran
  exact ⟨t, ran, u, meant, agree⟩

end MigTd.Pci.BarTable
