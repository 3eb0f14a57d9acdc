/- source: virtqueue.rs
   digest: What a used element returns, and the integrity of a queue over whole runs. -/

import MigTd.Virtio.Loans

set_option autoImplicit false

namespace MigTd.Virtio.Returns

open Lib.Bitmap Lib.SlotPath Lib.StateProgram Loans Queue

/-! The loop of `recycle_descriptors` on a recorded chain. -/

def bufsOf (write : Bool) (entries : List Entry) : List VirtqueueBuf :=
  (entries.filter (·.write == write)).map Entry.buf

def recordedLen (start : Nat) (entries : List Entry) : Nat :=
  entries.foldl (fun n e => saturatingAdd n e.buf.len) start

/-- The slots were taken out of use, their buffers handed back, and the last slot linked to the
old free list. -/
structure Recycled (s s' : PopState) (slots : List Nat) (entries : List Entry) (origin : Nat) :
    Prop where
  queueSize : s'.queue.queueSize = s.queue.queueSize
  freeHead : s'.queue.freeHead = s.queue.freeHead
  numUsed : s'.queue.numUsed = s.queue.numUsed - slots.length
  g2h : s'.g2h = s.g2h ++ bufsOf false entries
  h2g : s'.h2g = s.h2g ++ bufsOf true entries
  inUse : ∀ i, Has s'.queue.inUse i ↔ Has s.queue.inUse i ∧ i ∉ slots
  isHead : ∀ i, Has s'.queue.isHead i ↔ Has s.queue.isHead i ∧ i ∉ slots
  shadow : ∀ i, s'.queue.descShadow i = if slots.getLast? = some i then
    { s.queue.descShadow i with next := origin } else s.queue.descShadow i

variable {s s' : PopState} {i origin : Nat} {e : Entry}

theorem consume_bufs {more : Bool} (hd : Describes (s.queue.descShadow i) e more) :
    (s.consume i).g2h = s.g2h ++ bufsOf false [e] ∧
      (s.consume i).h2g = s.h2g ++ bufsOf true [e] := by
  have hbuf : (⟨(s.queue.descShadow i).addr, (s.queue.descShadow i).len⟩ : VirtqueueBuf) =
      e.buf := by rw [hd.addr, hd.len]
  have hwrite : (s.queue.descShadow i).flags.write = e.write := by rw [hd.flags]
  simp only [PopState.consume, hbuf, hwrite, bufsOf]
  cases hw : e.write <;> simp [hw]

theorem bufsOf_cons (write : Bool) (e : Entry) (es : List Entry) :
    bufsOf write (e :: es) = bufsOf write [e] ++ bufsOf write es := by
  simp only [bufsOf, ← List.map_append, ← List.filter_append, List.singleton_append]

theorem recycled_last (hd : Describes (s.queue.descShadow i) e false) :
    Recycled s ((s.consume i).relink i origin) [i] [e] origin where
  queueSize := rfl
  freeHead := rfl
  numUsed := rfl
  g2h := (consume_bufs hd).1
  h2g := (consume_bufs hd).2
  inUse := by
    intro j
    rw [List.mem_singleton]
    exact has_remove
  isHead := by
    intro j
    rw [List.mem_singleton]
    exact has_remove
  shadow := by
    intro j
    show Function.update s.queue.descShadow i _ j = _
    by_cases hj : j = i
    · have hlast : [i].getLast? = some i := rfl
      rw [hj, Function.update_self, if_pos hlast]
      rfl
    · rw [Function.update_of_ne hj, if_neg]
      simpa using Ne.symm hj

variable {is free : List Nat} {entries : List Entry}

theorem Recycled.cons {j : Nat} {es : List Entry} (hd : Describes (s.queue.descShadow i) e true)
    (h : Recycled (s.consume i) s' (j :: is) es origin) :
    Recycled s s' (i :: j :: is) (e :: es) origin where
  queueSize := h.queueSize
  freeHead := h.freeHead
  numUsed := by
    rw [h.numUsed]
    show s.queue.numUsed - 1 - _ = _
    rw [Nat.sub_sub, Nat.add_comm]
    rfl
  g2h := by rw [h.g2h, (consume_bufs hd).1, bufsOf_cons false e es, List.append_assoc]
  h2g := by rw [h.h2g, (consume_bufs hd).2, bufsOf_cons true e es, List.append_assoc]
  inUse := by
    intro x
    rw [h.inUse]
    show Has (remove s.queue.inUse i) x ∧ _ ↔ _
    rw [has_remove, List.mem_cons (b := i), not_or, and_assoc]
  isHead := by
    intro x
    rw [h.isHead]
    show Has (remove s.queue.isHead i) x ∧ _ ↔ _
    rw [has_remove, List.mem_cons (b := i), not_or, and_assoc]
  shadow := by
    intro x
    rw [h.shadow, List.getLast?_cons_cons]
    rfl

theorem recycleLoop_run {turns : Nat} (recorded : Nat)
    (hrec : Recorded s.queue.descShadow (i :: is) entries) (hnodup : (i :: is).Nodup)
    (hused : ∀ j ∈ i :: is, j < s.queue.queueSize ∧ Has s.queue.inUse j)
    (hnum : (i :: is).length ≤ s.queue.numUsed) (hturns : s.queue.numUsed ≤ turns) :
    ∃ s', recycleLoop origin turns i recorded s = (.ok (recordedLen recorded entries), s') ∧
      Recycled s s' (i :: is) entries origin := by
  induction is generalizing i entries turns recorded s with
  | nil =>
    match entries, hrec with
    | [e], hd =>
      have hd : Describes (s.queue.descShadow i) e false := hd
      rw [List.length_singleton] at hnum
      obtain ⟨turns, rfl⟩ : ∃ n, turns = n + 1 := ⟨turns - 1, by omega⟩
      refine ⟨_, ?_, recycled_last hd⟩
      have hpos : s.queue.numUsed ≠ 0 := by omega
      have hstop : (s.queue.descShadow i).flags.next = false := by rw [hd.flags]
      rw [recycleLoop]
      refine bind_ok.mpr ⟨s, s, rfl, ?_⟩
      rw [if_neg hpos]
      refine bind_ok.mpr ⟨(), s, ensure_ok.mpr ⟨hused i List.mem_cons_self, rfl⟩, ?_⟩
      refine bind_ok.mpr ⟨(), s.consume i, rfl, ?_⟩
      rw [if_neg (by simp [hstop])]
      refine bind_ok.mpr ⟨(), _, rfl, ?_⟩
      show (_, _) = _
      rw [recordedLen, List.foldl_cons, List.foldl_nil, hd.len]
  | cons j js ih =>
    match entries, hrec with
    | e :: es, ⟨hd, hnext, hrest⟩ =>
      rw [List.length_cons] at hnum
      obtain ⟨turns, rfl⟩ : ∃ n, turns = n + 1 := ⟨turns - 1, by omega⟩
      have hpos : s.queue.numUsed ≠ 0 := by omega
      have hmore : (s.queue.descShadow i).flags.next = true := by rw [hd.flags]
      have hlen := List.length_pos_of_mem (List.mem_cons_self (a := j) (l := js))
      have hleft : s.queue.numUsed - 1 ≠ 0 := by omega
      rw [List.nodup_cons] at hnodup
      have hused' : ∀ x ∈ j :: js, x < (s.consume i).queue.queueSize ∧
          Has (s.consume i).queue.inUse x := by
        intro x hx
        obtain ⟨hlt, hhas⟩ := hused x (List.mem_cons_of_mem i hx)
        refine ⟨hlt, has_remove.mpr ⟨hhas, ?_⟩⟩
        exact fun heq => hnodup.1 (heq ▸ hx)
      have hnum' : (j :: js).length ≤ (s.consume i).queue.numUsed := by
        show _ ≤ s.queue.numUsed - 1
        omega
      have hturns' : (s.consume i).queue.numUsed ≤ turns := by
        show s.queue.numUsed - 1 ≤ turns
        omega
      obtain ⟨s', hrun, hdone⟩ := ih (saturatingAdd recorded (s.queue.descShadow i).len)
        (s := s.consume i) hrest hnodup.2 hused' hnum' hturns'
      refine ⟨s', ?_, hdone.cons hd⟩
      rw [recycleLoop]
      refine bind_ok.mpr ⟨s, s, rfl, ?_⟩
      rw [if_neg hpos]
      refine bind_ok.mpr ⟨(), s, ensure_ok.mpr ⟨hused i List.mem_cons_self, rfl⟩, ?_⟩
      refine bind_ok.mpr ⟨(), s.consume i, rfl, ?_⟩
      rw [if_pos hmore]
      refine bind_ok.mpr ⟨(), s.consume i, ensure_ok.mpr ⟨hleft, rfl⟩, ?_⟩
      rw [hnext, hrun, recordedLen, recordedLen, List.foldl_cons, hd.len]

theorem recorded_relinked {shadow shadow' : Nat → Descriptor}
    (hrec : Recorded shadow (i :: is) entries) (hnodup : (i :: is).Nodup)
    (hshadow : ∀ x, shadow' x = if (i :: is).getLast? = some x then
      { shadow x with next := origin } else shadow x) :
    Path (fun x => (shadow' x).next) i (i :: is) origin := by
  induction is generalizing i entries with
  | nil =>
    have hlast : [i].getLast? = some i := rfl
    have hi : (shadow' i).next = origin := by rw [hshadow i, if_pos hlast]
    refine .cons ?_
    show Path _ (shadow' i).next [] origin
    rw [hi]
    exact .nil origin
  | cons j js ih =>
    match entries, hrec with
    | e :: es, ⟨_, hnext, hrest⟩ =>
      rw [List.nodup_cons] at hnodup
      have hi : (shadow' i).next = j := by
        rw [hshadow i, if_neg, hnext]
        rw [List.getLast?_cons_cons]
        exact fun hlast => hnodup.1 (List.mem_of_getLast? hlast)
      refine .cons ?_
      show Path _ (shadow' i).next (j :: js) origin
      rw [hi]
      refine ih hrest hnodup.2 ?_
      intro x
      rw [hshadow x, List.getLast?_cons_cons]

variable {q : VirtQueue} {chains before after : List Chain} {c : Chain}

theorem Accounts.recycle (h : Accounts q free (before ++ c :: after))
    (hs : s.queue = { q with freeHead := c.loan.token })
    (hdone : Recycled s s' c.slots c.loan.entries q.freeHead) :
    Accounts s'.queue (c.slots ++ free) (before ++ after) := by
  have hperm := lentSlots_split before after c
  have hnodup := h.slots_nodup
  have hmem : c ∈ before ++ c :: after := by simp
  have hothers : ∀ d ∈ before ++ after, d ∈ before ++ c :: after := by
    intro d hd
    rcases List.mem_append.mp hd with hd | hd <;> simp [hd]
  have hsize : s'.queue.queueSize = q.queueSize := by rw [hdone.queueSize, hs]
  have hshadow : ∀ i, s'.queue.descShadow i = if c.slots.getLast? = some i then
      { q.descShadow i with next := q.freeHead } else q.descShadow i := by
    intro i
    rw [hdone.shadow, hs]
  have hother : ∀ i, i ∉ c.slots → s'.queue.descShadow i = q.descShadow i := by
    intro i hi
    rw [hshadow, if_neg fun hlast => hi (List.mem_of_getLast? hlast)]
  refine ⟨?_, ?_, ?_, ?_, ?_, ?_, ?_, ?_⟩
  · rw [hsize]
    exact h.size
  · have hmove : ((c.slots ++ free) ++ lentSlots (before ++ after)).Perm
        (free ++ lentSlots (before ++ c :: after)) := by
      rw [List.append_assoc]
      exact (List.perm_append_comm_assoc _ _ _).trans (hperm.symm.append_left free)
    rw [hsize]
    exact hmove.trans h.partition
  · obtain ⟨e, hfree⟩ := h.free
    have hhead : s'.queue.freeHead = c.loan.token := by rw [hdone.freeHead, hs]
    have htoken := h.token c hmem
    have hrec := h.recorded c hmem
    refine ⟨e, path_append.mpr ⟨q.freeHead, ?_, hfree.congr ?_⟩⟩
    · rw [hhead]
      cases hslots : c.slots with
      | nil =>
        rw [hslots] at htoken
        cases htoken
      | cons i is =>
        rw [hslots] at htoken hrec hnodup hshadow
        obtain rfl := Option.some.inj htoken
        exact recorded_relinked hrec hnodup hshadow
    · intro i hi
      rw [hother i fun hc => (h.disjoint hc).1 hi]
  · intro d hd
    refine (h.recorded d (hothers d hd)).congr ?_
    intro i hi
    exact hother i fun hc => (h.disjoint hc).2 (mem_lentSlots hd hi)
  · exact fun d hd => h.token d (hothers d hd)
  · have hlen := hperm.length_eq
    rw [List.length_append] at hlen
    rw [hdone.numUsed, hs, h.numUsed]
    omega
  · intro i
    rw [hdone.inUse, hs, h.inUse, hperm.mem_iff, List.mem_append]
    constructor
    · intro ⟨hi, hnot⟩
      exact hi.resolve_left hnot
    · intro hi
      exact ⟨.inr hi, fun hc => (h.disjoint hc).2 hi⟩
  · intro i
    rw [hdone.isHead, hs, h.isHead]
    constructor
    · intro ⟨⟨d, hd, htoken⟩, hnot⟩
      refine ⟨d, ?_, htoken⟩
      have hne : d ≠ c := by
        rintro rfl
        exact hnot (htoken ▸ h.token_mem hmem)
      simpa [hne] using hd
    · intro ⟨d, hd, htoken⟩
      refine ⟨⟨d, hothers d hd, htoken⟩, fun hc => (h.disjoint hc).2 ?_⟩
      exact mem_lentSlots hd (htoken ▸ h.token_mem (hothers d hd))

/-- The next used element names the head of a chain. -/
def Poppable (q : VirtQueue) : Prop :=
  q.CanPop ∧ q.usedSlot < q.queueSize ∧ Has q.inUse q.usedSlot ∧ Has q.isHead q.usedSlot

theorem ring_slot_lt (h : Accounts q free chains) (idx : UInt16) :
    idx.toNat &&& (q.queueSize - 1) < MAX_QUEUE_SIZE := by
  have hle : idx.toNat &&& (q.queueSize - 1) ≤ q.queueSize - 1 := Nat.and_le_right
  have hsize := h.size
  unfold MAX_QUEUE_SIZE at hsize ⊢
  omega

theorem popUsed_refused (h : Accounts s.queue free chains) (hno : ¬Poppable s.queue) :
    ∃ e, popUsed s = (.error e, s) := by
  by_cases hpop : s.queue.CanPop
  · refine ⟨.invalidDescriptor, bind_error.mpr (.inr ⟨s, s, rfl, ?_⟩)⟩
    refine bind_error.mpr (.inr ⟨(), s, ensure_ok.mpr ⟨hpop, rfl⟩, ?_⟩)
    refine bind_error.mpr (.inr ⟨(), s, ensure_ok.mpr ⟨ring_slot_lt h _, rfl⟩, ?_⟩)
    refine bind_error.mpr (.inl ?_)
    rw [ensure, if_neg fun hvalid => hno ⟨hpop, hvalid⟩]
    rfl
  · refine ⟨.notReady, bind_error.mpr (.inr ⟨s, s, rfl, bind_error.mpr (.inl ?_)⟩)⟩
    rw [ensure, if_neg hpop]
    rfl

theorem bufsOf_entries (l : Loan) :
    bufsOf false l.entries = l.g2h ∧ bufsOf true l.entries = l.h2g := by
  simp [bufsOf, Loan.entries, List.filter_append, List.filter_map, Function.comp_def]

theorem popUsed_returns (h : Accounts s.queue free chains) (hpop : Poppable s.queue) :
    ∃ before c after s', chains = before ++ c :: after ∧ c.loan.token = s.queue.usedSlot ∧
      popUsed s = (.ok (min s.queue.usedElem.len.toNat (recordedLen 0 c.loan.entries)), s') ∧
      s'.g2h = s.g2h ++ c.loan.g2h ∧ s'.h2g = s.h2g ++ c.loan.h2g ∧
      Accounts s'.queue (c.slots ++ free) (before ++ after) := by
  obtain ⟨hcan, hvalid⟩ := hpop
  obtain ⟨c, hc, htoken⟩ := (h.isHead _).mp hvalid.2.2
  obtain ⟨before, after, rfl⟩ := List.append_of_mem hc
  have hperm := lentSlots_split before after c
  have hnodup := h.slots_nodup
  have hused : ∀ i ∈ c.slots, i < s.queue.queueSize ∧ Has s.queue.inUse i := by
    intro i hi
    have hlent := mem_lentSlots hc hi
    exact ⟨(h.mem_iff i).mp (.inr hlent), (h.inUse i).mpr hlent⟩
  have hnum : c.slots.length ≤ s.queue.numUsed := by
    rw [h.numUsed, hperm.length_eq, List.length_append]
    omega
  let s₁ : PopState := { s with queue := { s.queue with freeHead := s.queue.usedSlot } }
  obtain ⟨s₂, hrun, hdone⟩ : ∃ s₂, recycleLoop s.queue.freeHead s.queue.numUsed s.queue.usedSlot 0
      s₁ = (.ok (recordedLen 0 c.loan.entries), s₂) ∧
      Recycled s₁ s₂ c.slots c.loan.entries s.queue.freeHead := by
    have hrec := h.recorded c hc
    have hhead := h.token c hc
    revert hnodup hused hnum
    cases hslots : c.slots with
    | nil =>
      rw [hslots] at hhead
      cases hhead
    | cons i is =>
      intro hnodup hused hnum
      rw [hslots] at hhead hrec
      obtain rfl := Option.some.inj hhead
      rw [htoken] at hrec hnodup hused hnum ⊢
      exact recycleLoop_run 0 (s := s₁) hrec hnodup hused hnum le_rfl
  obtain ⟨hg2h, hh2g⟩ := bufsOf_entries c.loan
  refine ⟨before, c, after, { s₂ with queue := { s₂.queue with
    lastUsedIdx := s₂.queue.lastUsedIdx + 1 } }, rfl, htoken, ?_, ?_, ?_, ?_⟩
  · refine bind_ok.mpr ⟨s, s, rfl, bind_ok.mpr ⟨(), s, ensure_ok.mpr ⟨hcan, rfl⟩, ?_⟩⟩
    refine bind_ok.mpr ⟨(), s, ensure_ok.mpr ⟨ring_slot_lt h _, rfl⟩, ?_⟩
    refine bind_ok.mpr ⟨(), s, ensure_ok.mpr ⟨hvalid, rfl⟩, ?_⟩
    refine bind_ok.mpr ⟨recordedLen 0 c.loan.entries, s₂, ?_, bind_ok.mpr ⟨(), _, rfl, rfl⟩⟩
    exact bind_ok.mpr ⟨s, s, rfl, bind_ok.mpr ⟨(), s₁, rfl, hrun⟩⟩
  · show s₂.g2h = _
    rw [hdone.g2h, hg2h]
  · show s₂.h2g = _
    rw [hdone.h2g, hh2g]
  · obtain ⟨hsize, hpart, hfree, hrecs, htok, hcount, hin, hheads⟩ :=
      Accounts.recycle h (by rw [htoken]) hdone
    exact ⟨hsize, hpart, hfree, hrecs, htok, hcount, hin, hheads⟩

def Balanced (l : Ledger) : Prop :=
  ∃ free chains, Accounts l.queue free chains ∧ chains.map Chain.loan = l.outstanding

theorem settle (h : Accounts q free (before ++ c :: after)) :
    ((before ++ c :: after).map Chain.loan).filter (·.token ≠ c.loan.token) =
      (before ++ after).map Chain.loan := by
  have hkeep : ∀ l ∈ (before ++ after).map Chain.loan,
      decide (l.token ≠ c.loan.token) = true := by
    intro l hl
    obtain ⟨d, hd, rfl⟩ := List.mem_map.mp hl
    exact decide_eq_true (h.token_ne hd)
  have hsplit : (before ++ after).map Chain.loan =
      before.map Chain.loan ++ after.map Chain.loan := List.map_append
  rw [← List.filter_eq_self.mpr hkeep, hsplit, List.map_append, List.map_cons, List.filter_append,
    List.filter_append, List.filter_cons_of_neg (by simp)]

variable {l : Ledger}

theorem Balanced.step (h : Balanced l) (op : Op) : Balanced (step l op) := by
  obtain ⟨free, chains, hacc, hloans⟩ := h
  cases op with
  | add g2h h2g =>
    by_cases hfits : Fits l.queue g2h h2g
    · obtain ⟨taken, rest, q', hrun, rfl, hacc'⟩ := add_fits hacc hfits
      refine ⟨rest, ⟨⟨l.queue.freeHead, g2h, h2g⟩, taken⟩ :: chains, ?_, ?_⟩
      · simpa only [Loans.step, hrun] using hacc'
      · simp only [Loans.step, hrun, List.map_cons, hloans]
    · obtain ⟨e, hrun⟩ := add_refused hfits
      refine ⟨free, chains, ?_, ?_⟩
      · simpa only [Loans.step, hrun] using hacc
      · simpa only [Loans.step, hrun] using hloans
  | popUsed =>
    by_cases hpop : Poppable l.queue
    · obtain ⟨before, c, after, s', rfl, htoken, hrun, -, -, hacc'⟩ :=
        popUsed_returns (s := ⟨l.queue, [], []⟩) hacc hpop
      refine ⟨c.slots ++ free, before ++ after, ?_, ?_⟩
      · simpa only [Loans.step, hrun] using hacc'
      · simp only [Loans.step, hrun, ← hloans]
        rw [← settle hacc, htoken]
    · obtain ⟨e, hrun⟩ := popUsed_refused (s := ⟨l.queue, [], []⟩) hacc hpop
      refine ⟨free, chains, ?_, ?_⟩
      · simpa only [Loans.step, hrun] using hacc
      · simpa only [Loans.step, hrun] using hloans
  | device memory =>
    exact ⟨free, chains, hacc.device memory, hloans⟩

theorem Balanced.run (h : Balanced l) (ops : List Op) : Balanced (ops.foldl Loans.step l) := by
  induction ops generalizing l with
  | nil => exact h
  | cons op ops ih => exact ih (h.step op)

theorem new_balanced {header : VirtioTransport} {idx : Nat} {dmaAddr : UInt64} {size : UInt16}
    {memory : SharedMemory} (hnew : new header idx dmaAddr size memory = .ok q) :
    Balanced ⟨q, []⟩ :=
  ⟨_, [], new_accounts hnew, rfl⟩

theorem Balanced.unchanged {e : VirtioError} (h : Balanced l)
    (hs : s.queue = l.queue) (hrun : popUsed s = (.error e, s')) : s' = s := by
  obtain ⟨free, chains, hacc, -⟩ := h
  rw [← hs] at hacc
  have hno : ¬Poppable s.queue := by
    intro hpop
    obtain ⟨_, _, _, _, -, -, hok, -⟩ := popUsed_returns hacc hpop
    rw [hok] at hrun
    cases hrun
  obtain ⟨e', hsame⟩ := popUsed_refused hacc hno
  rw [hsame] at hrun
  exact (Prod.mk.inj hrun).2.symm

/-- Along every run over arbitrary device writes, free list, chains and bitmaps account for every
slot, and a failing `pop_used` leaves the private state as it was. -/
theorem queue_integrity (header : VirtioTransport) (idx : Nat) (dmaAddr : UInt64) (size : UInt16)
    (memory : SharedMemory) (q : VirtQueue) (hnew : new header idx dmaAddr size memory = .ok q)
    (ops : List Op) :
    Intact (ops.foldl step ⟨q, []⟩) ∧
      ∀ g2h h2g e s', popUsed ⟨(ops.foldl step ⟨q, []⟩).queue, g2h, h2g⟩ = (.error e, s') →
        SamePrivate (ops.foldl step ⟨q, []⟩).queue s'.queue := by
  have hbalanced := (new_balanced hnew).run ops
  constructor
  · obtain ⟨free, chains, hacc, hloans⟩ := hbalanced
    have hintact := hacc.intact
    rwa [hloans] at hintact
  · intro g2h h2g e s' hrun
    rw [hbalanced.unchanged rfl hrun]
    exact ⟨rfl, rfl, rfl, rfl, rfl, rfl⟩

def sampleTransport : VirtioTransport := ⟨.ok 32, fun _ => .ok (), fun _ => .ok (), fun _ => .ok ()⟩

def sampleMemory (used : UsedElem) : SharedMemory where
  desc _ := .default
  avail := ⟨0, fun _ => 0, 0⟩
  used := ⟨1, fun _ => used⟩

def sampleQueue : VirtQueue where
  shared :=
    { sampleMemory ⟨0, 0⟩ with
      desc := fun i => if i < 7 then { Descriptor.default with next := i + 1 } else .default }
  queueIdx := 0
  queueSize := 8
  numUsed := 0
  freeHead := 0
  availIdx := 0
  lastUsedIdx := 0
  descShadow := linkedShadow 8
  inUse := 0
  isHead := 0

theorem sampleQueue_new : new sampleTransport 0 0 8 (sampleMemory ⟨0, 0⟩) = .ok sampleQueue := rfl

def sampleOps (id : UInt32) : List Op :=
  [.add [] [⟨0x1000, 64⟩], .device (sampleMemory ⟨id, 100⟩)]

/-- A queue of eight slots stays intact when the device names a slot beyond it. -/
theorem queue_integrity_eight : new sampleTransport 0 0 8 (sampleMemory ⟨0, 0⟩) = .ok sampleQueue ∧
      Intact ((sampleOps 40).foldl step ⟨sampleQueue, []⟩) :=
  ⟨sampleQueue_new, (queue_integrity sampleTransport 0 0 8 (sampleMemory ⟨0, 0⟩) sampleQueue
    sampleQueue_new (sampleOps 40)).1⟩

def total (l : Loan) : Nat := (l.entries.map (·.buf.len.toNat)).sum

/-- The call returned this loan: its buffers behind those of the caller, and the length that the
device reported, cut down to that of the buffers. The loan is then no longer outstanding. -/
structure Returned (l : Ledger) (g2h h2g : List VirtqueueBuf) (len : Nat) (s' : PopState)
    (loan : Loan) : Prop where
  g2h : s'.g2h = g2h ++ loan.g2h
  h2g : s'.h2g = h2g ++ loan.h2g
  len : len = min l.queue.usedElem.len.toNat (total loan)
  settled : l.outstanding.Perm (loan :: (step l .popUsed).outstanding)

private theorem recordedLen_eq (entries : List Entry) (start : Nat) (hstart : start ≤ 2 ^ 32 - 1) :
    recordedLen start entries = min (start + (entries.map (·.buf.len.toNat)).sum) (2 ^ 32 - 1) := by
  induction entries generalizing start with
  | nil =>
    show start = _
    rw [List.map_nil, List.sum_nil]
    omega
  | cons e es ih =>
    have hcut : saturatingAdd start e.buf.len ≤ 2 ^ 32 - 1 := Nat.min_le_right _ _
    show recordedLen (saturatingAdd start e.buf.len) es = _
    rw [ih _ hcut, List.map_cons, List.sum_cons, saturatingAdd]
    omega

theorem min_recordedLen (len : UInt32) (loan : Loan) :
    min len.toNat (recordedLen 0 loan.entries) = min len.toNat (total loan) := by
  have hlen := len.toNat_lt
  rw [recordedLen_eq _ 0 (Nat.zero_le _), total]
  omega

theorem Balanced.token_lt (h : Balanced l) {loan : Loan}
    (hmem : loan ∈ l.outstanding) : loan.token < 2 ^ 16 := by
  obtain ⟨free, chains, hacc, hloans⟩ := h
  rw [← hloans] at hmem
  obtain ⟨c, hc, rfl⟩ := List.mem_map.mp hmem
  have hlt := (hacc.mem_iff _).mp (.inr (mem_lentSlots hc (hacc.token_mem hc)))
  have hsize := hacc.size
  unfold MAX_QUEUE_SIZE at hsize
  omega

theorem Balanced.returned (h : Balanced l) {g2h h2g : List VirtqueueBuf}
    {len : Nat} (hrun : popUsed ⟨l.queue, g2h, h2g⟩ = (.ok len, s')) :
    ∃ loan, Returned l g2h h2g len s' loan ∧ loan.token = l.queue.usedSlot := by
  obtain ⟨free, chains, hacc, hloans⟩ := h
  have hpop : Poppable l.queue := by
    by_contra hno
    obtain ⟨e, hfail⟩ := popUsed_refused (s := ⟨l.queue, g2h, h2g⟩) hacc hno
    rw [hfail] at hrun
    cases hrun
  obtain ⟨before, c, after, s₂, rfl, htoken, hok, hg2h, hh2g, -⟩ :=
    popUsed_returns (s := ⟨l.queue, g2h, h2g⟩) hacc hpop
  rw [hok] at hrun
  cases hrun
  refine ⟨c.loan, ⟨hg2h, hh2g, min_recordedLen _ _, ?_⟩, htoken⟩
  obtain ⟨_, d, _, _, -, -, hstep, -⟩ := popUsed_returns (s := ⟨l.queue, [], []⟩) hacc hpop
  have houtstanding : (Loans.step l .popUsed).outstanding = (before ++ after).map Chain.loan := by
    simp only [Loans.step, hstep, ← hloans]
    rw [← settle hacc, htoken]
  rw [houtstanding, ← hloans, List.map_append, List.map_cons, List.map_append]
  exact List.perm_middle

/-- Along every run a successful `pop_used` returns exactly one outstanding loan, with the smaller
of both lengths. The full identifier of the used element is the token of this loan exactly when
it fits in 16 bits. -/
theorem pop_returns_loan (header : VirtioTransport) (idx : Nat) (dmaAddr : UInt64) (size : UInt16)
    (memory : SharedMemory) (q : VirtQueue) (hnew : new header idx dmaAddr size memory = .ok q)
    (ops : List Op) (g2h h2g : List VirtqueueBuf) (len : Nat) (s' : PopState)
    (hrun : popUsed ⟨(ops.foldl step ⟨q, []⟩).queue, g2h, h2g⟩ = (.ok len, s')) :
    let l := ops.foldl step ⟨q, []⟩
    (∃ loan, Returned l g2h h2g len s' loan) ∧
      ((∃ loan, Returned l g2h h2g len s' loan ∧ l.queue.usedElem.id.toNat = loan.token) ↔
        l.queue.usedElem.id.toNat < 2 ^ 16) := by
  intro l
  have hbalanced : Balanced l := (new_balanced hnew).run ops
  obtain ⟨loan, hreturned, htoken⟩ := hbalanced.returned hrun
  have hcut : l.queue.usedSlot = l.queue.usedElem.id.toNat % 2 ^ 16 := UInt32.toNat_toUInt16 _
  refine ⟨⟨loan, hreturned⟩, ?_, ?_⟩
  · intro ⟨other, hother, hid⟩
    rw [hid]
    exact hbalanced.token_lt (hother.settled.mem_iff.mpr List.mem_cons_self)
  · intro hsmall
    refine ⟨loan, hreturned, ?_⟩
    rw [htoken, hcut, Nat.mod_eq_of_lt hsmall]

/-- An element whose identifier exceeds 16 bits returns the loan of its low bits. -/
theorem pop_returns_truncated :
    let l := (sampleOps 0x10000).foldl step ⟨sampleQueue, []⟩
    (popUsed ⟨l.queue, [], []⟩).1.isOk = true ∧
      ∀ len s', popUsed ⟨l.queue, [], []⟩ = (.ok len, s') →
        ¬∃ loan, Returned l [] [] len s' loan ∧ l.queue.usedElem.id.toNat = loan.token := by
  intro l
  refine ⟨by decide +kernel, ?_⟩
  rintro len s' - ⟨loan, hreturned, hid⟩
  have hout : l.outstanding = [⟨0, [], [⟨0x1000, 64⟩]⟩] := by decide +kernel
  have hmem : loan ∈ l.outstanding := hreturned.settled.mem_iff.mpr List.mem_cons_self
  rw [hout] at hmem
  obtain rfl := List.mem_singleton.mp hmem
  have hno : l.queue.usedElem.id.toNat ≠ 0 := by decide +kernel
  exact hno hid

/-- The buffer that was added comes back, with the device's length cut down to 64. -/
theorem pop_returns_loan_whole :
    let l := (sampleOps 0).foldl step ⟨sampleQueue, []⟩
    ∃ len s', popUsed ⟨l.queue, [], []⟩ = (.ok len, s') ∧
      ((∃ loan, Returned l [] [] len s' loan ∧ l.queue.usedElem.id.toNat = loan.token) ↔
        l.queue.usedElem.id.toNat < 2 ^ 16) := by
  intro l
  obtain ⟨len, hlen⟩ := exists_ok_of_isOk
    (show (popUsed ⟨l.queue, [], []⟩).1.isOk = true by decide +kernel)
  obtain ⟨s', hrun⟩ := run_of_result hlen
  exact ⟨len, s', hrun, (pop_returns_loan sampleTransport 0 0 8 (sampleMemory ⟨0, 0⟩) sampleQueue
    sampleQueue_new (sampleOps 0) [] [] len s' hrun).2⟩

theorem Balanced.numUsed (h : Balanced l) :
    l.queue.numUsed = (l.outstanding.map fun loan => loan.g2h.length + loan.h2g.length).sum := by
  obtain ⟨free, chains, hacc, hloans⟩ := h
  rw [hacc.numUsed, ← hacc.lent_eq, hloans, List.length_flatMap]
  simp only [Loan.slots, List.length_iterate]

theorem Balanced.poppable_iff (h : Balanced l) : Poppable l.queue ↔
    l.queue.CanPop ∧ ∃ loan ∈ l.outstanding, loan.token = l.queue.usedSlot := by
  obtain ⟨free, chains, hacc, hloans⟩ := h
  simp only [Poppable, hacc.isHead, ← hloans, List.mem_map, exists_exists_and_eq_and]
  constructor
  · rintro ⟨hcan, -, -, hloan⟩
    exact ⟨hcan, hloan⟩
  · rintro ⟨hcan, c, hc, htoken⟩
    -- The token of a chain is the first of its slots.
    have hlent := mem_lentSlots hc (hacc.token_mem hc)
    rw [htoken] at hlent
    exact ⟨hcan, (hacc.mem_iff _).mp (.inr hlent), (hacc.inUse _).mpr hlent, c, hc, htoken⟩

/-- No slot is lost and no loan becomes unreturnable in any run: `add` succeeds exactly when its
buffers fit beside the outstanding ones, and `pop_used` exactly when the device has used an element
and names the token of an outstanding loan. -/
theorem queue_available (header : VirtioTransport) (idx : Nat) (dmaAddr : UInt64) (size : UInt16)
    (memory : SharedMemory) (q : VirtQueue) (hnew : new header idx dmaAddr size memory = .ok q)
    (ops : List Op) (g2h h2g : List VirtqueueBuf) :
    let l := ops.foldl step ⟨q, []⟩
    ((add g2h h2g l.queue).1.isOk = true ↔ ¬(g2h = [] ∧ h2g = []) ∧ g2h.length + h2g.length +
        (l.outstanding.map fun loan => loan.g2h.length + loan.h2g.length).sum ≤ l.queue.queueSize) ∧
      ((popUsed ⟨l.queue, g2h, h2g⟩).1.isOk = true ↔
        l.queue.CanPop ∧ ∃ loan ∈ l.outstanding, loan.token = l.queue.usedSlot) := by
  intro l
  have hbalanced : Balanced l := (new_balanced hnew).run ops
  rw [← hbalanced.poppable_iff, ← hbalanced.numUsed]
  obtain ⟨free, chains, hacc, -⟩ := hbalanced
  constructor
  · by_cases hfits : Fits l.queue g2h h2g
    · obtain ⟨_, _, q', hrun, -⟩ := add_fits hacc hfits
      rw [hrun]
      exact iff_of_true rfl hfits
    · obtain ⟨e, hrun⟩ := add_refused hfits
      rw [hrun]
      exact iff_of_false Bool.false_ne_true hfits
  · by_cases hpop : Poppable l.queue
    · obtain ⟨_, _, _, s', -, -, hrun, -⟩ := popUsed_returns (s := ⟨l.queue, g2h, h2g⟩) hacc hpop
      rw [hrun]
      exact iff_of_true rfl hpop
    · obtain ⟨e, hrun⟩ := popUsed_refused (s := ⟨l.queue, g2h, h2g⟩) hacc hpop
      rw [hrun]
      exact iff_of_false Bool.false_ne_true hpop

/-- Beside one buffer in a queue of eight slots there is room for seven. -/
theorem queue_available_seven :
    new sampleTransport 0 0 8 (sampleMemory ⟨0, 0⟩) = .ok sampleQueue ∧
      (add (List.replicate 7 ⟨0, 0⟩) [] ((sampleOps 0).foldl step ⟨sampleQueue, []⟩).queue).1.isOk =
        true :=
  ⟨sampleQueue_new, (queue_available sampleTransport 0 0 8 (sampleMemory ⟨0, 0⟩) sampleQueue
    sampleQueue_new (sampleOps 0) (List.replicate 7 ⟨0, 0⟩) []).1.mpr (by decide +kernel)⟩

end MigTd.Virtio.Returns
