/- source: virtqueue.rs
   digest: Runs of a virtqueue against a device that writes the shared memory at will. -/

import MigTd.Lib.SlotPath
import MigTd.Virtio.Queue
import Mathlib.Data.List.Forall2

set_option autoImplicit false

namespace MigTd.Virtio.Loans

open Lib.Bitmap Lib.SlotPath Lib.StateProgram Queue

structure Entry where
  buf : VirtqueueBuf
  write : Bool

/-- One successful call of `add`: its token and its arguments. -/
structure Loan where
  token : Nat
  g2h : List VirtqueueBuf
  h2g : List VirtqueueBuf
  deriving DecidableEq

def Loan.entries (l : Loan) : List Entry := l.g2h.map (⟨·, false⟩) ++ l.h2g.map (⟨·, true⟩)

/-- The slots of a loan, followed from its token through the shadow. -/
def Loan.slots (l : Loan) (q : VirtQueue) : List Nat :=
  List.iterate (fun i => (q.descShadow i).next) l.token (l.g2h.length + l.h2g.length)

/-- The slots of the free list, as many as are not used. -/
def freeSlots (q : VirtQueue) : List Nat :=
  List.iterate (fun i => (q.descShadow i).next) q.freeHead (q.queueSize - q.numUsed)

structure Ledger where
  queue : VirtQueue
  outstanding : List Loan

/-- A call of the driver, or the device that writes the shared memory. -/
inductive Op where
  | add (g2h h2g : List VirtqueueBuf)
  | popUsed
  | device (memory : SharedMemory)

/-- A successful `add` books a loan; a successful `pop_used` settles the loan of the slot that the
used element names. -/
def step (l : Ledger) : Op → Ledger
  | .add g2h h2g =>
    match add g2h h2g l.queue with
    | (.ok token, q) => ⟨q, ⟨token, g2h, h2g⟩ :: l.outstanding⟩
    | (.error _, q) => ⟨q, l.outstanding⟩
  | .popUsed =>
    match popUsed ⟨l.queue, [], []⟩ with
    | (.ok _, s) => ⟨s.queue, l.outstanding.filter (·.token ≠ l.queue.usedSlot)⟩
    | (.error _, s) => ⟨s.queue, l.outstanding⟩
  | .device memory => ⟨{ l.queue with shared := memory }, l.outstanding⟩

/-- The fields that only the driver can reach. -/
structure SamePrivate (q q' : VirtQueue) : Prop where
  numUsed : q'.numUsed = q.numUsed
  freeHead : q'.freeHead = q.freeHead
  inUse : q'.inUse = q.inUse
  isHead : q'.isHead = q.isHead
  descShadow : q'.descShadow = q.descShadow
  lastUsedIdx : q'.lastUsedIdx = q.lastUsedIdx

/-- The shadow of a slot records this buffer, followed by a further slot or not. -/
structure Describes (d : Descriptor) (e : Entry) (more : Bool) : Prop where
  addr : d.addr = e.buf.addr
  len : d.len = e.buf.len
  flags : d.flags = ⟨more, e.write⟩

def Recorded (shadow : Nat → Descriptor) : List Nat → List Entry → Prop
  | [i], [e] => Describes (shadow i) e false
  | i :: j :: is, e :: es =>
    Describes (shadow i) e true ∧ (shadow i).next = j ∧ Recorded shadow (j :: is) es
  | _, _ => False

/-- Free list, chains and bitmaps account for every slot. -/
structure Intact (l : Ledger) : Prop where
  numUsed_le : l.queue.numUsed ≤ l.queue.queueSize
  free_nodup : (freeSlots l.queue).Nodup
  free_iff : ∀ i, i ∈ freeSlots l.queue ↔ i < l.queue.queueSize ∧ ¬Has l.queue.inUse i
  chains_recorded : ∀ loan ∈ l.outstanding,
    Recorded l.queue.descShadow (loan.slots l.queue) loan.entries
  chains_nodup : (l.outstanding.flatMap (·.slots l.queue)).Nodup
  chains_iff : ∀ i, i ∈ l.outstanding.flatMap (·.slots l.queue) ↔ Has l.queue.inUse i
  heads_iff : ∀ i, Has l.queue.isHead i ↔ ∃ loan ∈ l.outstanding, loan.token = i

variable {entries : List Entry} {slots : List Nat} {i : Nat}

section

variable {shadow shadow' : Nat → Descriptor}

theorem Recorded.congr (h : Recorded shadow slots entries)
    (hsame : ∀ i ∈ slots, shadow' i = shadow i) : Recorded shadow' slots entries := by
  induction slots generalizing entries with
  | nil => exact h.elim
  | cons i is ih =>
    have hi := hsame i List.mem_cons_self
    cases is with
    | nil =>
      match entries, h with
      | [e], h =>
        show Describes (shadow' i) e false
        rw [hi]
        exact h
    | cons j js =>
      match entries, h with
      | e :: es, ⟨hd, hnext, hrest⟩ =>
        refine ⟨by rw [hi]; exact hd, by rw [hi]; exact hnext, ?_⟩
        exact ih hrest fun x hx => hsame x (List.mem_cons_of_mem i hx)

theorem Recorded.iterate {is : List Nat} (h : Recorded shadow (i :: is) entries) :
    i :: is = List.iterate (fun x => (shadow x).next) i entries.length := by
  induction is generalizing i entries with
  | nil =>
    match entries, h with
    | [e], _ => rfl
  | cons j js ih =>
    match entries, h with
    | e :: es, ⟨_, hnext, hrest⟩ =>
      have hrec := ih hrest
      rw [List.length_cons, List.iterate, hnext, ← hrec]

theorem recorded_of_programmed {a b last : Nat}
    (hpath : Path (fun x => (shadow x).next) a slots b) (hnodup : slots.Nodup)
    (hcontent : List.Forall₂ (fun i e => Describes (shadow i) e true) slots entries)
    (hlast : slots.getLast? = some last)
    (hend : shadow' last = { shadow last with flags := { (shadow last).flags with next := false } })
    (hsame : ∀ i, i ≠ last → shadow' i = shadow i) : Recorded shadow' slots entries := by
  induction hpath generalizing entries with
  | nil => cases hlast
  | @cons a b rest hrest ih =>
    cases hcontent with
    | @cons _ e _ es hd hes =>
      rw [List.nodup_cons] at hnodup
      cases hrest with
      | nil =>
        cases hes
        obtain rfl : a = last := by simpa using hlast
        refine ⟨?_, ?_, ?_⟩
        · rw [hend]
          exact hd.addr
        · rw [hend]
          exact hd.len
        · rw [hend]
          show ({ (shadow a).flags with next := false } : DescFlags) = _
          rw [hd.flags]
      | @cons _ _ rest hrest =>
        have hlast' : ((shadow a).next :: rest).getLast? = some last := by
          rwa [List.getLast?_cons_cons] at hlast
        have hmem : last ∈ (shadow a).next :: rest := List.mem_of_getLast? hlast'
        have hne : a ≠ last := fun h => hnodup.1 (h ▸ hmem)
        have hself := hsame a hne
        refine ⟨by rw [hself]; exact hd, by rw [hself], ?_⟩
        exact ih hnodup.2 hes hlast'

end

/-- The slots were taken from the free list and programmed with these buffers. -/
structure Programmed (q q' : VirtQueue) (slots : List Nat) (entries : List Entry) : Prop where
  queueSize : q'.queueSize = q.queueSize
  numUsed : q'.numUsed = q.numUsed
  isHead : q'.isHead = q.isHead
  next : ∀ i, (q'.descShadow i).next = (q.descShadow i).next
  other : ∀ i, i ∉ slots → q'.descShadow i = q.descShadow i
  content : List.Forall₂ (fun i e => Describes (q'.descShadow i) e true) slots entries
  inUse : ∀ i, Has q'.inUse i ↔ Has q.inUse i ∨ i ∈ slots

theorem Programmed.refl (q : VirtQueue) : Programmed q q [] [] :=
  ⟨rfl, rfl, rfl, fun _ => rfl, fun _ _ => rfl, .nil, fun i => by simp⟩

theorem Programmed.trans {q q₁ q₂ : VirtQueue} {s₁ s₂ : List Nat} {e₁ e₂ : List Entry}
    (h₁ : Programmed q q₁ s₁ e₁) (h₂ : Programmed q₁ q₂ s₂ e₂) (hdisjoint : ∀ i ∈ s₁, i ∉ s₂) :
    Programmed q q₂ (s₁ ++ s₂) (e₁ ++ e₂) where
  queueSize := h₂.queueSize.trans h₁.queueSize
  numUsed := h₂.numUsed.trans h₁.numUsed
  isHead := h₂.isHead.trans h₁.isHead
  next i := (h₂.next i).trans (h₁.next i)
  other := by
    intro i hi
    rw [List.mem_append, not_or] at hi
    rw [h₂.other i hi.2, h₁.other i hi.1]
  content := by
    refine List.rel_append ?_ h₂.content
    have hkept := (List.forall₂_and_left s₁ e₁).mpr ⟨hdisjoint, h₁.content⟩
    refine hkept.imp ?_
    intro i e ⟨hi, hd⟩
    rw [h₂.other i hi]
    exact hd
  inUse := by
    intro i
    rw [h₂.inUse, h₁.inUse, List.mem_append, or_assoc]

theorem Programmed.path {q q' : VirtQueue} {a b : Nat}
    {l : List Nat} (h : Programmed q q' slots entries)
    (hpath : Path (fun i => (q.descShadow i).next) a l b) :
    Path (fun i => (q'.descShadow i).next) a l b :=
  hpath.congr fun i _ => h.next i

theorem occupy_programmed {q : VirtQueue} {buf : VirtqueueBuf} {write : Bool}
    (hsize : q.freeHead < 32) :
    Programmed q (q.occupy buf ⟨true, write⟩) [q.freeHead] [⟨buf, write⟩] where
  queueSize := rfl
  numUsed := rfl
  isHead := rfl
  next := by
    intro i
    show (Function.update q.descShadow q.freeHead _ i).next = _
    by_cases hi : i = q.freeHead
    · rw [hi, Function.update_self]
    · rw [Function.update_of_ne hi]
  other := by
    intro i hi
    exact Function.update_of_ne (by simpa using hi) _ _
  content := by
    refine .cons ?_ .nil
    show Describes (Function.update q.descShadow q.freeHead _ q.freeHead) _ true
    rw [Function.update_self]
    exact ⟨rfl, rfl, rfl⟩
  inUse := by
    intro i
    rw [List.mem_singleton]
    exact has_insert hsize

variable {g2h h2g : List VirtqueueBuf} {q : VirtQueue} {taken rest : List Nat}

theorem addDescriptor_run {buf : VirtqueueBuf} {flag : DescFlags} (hi : q.freeHead < q.queueSize) :
    addDescriptor buf flag q = (.ok q.freeHead, q.occupy buf flag) := by
  refine bind_ok.mpr ⟨q, q, rfl, bind_ok.mpr ⟨(), q, ensure_ok.mpr ⟨hi, rfl⟩, ?_⟩⟩
  exact bind_ok.mpr ⟨(), _, rfl, rfl⟩

theorem addDescriptors_run {write : Bool} {bufs : List VirtqueueBuf} (last : Nat) {e : Nat}
    (hpath : Path (fun i => (q.descShadow i).next) q.freeHead (taken ++ rest) e)
    (hlen : taken.length = bufs.length) (hbound : ∀ i ∈ taken, i < q.queueSize)
    (hnodup : taken.Nodup) (hsize : q.queueSize ≤ 32) :
    ∃ q', addDescriptors ⟨true, write⟩ last bufs q = (.ok (taken.getLastD last), q') ∧
      Programmed q q' taken (bufs.map (⟨·, write⟩)) ∧
      Path (fun i => (q'.descShadow i).next) q'.freeHead rest e := by
  induction bufs generalizing q last taken with
  | nil =>
    obtain rfl : taken = [] := List.length_eq_zero_iff.mp hlen
    exact ⟨q, rfl, .refl q, hpath⟩
  | cons buf bufs ih =>
    cases taken with
    | nil => cases hlen
    | cons i taken =>
      obtain ⟨rfl, htail⟩ := hpath.head_eq
      have hlt := hbound q.freeHead List.mem_cons_self
      have hfirst : Programmed q (q.occupy buf ⟨true, write⟩) [q.freeHead] [⟨buf, write⟩] :=
        occupy_programmed (by omega)
      rw [List.nodup_cons] at hnodup
      obtain ⟨q', hrun, hprog, hrest⟩ := ih q.freeHead (hfirst.path htail)
        (by simpa using hlen) (fun j hj => hbound j (List.mem_cons_of_mem _ hj)) hnodup.2 hsize
      refine ⟨q', ?_, ?_, hrest⟩
      · rw [List.getLastD_cons]
        exact bind_ok.mpr ⟨q.freeHead, _, addDescriptor_run hlt, hrun⟩
      · refine hfirst.trans hprog ?_
        intro j hj
        rw [List.mem_singleton.mp hj]
        exact hnodup.1

/-! The books: every slot is free or belongs to one loan. -/

structure Chain where
  loan : Loan
  slots : List Nat

def lentSlots (chains : List Chain) : List Nat := chains.flatMap Chain.slots

structure Accounts (q : VirtQueue) (free : List Nat) (chains : List Chain) : Prop where
  size : q.queueSize ≤ MAX_QUEUE_SIZE
  partition : (free ++ lentSlots chains).Perm (List.range q.queueSize)
  free : ∃ e, Path (fun i => (q.descShadow i).next) q.freeHead free e
  recorded : ∀ c ∈ chains, Recorded q.descShadow c.slots c.loan.entries
  token : ∀ c ∈ chains, c.slots.head? = some c.loan.token
  numUsed : q.numUsed = (lentSlots chains).length
  inUse : ∀ i, Has q.inUse i ↔ i ∈ lentSlots chains
  isHead : ∀ i, Has q.isHead i ↔ ∃ c ∈ chains, c.loan.token = i

variable {before after : List Chain}

section

variable {free : List Nat} {chains : List Chain}

theorem Accounts.device (h : Accounts q free chains) (memory : SharedMemory) :
    Accounts { q with shared := memory } free chains :=
  ⟨h.size, h.partition, h.free, h.recorded, h.token, h.numUsed, h.inUse, h.isHead⟩

theorem Accounts.nodup (h : Accounts q free chains) : (free ++ lentSlots chains).Nodup :=
  h.partition.nodup_iff.mpr List.nodup_range

theorem Accounts.mem_iff (h : Accounts q free chains) (i : Nat) :
    i ∈ free ∨ i ∈ lentSlots chains ↔ i < q.queueSize := by
  rw [← List.mem_append, h.partition.mem_iff, List.mem_range]

theorem Accounts.free_length (h : Accounts q free chains) :
    free.length = q.queueSize - q.numUsed ∧ q.numUsed ≤ q.queueSize := by
  have hlen := h.partition.length_eq
  rw [List.length_append, List.length_range, ← h.numUsed] at hlen
  omega

variable {c : Chain}

theorem mem_lentSlots (hc : c ∈ chains) (hi : i ∈ c.slots) :
    i ∈ lentSlots chains := List.mem_flatMap.mpr ⟨c, hc, hi⟩

private theorem entries_length (l : Loan) : l.entries.length = l.g2h.length + l.h2g.length := by
  rw [Loan.entries, List.length_append, List.length_map, List.length_map]

theorem Accounts.slots_eq (h : Accounts q free chains) (hc : c ∈ chains) :
    c.loan.slots q = c.slots := by
  have hrec := h.recorded c hc
  have htoken := h.token c hc
  cases hslots : c.slots with
  | nil =>
    rw [hslots] at htoken
    cases htoken
  | cons i is =>
    rw [hslots] at hrec htoken
    obtain rfl := Option.some.inj htoken
    rw [hrec.iterate, entries_length]
    rfl

theorem Accounts.lent_eq (h : Accounts q free chains) :
    (chains.map Chain.loan).flatMap (·.slots q) = lentSlots chains := by
  rw [List.flatMap_map]
  exact List.flatMap_congr fun c hc => h.slots_eq hc

theorem Accounts.intact (h : Accounts q free chains) : Intact ⟨q, chains.map Chain.loan⟩ := by
  obtain ⟨hfree, hle⟩ := h.free_length
  obtain ⟨e, hpath⟩ := h.free
  have hslots : freeSlots q = free := by
    rw [freeSlots, ← hfree]
    exact hpath.eq_iterate.symm
  obtain ⟨hfreeNodup, hlentNodup, hdisjoint⟩ := List.nodup_append.mp h.nodup
  refine ⟨hle, ?_, ?_, ?_, ?_, ?_, ?_⟩
  · show (freeSlots q).Nodup
    rwa [hslots]
  · intro i
    show i ∈ freeSlots q ↔ i < q.queueSize ∧ ¬Has q.inUse i
    rw [hslots, h.inUse, ← h.mem_iff]
    constructor
    · intro hi
      exact ⟨.inl hi, fun hlent => hdisjoint i hi i hlent rfl⟩
    · intro ⟨hi, hnot⟩
      exact hi.resolve_right hnot
  · intro loan hloan
    obtain ⟨c, hc, rfl⟩ := List.mem_map.mp hloan
    show Recorded q.descShadow (c.loan.slots q) c.loan.entries
    rw [h.slots_eq hc]
    exact h.recorded c hc
  · show ((chains.map Chain.loan).flatMap (·.slots q)).Nodup
    rwa [h.lent_eq]
  · intro i
    show i ∈ (chains.map Chain.loan).flatMap (·.slots q) ↔ Has q.inUse i
    rw [h.lent_eq, h.inUse]
  · intro i
    show Has q.isHead i ↔ ∃ loan ∈ chains.map Chain.loan, loan.token = i
    rw [h.isHead]
    simp

theorem Accounts.token_mem (h : Accounts q free chains) (hc : c ∈ chains) :
    c.loan.token ∈ c.slots := List.mem_of_mem_head? (h.token c hc)

theorem lentSlots_split (before after : List Chain) (c : Chain) :
    (lentSlots (before ++ c :: after)).Perm (c.slots ++ lentSlots (before ++ after)) := by
  rw [lentSlots, lentSlots, List.flatMap_append, List.flatMap_cons, List.flatMap_append]
  exact List.perm_append_comm_assoc _ _ _

theorem Accounts.slots_nodup (h : Accounts q free (before ++ c :: after)) : c.slots.Nodup := by
  have hlent : (lentSlots (before ++ c :: after)).Nodup := (List.nodup_append.mp h.nodup).2.1
  rw [(lentSlots_split before after c).nodup_iff] at hlent
  exact (List.nodup_append.mp hlent).1

theorem Accounts.disjoint (h : Accounts q free (before ++ c :: after)) (hi : i ∈ c.slots) :
    i ∉ free ∧ i ∉ lentSlots (before ++ after) := by
  obtain ⟨-, hlent, hfree⟩ := List.nodup_append.mp h.nodup
  have hperm := lentSlots_split before after c
  refine ⟨fun hf => hfree i hf i (hperm.mem_iff.mpr (List.mem_append_left _ hi)) rfl, ?_⟩
  exact fun ho => (List.nodup_append.mp (hperm.nodup_iff.mp hlent)).2.2 i hi i ho rfl

theorem Accounts.token_ne {d : Chain}
    (h : Accounts q free (before ++ c :: after)) (hd : d ∈ before ++ after) :
    d.loan.token ≠ c.loan.token := by
  have hmem : d ∈ before ++ c :: after := by
    rcases List.mem_append.mp hd with hd | hd <;> simp [hd]
  intro heq
  refine (h.disjoint (h.token_mem (c := c) (by simp))).2 ?_
  rw [← heq]
  exact mem_lentSlots hd (h.token_mem hmem)

end

theorem path_linked (size : Nat) : ∀ n a : Nat, a + n = size →
      ∃ e, Path (fun i => (linkedShadow size i).next) a (List.range' a n) e := by
  intro n
  induction n with
  | zero => exact fun a _ => ⟨a, .nil a⟩
  | succ n ih =>
    intro a ha
    obtain ⟨e, hpath⟩ := ih (a + 1) (by omega)
    cases n with
    | zero => exact ⟨_, .cons (.nil _)⟩
    | succ n =>
      have hnext : (linkedShadow size a).next = a + 1 := by
        rw [linkedShadow, if_pos (by omega)]
      refine ⟨e, .cons ?_⟩
      show Path _ (linkedShadow size a).next _ e
      rw [hnext]
      exact hpath

theorem new_accounts {header : VirtioTransport} {idx : Nat} {dmaAddr : UInt64} {size : UInt16}
    {memory : SharedMemory} (h : new header idx dmaAddr size memory = .ok q) :
    Accounts q (List.range q.queueSize) [] := by
  unfold new at h
  simp only [except_bind_ok, require_ok, orElse_ok] at h
  obtain ⟨-, -, maxSize, -, -, ⟨-, hsize⟩, layout, -, -, -, -, -, -, -, hq⟩ := h
  cases hq
  refine ⟨hsize, ?_, ?_, by simp, by simp, rfl, ?_, ?_⟩
  · rw [lentSlots, List.flatMap_nil, List.append_nil]
  · rw [List.range_eq_range']
    exact path_linked size.toNat size.toNat 0 (Nat.zero_add _)
  · intro i
    exact ⟨fun hi => absurd hi (not_has_empty i), fun hi => by simp [lentSlots] at hi⟩
  · intro i
    refine ⟨fun hi => absurd hi (not_has_empty i), ?_⟩
    rintro ⟨c, hc, -⟩
    cases hc

/-- The state behind the loops of `add`. -/
def VirtQueue.lend (q : VirtQueue) (last head count : Nat) : VirtQueue :=
  VirtQueue.publish { (q.endChain last).mirrorFlags last with
    numUsed := q.numUsed + count, isHead := insert q.isHead head } head

theorem getLast?_append_getLastD (s t : List Nat) (d : Nat) (hne : s ++ t ≠ []) :
    (s ++ t).getLast? = some (t.getLastD (s.getLastD d)) := by
  rw [List.getLast?_append, List.getLastD_eq_getLast?, List.getLastD_eq_getLast?]
  cases ht : t.getLast? with
  | some x => rfl
  | none =>
    cases hs : s.getLast? with
    | some x => rfl
    | none =>
      rw [List.getLast?_eq_none_iff] at hs ht
      simp [hs, ht] at hne

variable {chains : List Chain}

theorem Accounts.lend {q q₂ : VirtQueue} {last e : Nat} (h : Accounts q (taken ++ rest) chains)
    (hprog : Programmed q q₂ taken (Loan.entries ⟨q.freeHead, g2h, h2g⟩))
    (hrest : Path (fun i => (q₂.descShadow i).next) q₂.freeHead rest e)
    (hlast : taken.getLast? = some last) (hlen : taken.length = g2h.length + h2g.length) :
    Accounts (VirtQueue.lend q₂ last q.freeHead (g2h.length + h2g.length)) rest
      (⟨⟨q.freeHead, g2h, h2g⟩, taken⟩ :: chains) := by
  have hnodup := h.nodup
  rw [List.append_assoc] at hnodup
  obtain ⟨htakenNodup, -, hdisjoint⟩ := List.nodup_append.mp hnodup
  obtain ⟨e', hpath⟩ := h.free
  obtain ⟨b, htaken, -⟩ := path_append.mp hpath
  have hlastMem : last ∈ taken := List.mem_of_getLast? hlast
  have hhead : taken.head? = some q.freeHead := by
    cases htaken with
    | nil => cases hlast
    | cons _ => rfl
  have hheadMem : q.freeHead ∈ taken := List.mem_of_mem_head? hhead
  have hhead32 : q.freeHead < 32 := by
    have hlt := (h.mem_iff q.freeHead).mp (.inl (List.mem_append_left _ hheadMem))
    have hsize := h.size
    unfold MAX_QUEUE_SIZE at hsize
    omega
  let q₃ := VirtQueue.lend q₂ last q.freeHead (g2h.length + h2g.length)
  have hend : q₃.descShadow last =
      { q₂.descShadow last with flags := { (q₂.descShadow last).flags with next := false } } :=
    Function.update_self ..
  have hsame : ∀ i, i ≠ last → q₃.descShadow i = q₂.descShadow i :=
    fun i hi => Function.update_of_ne hi _ _
  have hnext : ∀ i, (q₃.descShadow i).next = (q₂.descShadow i).next := by
    intro i
    by_cases hi : i = last
    · rw [hi, hend]
    · rw [hsame i hi]
  refine ⟨?_, ?_, ⟨e, hrest.congr fun i _ => hnext i⟩, ?_, ?_, ?_, ?_, ?_⟩
  · exact hprog.queueSize ▸ h.size
  · have hperm : (rest ++ (taken ++ lentSlots chains)).Perm
        ((taken ++ rest) ++ lentSlots chains) := by
      rw [List.append_assoc]
      exact List.perm_append_comm_assoc _ _ _
    have hsize : q₃.queueSize = q.queueSize := hprog.queueSize
    show (rest ++ (taken ++ lentSlots chains)).Perm (List.range q₃.queueSize)
    rw [hsize]
    exact hperm.trans h.partition
  · intro c hc
    rcases List.mem_cons.mp hc with rfl | hc
    · exact recorded_of_programmed (hprog.path htaken) htakenNodup hprog.content hlast hend hsame
    · refine (h.recorded c hc).congr ?_
      intro i hi
      have hnot : i ∉ taken := fun ht =>
        hdisjoint i ht i (List.mem_append_right _ (mem_lentSlots hc hi)) rfl
      rw [hsame i fun heq => hnot (heq ▸ hlastMem), hprog.other i hnot]
  · intro c hc
    rcases List.mem_cons.mp hc with rfl | hc
    · exact hhead
    · exact h.token c hc
  · show q₂.numUsed + _ = (taken ++ lentSlots chains).length
    rw [hprog.numUsed, h.numUsed, List.length_append, hlen]
    omega
  · intro i
    show Has q₂.inUse i ↔ i ∈ taken ++ lentSlots chains
    rw [hprog.inUse, h.inUse, List.mem_append]
    exact or_comm
  · intro i
    show Has (insert q₂.isHead q.freeHead) i ↔ _
    rw [has_insert hhead32, hprog.isHead, h.isHead]
    simp only [List.mem_cons, exists_eq_or_imp]
    exact or_comm.trans (or_congr_left eq_comm)

def Fits (q : VirtQueue) (g2h h2g : List VirtqueueBuf) : Prop :=
  ¬(g2h = [] ∧ h2g = []) ∧ g2h.length + h2g.length + q.numUsed ≤ q.queueSize

theorem add_fits {free : List Nat} (h : Accounts q free chains) (hfits : Fits q g2h h2g) :
    ∃ taken rest q', add g2h h2g q = (.ok q.freeHead, q') ∧ free = taken ++ rest ∧
      Accounts q' rest (⟨⟨q.freeHead, g2h, h2g⟩, taken⟩ :: chains) := by
  obtain ⟨hempty, hroom⟩ := hfits
  obtain ⟨hfree, -⟩ := h.free_length
  -- The slots for the two loops and the rest of the free list.
  obtain ⟨s, t, rest, hsplit, hs, ht⟩ : ∃ s t rest, free = (s ++ t) ++ rest ∧
      s.length = g2h.length ∧ t.length = h2g.length := by
    refine ⟨free.take g2h.length, (free.drop g2h.length).take h2g.length,
      (free.drop g2h.length).drop h2g.length, ?_, ?_, ?_⟩
    · rw [List.append_assoc, List.take_append_drop, List.take_append_drop]
    · rw [List.length_take]
      omega
    · rw [List.length_take, List.length_drop]
      omega
  subst hsplit
  have hsize := h.size
  unfold MAX_QUEUE_SIZE at hsize
  have hbound : ∀ i ∈ s ++ t, i < q.queueSize := fun i hi =>
    (h.mem_iff i).mp (.inl (List.mem_append_left _ hi))
  have hnodup : (s ++ t).Nodup := (List.nodup_append.mp (List.nodup_append.mp h.nodup).1).1
  obtain ⟨hsNodup, htNodup, hst⟩ := List.nodup_append.mp hnodup
  obtain ⟨e, hpath⟩ := h.free
  rw [List.append_assoc] at hpath
  obtain ⟨q₁, hrun₁, hprog₁, hpath₁⟩ := addDescriptors_run q.freeHead hpath hs
    (fun i hi => hbound i (List.mem_append_left _ hi)) hsNodup hsize
  obtain ⟨q₂, hrun₂, hprog₂, hpath₂⟩ := addDescriptors_run (s.getLastD q.freeHead) hpath₁ ht
    (fun i hi => hprog₁.queueSize ▸ hbound i (List.mem_append_right _ hi)) htNodup
    (hprog₁.queueSize ▸ hsize)
  have hprog := hprog₁.trans hprog₂ fun i hi hi' => hst i hi i hi' rfl
  have hlen : (s ++ t).length = g2h.length + h2g.length := by rw [List.length_append, hs, ht]
  have hne : s ++ t ≠ [] := by
    intro hnil
    rw [hnil, List.length_nil] at hlen
    refine hempty ⟨List.length_eq_zero_iff.mp ?_, List.length_eq_zero_iff.mp ?_⟩ <;> omega
  have hlast := getLast?_append_getLastD s t q.freeHead hne
  have hlastBound := hbound _ (List.mem_of_getLast? hlast)
  have hslot : q.availIdx.toNat &&& (q.queueSize - 1) < MAX_QUEUE_SIZE := by
    have hle : q.availIdx.toNat &&& (q.queueSize - 1) ≤ q.queueSize - 1 := Nat.and_le_right
    unfold MAX_QUEUE_SIZE
    omega
  refine ⟨s ++ t, rest, VirtQueue.lend q₂ _ q.freeHead (g2h.length + h2g.length), ?_, rfl,
    h.lend hprog hpath₂ hlast hlen⟩
  refine bind_ok.mpr ⟨(), q, ensure_ok.mpr ⟨hempty, rfl⟩, bind_ok.mpr ⟨q, q, rfl, ?_⟩⟩
  refine bind_ok.mpr ⟨(), q, ensure_ok.mpr ⟨hroom, rfl⟩, ?_⟩
  refine bind_ok.mpr ⟨_, q₁, hrun₁, bind_ok.mpr ⟨_, q₂, hrun₂, ?_⟩⟩
  refine bind_ok.mpr ⟨(), q₂, ensure_ok.mpr ⟨?_, rfl⟩, bind_ok.mpr ⟨(), _, rfl, ?_⟩⟩
  · unfold MAX_QUEUE_SIZE
    omega
  refine bind_ok.mpr ⟨(), _, ensure_ok.mpr ⟨hlastBound, rfl⟩, bind_ok.mpr ⟨(), _, rfl, ?_⟩⟩
  refine bind_ok.mpr ⟨(), _, rfl, bind_ok.mpr ⟨(), _, ensure_ok.mpr ⟨hslot, rfl⟩, ?_⟩⟩
  exact bind_ok.mpr ⟨(), _, rfl, rfl⟩

theorem add_refused (hno : ¬Fits q g2h h2g) : ∃ e, add g2h h2g q = (.error e, q) := by
  by_cases hempty : g2h = [] ∧ h2g = []
  · refine ⟨.invalidParameter, bind_error.mpr (.inl ?_)⟩
    simp [ensure, hempty, raise]
  · have hroom : ¬g2h.length + h2g.length + q.numUsed ≤ q.queueSize := fun h => hno ⟨hempty, h⟩
    refine ⟨.bufferTooSmall, bind_error.mpr (.inr ⟨(), q, ensure_ok.mpr ⟨hempty, rfl⟩, ?_⟩)⟩
    refine bind_error.mpr (.inr ⟨q, q, rfl, bind_error.mpr (.inl ?_)⟩)
    show ensure (g2h.length + h2g.length + q.numUsed ≤ q.queueSize) _ q = _
    rw [ensure, if_neg hroom]
    rfl

end MigTd.Virtio.Loans
