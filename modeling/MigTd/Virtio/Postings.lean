/- source: virtqueue.rs
   digest: The buffers that a queue has posted, as its users see them. -/

import MigTd.Virtio.Returns
import Mathlib.Algebra.Order.Group.Multiset

set_option autoImplicit false

namespace MigTd.Virtio.Postings

open Lib.Bitmap Loans Queue Returns Lib.StateProgram

def posted (q : VirtQueue) : List UInt64 :=
  ((List.range q.queueSize).filter fun i => Has q.inUse i).map fun i => (q.descShadow i).addr

def addresses (l : Loan) : List UInt64 := (l.g2h ++ l.h2g).map VirtqueueBuf.addr

section

variable {q : VirtQueue} {free : List Nat} {chains : List Chain}

theorem recorded_addresses {shadow : Nat → Descriptor} {slots : List Nat} {entries : List Entry}
    (h : Recorded shadow slots entries) :
    (slots.map fun i => (shadow i).addr) = entries.map fun e => e.buf.addr := by
  induction slots generalizing entries with
  | nil => exact h.elim
  | cons i is ih =>
    cases is with
    | nil =>
      match entries, h with
      | [e], h =>
        have hd : Describes (shadow i) e false := h
        rw [List.map_singleton, List.map_singleton, hd.addr]
    | cons j js =>
      match entries, h with
      | e :: es, ⟨hd, _, hrest⟩ =>
        rw [List.map_cons (l := j :: js), ih hrest, List.map_cons, hd.addr]

theorem entries_addresses (l : Loan) : (l.entries.map fun e => e.buf.addr) = addresses l := by
  rw [Loan.entries, addresses, List.map_append, List.map_append, List.map_map, List.map_map]
  rfl

theorem posted_perm (h : Accounts q free chains) :
    (posted q).Perm (chains.flatMap fun c => addresses c.loan) := by
  have hslots : ((List.range q.queueSize).filter fun i => Has q.inUse i).Perm
      (lentSlots chains) := by
    refine (List.perm_ext_iff_of_nodup (List.nodup_range.filter _)
      (List.nodup_append.mp h.nodup).2.1).mpr fun i => ?_
    rw [List.mem_filter, List.mem_range, decide_eq_true_iff, h.inUse]
    exact and_iff_right_of_imp fun hi => (h.mem_iff i).mp (.inr hi)
  refine (hslots.map _).trans (List.Perm.of_eq ?_)
  rw [lentSlots, List.map_flatMap]
  refine List.flatMap_congr fun c hc => ?_
  rw [recorded_addresses (h.recorded c hc), entries_addresses]

theorem posted_length (h : Accounts q free chains) : (posted q).length = q.numUsed := by
  have hperm := posted_perm h
  rw [hperm.length_eq, h.numUsed, lentSlots, List.length_flatMap, List.length_flatMap]
  congr 1
  refine List.map_congr_left fun c hc => ?_
  have hlen := congrArg List.length (recorded_addresses (h.recorded c hc))
  rw [List.length_map, entries_addresses] at hlen
  exact hlen.symm

end

/-! A queue of this size whose loans all have some property. -/

section

variable {size : Nat} {P : Loan → Prop} {q : VirtQueue} {g2h h2g : List VirtqueueBuf}

def Lending (size : Nat) (P : Loan → Prop) (q : VirtQueue) : Prop :=
  q.queueSize = size ∧ ∃ free chains, Accounts q free chains ∧ ∀ c ∈ chains, P c.loan

theorem new_lending {header : VirtioTransport} {idx : Nat} {dmaAddr : UInt64} {n : UInt16}
    {memory : SharedMemory} (h : new header idx dmaAddr n memory = .ok q) (P : Loan → Prop) :
    Lending n.toNat P q ∧ posted q = [] := by
  have haccounts := new_accounts h
  refine ⟨⟨?_, _, [], haccounts, nofun⟩, (posted_perm haccounts).eq_nil⟩
  unfold new at h
  simp only [except_bind_ok, require_ok, orElse_ok] at h
  obtain ⟨-, -, maxSize, -, -, -, layout, -, -, -, -, -, -, -, hq⟩ := h
  cases hq
  rfl

theorem Lending.device (h : Lending size P q) (memory : SharedMemory) :
    Lending size P { q with shared := memory } := by
  obtain ⟨hsize, free, chains, hacc, hP⟩ := h
  exact ⟨hsize, free, chains, hacc.device memory, hP⟩

theorem Lending.numUsed (h : Lending size P q) : q.numUsed = (posted q).length := by
  obtain ⟨-, free, chains, hacc, -⟩ := h
  exact (posted_length hacc).symm

theorem Lending.length_le (h : Lending size P q) : (posted q).length ≤ size := by
  obtain ⟨hsize, free, chains, hacc, -⟩ := h
  rw [posted_length hacc, ← hsize]
  exact hacc.free_length.2

theorem Lending.dvd (h : Lending size P q) {k : Nat} (hk : ∀ l, P l → (addresses l).length = k) :
    k ∣ (posted q).length := by
  obtain ⟨-, free, chains, hacc, hP⟩ := h
  rw [(posted_perm hacc).length_eq]
  clear hacc
  induction chains with
  | nil => exact Nat.dvd_zero k
  | cons c rest ih =>
    rw [List.flatMap_cons, List.length_append, hk _ (hP c List.mem_cons_self)]
    exact Nat.dvd_add (Nat.dvd_refl k) (ih fun d hd => hP d (List.mem_cons_of_mem c hd))

theorem Lending.fits_iff (h : Lending size P q) : Fits q g2h h2g ↔
      ¬(g2h = [] ∧ h2g = []) ∧ g2h.length + h2g.length + (posted q).length ≤ size := by
  rw [Fits, h.numUsed, h.1]

theorem Lending.add (h : Lending size P q) (hP : ∀ token, P ⟨token, g2h, h2g⟩)
    (hfits : Fits q g2h h2g) :
    ∃ token q', add g2h h2g q = (.ok token, q') ∧ Lending size P q' ∧
      (posted q' : Multiset UInt64) =
        ((g2h ++ h2g).map VirtqueueBuf.addr : List UInt64) + (posted q : Multiset UInt64) := by
  obtain ⟨hsize, free, chains, hacc, hchains⟩ := h
  obtain ⟨taken, rest, q', hrun, rfl, hacc'⟩ := add_fits hacc hfits
  refine ⟨_, q', hrun, ⟨?_, rest, _, hacc', ?_⟩, ?_⟩
  · have hlen := hacc.partition.length_eq
    have hlen' := hacc'.partition.length_eq
    rw [List.length_range, lentSlots, List.flatMap_cons] at hlen'
    rw [List.length_range, lentSlots] at hlen
    simp only [List.length_append] at hlen hlen'
    omega
  · intro c hc
    obtain rfl | hold := List.mem_cons.mp hc
    · exact hP _
    · exact hchains c hold
  · rw [Multiset.coe_add, Multiset.coe_eq_coe]
    refine (posted_perm hacc').trans ?_
    rw [List.flatMap_cons]
    exact (posted_perm hacc).symm.append_left _

theorem Lending.popUsed (h : Lending size P q) (hpop : Poppable q) :
    ∃ loan n s', P loan ∧ popUsed ⟨q, [], []⟩ = (.ok n, s') ∧ s'.g2h = loan.g2h ∧
      s'.h2g = loan.h2g ∧ Lending size P s'.queue ∧
      (posted q : Multiset UInt64) = addresses loan + (posted s'.queue : Multiset UInt64) := by
  obtain ⟨hsize, free, chains, hacc, hchains⟩ := h
  obtain ⟨before, c, after, s', rfl, -, hrun, hg2h, hh2g, hacc'⟩ :=
    popUsed_returns (s := ⟨q, [], []⟩) hacc hpop
  have hothers : ∀ d ∈ before ++ after, P d.loan := by
    intro d hd
    refine hchains d ?_
    rcases List.mem_append.mp hd with hd | hd <;> simp [hd]
  refine ⟨c.loan, _, s', hchains c (by simp), hrun, hg2h, hh2g, ⟨?_, _, _, hacc', hothers⟩, ?_⟩
  · have hlen := hacc.partition.length_eq
    have hlen' := hacc'.partition.length_eq
    have hsplit := (lentSlots_split before after c).length_eq
    rw [List.length_range] at hlen hlen'
    simp only [List.length_append] at hlen hlen' hsplit
    omega
  · rw [Multiset.coe_add, Multiset.coe_eq_coe]
    refine (posted_perm hacc).trans ((?_ : List.Perm _ _).trans
      ((posted_perm hacc').symm.append_left _))
    rw [List.flatMap_append, List.flatMap_cons, List.flatMap_append]
    exact List.perm_append_comm_assoc _ _ _

theorem Lending.popUsed_refused (h : Lending size P q) (hno : ¬Poppable q) :
    ∃ e, Queue.popUsed ⟨q, [], []⟩ = (.error e, ⟨q, [], []⟩) := by
  obtain ⟨-, free, chains, hacc, -⟩ := h
  exact Returns.popUsed_refused (s := ⟨q, [], []⟩) hacc hno

end

end MigTd.Virtio.Postings
