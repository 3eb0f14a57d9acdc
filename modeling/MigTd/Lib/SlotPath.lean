/- scope: library
   digest: Singly linked lists in a table: the slots that a successor function leads through. -/

import Mathlib.Data.List.Iterate

set_option autoImplicit false

namespace MigTd.Lib.SlotPath

variable {α : Type}

/-- From the first slot the successors lead through the listed slots to the last one, which is
not listed. -/
inductive Path (next : α → α) : α → List α → α → Prop
  | nil (a : α) : Path next a [] a
  | cons {a b : α} {l : List α} (h : Path next (next a) l b) : Path next a (a :: l) b

variable {next next' : α → α} {a b c : α} {l m : List α}

theorem Path.head_eq (h : Path next a (b :: l) c) : b = a ∧ Path next (next a) l c := by
  cases h with
  | cons h => exact ⟨rfl, h⟩

theorem path_append : Path next a (l ++ m) c ↔ ∃ b, Path next a l b ∧ Path next b m c := by
  induction l generalizing a with
  | nil =>
    constructor
    · intro h
      exact ⟨a, .nil a, h⟩
    · intro ⟨b, hl, hm⟩
      cases hl
      exact hm
  | cons x l ih =>
    constructor
    · intro h
      obtain ⟨rfl, h⟩ := h.head_eq
      obtain ⟨b, hl, hm⟩ := ih.mp h
      exact ⟨b, .cons hl, hm⟩
    · intro ⟨b, hl, hm⟩
      obtain ⟨rfl, hl⟩ := hl.head_eq
      exact .cons (ih.mpr ⟨b, hl, hm⟩)

theorem Path.congr (h : Path next a l b) (hsame : ∀ x ∈ l, next' x = next x) :
    Path next' a l b := by
  induction h with
  | nil a => exact .nil a
  | @cons a b l h ih =>
    refine .cons ?_
    rw [hsame a List.mem_cons_self]
    exact ih fun x hx => hsame x (List.mem_cons_of_mem a hx)

theorem Path.eq_iterate (h : Path next a l b) : l = List.iterate next a l.length := by
  induction h with
  | nil a => rfl
  | @cons a b l h ih =>
    rw [List.length_cons, List.iterate]
    exact congrArg (a :: ·) ih

end MigTd.Lib.SlotPath
