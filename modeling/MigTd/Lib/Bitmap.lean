/- scope: library
   digest: Machine words used as sets of small numbers. -/

import Mathlib.Data.Nat.Notation

set_option autoImplicit false

namespace MigTd.Lib.Bitmap

variable {w : Nat}

def insert (b : BitVec w) (i : Nat) : BitVec w := b ||| (1#w <<< i)

def remove (b : BitVec w) (i : Nat) : BitVec w := b &&& ~~~(1#w <<< i)

def Has (b : BitVec w) (i : Nat) : Prop := b &&& (1#w <<< i) ≠ 0#w
  deriving Decidable

theorem getLsbD_one_shift (i j : Nat) :
    (1#w <<< i).getLsbD j = (decide (i < w) && decide (i = j)) :=
  BitVec.getLsbD_twoPow i j

variable {b : BitVec w} {i j : Nat}

theorem has_iff {i : Nat} : Has b i ↔ b.getLsbD i = true := by
  have hand : b &&& (1#w <<< i) = if b.getLsbD i then 1#w <<< i else 0#w := BitVec.and_twoPow b i
  rw [Has, hand]
  by_cases hbit : b.getLsbD i = true
  · have hlt : i < w := BitVec.lt_of_getLsbD hbit
    have hself : (1#w <<< i).getLsbD i = true := by simp [hlt]
    have hne : 1#w <<< i ≠ 0#w := by
      intro hzero
      rw [hzero, BitVec.getLsbD_zero] at hself
      cases hself
    simp [hbit, hne]
  · simp [hbit]

theorem not_has_empty (i : Nat) : ¬Has 0#w i := by
  simp [has_iff]

theorem has_insert (hi : i < w) : Has (insert b i) j ↔ Has b j ∨ j = i := by
  rw [has_iff, has_iff, insert, BitVec.getLsbD_or, getLsbD_one_shift]
  have hcomm : i = j ↔ j = i := eq_comm
  simp only [hi, hcomm, decide_true, Bool.true_and, Bool.or_eq_true, decide_eq_true_eq]

theorem has_remove : Has (remove b i) j ↔ Has b j ∧ j ≠ i := by
  rw [has_iff, has_iff, remove, BitVec.getLsbD_and, BitVec.getLsbD_not, getLsbD_one_shift]
  by_cases hbit : b.getLsbD j = true
  · have hlt : j < w := BitVec.lt_of_getLsbD hbit
    by_cases hij : i = j
    · simp [hij, hlt]
    · simp [hbit, hlt, hij, Ne.symm hij]
  · simp [hbit]

end MigTd.Lib.Bitmap
