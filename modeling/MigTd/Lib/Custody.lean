/- scope: library
   digest: Resources that are taken from a source, recorded in a table and given back. -/

import Mathlib.Algebra.Order.Group.Multiset

set_option autoImplicit false

namespace MigTd.Lib.Custody

variable {α ρ : Type}

/-- What was taken was given back or is held, and what is held is on record. A resource that was
taken twice is held twice. -/
structure Accounted (table : α → Option ρ) (taken returned held : Multiset α) : Prop where
  balance : taken = returned + held
  recorded : ∀ a, a ∈ held ↔ (table a).isSome = true

variable {table : α → Option ρ} {taken returned held : Multiset α} {a : α}

section

variable [DecidableEq α]

theorem Accounted.take (h : Accounted table taken returned held) (a : α) (r : ρ) :
    Accounted (Function.update table a (some r)) (a ::ₘ taken) returned (a ::ₘ held) where
  balance := by rw [h.balance, Multiset.add_cons]
  recorded b := by
    rw [Multiset.mem_cons]
    by_cases hb : b = a
    · subst hb
      rw [Function.update_self]
      exact iff_of_true (.inl rfl) rfl
    · rw [Function.update_of_ne hb, ← h.recorded]
      exact or_iff_right hb

theorem Accounted.give (h : Accounted table taken returned (a ::ₘ held)) (hnot : a ∉ held) :
    Accounted (Function.update table a none) taken (a ::ₘ returned) held where
  balance := by rw [h.balance, Multiset.add_cons, Multiset.cons_add]
  recorded b := by
    by_cases hb : b = a
    · subst hb
      rw [Function.update_self]
      exact iff_of_false hnot (by simp)
    · rw [Function.update_of_ne hb, ← h.recorded, Multiset.mem_cons]
      exact (or_iff_right hb).symm

theorem Accounted.nodup (h : Accounted table taken returned held)
    (hsource : ∀ a, taken.count a ≤ returned.count a + 1) : held.Nodup := by
  rw [Multiset.nodup_iff_count_le_one]
  intro a
  have hcount := hsource a
  rw [h.balance, Multiset.count_add] at hcount
  omega

end

end MigTd.Lib.Custody
