/- scope: library
   digest: Chains of a compression step, whose end value determines what went into them. -/

import Mathlib.Data.List.Induction
import Mathlib.Data.Set.Function

set_option autoImplicit false

namespace MigTd.Lib.HashChain

variable {α β : Type}

def chainInputs (step : α → β → α) : α → List β → List (α × β)
  | _, [] => []
  | value, item :: rest => (value, item) :: chainInputs step (step value item) rest

/-- On these arguments the step has no collision and does not return to the start value. -/
structure CollisionFree (step : α → β → α) (start : α) (inputs : Set (α × β)) : Prop where
  injOn : Set.InjOn (Function.uncurry step) inputs
  fresh : ∀ x ∈ inputs, step x.1 x.2 ≠ start

variable {step : α → β → α} {start : α} {inputs : Set (α × β)}

theorem chainInputs_concat (items : List β) (item : β) : chainInputs step start (items ++ [item]) =
      chainInputs step start items ++ [(items.foldl step start, item)] := by
  induction items generalizing start with
  | nil => rfl
  | cons first rest ih =>
    rw [List.cons_append, chainInputs, ih, List.foldl_cons]
    rfl

theorem CollisionFree.concat_ne_start (free : CollisionFree step start inputs) {items : List β}
    {item : β} (hin : ∀ x ∈ chainInputs step start (items ++ [item]), x ∈ inputs) :
    (items ++ [item]).foldl step start ≠ start := by
  have hlast : (items.foldl step start, item) ∈ inputs := by
    apply hin
    rw [chainInputs_concat]
    exact List.mem_append_right _ List.mem_cons_self
  rw [List.foldl_append]
  exact free.fresh _ hlast

theorem CollisionFree.items_eq (free : CollisionFree step start inputs) {xs ys : List β}
    (hxs : ∀ x ∈ chainInputs step start xs, x ∈ inputs)
    (hys : ∀ x ∈ chainInputs step start ys, x ∈ inputs)
    (h : xs.foldl step start = ys.foldl step start) : xs = ys := by
  -- The last steps agree, and with them the values before them and the last items.
  induction xs using List.reverseRecOn generalizing ys with
  | nil =>
    rcases List.eq_nil_or_concat ys with rfl | ⟨ys, y, rfl⟩
    · rfl
    · rw [List.concat_eq_append] at hys h
      exact absurd h.symm (free.concat_ne_start hys)
  | append_singleton xs x ih =>
    rcases List.eq_nil_or_concat ys with rfl | ⟨ys, y, rfl⟩
    · exact absurd h (free.concat_ne_start hxs)
    · rw [List.concat_eq_append] at hys h ⊢
      rw [chainInputs_concat, List.forall_mem_append] at hxs hys
      rw [List.foldl_append, List.foldl_append] at h
      have hlast := free.injOn (hxs.2 _ List.mem_cons_self) (hys.2 _ List.mem_cons_self) h
      obtain ⟨hvalue, hitem⟩ := Prod.mk.inj hlast
      rw [ih hxs.1 hys.1 hvalue, hitem]

end MigTd.Lib.HashChain
