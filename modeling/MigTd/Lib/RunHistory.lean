/- scope: library
   digest: Executed runs of a step function with their chronological history of visits. -/

import Mathlib.Data.List.Induction

set_option autoImplicit false

namespace MigTd.Lib.RunHistory

/-- One executed step: the state it started from, its input and the state it reached. -/
structure Visit (σ ι : Type) where
  before : σ
  input : ι
  after : σ

variable {σ ι : Type} {step : σ → ι → σ}

/-- The listed visits, in order, lead from the first state to the last one. -/
inductive Walk (step : σ → ι → σ) : σ → List (Visit σ ι) → σ → Prop
  | nil (s : σ) : Walk step s [] s
  | snoc {s t : σ} {h : List (Visit σ ι)} (w : Walk step s h t) (i : ι) :
      Walk step s (h ++ [⟨t, i, step t i⟩]) (step t i)

variable {h : List (Visit σ ι)} {s t : σ} {v : Visit σ ι}

theorem Walk.cons (i : ι) (w : Walk step (step s i) h t) :
    Walk step s (⟨s, i, step s i⟩ :: h) t := by
  induction w with
  | nil => exact .snoc (.nil s) i
  | snoc w j ih => exact .snoc ih j

def trace (step : σ → ι → σ) : σ → List ι → List (Visit σ ι)
  | _, [] => []
  | s, i :: rest => ⟨s, i, step s i⟩ :: trace step (step s i) rest

theorem walk_trace (s : σ) (inputs : List ι) :
    Walk step s (trace step s inputs) (inputs.foldl step s) := by
  induction inputs generalizing s with
  | nil => exact .nil s
  | cons i rest ih => exact .cons i (ih (step s i))

theorem trace_inputs (s : σ) (inputs : List ι) :
    (trace step s inputs).map Visit.input = inputs := by
  induction inputs generalizing s with
  | nil => rfl
  | cons i rest ih => rw [trace, List.map_cons, ih]

theorem trace_append (s : σ) (inputs more : List ι) : trace step s (inputs ++ more) =
      trace step s inputs ++ trace step (inputs.foldl step s) more := by
  induction inputs generalizing s with
  | nil => rfl
  | cons i rest ih =>
    rw [List.cons_append, trace, ih (step s i)]
    rfl

theorem Walk.invariant {P : List (Visit σ ι) → σ → Prop} (w : Walk step s h t) (start : P [] s)
    (next : ∀ h u i, Walk step s h u → P h u → P (h ++ [⟨u, i, step u i⟩]) (step u i)) :
    P h t := by
  induction w with
  | nil => exact start
  | snoc w i ih => exact next _ _ i w ih

theorem Walk.split {k : List (Visit σ ι)} (w : Walk step s (h ++ v :: k) t) :
    Walk step s h v.before ∧ v.after = step v.before v.input ∧ Walk step v.after k t := by
  induction k using List.reverseRecOn generalizing t with
  | nil =>
    generalize hl : h ++ [v] = l at w
    cases w with
    | nil => simp at hl
    | @snoc u g w i =>
      obtain ⟨rfl, hv⟩ := List.append_inj' hl rfl
      obtain rfl := (List.cons.inj hv).1
      exact ⟨w, rfl, .nil _⟩
  | append_singleton k x ih =>
    generalize hl : h ++ v :: (k ++ [x]) = l at w
    cases w with
    | nil => simp at hl
    | @snoc u g w i =>
      have hl' : (h ++ v :: k) ++ [x] = g ++ [⟨u, i, step u i⟩] := by simpa using hl
      obtain ⟨rfl, hx⟩ := List.append_inj' hl' rfl
      obtain rfl := (List.cons.inj hx).1
      obtain ⟨hw, hv, ht⟩ := ih w
      exact ⟨hw, hv, .snoc ht i⟩

theorem Walk.mem (w : Walk step s h t) (hv : v ∈ h) :
    v.after = step v.before v.input ∧ ∃ g, (∃ k, h = g ++ v :: k) ∧ Walk step s g v.before := by
  obtain ⟨g, k, rfl⟩ := List.append_of_mem hv
  obtain ⟨hg, hs, -⟩ := w.split
  exact ⟨hs, g, ⟨k, rfl⟩, hg⟩

theorem Walk.always {P : σ → Prop} (w : Walk step s h t)
    (start : P s) (next : ∀ u i, P u → P (step u i)) :
    P t ∧ ∀ v ∈ h, P v.before ∧ P v.after := by
  refine w.invariant (P := fun h t => P t ∧ ∀ v ∈ h, P v.before ∧ P v.after) ⟨start, by simp⟩ ?_
  rintro h u i - ⟨hu, hv⟩
  refine ⟨next u i hu, ?_⟩
  intro v hm
  rcases List.mem_append.mp hm with hm | hm
  · exact hv v hm
  · obtain rfl := List.mem_singleton.mp hm
    exact ⟨hu, next u i hu⟩

end MigTd.Lib.RunHistory
