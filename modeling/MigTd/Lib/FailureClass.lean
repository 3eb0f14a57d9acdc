/- scope: library
   digest: Which errors a result, a reader or a stateful program can fail with, by structure. -/

import MigTd.Lib.StateProgram
import Mathlib.Logic.Basic

set_option autoImplicit false

namespace MigTd.Lib.FailureClass

open StateProgram

variable {σ τ ρ ε ε' α β : Type} {E : ε → Prop}

/-- Every error of a stateless result satisfies the predicate. -/
class Erring (E : ε → Prop) (x : Except ε α) : Prop where
  of : ∀ e, x = .error e → E e

/-- Every error of a reader satisfies the predicate. -/
class Misreads (E : ε → Prop) (m : StateT ρ (Except ε) α) : Prop where
  of : ∀ r e, m r = .error e → E e

/-- Every error of a program satisfies the predicate. -/
class Fails (E : ε → Prop) (m : Program σ ε α) : Prop where
  of : ∀ s e t, m s = (.error e, t) → E e

variable {E' : ε' → Prop}

section

instance erring_ok (a : α) : Erring E (.ok a : Except ε α) := ⟨fun _ h => by cases h⟩

instance erring_pure (a : α) : Erring E (pure a : Except ε α) := ⟨fun _ h => by cases h⟩

instance erring_error (e : ε) [h : Fact (E e)] : Erring E (.error e : Except ε α) :=
  ⟨fun _ he => by cases he; exact h.out⟩

instance erring_orElse (x : Option α) (e : ε) [h : Fact (E e)] : Erring E (orElse x e) :=
  ⟨fun _ he => (orElse_error.mp he).2 ▸ h.out⟩

instance erring_ite (c : Prop) [Decidable c] (x y : Except ε α) [hx : Erring E x]
    [hy : Erring E y] : Erring E (if c then x else y) := by
  split <;> assumption

instance erring_bind (x : Except ε α) (f : α → Except ε β) [hx : Erring E x]
    [hf : ∀ a, Erring E (f a)] : Erring E (x >>= f) := by
  constructor
  intro e he
  cases x with
  | ok a => exact (hf a).of e he
  | error e' =>
    cases he
    exact hx.of _ rfl

theorem erring_mapError {h : ε → ε'} {x : Except ε α} (hx : Erring E x)
    (he : ∀ e, E e → E' (h e)) : Erring E' (Except.mapError h x) := by
  constructor
  intro e' hm
  obtain ⟨e, hxe, rfl⟩ := mapError_error.mp hm
  exact he e (hx.of e hxe)

instance erring_mapError_const (x : Except ε α) (e' : ε') [h : Fact (E' e')] :
    Erring E' (Except.mapError (fun _ => e') x) := by
  constructor
  intro e hm
  obtain ⟨_, -, rfl⟩ := mapError_error.mp hm
  exact h.out

instance erring_map (f : α → β) (x : Except ε α) [hx : Erring E x] : Erring E (x.map f) := by
  constructor
  intro e he
  cases x with
  | ok a => cases he
  | error e' =>
    cases he
    exact hx.of _ rfl

end

section

instance misreads_pure (a : α) : Misreads E (pure a : StateT ρ (Except ε) α) :=
  ⟨fun _ _ h => by cases h⟩

instance misreads_get : Misreads E (get : StateT ρ (Except ε) ρ) := ⟨fun _ _ h => by cases h⟩

instance misreads_bind (m : StateT ρ (Except ε) α) (f : α → StateT ρ (Except ε) β)
    [hm : Misreads E m] [hf : ∀ a, Misreads E (f a)] : Misreads E (m >>= f) := by
  constructor
  intro r e he
  change (m r >>= fun p => f p.1 p.2) = .error e at he
  cases hr : m r with
  | ok p =>
    rw [hr] at he
    exact (hf p.1).of p.2 e he
  | error e' =>
    rw [hr] at he
    cases he
    exact hm.of r _ hr

instance misreads_ite (c : Prop) [Decidable c] (m n : StateT ρ (Except ε) α) [Misreads E m]
    [Misreads E n] : Misreads E (if c then m else n) := by
  split <;> assumption

instance erring_read (m : StateT ρ (Except ε) α) (r : ρ) [hm : Misreads E m] : Erring E (m r) :=
  ⟨fun e h => hm.of r e h⟩

end

section

instance fails_pure (a : α) : Fails E (pure a : Program σ ε α) := ⟨fun _ _ _ h => by cases h⟩

instance fails_raise (e : ε) [h : Fact (E e)] : Fails E (raise e : Program σ ε α) :=
  ⟨fun _ _ _ he => by cases he; exact h.out⟩

instance fails_lift (x : Except ε α) [hx : Erring E x] : Fails E (lift x : Program σ ε α) :=
  ⟨fun _ e _ h => hx.of e (lift_error.mp h).1⟩

instance fails_observe (f : σ → α) : Fails E (observe f : Program σ ε α) :=
  ⟨fun _ _ _ h => by cases h⟩

instance fails_update (f : σ → σ) : Fails E (update f : Program σ ε Unit) :=
  ⟨fun _ _ _ h => by cases h⟩

instance fails_ite (c : Prop) [Decidable c] (m n : Program σ ε α) [Fails E m] [Fails E n] :
    Fails E (if c then m else n) := by
  split <;> assumption

instance fails_ensure (c : Prop) [Decidable c] (e : ε) [Fact (E e)] :
    Fails E (ensure c e : Program σ ε Unit) := by
  unfold ensure
  infer_instance

instance fails_bind (m : Program σ ε α) (f : α → Program σ ε β) [hm : Fails E m]
    [hf : ∀ a, Fails E (f a)] : Fails E (m >>= f) := by
  constructor
  intro s e t h
  rcases bind_error.mp h with h | ⟨a, u, -, h⟩
  · exact hm.of s e t h
  · exact (hf a).of u e t h

theorem fails_embed {get : τ → σ} {put : τ → σ → τ} {h : ε → ε'}
    {m : Program σ ε α} (hm : Fails E m) (he : ∀ e, E e → E' (h e)) :
    Fails E' (embed get put h m) := by
  constructor
  intro t e' t' hr
  unfold embed at hr
  cases hm' : m (get t) with
  | mk r s =>
    rw [hm'] at hr
    cases r with
    | ok a => cases hr
    | error e =>
      cases hr
      exact he e (hm.of (get t) e s hm')

end

end MigTd.Lib.FailureClass
