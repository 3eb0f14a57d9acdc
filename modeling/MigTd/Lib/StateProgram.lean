/- scope: library
   digest: Programs whose state survives a failure, with inversion, postcondition and frame rules. -/

import Mathlib.Order.Defs.Unbundled

set_option autoImplicit false

namespace MigTd.Lib.StateProgram

/-- A computation that updates a state and then returns or fails.
A failure keeps every update made before it. -/
def Program (σ ε α : Type) : Type := σ → Except ε α × σ

variable {σ τ ε ε' α β : Type}

instance : Monad (Program σ ε) where
  pure a := fun s => (.ok a, s)
  bind m f := fun s => match m s with
    | (.ok a, t) => f a t
    | (.error e, t) => (.error e, t)

def raise (e : ε) : Program σ ε α := fun s => (.error e, s)

def lift (x : Except ε α) : Program σ ε α := fun s => (x, s)

def observe (f : σ → α) : Program σ ε α := fun s => (.ok (f s), s)

def update (f : σ → σ) : Program σ ε Unit := fun s => (.ok (), f s)

def ensure (c : Prop) [Decidable c] (e : ε) : Program σ ε Unit :=
  if c then pure () else raise e

/-- Run a program on a component of a larger state, translating its errors. -/
def embed (get : τ → σ) (put : τ → σ → τ) (h : ε → ε') (m : Program σ ε α) :
    Program τ ε' α := fun t =>
  match m (get t) with
  | (.ok a, s) => (.ok a, put t s)
  | (.error e, s) => (.error (h e), put t s)

def orElse (x : Option α) (e : ε) : Except ε α :=
  match x with
  | some a => .ok a
  | none => .error e

variable {e : ε} {a b : α}

@[simp] theorem orElse_ok {x : Option α} : orElse x e = .ok a ↔ x = some a := by
  cases x <;> simp [orElse]

@[simp] theorem orElse_error {x : Option α} {e' : ε} :
    orElse x e = .error e' ↔ x = none ∧ e = e' := by
  cases x <;> simp [orElse]

def require (c : Prop) [Decidable c] (e : ε) : Except ε Unit := if c then .ok () else .error e

variable {c : Prop}

@[simp] theorem require_ok [Decidable c] {u : Unit} : require c e = .ok u ↔ c := by
  by_cases hc : c <;> simp [require, hc]

variable {x : Except ε α} {h : ε → ε'}

@[simp] theorem mapError_ok : Except.mapError h x = .ok a ↔ x = .ok a := by
  constructor
  · intro hx
    cases x with
    | ok _ => exact congrArg Except.ok (Except.ok.inj hx)
    | error _ => cases hx
  · rintro rfl
    rfl

theorem mapError_error {e' : ε'} :
    Except.mapError h x = .error e' ↔ ∃ e, x = .error e ∧ h e = e' := by
  constructor
  · intro hx
    cases x with
    | ok _ => cases hx
    | error e => exact ⟨e, rfl, Except.error.inj hx⟩
  · rintro ⟨e, rfl, rfl⟩
    rfl

/-- How a computation ends early: with an error value, or by a panic. -/
inductive Stop (ε : Type) where
  | failed (e : ε)
  | panicked
  deriving DecidableEq, Repr

/-- A computation that cannot panic, among those that can. -/
def noPanic (x : Except ε α) : Except (Stop ε) α := x.mapError .failed

@[simp] theorem noPanic_ok : noPanic x = .ok a ↔ x = .ok a :=
  mapError_ok

@[simp] theorem noPanic_pure : noPanic (pure a : Except ε α) = pure a := rfl

@[simp] theorem noPanic_bind {f : α → Except ε β} :
    noPanic (x >>= f) = noPanic x >>= fun a => noPanic (f a) := by
  cases x <;> rfl

@[simp] theorem noPanic_map {f : α → β} : noPanic (x.map f) = (noPanic x).map f := by
  cases x <;> rfl

@[simp] theorem noPanic_require [Decidable c] : noPanic (require c e) = require c (.failed e) := by
  unfold require
  split <;> rfl

@[simp] theorem noPanic_orElse {x : Option α} : noPanic (orElse x e) = orElse x (.failed e) := by
  cases x <;> rfl

def Stop.map (h : ε → ε') : Stop ε → Stop ε'
  | failed e => failed (h e)
  | panicked => panicked

/-- How a computation with bounded loops ends early: with an error value, or at a bound. -/
inductive Bounded (ε : Type) where
  | failed (e : ε)
  | diverged
  deriving DecidableEq, Repr

theorem map_ok {f : α → β} {b : β} : x.map f = .ok b ↔ ∃ a, x = .ok a ∧ f a = b := by
  cases x <;> simp [Except.map]

theorem exists_ok_of_isOk (h : x.isOk = true) : ∃ a, x = .ok a := by
  cases x with
  | ok a => exact ⟨a, rfl⟩
  | error e => cases h

theorem except_bind_ok {f : α → Except ε β} {b : β} :
    (x >>= f) = .ok b ↔ ∃ a, x = .ok a ∧ f a = .ok b := by
  cases x with
  | ok a =>
    constructor
    · intro h
      exact ⟨a, rfl, h⟩
    · rintro ⟨a', ha, h⟩
      cases ha
      exact h
  | error e =>
    constructor
    · intro h
      cases h
    · rintro ⟨a, ha, -⟩
      cases ha

theorem foldlM_invariant {step : β → α → Except ε β} (inv : β → Prop)
    (hstep : ∀ b a b', inv b → step b a = .ok b' → inv b') {items : List α} {b b' : β}
    (hb : inv b) (h : items.foldlM step b = .ok b') : inv b' := by
  induction items generalizing b with
  | nil =>
    cases h
    exact hb
  | cons item rest ih =>
    rw [List.foldlM_cons, except_bind_ok] at h
    obtain ⟨mid, hmid, hrest⟩ := h
    exact ih (hstep b item mid hb hmid) hrest

variable {m : Program σ ε α} {s t : σ}

theorem run_of_result (h : (m s).1 = x) : ∃ t, m s = (x, t) :=
  ⟨(m s).2, Prod.ext h rfl⟩

variable {f : α → Program σ ε β}

theorem observe_bind {f : σ → α} {g : α → Program σ ε β} : (observe f >>= g) s = g (f s) s := rfl

variable {g : Unit → Program σ ε β}

theorem update_bind {f : σ → σ} : (update f >>= g) s = g () (f s) := rfl

theorem run_bind_ok (h : m s = (.ok a, t)) : (m >>= f) s = f a t := by
  change (match m s with
    | (.ok a, u) => f a u
    | (.error e, u) => (.error e, u)) = _
  rw [h]

theorem run_bind_error (h : m s = (.error e, t)) : (m >>= f) s = (.error e, t) := by
  change (match m s with
    | (.ok a, u) => f a u
    | (.error e, u) => (.error e, u)) = _
  rw [h]

theorem program_bind_assoc {γ : Type} (m : Program σ ε α) (f : α → Program σ ε β)
    (g : β → Program σ ε γ) : (m >>= f) >>= g = m >>= fun a => f a >>= g := by
  funext s
  cases hm : m s with
  | mk r t =>
    cases r with
    | error e => rw [run_bind_error hm, run_bind_error (run_bind_error hm)]
    | ok a =>
      have hfirst : (m >>= f) s = f a t := run_bind_ok hm
      rw [run_bind_ok hm]
      cases hf : f a t with
      | mk r u =>
        rw [hf] at hfirst
        cases r with
        | ok b => rw [run_bind_ok hfirst, run_bind_ok hf]
        | error e => rw [run_bind_error hfirst, run_bind_error hf]

variable {put : τ → σ → τ} {get : τ → σ}

theorem embed_state {t : τ} : (embed get put h m t).2 = put t (m (get t)).2 := by
  unfold embed
  rcases m (get t) with ⟨r, s⟩
  cases r <;> rfl

/-! Inversion of successful runs: what each step must have done. -/

theorem pure_ok : (pure a : Program σ ε α) s = (.ok b, t) ↔ a = b ∧ s = t := by
  change ((Except.ok a : Except ε α), s) = (.ok b, t) ↔ _
  simp

theorem raise_ok : (raise e : Program σ ε α) s = (.ok b, t) ↔ False := by
  simp [raise]

theorem lift_ok : (lift x : Program σ ε α) s = (.ok b, t) ↔ x = .ok b ∧ s = t := by
  simp [lift]

theorem lift_error : (lift x : Program σ ε α) s = (.error e, t) ↔ x = .error e ∧ s = t := by
  simp [lift]

theorem observe_ok {f : σ → α} : (observe f : Program σ ε α) s = (.ok b, t) ↔ f s = b ∧ s = t := by
  simp [observe]

theorem update_ok {f : σ → σ} {b : Unit} :
    (update f : Program σ ε Unit) s = (.ok b, t) ↔ f s = t := by
  simp [update]

theorem ensure_ok [Decidable c] {b : Unit} :
    (ensure c e : Program σ ε Unit) s = (.ok b, t) ↔ c ∧ s = t := by
  by_cases hc : c
  · simp [ensure, hc, pure_ok]
  · simp [ensure, hc, raise_ok]

theorem bind_ok {b : β} :
    (m >>= f) s = (.ok b, t) ↔ ∃ a u, m s = (.ok a, u) ∧ f a u = (.ok b, t) := by
  change (match m s with
    | (.ok a, u) => f a u
    | (.error e, u) => (.error e, u)) = (.ok b, t) ↔ _
  rcases m s with ⟨r, u⟩
  cases r with
  | ok a =>
    constructor
    · intro h
      exact ⟨a, u, rfl, h⟩
    · rintro ⟨a', u', h, hf⟩
      cases h
      exact hf
  | error e => simp

theorem bind_error : (m >>= f) s = (.error e, t) ↔
      m s = (.error e, t) ∨ ∃ a u, m s = (.ok a, u) ∧ f a u = (.error e, t) := by
  change (match m s with
    | (.ok a, u) => f a u
    | (.error e, u) => (.error e, u)) = (.error e, t) ↔ _
  rcases m s with ⟨r, u⟩
  cases r with
  | ok a =>
    constructor
    · intro h
      exact .inr ⟨a, u, rfl, h⟩
    · rintro (h | ⟨a', u', h, hf⟩)
      · cases h
      · cases h
        exact hf
  | error e' => simp

theorem embed_ok {s t : τ} :
    embed get put h m s = (.ok b, t) ↔ ∃ u, m (get s) = (.ok b, u) ∧ put s u = t := by
  unfold embed
  rcases m (get s) with ⟨r, u⟩
  cases r with
  | ok a =>
    constructor
    · intro he
      cases he
      exact ⟨u, rfl, rfl⟩
    · rintro ⟨v, hv, hp⟩
      cases hv
      subst hp
      rfl
  | error e => simp

theorem embed_error {e' : ε'} {s t : τ} : embed get put h m s = (.error e', t) ↔
      ∃ e u, m (get s) = (.error e, u) ∧ h e = e' ∧ put s u = t := by
  unfold embed
  rcases m (get s) with ⟨r, u⟩
  cases r with
  | ok a => simp
  | error e =>
    constructor
    · intro he
      obtain ⟨herror, hstate⟩ := Prod.mk.inj he
      exact ⟨e, u, rfl, Except.error.inj herror, hstate⟩
    · rintro ⟨e₀, v, hv, rfl, rfl⟩
      cases hv
      rfl

/-- The outcome of a run satisfies a predicate on its result and final state. -/
def Post (m : Program σ ε α) (s : σ) (Q : Except ε α → σ → Prop) : Prop := Q (m s).1 (m s).2

theorem Post.mono {Q Q' : Except ε α → σ → Prop}
    (h : Post m s Q) (hq : ∀ r t, Q r t → Q' r t) : Post m s Q' :=
  hq _ _ h

variable {Q : Except ε α → σ → Prop}

theorem post_pure : Post (pure a) s Q ↔ Q (.ok a) s := Iff.rfl

theorem post_raise : Post (raise e) s Q ↔ Q (.error e) s := Iff.rfl

theorem post_lift : Post (lift x) s Q ↔ Q x s := Iff.rfl

theorem post_observe {f : σ → α} :
    Post (observe f) s Q ↔ Q (.ok (f s)) s := Iff.rfl

theorem post_update {f : σ → σ} {Q : Except ε Unit → σ → Prop} :
    Post (update f) s Q ↔ Q (.ok ()) (f s) := Iff.rfl

theorem post_ensure [Decidable c] {Q : Except ε Unit → σ → Prop} :
    Post (ensure c e) s Q ↔ (c → Q (.ok ()) s) ∧ (¬c → Q (.error e) s) := by
  by_cases hc : c
  · simp [ensure, hc, post_pure]
  · simp [ensure, hc, post_raise]

variable {Q : Except ε β → σ → Prop}

theorem post_bind : Post (m >>= f) s Q ↔ Post m s (fun r t => match r with
      | .ok a => Post (f a) t Q
      | .error e => Q (.error e) t) := by
  have hb : (m >>= f) s = match m s with
      | (.ok a, t) => f a t
      | (.error e, t) => (.error e, t) := rfl
  unfold Post
  rw [hb]
  rcases m s with ⟨r, t⟩
  cases r <;> rfl

theorem post_bind_of {H : Except ε α → σ → Prop} (hm : Post m s H)
    (hok : ∀ a t, H (.ok a) t → Post (f a) t Q) (herr : ∀ e t, H (.error e) t → Q (.error e) t) :
    Post (m >>= f) s Q := by
  refine post_bind.mpr (hm.mono ?_)
  intro r t h
  cases r with
  | ok a => exact hok a t h
  | error e => exact herr e t h

theorem post_bind_run (h : m s = (.ok a, t)) (hf : Post (f a) t Q) : Post (m >>= f) s Q := by
  unfold Post
  rw [run_bind_ok h]
  exact hf

theorem post_bind_stop (h : m s = (.error e, t)) (hq : Q (.error e) t) : Post (m >>= f) s Q := by
  unfold Post
  rw [run_bind_error h]
  exact hq

theorem post_bind_lift : Post (lift x >>= f) s Q ↔
      (∀ a, x = .ok a → Post (f a) s Q) ∧ (∀ e, x = .error e → Q (.error e) s) := by
  rw [post_bind, post_lift]
  cases x <;> simp

theorem post_bind_observe {f : σ → α} {g : α → Program σ ε β}
    : Post (observe f >>= g) s Q ↔ Post (g (f s)) s Q := Iff.rfl

theorem post_bind_update {f : σ → σ} : Post (update f >>= g) s Q ↔ Post (g ()) (f s) Q := Iff.rfl

theorem post_bind_ensure [Decidable c] :
    Post (ensure c e >>= g) s Q ↔ (c → Post (g ()) s Q) ∧ (¬c → Q (.error e) s) := by
  rw [post_bind, post_ensure]

theorem post_embed {t : τ} {Q : Except ε' α → τ → Prop} :
    Post (embed get put h m) t Q ↔ Post m (get t) (fun r s => match r with
      | .ok a => Q (.ok a) (put t s)
      | .error e => Q (.error (h e)) (put t s)) := by
  unfold Post embed
  rcases m (get t) with ⟨r, s⟩
  cases r <;> rfl

theorem post_bind_embed {f : α → Program τ ε' β} {t : τ} {Q : Except ε' β → τ → Prop}
    (hok : ∀ a s, m (get t) = (.ok a, s) → Post (f a) (put t s) Q)
    (herr : ∀ e s, m (get t) = (.error e, s) → Q (.error (h e)) (put t s)) :
    Post (embed get put h m >>= f) t Q := by
  rw [post_bind, post_embed]
  unfold Post
  cases hm : m (get t) with
  | mk r s =>
    cases r with
    | ok a => exact hok a s hm
    | error e => exact herr e s hm

/-! Frame rules: a relation that every step respects is respected by the whole program.
They are instances, so that the frame of a composed program is found by its structure. -/

/-- Both outcomes relate the initial state to the final one. -/
class Keeps (R : σ → σ → Prop) (m : Program σ ε α) : Prop where
  rel : ∀ s, R s (m s).2

def Preserved (P : σ → Prop) (s t : σ) : Prop := P s → P t

instance (P : σ → Prop) : Std.Refl (Preserved P) := ⟨fun _ h => h⟩

instance (P : σ → Prop) : IsTrans σ (Preserved P) := ⟨fun _ _ _ h h' hp => h' (h hp)⟩

def Same {ν : Type} (view : σ → ν) (s t : σ) : Prop := view s = view t

instance {ν : Type} (view : σ → ν) : Std.Refl (Same view) := ⟨fun _ => rfl⟩

instance {ν : Type} (view : σ → ν) : IsTrans σ (Same view) := ⟨fun _ _ _ h h' => h.trans h'⟩

section

variable {R : σ → σ → Prop}

instance keeps_pure [Std.Refl R] (a : α) : Keeps R (pure a : Program σ ε α) :=
  ⟨fun s => refl_of R s⟩

instance keeps_raise [Std.Refl R] (e : ε) : Keeps R (raise e : Program σ ε α) :=
  ⟨fun s => refl_of R s⟩

instance keeps_lift [Std.Refl R] (x : Except ε α) : Keeps R (lift x : Program σ ε α) :=
  ⟨fun s => refl_of R s⟩

instance keeps_observe [Std.Refl R] (f : σ → α) : Keeps R (observe f : Program σ ε α) :=
  ⟨fun s => refl_of R s⟩

instance keeps_ite (c : Prop) [Decidable c] (m n : Program σ ε α) [Keeps R m] [Keeps R n] :
    Keeps R (if c then m else n) := by
  split <;> assumption

instance keeps_ensure [Std.Refl R] (c : Prop) [Decidable c] (e : ε) :
    Keeps R (ensure c e : Program σ ε Unit) := by
  unfold ensure
  infer_instance

theorem keeps_update {f : σ → σ} (h : ∀ s, R s (f s)) : Keeps R (update f : Program σ ε Unit) :=
  ⟨h⟩

theorem keeps_bind_of [IsTrans σ R]
    (hm : Keeps R m) (hf : ∀ s a t, m s = (.ok a, t) → R t (f a t).2) : Keeps R (m >>= f) := by
  constructor
  intro s
  have hs := hm.rel s
  have hfs := hf s
  change R s (match m s with
    | (.ok a, t) => f a t
    | (.error e, t) => (.error e, t)).2
  revert hs hfs
  rcases m s with ⟨r, t⟩
  intro hs hfs
  cases r with
  | ok a => exact trans_of R hs (hfs a t rfl)
  | error e => exact hs

instance keeps_bind [IsTrans σ R] (m : Program σ ε α) (f : α → Program σ ε β)
    [hm : Keeps R m] [hf : ∀ a, Keeps R (f a)] : Keeps R (m >>= f) :=
  keeps_bind_of hm fun _ a t _ => (hf a).rel t

theorem keeps_embed {P : τ → τ → Prop} (hm : Keeps R m) (hp : ∀ t s, R (get t) s → P t (put t s)) :
    Keeps P (embed get put h m) := by
  constructor
  intro t
  have ht := hm.rel (get t)
  unfold embed
  revert ht
  rcases m (get t) with ⟨r, s⟩
  intro ht
  cases r <;> exact hp t s ht

theorem Keeps.mono {R' : σ → σ → Prop} (hm : Keeps R m) (h : ∀ s t, R s t → R' s t) : Keeps R' m :=
  ⟨fun s => h _ _ (hm.rel s)⟩

theorem Keeps.of_ok (hm : Keeps R m) {r : Except ε α} (h : m s = (r, t)) : R s t := by
  have hs := hm.rel s
  rwa [h] at hs

theorem Keeps.post {Q : Except ε α → σ → Prop} (hm : Keeps R m)
    (h : ∀ r t, m s = (r, t) → R s t → Q r t) : Post m s Q :=
  h _ _ rfl (hm.rel s)

theorem post_same {Q : Except ε α → σ → Prop} (hm : Keeps Eq m) (h : ∀ r, m s = (r, s) → Q r s) :
    Post m s Q := by
  refine hm.post ?_
  rintro r t ran rfl
  exact h r ran

theorem post_bind_keeps (hm : Keeps R m) (hok : ∀ a t, m s = (.ok a, t) → R s t → Post (f a) t Q)
    (herr : ∀ e t, m s = (.error e, t) → R s t → Q (.error e) t) : Post (m >>= f) s Q := by
  rw [post_bind]
  refine hm.post ?_
  rintro (e | a) t ran hs
  · exact herr e t ran hs
  · exact hok a t ran hs

theorem post_bind_same (hm : Keeps Eq m) (hok : ∀ a, m s = (.ok a, s) → Post (f a) s Q)
    (herr : ∀ e, m s = (.error e, s) → Q (.error e) s) : Post (m >>= f) s Q := by
  refine post_bind_keeps hm ?_ ?_
  · rintro a t h rfl
    exact hok a h
  · rintro e t h rfl
    exact herr e h

theorem bind_same_ok {b : β} (hm : Keeps Eq m) (h : (m >>= f) s = (.ok b, t)) :
    ∃ a, m s = (.ok a, s) ∧ f a s = (.ok b, t) := by
  obtain ⟨a, u, hms, hf⟩ := bind_ok.mp h
  obtain rfl : s = u := hm.of_ok hms
  exact ⟨a, hms, hf⟩

end

end MigTd.Lib.StateProgram
