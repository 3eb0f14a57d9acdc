/- scope: library
   digest: Programs that keep an invariant and return only values with a property. -/

import MigTd.Lib.StateProgram

set_option autoImplicit false

namespace MigTd.Lib.Maintained

open StateProgram

variable {σ τ ε ε' α β : Type} {I : σ → Prop} {P : α → Prop} {Q : β → Prop}

/-- Started under the invariant, the program ends under it, and a value that it returns has the
property. -/
def Maintains (I : σ → Prop) (P : α → Prop) (m : Program σ ε α) : Prop :=
  ∀ s, I s → Post m s fun r t => I t ∧ ∀ a, r = .ok a → P a

theorem maintains_pure {a : α} (h : P a) : Maintains I P (pure a : Program σ ε α) := by
  intro s hs
  refine ⟨hs, ?_⟩
  intro b hb
  cases hb
  exact h

theorem maintains_raise (e : ε) : Maintains I P (raise e : Program σ ε α) := by
  intro s hs
  refine ⟨hs, ?_⟩
  intro a ha
  cases ha

theorem maintains_lift {x : Except ε α} (h : ∀ a, x = .ok a → P a) :
    Maintains I P (lift x : Program σ ε α) :=
  fun _ hs => ⟨hs, h⟩

theorem maintains_update {f : σ → σ} (h : ∀ s, I s → I (f s)) :
    Maintains I (fun _ => True) (update f : Program σ ε Unit) :=
  fun s hs => ⟨h s hs, fun _ _ => trivial⟩

theorem maintains_ensure (c : Prop) [Decidable c] (e : ε) :
    Maintains I (fun _ => c) (ensure c e : Program σ ε Unit) := by
  intro s hs
  rw [post_ensure]
  constructor
  · intro hc
    exact ⟨hs, fun _ _ => hc⟩
  · intro _
    exact ⟨hs, fun _ h => by cases h⟩

variable {m : Program σ ε α}

theorem maintains_ite {c : Prop} [Decidable c] {n : Program σ ε α} (hm : c → Maintains I P m)
    (hn : ¬c → Maintains I P n) : Maintains I P (if c then m else n) := by
  by_cases hc : c
  · rw [if_pos hc]
    exact hm hc
  · rw [if_neg hc]
    exact hn hc

theorem Maintains.bind {f : α → Program σ ε β} (hm : Maintains I P m)
    (hf : ∀ a, P a → Maintains I Q (f a)) : Maintains I Q (m >>= f) := by
  intro s hs
  refine post_bind_of (hm s hs) ?_ ?_
  · intro a t ht
    exact hf a (ht.2 a rfl) t ht.1
  · intro e t ht
    exact ⟨ht.1, fun _ h => by cases h⟩

theorem maintains_observe_bind {f : σ → α} {g : α → Program σ ε β}
    (hg : ∀ a, Maintains I Q (g a)) : Maintains I Q (observe f >>= g) :=
  fun s hs => hg (f s) s hs

theorem maintains_embed {J : τ → Prop} {get : τ → σ} {put : τ → σ → τ} {h : ε → ε'}
    (hm : Maintains I P m) (hget : ∀ t, J t → I (get t))
    (hput : ∀ t s, J t → I s → J (put t s)) : Maintains J P (embed get put h m) := by
  intro t ht
  have hpost := hm (get t) (hget t ht)
  rw [post_embed]
  refine hpost.mono ?_
  intro r s hs
  cases r with
  | ok a =>
    refine ⟨hput t s ht hs.1, ?_⟩
    intro b hb
    cases hb
    exact hs.2 a rfl
  | error e => exact ⟨hput t s ht hs.1, fun _ hb => by cases hb⟩

theorem Maintains.state (hm : Maintains I P m) {s : σ} (hs : I s) : I (m s).2 :=
  (hm s hs).1

end MigTd.Lib.Maintained
