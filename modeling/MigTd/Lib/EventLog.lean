/- scope: library
   digest: Chronological logs in which an event may demand that other events happened before it. -/

import MigTd.Lib.StateProgram
import Mathlib.Data.List.Infix
import Mathlib.Order.RelClasses

set_option autoImplicit false

namespace MigTd.Lib.EventLog

open StateProgram

variable {E ε α β : Type} {demands : E → E → Prop} {log log' added : List E}

/-- Every event comes after all the events that it demands. -/
def Preceded (demands : E → E → Prop) (log : List E) : Prop :=
  ∀ before e after, log = before ++ e :: after → ∀ l, demands e l → l ∈ before

theorem preceded_nil : Preceded demands [] := by
  intro before e after h
  simp at h

theorem Preceded.append (h : Preceded demands log)
    (ha : ∀ e ∈ added, ∀ l, demands e l → l ∈ log) : Preceded demands (log ++ added) := by
  intro before e after hs l hl
  rcases List.append_eq_append_iff.mp hs with ⟨mid, hb, hadd⟩ | ⟨mid, hlog, hafter⟩
  · rw [hb]
    have he : e ∈ added := by
      rw [hadd]
      simp
    exact List.mem_append_left _ (ha e he l hl)
  · cases mid with
    | nil =>
      rw [List.append_nil] at hlog
      have he : e ∈ added := by
        rw [← List.nil_append added, ← hafter]
        exact List.mem_cons_self
      rw [← hlog]
      exact ha e he l hl
    | cons x mid =>
      have hx := List.cons.inj hafter
      rw [hx.1] at hl
      exact h before x mid hlog l hl

/-- A log grows by events whose demands are met by the log or by the listed events. -/
def Grows (demands : E → E → Prop) (held : List E) (log log' : List E) : Prop :=
  log <+: log' ∧ (held ⊆ log → Preceded demands log → Preceded demands log')

variable {held : List E}

instance : Std.Refl (Grows demands held) :=
  ⟨fun log => ⟨List.prefix_refl log, fun _ h => h⟩⟩

instance : IsTrans (List E) (Grows demands held) := ⟨by
  rintro a b c ⟨hab, hp⟩ ⟨hbc, hq⟩
  refine ⟨hab.trans hbc, ?_⟩
  intro hheld ha
  exact hq (List.Subset.trans hheld hab.subset) (hp hheld ha)⟩

theorem Grows.of_append (h : ∀ e ∈ added, ∀ l, demands e l → l ∈ held) :
    Grows demands held log (log ++ added) := by
  refine ⟨List.prefix_append log added, ?_⟩
  intro hheld hp
  exact hp.append fun e he l hl => hheld (h e he l hl)

theorem keeps_logged_bind {σ : Type} {g : σ → List E} {m : Program σ ε α} {f : α → Program σ ε β}
    (hm : Keeps (Order.Preimage g (Grows demands [])) m)
    (hheld : ∀ s a t, m s = (.ok a, t) → held ⊆ g t)
    (hf : ∀ a, Keeps (Order.Preimage g (Grows demands held)) (f a)) :
    Keeps (Order.Preimage g (Grows demands [])) (m >>= f) := by
  refine keeps_bind_of hm ?_
  intro s a t hs
  obtain ⟨hpre, hgrow⟩ := (hf a).rel t
  exact ⟨hpre, fun _ hp => hgrow (hheld s a t hs) hp⟩

theorem keeps_grows_bind {m : Program (List E) ε α} {f : α → Program (List E) ε β}
    (hm : Keeps (Grows demands []) m)
    (hheld : ∀ s a t, m s = (.ok a, t) → held ⊆ t)
    (hf : ∀ a, Keeps (Grows demands held) (f a)) : Keeps (Grows demands []) (m >>= f) :=
  keeps_logged_bind (g := id) hm hheld hf

end MigTd.Lib.EventLog
