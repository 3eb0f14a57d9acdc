/- source: session.rs, tdx-tdcall
   digest: TDCALLs answered by an arbitrary TDX module, and the chronological log of calls. -/

import MigTd.Lib.StateProgram
import MigTd.Migration.Information
import Mathlib.Data.List.Infix

set_option autoImplicit false

namespace MigTd.Tdx.Module

open Lib.StateProgram Migration.Information

inductive TdCall where
  | servtdRd (bindingHandle field : UInt64) (targetTdUuid : TargetTdUuid)
  | servtdWr (bindingHandle field data : UInt64) (targetTdUuid : TargetTdUuid)
  | servtdRebindApprove (bindingHandle : UInt64) (token : Octets) (targetTdUuid : TargetTdUuid)
  | vmWrite (field value mask : UInt64)
  | sysRd (field : UInt64)
  deriving DecidableEq

structure TdEvent where
  call : TdCall
  result : Except UInt64 UInt64
  deriving DecidableEq

abbrev TdLog := List TdEvent

/-- The module may answer each call depending on everything it was asked before. -/
abbrev TdxModule := TdLog → TdCall → Except UInt64 UInt64

abbrev TdProgram := Program TdLog MigrationResult

/-- Issue one call, record it, and map a module error as `From<TdCallError>` does. -/
def tdCall (tdx : TdxModule) (call : TdCall) : TdProgram UInt64 := fun log =>
  match tdx log call with
  | .ok v => (.ok v, log ++ [⟨call, .ok v⟩])
  | .error e => (.error .tdxModuleError, log ++ [⟨call, .error e⟩])

variable {log log' : TdLog} {call : TdCall}

theorem tdCall_ok {tdx : TdxModule} {v : UInt64} : tdCall tdx call log = (.ok v, log') ↔
      tdx log call = .ok v ∧ log' = log ++ [⟨call, .ok v⟩] := by
  unfold tdCall
  cases h : tdx log call with
  | ok w =>
    constructor
    · intro he
      cases he
      exact ⟨rfl, rfl⟩
    · rintro ⟨hw, rfl⟩
      cases hw
      rfl
  | error e => simp

theorem tdCall_log (tdx : TdxModule) (call : TdCall) (log : TdLog) :
    (tdCall tdx call log).2 = log ++ [⟨call, tdx log call⟩] := by
  unfold tdCall
  cases tdx log call <;> rfl

def succeeded (log : TdLog) : List TdCall :=
  log.filterMap fun e => match e.result with
    | .ok _ => some e.call
    | .error _ => none

@[simp] theorem succeeded_append (log added : TdLog) :
    succeeded (log ++ added) = succeeded log ++ succeeded added := by
  simp [succeeded]

@[simp] theorem succeeded_ok (call : TdCall) (v : UInt64) :
    succeeded [⟨call, .ok v⟩] = [call] := rfl

theorem mem_succeeded : call ∈ succeeded log ↔ ∃ v, ⟨call, .ok v⟩ ∈ log := by
  unfold succeeded
  rw [List.mem_filterMap]
  constructor
  · rintro ⟨⟨c, r⟩, he, hc⟩
    cases r with
    | ok v =>
      cases hc
      exact ⟨v, he⟩
    | error e => cases hc
  · rintro ⟨v, he⟩
    exact ⟨_, he, rfl⟩

/-- A predicate on calls that covers every event a program adds to the log. -/
def Issues (P : TdCall → Prop) (log log' : TdLog) : Prop :=
  ∃ added, log' = log ++ added ∧ ∀ e ∈ added, P e.call

section

variable {P Q : TdCall → Prop}

instance : Std.Refl (Issues P) := ⟨fun log => ⟨[], by simp, by simp⟩⟩

instance : IsTrans TdLog (Issues P) := ⟨by
  rintro a b c ⟨x, rfl, hx⟩ ⟨y, rfl, hy⟩
  refine ⟨x ++ y, by simp, ?_⟩
  intro e he
  rcases List.mem_append.mp he with he | he
  · exact hx e he
  · exact hy e he⟩

theorem Issues.mono (h : Issues P log log') (hpq : ∀ c, P c → Q c) : Issues Q log log' := by
  obtain ⟨added, he, hp⟩ := h
  exact ⟨added, he, fun e hm => hpq _ (hp e hm)⟩

theorem Issues.mem (h : Issues P log log') {e : TdEvent} (he : e ∈ log') : e ∈ log ∨ P e.call := by
  obtain ⟨added, rfl, hp⟩ := h
  rcases List.mem_append.mp he with he | he
  · exact .inl he
  · exact .inr (hp e he)

theorem keeps_tdCall (tdx : TdxModule) (h : P call) : Keeps (Issues P) (tdCall tdx call) := by
  constructor
  intro log
  rw [tdCall_log]
  refine ⟨[⟨call, tdx log call⟩], rfl, ?_⟩
  intro e he
  obtain rfl := List.mem_singleton.mp he
  exact h

instance keeps_issues_left {α : Type} (m : TdProgram α) [h : Keeps (Issues P) m] :
    Keeps (Issues fun c => P c ∨ Q c) m :=
  h.mono fun _ _ hi => hi.mono fun _ hc => .inl hc

instance keeps_issues_right {α : Type} (m : TdProgram α) [h : Keeps (Issues Q) m] :
    Keeps (Issues fun c => P c ∨ Q c) m :=
  h.mono fun _ _ hi => hi.mono fun _ hc => .inr hc

end

end MigTd.Tdx.Module
