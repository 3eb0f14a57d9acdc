/- source: v2/policy.rs
   digest: A revoked status is never accepted, and acceptance is upward closed in the rank. -/

import MigTd.Policy.Conjunction

set_option autoImplicit false

namespace MigTd.Policy.StatusRanks

open Lib.Ascii Lib.StateProgram Conjunction Evaluation

section

variable {p : PolicyProperty} {relative : Option TcbStatus} {v w : TcbStatus}

private theorem isIn_congr (h : v.rank = w.rank) (l : List TcbStatus) : v.isIn l = w.isIn l := by
  simp only [TcbStatus.isIn, TcbStatus.eq, h]

theorem evaluateTcbStatus_congr (h : v.rank = w.rank) :
    p.evaluateTcbStatus v relative = p.evaluateTcbStatus w relative := by
  unfold PolicyProperty.evaluateTcbStatus
  simp only [isIn_congr h, TcbStatus.eq, h]

theorem evaluateTcbStatus_revoked : p.evaluateTcbStatus .revoked relative = .ok false := rfl

theorem evaluateTcbStatus_top (h : w.rank = 2) : p.evaluateTcbStatus w relative = .ok true := by
  rw [evaluateTcbStatus_congr (w := .upToDate) h]
  rfl

theorem evaluateTcbStatus_mono (hle : v.rank ≤ w.rank)
    (h : p.evaluateTcbStatus v relative = .ok true) :
    p.evaluateTcbStatus w relative = .ok true := by
  have hv : v.rank ≠ 0 := by
    intro hzero
    rw [evaluateTcbStatus_congr (w := .revoked) hzero, evaluateTcbStatus_revoked] at h
    cases h
  have hw : w.rank ≤ 2 := by cases w <;> decide
  by_cases htop : w.rank = 2
  · exact evaluateTcbStatus_top htop
  · rw [← evaluateTcbStatus_congr (v := v) (by omega)]
    exact h

end

section

variable {p : PolicyProperty} {relative : Option ServtdTcbStatus} {v w : ServtdTcbStatus}

theorem evaluateServtdTcbStatus_revoked :
    p.evaluateServtdTcbStatus .revoked relative = .ok false := rfl

theorem evaluateServtdTcbStatus_mono (hle : v.rank ≤ w.rank)
    (h : p.evaluateServtdTcbStatus v relative = .ok true) :
    p.evaluateServtdTcbStatus w relative = .ok true := by
  cases w with
  | upToDate => rfl
  | outOfDate => rfl
  | revoked =>
    -- Only the revoked status has a rank that low, and it was not accepted.
    cases v with
    | upToDate => cases hle
    | outOfDate => cases hle
    | revoked => exact h

end

/-- There is no status, or the revoked one, or a text that names none. -/
def RevokedOrUnknown {α : Type} (asStr : α → Text) (status : Option Text) : Prop :=
  status = none ∨ ∃ text, status = some text ∧ (text = ascii "Revoked" ∨ ∀ s : α, asStr s ≠ text)

theorem asStr_of_tryFrom {text : Text} {s : TcbStatus} (h : TcbStatus.tryFrom text = .ok s) :
    s.asStr = text := by
  have hfound := List.find?_some (orElse_ok.mp h)
  exact eq_of_beq hfound

theorem servtd_asStr_of_tryFrom {text : Text} {s : ServtdTcbStatus}
    (h : ServtdTcbStatus.tryFrom text = .ok s) : s.asStr = text := by
  have hfound := List.find?_some (orElse_ok.mp h)
  exact eq_of_beq hfound

theorem revoked_of_parsed {α : Type} {asStr : α → Text}
    {tryFrom : Text → Except PolicyError α} {status : Option Text} {s : α}
    (hread : ∀ text s, tryFrom text = .ok s → asStr s = text)
    (hbad : RevokedOrUnknown asStr status) (h : parsed tryFrom status = some s) :
    asStr s = ascii "Revoked" := by
  obtain ⟨text, rfl, hparsed⟩ := Option.bind_eq_some_iff.mp h
  have hok : tryFrom text = .ok s := by
    cases hresult : tryFrom text with
    | ok s' =>
      rw [hresult] at hparsed
      rw [Option.some.inj hparsed]
    | error e =>
      rw [hresult] at hparsed
      cases hparsed
  have hname := hread text s hok
  rcases hbad with hnone | ⟨text', htext, hrevoked | hunknown⟩
  · cases hnone
  · rw [hname, Option.some.inj htext, hrevoked]
  · exact absurd (hname.trans (Option.some.inj htext)) (hunknown s)

variable {value relative : PolicyEvaluationInfo} {p : PolicyProperty}

theorem platform_unsatisfied (hbad : RevokedOrUnknown TcbStatus.asStr value.tcbStatus) :
    ¬Satisfied value relative .tcbStatusAccepted p := by
  rintro ⟨v, hv, hjudge⟩
  have hname : v.asStr = ascii "Revoked" :=
    revoked_of_parsed (fun _ _ => asStr_of_tryFrom) hbad hv
  have hrank : v.rank = 0 := by
    revert hname
    cases v <;> decide
  have hsame : p.evaluateTcbStatus v (parsed TcbStatus.tryFrom relative.tcbStatus) =
      p.evaluateTcbStatus .revoked (parsed TcbStatus.tryFrom relative.tcbStatus) :=
    evaluateTcbStatus_congr hrank
  cases (hsame.trans evaluateTcbStatus_revoked).symm.trans hjudge

theorem servtd_unsatisfied (hbad : RevokedOrUnknown ServtdTcbStatus.asStr value.migtdTcbStatus) :
    ¬Satisfied value relative .migtdTcbStatusAccepted p := by
  rintro ⟨v, hv, hjudge⟩
  have hname : v.asStr = ascii "Revoked" :=
    revoked_of_parsed (fun _ _ => servtd_asStr_of_tryFrom) hbad hv
  cases v with
  | upToDate => exact absurd hname (by decide)
  | outOfDate => exact absurd hname (by decide)
  | revoked => cases hjudge

/-- No property accepts the revoked status, acceptance goes up with the rank, and a block that
applies a property on the status rejects a status that is revoked or unknown. -/
theorem revoked_never_accepted : (∀ (p : PolicyProperty) (relative : Option TcbStatus),
      p.evaluateTcbStatus .revoked relative ≠ .ok true ∧
      ∀ v w : TcbStatus, v.rank ≤ w.rank → p.evaluateTcbStatus v relative = .ok true →
        p.evaluateTcbStatus w relative = .ok true) ∧
    (∀ (p : PolicyProperty) (relative : Option ServtdTcbStatus),
      p.evaluateServtdTcbStatus .revoked relative ≠ .ok true ∧
      ∀ v w : ServtdTcbStatus, v.rank ≤ w.rank → p.evaluateServtdTcbStatus v relative = .ok true →
        p.evaluateServtdTcbStatus w relative = .ok true) ∧
    ∀ (value relative : PolicyEvaluationInfo) (skipGlobal : Bool) (block : List PolicyTypes)
      (t : PolicyTypes) (p : PolicyProperty), t ∈ block → Applicable skipGlobal t →
      (propertyOf t .tcbStatusAccepted = some p ∧ RevokedOrUnknown TcbStatus.asStr value.tcbStatus ∨
        propertyOf t .migtdTcbStatusAccepted = some p ∧
          RevokedOrUnknown ServtdTcbStatus.asStr value.migtdTcbStatus) →
      evaluatePolicyBlock value relative skipGlobal block ≠ .ok () := by
  refine ⟨fun p relative => ⟨?_, fun v w => evaluateTcbStatus_mono⟩,
    fun p relative => ⟨?_, fun v w => evaluateServtdTcbStatus_mono⟩, ?_⟩
  · rw [evaluateTcbStatus_revoked]
    intro h
    cases h
  · rw [evaluateServtdTcbStatus_revoked]
    intro h
    cases h
  · intro value relative skipGlobal block t p ht happlies hbad hok
    have hholds := block_holds.mp hok t ht happlies
    rcases hbad with ⟨hp, hstatus⟩ | ⟨hp, hstatus⟩
    · exact platform_unsatisfied hstatus (hholds .tcbStatusAccepted p hp)
    · exact servtd_unsatisfied hstatus (hholds .migtdTcbStatusAccepted p hp)

def configurationAllowed : PolicyProperty :=
  ⟨ascii "allow-list", .stringList [ascii "ConfigurationNeeded"]⟩

def statusOnly (status : Text) : PolicyEvaluationInfo :=
  ⟨none, none, some status, none, none, none, none, none, none, none⟩

theorem revoked_never_accepted_allow_list :
    configurationAllowed.evaluateTcbStatus .outOfDateConfigurationNeeded none = .ok true ∧
    evaluatePolicyBlock (statusOnly (ascii "Revoked")) (statusOnly (ascii "UpToDate")) false
      [.global ⟨some ⟨none, some configurationAllowed, none⟩, none, none⟩] ≠ .ok () ∧
    evaluatePolicyBlock (statusOnly (ascii "Unheard")) (statusOnly (ascii "UpToDate")) false
      [.global ⟨some ⟨none, some configurationAllowed, none⟩, none, none⟩] ≠ .ok () := by
  refine ⟨?_, ?_, ?_⟩
  · exact (revoked_never_accepted.1 configurationAllowed none).2 .configurationNeeded _
      (by decide) (by decide)
  · exact revoked_never_accepted.2.2 _ _ false _ _ configurationAllowed List.mem_cons_self rfl
      (.inl ⟨rfl, .inr ⟨_, rfl, .inl rfl⟩⟩)
  · refine revoked_never_accepted.2.2 _ _ false _ _ configurationAllowed List.mem_cons_self rfl
      (.inl ⟨rfl, .inr ⟨_, rfl, .inr ?_⟩⟩)
    intro s
    cases s <;> decide

end MigTd.Policy.StatusRanks
