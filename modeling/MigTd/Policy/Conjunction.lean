/- source: v2/policy.rs
   digest: The evaluation of a policy block is the conjunction of its applicable properties. -/

import MigTd.Policy.Evaluation

set_option autoImplicit false

namespace MigTd.Policy.Conjunction

open Lib.Ascii Lib.StateProgram Evaluation

inductive PropertyKind where
  | tcbEvaluationDataNumber
  | tcbStatusAccepted
  | tcbDate
  | fmspc
  | pckCrlNum
  | rootCaCrlNum
  | isvsvn
  | migtdTcbDate
  | migtdTcbStatusAccepted

namespace PropertyKind

def Value : PropertyKind → Type
  | tcbEvaluationDataNumber | pckCrlNum | rootCaCrlNum | isvsvn => UInt32
  | tcbDate | fmspc | migtdTcbDate => Text
  | tcbStatusAccepted => TcbStatus
  | migtdTcbStatusAccepted => ServtdTcbStatus

def valueIn (info : PolicyEvaluationInfo) : (k : PropertyKind) → Option k.Value
  | tcbEvaluationDataNumber => info.tcbEvaluationNumber
  | tcbStatusAccepted => parsed TcbStatus.tryFrom info.tcbStatus
  | tcbDate => info.tcbDate
  | fmspc => info.fmspc.map fun s => bytesToHexString s.1
  | pckCrlNum => info.pckCrlNum
  | rootCaCrlNum => info.rootCaCrlNum
  | isvsvn => info.migtdIsvsvn.map UInt16.toUInt32
  | migtdTcbDate => info.migtdTcbDate
  | migtdTcbStatusAccepted => parsed ServtdTcbStatus.tryFrom info.migtdTcbStatus

def judge (p : PolicyProperty) :
    (k : PropertyKind) → k.Value → Option k.Value → Except PolicyError Bool
  | tcbEvaluationDataNumber => p.evaluateInteger
  | tcbStatusAccepted => p.evaluateTcbStatus
  | tcbDate => p.evaluateString
  | fmspc => p.evaluateString
  | pckCrlNum => p.evaluateInteger
  | rootCaCrlNum => p.evaluateInteger
  | isvsvn => p.evaluateInteger
  | migtdTcbDate => p.evaluateString
  | migtdTcbStatusAccepted => p.evaluateServtdTcbStatus

/-- Some statuses are allowed or denied before the reference is looked at. -/
def needsReference : (k : PropertyKind) → k.Value → Bool
  | tcbStatusAccepted, value =>
    !TcbStatus.isIn value [.revoked] &&
      !TcbStatus.isIn value [.upToDate, .outOfDate, .swHardeningNeeded]
  | migtdTcbStatusAccepted, _ => false
  | tcbEvaluationDataNumber, _ => true
  | tcbDate, _ => true
  | fmspc, _ => true
  | pckCrlNum, _ => true
  | rootCaCrlNum, _ => true
  | isvsvn, _ => true
  | migtdTcbDate, _ => true

end PropertyKind

def propertyOf : PolicyTypes → PropertyKind → Option PolicyProperty
  | .global g, .tcbEvaluationDataNumber => g.tcb.bind (·.tcbEvaluationDataNumber)
  | .global g, .tcbStatusAccepted => g.tcb.bind (·.tcbStatusAccepted)
  | .global g, .tcbDate => g.tcb.bind (·.tcbDate)
  | .global g, .fmspc => g.platform.bind (·.fmspc)
  | .global g, .pckCrlNum => g.crl.bind (·.pckCrlNum)
  | .global g, .rootCaCrlNum => g.crl.bind (·.rootCaCrlNum)
  | .servtd s, .isvsvn => s.migtdIdentity.isvsvn
  | .servtd s, .migtdTcbDate => s.migtdIdentity.tcbDate
  | .servtd s, .migtdTcbStatusAccepted => s.migtdIdentity.tcbStatusAccepted
  | _, _ => none

/-- Global entries are left out when they are skipped. -/
def Applicable (skipGlobal : Bool) : PolicyTypes → Prop
  | .global _ => skipGlobal = false
  | .servtd _ => True

section

variable {value relative : PolicyEvaluationInfo}

def Satisfied (value relative : PolicyEvaluationInfo) (k : PropertyKind) (p : PolicyProperty) :
    Prop :=
  ∃ v, k.valueIn value = some v ∧ k.judge p v (k.valueIn relative) = .ok true

/-- The entry has no property of this kind, or a satisfied one. -/
def Holds (value relative : PolicyEvaluationInfo) (t : PolicyTypes) (k : PropertyKind) : Prop :=
  ∀ p, propertyOf t k = some p → Satisfied value relative k p

variable {p : PolicyProperty} {k : PropertyKind} {e : PolicyError}

private theorem satisfied_iff :
    (do k.judge p (← orElse (k.valueIn value) e) (k.valueIn relative)) = .ok true ↔
      Satisfied value relative k p := by
  simp only [except_bind_ok, orElse_ok]
  rfl

variable {property : Option PolicyProperty}

theorem check_ok {evaluate : PolicyProperty → Except PolicyError Bool} :
    check property evaluate e = .ok () ↔ ∀ p, property = some p → evaluate p = .ok true := by
  cases property with
  | none => simp [check]
  | some p =>
    simp only [check, except_bind_ok, require_ok, Option.some.injEq]
    constructor
    · rintro ⟨b, hb, hsatisfied⟩ _ rfl
      rw [hb, hsatisfied]
    · intro h
      exact ⟨true, h p rfl, rfl⟩

theorem check_kind (k : PropertyKind) {e' : PolicyError} :
    check property (fun p => do k.judge p (← orElse (k.valueIn value) e) (k.valueIn relative)) e' =
        .ok () ↔ ∀ p, property = some p → Satisfied value relative k p := by
  rw [check_ok]
  simp only [satisfied_iff]

theorem tcb_ok {t : TcbPolicy} : t.evaluate value relative = .ok () ↔
      (∀ p, t.tcbEvaluationDataNumber = some p →
        Satisfied value relative .tcbEvaluationDataNumber p) ∧
      (∀ p, t.tcbStatusAccepted = some p → Satisfied value relative .tcbStatusAccepted p) ∧
      ∀ p, t.tcbDate = some p → Satisfied value relative .tcbDate p := by
  rw [← check_kind .tcbEvaluationDataNumber, ← check_kind .tcbStatusAccepted, ← check_kind .tcbDate]
  unfold TcbPolicy.evaluate
  simp only [except_bind_ok, Unique.exists_iff, PUnit.default_eq_unit]
  rfl

theorem platform_ok {t : PlatformPolicy} : t.evaluate value relative = .ok () ↔
      ∀ p, t.fmspc = some p → Satisfied value relative .fmspc p := by
  have hbody : ∀ p : PolicyProperty, (do
      let fmspc ← orElse value.fmspc .tcbEvaluation
      p.evaluateString (bytesToHexString fmspc.1)
        (relative.fmspc.map fun s => bytesToHexString s.1) : Except PolicyError Bool) =
        .ok true ↔ Satisfied value relative .fmspc p := by
    intro p
    simp only [except_bind_ok, orElse_ok]
    constructor
    · rintro ⟨fmspc, hfmspc, h⟩
      exact ⟨bytesToHexString fmspc.1, Option.map_eq_some_iff.mpr ⟨fmspc, hfmspc, rfl⟩, h⟩
    · rintro ⟨_, hvalue, h⟩
      obtain ⟨fmspc, hfmspc, rfl⟩ := Option.map_eq_some_iff.mp hvalue
      exact ⟨fmspc, hfmspc, h⟩
  unfold PlatformPolicy.evaluate
  rw [check_ok]
  simp only [hbody]

theorem crl_ok {t : CrlPolicy} : t.evaluate value relative = .ok () ↔
      (∀ p, t.pckCrlNum = some p → Satisfied value relative .pckCrlNum p) ∧
      ∀ p, t.rootCaCrlNum = some p → Satisfied value relative .rootCaCrlNum p := by
  rw [← check_kind .pckCrlNum, ← check_kind .rootCaCrlNum]
  unfold CrlPolicy.evaluate
  simp only [except_bind_ok, Unique.exists_iff, PUnit.default_eq_unit]
  rfl

theorem servtd_ok {t : ServtdPolicy} : t.evaluate value relative = .ok () ↔
      (∀ p, t.migtdIdentity.isvsvn = some p → Satisfied value relative .isvsvn p) ∧
      (∀ p, t.migtdIdentity.tcbDate = some p → Satisfied value relative .migtdTcbDate p) ∧
      ∀ p, t.migtdIdentity.tcbStatusAccepted = some p →
        Satisfied value relative .migtdTcbStatusAccepted p := by
  rw [← check_kind .isvsvn, ← check_kind .migtdTcbDate, ← check_kind .migtdTcbStatusAccepted]
  unfold ServtdPolicy.evaluate
  simp only [except_bind_ok, Unique.exists_iff, PUnit.default_eq_unit]
  rfl

private theorem global_ok {g : GlobalPolicy} : g.evaluate value relative = .ok () ↔
      (∀ t, g.tcb = some t → t.evaluate value relative = .ok ()) ∧
      (∀ t, g.platform = some t → t.evaluate value relative = .ok ()) ∧
      ∀ t, g.crl = some t → t.evaluate value relative = .ok () := by
  -- A sub-policy that is absent asks for nothing.
  obtain ⟨tcb, platform, crl⟩ := g
  cases tcb <;> cases platform <;> cases crl <;> 
    simp [GlobalPolicy.evaluate, except_bind_ok, Unique.exists_iff]

theorem global_holds {g : GlobalPolicy} :
    g.evaluate value relative = .ok () ↔ ∀ k, Holds value relative (.global g) k := by
  simp only [global_ok, tcb_ok, platform_ok, crl_ok]
  constructor
  · rintro ⟨htcb, hplatform, hcrl⟩ k p hp
    cases k <;> simp only [propertyOf, Option.bind_eq_some_iff, reduceCtorEq] at hp
    case tcbEvaluationDataNumber =>
      obtain ⟨t, ht, hp⟩ := hp
      exact (htcb t ht).1 p hp
    case tcbStatusAccepted =>
      obtain ⟨t, ht, hp⟩ := hp
      exact (htcb t ht).2.1 p hp
    case tcbDate =>
      obtain ⟨t, ht, hp⟩ := hp
      exact (htcb t ht).2.2 p hp
    case fmspc =>
      obtain ⟨t, ht, hp⟩ := hp
      exact hplatform t ht p hp
    case pckCrlNum =>
      obtain ⟨t, ht, hp⟩ := hp
      exact (hcrl t ht).1 p hp
    case rootCaCrlNum =>
      obtain ⟨t, ht, hp⟩ := hp
      exact (hcrl t ht).2 p hp
  · intro h
    refine ⟨fun t ht => ⟨?_, ?_, ?_⟩, fun t ht => ?_, fun t ht => ⟨?_, ?_⟩⟩ <;> intro p hp
    · exact h .tcbEvaluationDataNumber p (Option.bind_eq_some_iff.mpr ⟨t, ht, hp⟩)
    · exact h .tcbStatusAccepted p (Option.bind_eq_some_iff.mpr ⟨t, ht, hp⟩)
    · exact h .tcbDate p (Option.bind_eq_some_iff.mpr ⟨t, ht, hp⟩)
    · exact h .fmspc p (Option.bind_eq_some_iff.mpr ⟨t, ht, hp⟩)
    · exact h .pckCrlNum p (Option.bind_eq_some_iff.mpr ⟨t, ht, hp⟩)
    · exact h .rootCaCrlNum p (Option.bind_eq_some_iff.mpr ⟨t, ht, hp⟩)

private theorem servtd_holds {s : ServtdPolicy} :
    s.evaluate value relative = .ok () ↔ ∀ k, Holds value relative (.servtd s) k := by
  rw [servtd_ok]
  constructor
  · rintro ⟨hsvn, hdate, hstatus⟩ k p hp
    cases k <;> simp only [propertyOf, reduceCtorEq] at hp
    case isvsvn => exact hsvn p hp
    case migtdTcbDate => exact hdate p hp
    case migtdTcbStatusAccepted => exact hstatus p hp
  · intro h
    exact ⟨h .isvsvn, h .migtdTcbDate, h .migtdTcbStatusAccepted⟩

private theorem entry_holds {skipGlobal : Bool} {t : PolicyTypes} :
    t.evaluate skipGlobal value relative = .ok () ↔
      (Applicable skipGlobal t → ∀ k, Holds value relative t k) := by
  cases t with
  | global g =>
    cases skipGlobal with
    | true => simp [PolicyTypes.evaluate, Applicable]
    | false => simp [PolicyTypes.evaluate, Applicable, global_holds]
  | servtd s => simp [PolicyTypes.evaluate, Applicable, servtd_holds]

theorem block_holds {skipGlobal : Bool} {block : List PolicyTypes} :
    evaluatePolicyBlock value relative skipGlobal block = .ok () ↔
      ∀ t ∈ block, Applicable skipGlobal t → ∀ k, Holds value relative t k := by
  rw [evaluatePolicyBlock_ok]
  simp only [entry_holds]

/-- The property refers to the value of the own side. -/
def RefersToOwn (p : PolicyProperty) : Prop :=
  ∃ reference, p.reference = .string reference ∧ isRelative reference = true

def Lacks (value relative : PolicyEvaluationInfo) (k : PropertyKind) (p : PolicyProperty) : Prop :=
  k.valueIn value = none ∨
    ∃ v, k.valueIn value = some v ∧ RefersToOwn p ∧ k.needsReference v = true ∧
      k.valueIn relative = none

theorem evaluateInteger_absent (h : RefersToOwn p) (v : UInt32) :
    p.evaluateInteger v none = .error .invalidReference := by
  obtain ⟨reference, href, hrel⟩ := h
  simp only [PolicyProperty.evaluateInteger, href, hrel, if_true, orElse]
  rfl

theorem evaluateString_absent (h : RefersToOwn p) (v : Text) :
    p.evaluateString v none = .error .invalidReference := by
  obtain ⟨reference, href, hrel⟩ := h
  simp only [PolicyProperty.evaluateString, href, hrel, if_true, orElse]
  rfl

private theorem evaluateTcbStatus_absent (h : RefersToOwn p) {v : TcbStatus}
    (hneeds : PropertyKind.needsReference .tcbStatusAccepted v = true) :
    p.evaluateTcbStatus v none = .error .invalidReference := by
  obtain ⟨reference, href, hrel⟩ := h
  simp only [PropertyKind.needsReference, Bool.and_eq_true, Bool.not_eq_true'] at hneeds
  simp only [PolicyProperty.evaluateTcbStatus, href, hrel, hneeds.1, hneeds.2, if_true, orElse,
    Bool.false_eq_true, if_false]
  rfl

theorem judge_absent {v : k.Value} (h : RefersToOwn p) (hneeds : k.needsReference v = true) :
    k.judge p v none = .error .invalidReference := by
  cases k with
  | tcbStatusAccepted => exact evaluateTcbStatus_absent h hneeds
  | migtdTcbStatusAccepted => cases hneeds
  | tcbEvaluationDataNumber => exact evaluateInteger_absent h v
  | pckCrlNum => exact evaluateInteger_absent h v
  | rootCaCrlNum => exact evaluateInteger_absent h v
  | isvsvn => exact evaluateInteger_absent h v
  | tcbDate => exact evaluateString_absent h v
  | fmspc => exact evaluateString_absent h v
  | migtdTcbDate => exact evaluateString_absent h v

theorem Lacks.unsatisfied (h : Lacks value relative k p) : ¬Satisfied value relative k p := by
  rintro ⟨v, hv, hjudge⟩
  rcases h with hnone | ⟨w, hw, hown, hneeds, hrel⟩
  · rw [hnone] at hv
    cases hv
  · obtain rfl := Option.some.inj (hw.symm.trans hv)
    rw [hrel, judge_absent hown hneeds] at hjudge
    cases hjudge

end

/-- A block succeeds when every property of every applicable entry is satisfied. The order of the
entries does not matter, a further entry never helps, and absent values make it fail. -/
theorem policy_block_conjunction (value relative : PolicyEvaluationInfo) (skipGlobal : Bool) :
    (∀ block : List PolicyTypes, evaluatePolicyBlock value relative skipGlobal block = .ok () ↔
        ∀ t ∈ block, Applicable skipGlobal t → ∀ k p, propertyOf t k = some p →
          Satisfied value relative k p) ∧
    (∀ block block' : List PolicyTypes, block.Perm block' →
      (evaluatePolicyBlock value relative skipGlobal block = .ok () ↔
        evaluatePolicyBlock value relative skipGlobal block' = .ok ())) ∧
    (∀ (before after : List PolicyTypes) (t : PolicyTypes),
      evaluatePolicyBlock value relative skipGlobal (before ++ after) ≠ .ok () →
      evaluatePolicyBlock value relative skipGlobal (before ++ t :: after) ≠ .ok ()) ∧
    ∀ (block : List PolicyTypes) (t : PolicyTypes) (k : PropertyKind) (p : PolicyProperty),
      t ∈ block → Applicable skipGlobal t → propertyOf t k = some p →
      Lacks value relative k p →
      evaluatePolicyBlock value relative skipGlobal block ≠ .ok () := by
  refine ⟨fun block => block_holds, ?_, ?_, ?_⟩
  · intro block block' hperm
    rw [evaluatePolicyBlock_ok, evaluatePolicyBlock_ok]
    exact forall_congr' fun t => by rw [hperm.mem_iff]
  · intro before after t hfails hok
    apply hfails
    rw [evaluatePolicyBlock_ok] at hok ⊢
    intro u hu
    apply hok
    rw [List.mem_append, List.mem_cons]
    rcases List.mem_append.mp hu with hu | hu
    · exact .inl hu
    · exact .inr (.inr hu)
  · intro block t k p ht happlies hp hlacks hok
    exact hlacks.unsatisfied (block_holds.mp hok t ht happlies k p hp)

def svnOnly (svn : Option UInt16) : PolicyEvaluationInfo :=
  ⟨none, none, none, none, none, svn, none, none, none, none⟩

def notOlder : PolicyProperty := ⟨ascii "greater-or-equal", .string (ascii "self")⟩

def svnEntry (p : PolicyProperty) : PolicyTypes := .servtd ⟨⟨some p, none, none⟩⟩

def atLeast (svn : UInt32) : PolicyProperty := ⟨ascii "greater-or-equal", .integer svn⟩

theorem policy_block_conjunction_svn :
    evaluatePolicyBlock (svnOnly (some 2)) (svnOnly (some 1)) true
        [svnEntry (atLeast 2), svnEntry notOlder] = .ok () ∧
      evaluatePolicyBlock (svnOnly (some 2)) (svnOnly (some 1)) true
        [svnEntry notOlder, svnEntry (atLeast 2)] = .ok () ∧
      evaluatePolicyBlock (svnOnly (some 2)) (svnOnly (some 1)) true
        [svnEntry notOlder, svnEntry (atLeast 3)] ≠ .ok () ∧
      evaluatePolicyBlock (svnOnly (some 2)) (svnOnly none) true
        [svnEntry (atLeast 2), svnEntry notOlder] ≠ .ok () := by
  obtain ⟨hall, horder, hmore, -⟩ :=
    policy_block_conjunction (svnOnly (some 2)) (svnOnly (some 1)) true
  have hboth : evaluatePolicyBlock (svnOnly (some 2)) (svnOnly (some 1)) true
      [svnEntry (atLeast 2), svnEntry notOlder] = .ok () := by
    rw [hall]
    intro t ht _ k p hp
    rcases List.mem_pair.mp ht with rfl | rfl <;> cases k <;>
      simp only [svnEntry, propertyOf, Option.some.injEq, reduceCtorEq] at hp <;>
      exact ⟨(2 : UInt32), rfl, by rw [← hp]; decide⟩
  refine ⟨hboth, (horder _ _ (.swap _ _ _)).mp hboth, ?_, ?_⟩
  · exact hmore [] [svnEntry (atLeast 3)] (svnEntry notOlder) (by decide)
  · exact (policy_block_conjunction (svnOnly (some 2)) (svnOnly none) true).2.2.2 _
      (svnEntry notOlder) .isvsvn notOlder (by simp) trivial rfl
      (.inr ⟨(2 : UInt32), rfl, ⟨ascii "self", rfl, by decide⟩, rfl, rfl⟩)

end MigTd.Policy.Conjunction
