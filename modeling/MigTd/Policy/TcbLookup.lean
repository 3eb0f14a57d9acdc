/- source: servtd_collateral.rs, mig_policy.rs
   digest: When a quote and a TDREPORT with the same measurements get the same security version. -/

import MigTd.Policy.PeerPolicy

set_option autoImplicit false

namespace MigTd.Policy.TcbLookup

open Attestation.Reports Lib.Ascii Lib.ByteCodec Lib.StateProgram Collateral Evaluation MigPolicy
  PeerPolicy

section

variable {α β : Type}

def FirstWith (test : α → Bool) (l : List α) (a : α) : Prop :=
  ∃ before after, l = before ++ a :: after ∧ test a = true ∧ ∀ b ∈ before, test b = false

variable {l : List α} {test : α → Bool}

theorem firstWith_iff {a : α} : FirstWith test l a ↔ l.find? test = some a := by
  rw [List.find?_eq_some_iff_append]
  constructor
  · rintro ⟨before, after, rfl, ha, hbefore⟩
    exact ⟨ha, before, after, rfl, fun b hb => by simp [hbefore b hb]⟩
  · rintro ⟨ha, before, after, rfl, hbefore⟩
    exact ⟨before, after, rfl, ha, fun b hb => by simpa using hbefore b hb⟩

theorem FirstWith.unique {a b : α} (ha : FirstWith test l a) (hb : FirstWith test l b) : a = b :=
  Option.some.inj ((firstWith_iff.mp ha).symm.trans (firstWith_iff.mp hb))

theorem FirstWith.also {also : α → Bool} {a : α} (h : FirstWith test l a) (ha : also a = true) :
    FirstWith (fun x => test x && also x) l a := by
  obtain ⟨before, after, hl, htest, hbefore⟩ := h
  refine ⟨before, after, hl, by simp [htest, ha], ?_⟩
  intro b hb
  simp [hbefore b hb]

theorem find_also_iff (test also : α → Bool) (value : α → β) (l : List α) :
    (l.find? test).map value = (l.find? fun x => test x && also x).map value ↔
      ∀ a, FirstWith test l a → also a = false →
        ∃ b, FirstWith (fun x => test x && also x) l b ∧ value b = value a := by
  cases hfind : l.find? test with
  | none =>
    have hnone : (l.find? fun x => test x && also x) = none := by
      rw [List.find?_eq_none] at hfind ⊢
      intro x hx
      simp [hfind x hx]
    rw [hnone]
    simp only [Option.map_none, true_iff]
    intro a ha
    rw [firstWith_iff, hfind] at ha
    cases ha
  | some a =>
    have hfirst := firstWith_iff.mpr hfind
    by_cases halso : also a = true
    · rw [firstWith_iff.mp (hfirst.also halso)]
      simp only [true_iff]
      intro b hb hno
      rw [hb.unique hfirst, halso] at hno
      cases hno
    · have hfalse : also a = false := Bool.eq_false_of_not_eq_true halso
      constructor
      · intro hsame b hb _
        obtain rfl := hb.unique hfirst
        obtain ⟨u, hu, hvalue⟩ := Option.map_eq_some_iff.mp hsame.symm
        exact ⟨u, firstWith_iff.mpr hu, hvalue⟩
      · intro h
        obtain ⟨u, hu, hvalue⟩ := h a hfirst hfalse
        rw [firstWith_iff.mp hu, Option.map_some, Option.map_some, hvalue]

end

structure SameMeasurements (v : VerifiedReport) (r : TdxReport) : Prop where
  mrtd : v.mrtd = r.tdInfo.mrtd
  rtmr0 : v.rtmr0 = r.tdInfo.rtmr0
  rtmr1 : v.rtmr1 = r.tdInfo.rtmr1
  rtmr2 : v.rtmr2 = r.tdInfo.rtmr2
  rtmr3 : v.rtmr3 = r.tdInfo.rtmr3

def leavesLateRegisters (e : SvnMapping) : Bool :=
  e.tdMeasurements.rtmr2.isNone && e.tdMeasurements.rtmr3.isNone

def matchesAll (mrtd rtmr0 rtmr1 rtmr2 rtmr3 : Bytes 48) (e : SvnMapping) : Bool :=
  compareMeasurements e.tdMeasurements
    (.newFromBytes mrtd.1 rtmr0.1 rtmr1.1 (some rtmr2.1) (some rtmr3.1))

private theorem matches_short (mrtd rtmr0 rtmr1 rtmr2 rtmr3 : Bytes 48) (e : SvnMapping) :
    compareMeasurements e.tdMeasurements (.newFromBytes mrtd.1 rtmr0.1 rtmr1.1 none none) =
      (matchesAll mrtd rtmr0 rtmr1 rtmr2 rtmr3 e && leavesLateRegisters e) := by
  obtain ⟨⟨pmrtd, prtmr0, prtmr1, prtmr2, prtmr3⟩, svn⟩ := e
  cases prtmr2 <;> cases prtmr3 <;>
    simp [compareMeasurements, matchesAll, leavesLateRegisters, Measurements.toUppercase,
      Measurements.newFromBytes, matchesOptional]

/-- The first entry that matches the measurements names neither RTMR2 nor RTMR3, or the first one
that matches and names neither has the same security version. -/
def LateRegistersIdle (t : TdTcbMapping) (v : VerifiedReport) : Prop :=
  ∀ e, FirstWith (matchesAll v.mrtd v.rtmr0 v.rtmr1 v.rtmr2 v.rtmr3) t.svnMappings e →
    leavesLateRegisters e = false →
    ∃ u, FirstWith (fun e => matchesAll v.mrtd v.rtmr0 v.rtmr1 v.rtmr2 v.rtmr3 e &&
      leavesLateRegisters e) t.svnMappings u ∧ u.isvsvn = e.isvsvn

theorem lookup_same_iff {t : TdTcbMapping} {v : VerifiedReport} {r : TdxReport}
    (h : SameMeasurements v r) :
    t.getEngineSvnByReport v = t.getEngineSvnByMeasurements
        (.newFromBytes r.tdInfo.mrtd.1 r.tdInfo.rtmr0.1 r.tdInfo.rtmr1.1 none none) ↔
      LateRegistersIdle t v := by
  unfold TdTcbMapping.getEngineSvnByReport TdTcbMapping.getEngineSvnByMeasurements
  rw [← h.mrtd, ← h.rtmr0, ← h.rtmr1]
  simp only [matches_short v.mrtd v.rtmr0 v.rtmr1 v.rtmr2 v.rtmr3]
  exact find_also_iff _ _ _ _

def migtdIdentity (info : PolicyEvaluationInfo) : Option UInt16 × Option Text × Option Text :=
  (info.migtdIsvsvn, info.migtdTcbDate, info.migtdTcbStatus)

theorem setupEvaluationData_identity {sv : Services} {fmspc : Bytes 6}
    {v : VerifiedReport} {policy : VerifiedPolicy} {collaterals : Collaterals}
    {info : PolicyEvaluationInfo}
    (h : setupEvaluationData sv fmspc v policy collaterals = .ok info) :
    let svn := policy.servtdTcbMapping.getEngineSvnByReport v
    let tcb := svn.bind policy.servtdIdentity.getTcbLevelBySvn
    migtdIdentity info = (svn, tcb.map (·.tcbDate), tcb.map (·.tcbStatus)) := by
  unfold setupEvaluationData at h
  simp only [except_bind_ok] at h
  obtain ⟨_, _, _, _, _, _, _, _, _, _, hinfo⟩ := h
  rw [← Except.ok.inj hinfo]
  rfl

/-- A quote and a TDREPORT with the same measurements lead to the same security version, date and
status precisely when RTMR2 and RTMR3 do not decide the lookup. -/
theorem tcb_lookup_same_iff (policy : VerifiedPolicy) (v : VerifiedReport) (r : TdxReport)
    (h : SameMeasurements v r) :
    (policy.servtdTcbMapping.getEngineSvnByReport v =
        (setupEvaluationDataWithTdreport r policy).migtdIsvsvn ↔
      LateRegistersIdle policy.servtdTcbMapping v) ∧
    ∀ (sv : Services) (fmspc : Bytes 6) (collaterals : Collaterals) (info : PolicyEvaluationInfo),
      setupEvaluationData sv fmspc v policy collaterals = .ok info →
      (migtdIdentity info = migtdIdentity (setupEvaluationDataWithTdreport r policy) ↔
        LateRegistersIdle policy.servtdTcbMapping v) := by
  refine ⟨lookup_same_iff h, ?_⟩
  intro sv fmspc collaterals info hinfo
  rw [setupEvaluationData_identity hinfo, ← lookup_same_iff h]
  constructor
  · intro hsame
    exact congrArg Prod.fst hsame
  · intro hsvn
    rw [hsvn]
    rfl

def zeroReport : VerifiedReport := Bytes.zero TD_VERIFIED_REPORT_SIZE

def zeroTdreport : TdxReport := Bytes.zero 1024

theorem zero_sameMeasurements : SameMeasurements zeroReport zeroTdreport := by
  constructor <;> decide +kernel

def rtmr3Mapping : TdTcbMapping where
  svnMappings := [⟨.newFromBytes (Bytes.zero 48).1 (Bytes.zero 48).1 (Bytes.zero 48).1 none
    (some (Bytes.zero 48).1), 1⟩]

def rtmr3Policy : VerifiedPolicy := { sampleVerified [] with servtdTcbMapping := rtmr3Mapping }

/-- The quote gets security version one, and the TDREPORT none. -/
theorem tcb_lookup_differs : SameMeasurements zeroReport zeroTdreport ∧
      rtmr3Policy.servtdTcbMapping.getEngineSvnByReport zeroReport = some 1 ∧
      (setupEvaluationDataWithTdreport zeroTdreport rtmr3Policy).migtdIsvsvn = none :=
  ⟨zero_sameMeasurements, by decide +kernel, by decide +kernel⟩

theorem tcb_lookup_same_zero : SameMeasurements zeroReport zeroTdreport ∧
      (sampleVerified []).servtdTcbMapping.getEngineSvnByReport zeroReport =
        (setupEvaluationDataWithTdreport zeroTdreport (sampleVerified [])).migtdIsvsvn := by
  refine ⟨zero_sameMeasurements,
    (tcb_lookup_same_iff (sampleVerified []) _ _ zero_sameMeasurements).1.mpr ?_⟩
  intro e he hnames
  obtain ⟨before, after, hentries, -, -⟩ := he
  have hmem : e ∈ sampleMapping.svnMappings := by
    change e ∈ (sampleVerified []).servtdTcbMapping.svnMappings
    rw [hentries]
    exact List.mem_append_right before List.mem_cons_self
  rw [List.mem_singleton.mp hmem] at hnames
  cases hnames

end MigTd.Policy.TcbLookup
