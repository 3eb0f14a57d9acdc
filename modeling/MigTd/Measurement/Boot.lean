/- source: migtd/main.rs, migtd/src/config.rs
   digest: The measurements that MigTD makes when it starts, and the registers they leave. -/

import MigTd.Measurement.EventWriter
import MigTd.Policy.Evaluation

set_option autoImplicit false

namespace MigTd.Measurement.Boot

open Lib.Ascii Lib.StateProgram EventLog EventWriter Migration.Information Policy.Evaluation

structure Guid where
  timeLow : UInt32
  timeMid : UInt16
  timeHi : UInt16
  clkSeqHi : UInt8
  clkSeqLow : UInt8
  node : Octets
  deriving DecidableEq

def MIGTD_POLICY_FFS_GUID : Guid :=
  ⟨0x0BE92DC3, 0x6221, 0x4C98, 0x87, 0xC1, [0x8E, 0xEF, 0xFD, 0x70, 0xDE, 0x5A]⟩

def MIGTD_ROOT_CA_FFS_GUID : Guid :=
  ⟨0xCA437832, 0x4C51, 0x4322, 0xB1, 0x3D, [0xA2, 0x1B, 0xD0, 0xC8, 0xFF, 0xF6]⟩

def MIGTD_POLICY_ISSUER_CHAIN_FFS_GUID : Guid :=
  ⟨0x3F2FB27A, 0x9596, 0x431C, 0xA6, 0x8D, [0xD3, 0xEA, 0xB3, 0x9F, 0x8A, 0xEB]⟩

/-- `fv::get_file_from_fv` for raw files: the content of the file with a name in a volume. -/
abbrev FileLookup := Octets → Guid → Option Octets

/-- The features of a build that change its measurements. -/
structure Features where
  policyV2 : Bool
  testDisableRaAndAcceptAll : Bool
  azCvmEmu : Bool
  deriving DecidableEq

structure Machine where
  platform : Platform
  getFileFromFv : FileLookup
  configVolume : Octets
  hasEventLog : Bool
  /-- `mig_policy::init_policy`, which returns the version of the policy. -/
  initPolicy : Octets → Octets → Except PolicyError Text
  verifyOwnTdinfo : Rtmrs → Except PolicyError Unit
  /-- `attestation::root_ca::set_ca` takes the certificate. -/
  setCa : Octets → Bool

namespace Machine

variable (m : Machine)

def getPolicy : Option Octets := m.getFileFromFv m.configVolume MIGTD_POLICY_FFS_GUID

def getRootCa : Option Octets := m.getFileFromFv m.configVolume MIGTD_ROOT_CA_FFS_GUID

def getPolicyIssuerChain : Option Octets :=
  m.getFileFromFv m.configVolume MIGTD_POLICY_ISSUER_CHAIN_FFS_GUID

end Machine

/-- The arguments of `panic_with_guest_crash_reg_report`. -/
structure Crash where
  code : MigrationResult
  message : String
  deriving DecidableEq

def TEST_DISABLE_RA_AND_ACCEPT_ALL_EVENT : Octets := ascii "test_disable_ra_and_accept_all"

def TAGGED_EVENT_ID_TEST : UInt32 := 0x32

def MR_INDEX_TEST_FEATURE : UInt32 := 0x3

abbrev Measuring := Program LogState (Stop Crash)

section

variable (m : Machine)

/-- A file of the configuration volume, without which MigTD does not start. -/
def required (file : Option Octets) (message : String) : Measuring Octets :=
  lift (noPanic (orElse file ⟨.invalidPolicyError, message⟩))

def writeOrCrash (w : TaggedWrite) (message : String) : Measuring Unit := do
  let _ ← embed id (fun _ s => s) (Stop.map fun _ => ⟨.initializationError, message⟩)
    (writeTaggedEventLog m.platform w)

def measureTestFeature : Measuring Unit :=
  writeOrCrash m ⟨MR_INDEX_TEST_FEATURE, TEST_DISABLE_RA_AND_ACCEPT_ALL_EVENT,
    TAGGED_EVENT_ID_TEST, TEST_DISABLE_RA_AND_ACCEPT_ALL_EVENT⟩ "Failed to log migtd test feature"

def initializePolicy : Measuring Text := do
  let policy ← required m.getPolicy "Fail to get policy from CFV"
  let chain ← required m.getPolicyIssuerChain "Fail to get policy issuer chain from CFV"
  lift (noPanic ((m.initPolicy policy chain).mapError fun _ =>
    ⟨.invalidPolicyError, "Failed to initialize migration policy"⟩))

/-- `get_policy_and_measure` without `policy_v2`: the policy is its own event. -/
def getPolicyAndMeasure : Measuring Unit := do
  let policy ← required m.getPolicy "Fail to get policy from CFV"
  writeOrCrash m ⟨MR_INDEX_POLICY, policy, TAGGED_EVENT_ID_POLICY, policy⟩
    "Failed to log migration policy"

/-- `get_policy_and_measure` with `policy_v2`: the event holds the version of the policy. -/
def getPolicyAndMeasureV2 (azCvmEmu : Bool) : Measuring Unit := do
  let policy ← required m.getPolicy "Fail to get policy from CFV"
  let version ← initializePolicy m
  let rtmrs ← observe LogState.rtmrs
  lift (noPanic (if azCvmEmu then .ok ()
    else (m.verifyOwnTdinfo rtmrs).mapError fun _ =>
      ⟨.invalidPolicyError, "TDINFO MROWNER/MROWNERCONFIG mismatch with policy"⟩))
  writeOrCrash m ⟨MR_INDEX_POLICY, policy, TAGGED_EVENT_ID_POLICY, version⟩
    "Failed to log migration policy"

def getPolicyIssuerChainAndMeasure : Measuring Unit := do
  let chain ← required m.getPolicyIssuerChain "Fail to get policy issuer chain from CFV"
  writeOrCrash m ⟨MR_INDEX_POLICY_ISSUER_CHAIN, chain, TAGGED_EVENT_ID_POLICY_ISSUER_CHAIN, chain⟩
    "Failed to log policy issuer chain"

def getCaAndMeasure : Measuring Unit := do
  let rootCa ← required m.getRootCa "Fail to get root certificate chain from CFV"
  writeOrCrash m ⟨MR_INDEX_ROOT_CA, rootCa, TAGGED_EVENT_ID_ROOT_CA, rootCa⟩
    "Failed to log SGX root CA"
  ensure (m.setCa rootCa = true) (.failed ⟨.invalidPolicyError, "Invalid root certificate"⟩)

def doMeasurements (features : Features) : Measuring Unit := do
  ensure (m.hasEventLog = true) (.failed ⟨.initializationError, "Failed to get the event log"⟩)
  if features.testDisableRaAndAcceptAll then measureTestFeature m
  else if features.policyV2 then do
    getPolicyIssuerChainAndMeasure m
    getPolicyAndMeasureV2 m features.azCvmEmu
  else do
    getPolicyAndMeasure m
    getCaAndMeasure m

end

def measured (sha384 : Octets → Octets) (value data : Octets) : Octets :=
  sha384 (value ++ sha384 data)

section

variable {m : Machine} {s t : LogState} {message : String}

theorem required_ok {file : Option Octets} {b : Octets} :
    required file message s = (.ok b, t) ↔ file = some b ∧ s = t := by
  simp only [required, lift_ok, noPanic_ok, orElse_ok]

theorem writeOrCrash_ok {w : TaggedWrite} {i : Fin 4}
    (hi : rtmrIndex w.mrIndex = some i) (h : writeOrCrash m w message s = (.ok (), t)) :
    (t.rtmrs i).1 = measured m.platform.sha384 (s.rtmrs i).1 w.hashData ∧
      ∀ j ≠ i, t.rtmrs j = s.rtmrs j := by
  unfold writeOrCrash at h
  simp only [bind_ok, embed_ok, pure_ok] at h
  obtain ⟨n, _, ⟨u, hwrite, rfl⟩, -, rfl⟩ := h
  obtain ⟨logSize, digest, j, -, hdigest, hj, hextended, -⟩ := writeTaggedEventLog_ok hwrite
  obtain rfl := Option.some.inj (hi.symm.trans hj)
  obtain ⟨hvalue, hrest⟩ := extended_ok.mp hextended
  rw [hdigest] at hvalue
  exact ⟨hvalue, hrest⟩

theorem measureTestFeature_ok (h : measureTestFeature m s = (.ok (), t)) :
    t.rtmrs 1 = s.rtmrs 1 ∧ (t.rtmrs 2).1 =
      measured m.platform.sha384 (s.rtmrs 2).1 TEST_DISABLE_RA_AND_ACCEPT_ALL_EVENT := by
  obtain ⟨hvalue, hrest⟩ := writeOrCrash_ok (i := 2) rfl h
  exact ⟨hrest 1 (by decide), hvalue⟩

theorem getPolicyAndMeasure_ok (h : getPolicyAndMeasure m s = (.ok (), t)) :
    ∃ policy, m.getPolicy = some policy ∧ t.rtmrs 1 = s.rtmrs 1 ∧
      (t.rtmrs 2).1 = measured m.platform.sha384 (s.rtmrs 2).1 policy := by
  unfold getPolicyAndMeasure at h
  simp only [bind_ok, required_ok] at h
  obtain ⟨policy, _, ⟨hpolicy, rfl⟩, h⟩ := h
  obtain ⟨hvalue, hrest⟩ := writeOrCrash_ok (i := 2) rfl h
  exact ⟨policy, hpolicy, hrest 1 (by decide), hvalue⟩

theorem getCaAndMeasure_ok (h : getCaAndMeasure m s = (.ok (), t)) :
    ∃ rootCa, m.getRootCa = some rootCa ∧ t.rtmrs 1 = s.rtmrs 1 ∧
      (t.rtmrs 2).1 = measured m.platform.sha384 (s.rtmrs 2).1 rootCa := by
  unfold getCaAndMeasure at h
  simp only [bind_ok, required_ok, ensure_ok] at h
  obtain ⟨rootCa, _, ⟨hrootCa, rfl⟩, _, u, h, -, rfl⟩ := h
  obtain ⟨hvalue, hrest⟩ := writeOrCrash_ok (i := 2) rfl h
  exact ⟨rootCa, hrootCa, hrest 1 (by decide), hvalue⟩

theorem getPolicyIssuerChainAndMeasure_ok (h : getPolicyIssuerChainAndMeasure m s = (.ok (), t)) :
    ∃ chain, m.getPolicyIssuerChain = some chain ∧
      (t.rtmrs 1).1 = measured m.platform.sha384 (s.rtmrs 1).1 chain ∧
      t.rtmrs 2 = s.rtmrs 2 := by
  unfold getPolicyIssuerChainAndMeasure at h
  simp only [bind_ok, required_ok] at h
  obtain ⟨chain, _, ⟨hchain, rfl⟩, h⟩ := h
  obtain ⟨hvalue, hrest⟩ := writeOrCrash_ok (i := 1) rfl h
  exact ⟨chain, hchain, hvalue, hrest 2 (by decide)⟩

theorem getPolicyAndMeasureV2_ok {azCvmEmu : Bool}
    (h : getPolicyAndMeasureV2 m azCvmEmu s = (.ok (), t)) :
    ∃ policy, m.getPolicy = some policy ∧ t.rtmrs 1 = s.rtmrs 1 ∧
      (t.rtmrs 2).1 = measured m.platform.sha384 (s.rtmrs 2).1 policy := by
  unfold getPolicyAndMeasureV2 initializePolicy at h
  simp only [bind_ok, required_ok, lift_ok, observe_ok] at h
  obtain ⟨policy, _, ⟨hpolicy, rfl⟩, version, _,
    ⟨_, _, ⟨-, rfl⟩, _, _, ⟨-, rfl⟩, -, rfl⟩, _, _, ⟨-, rfl⟩, _, _, ⟨-, rfl⟩, h⟩ := h
  obtain ⟨hvalue, hrest⟩ := writeOrCrash_ok (i := 2) rfl h
  exact ⟨policy, hpolicy, hrest 1 (by decide), hvalue⟩

variable {features : Features}

theorem doMeasurements_v1 (hra : features.testDisableRaAndAcceptAll = false)
    (hv1 : features.policyV2 = false) (h : doMeasurements m features s = (.ok (), t)) :
    ∃ policy rootCa, m.getPolicy = some policy ∧ m.getRootCa = some rootCa ∧
      t.rtmrs 1 = s.rtmrs 1 ∧ (t.rtmrs 2).1 =
        measured m.platform.sha384 (measured m.platform.sha384 (s.rtmrs 2).1 policy) rootCa := by
  unfold doMeasurements at h
  simp only [hra, hv1, bind_ok, ensure_ok, Bool.false_eq_true, if_false] at h
  obtain ⟨_, _, ⟨-, rfl⟩, _, u, hpolicy, hca⟩ := h
  obtain ⟨policy, hget, h1, h2⟩ := getPolicyAndMeasure_ok hpolicy
  obtain ⟨rootCa, hgetCa, h1', h2'⟩ := getCaAndMeasure_ok hca
  refine ⟨policy, rootCa, hget, hgetCa, h1'.trans h1, ?_⟩
  rw [h2', h2]

theorem doMeasurements_v2 (hra : features.testDisableRaAndAcceptAll = false)
    (hv2 : features.policyV2 = true) (h : doMeasurements m features s = (.ok (), t)) :
    ∃ chain policy, m.getPolicyIssuerChain = some chain ∧ m.getPolicy = some policy ∧
      (t.rtmrs 1).1 = measured m.platform.sha384 (s.rtmrs 1).1 chain ∧
      (t.rtmrs 2).1 = measured m.platform.sha384 (s.rtmrs 2).1 policy := by
  unfold doMeasurements at h
  simp only [hra, hv2, bind_ok, ensure_ok, Bool.false_eq_true, if_false, if_true] at h
  obtain ⟨_, _, ⟨-, rfl⟩, _, u, hchain, hpolicy⟩ := h
  obtain ⟨chain, hgetChain, h1, h2⟩ := getPolicyIssuerChainAndMeasure_ok hchain
  obtain ⟨policy, hget, h1', h2'⟩ := getPolicyAndMeasureV2_ok hpolicy
  refine ⟨chain, policy, hgetChain, hget, ?_, ?_⟩
  · rw [h1', h1]
  · rw [h2', h2]

theorem doMeasurements_disabled (hra : features.testDisableRaAndAcceptAll = true)
    (h : doMeasurements m features s = (.ok (), t)) :
    t.rtmrs 1 = s.rtmrs 1 ∧ (t.rtmrs 2).1 =
      measured m.platform.sha384 (s.rtmrs 2).1 TEST_DISABLE_RA_AND_ACCEPT_ALL_EVENT := by
  unfold doMeasurements at h
  simp only [hra, bind_ok, ensure_ok, if_true] at h
  obtain ⟨_, _, ⟨-, rfl⟩, h⟩ := h
  exact measureTestFeature_ok h

end

end MigTd.Measurement.Boot
