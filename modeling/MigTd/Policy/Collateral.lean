/- source: v2/policy.rs, servtd_collateral.rs, collaterals.rs, v2/mod.rs
   digest: Signed policies with their collaterals, TCB mappings and the verification of a policy. -/

import MigTd.Attestation.Reports
import MigTd.Crypto.Certificates
import MigTd.Measurement.EventLog
import MigTd.Policy.Evaluation

set_option autoImplicit false

namespace MigTd.Policy.Collateral

open Attestation.Reports Crypto.Certificates Lib.Ascii Lib.ByteCodec Lib.StateProgram
  Measurement.EventLog Migration.Information Evaluation

structure Platform where
  fmspc : Text
  tcbInfoIssuerChain : Text
  tcbInfo : Text

structure Collaterals where
  majorVersion : UInt16
  minorVersion : UInt16
  teeType : UInt32
  rootCa : Text
  pckCrlIssuerChain : Text
  rootCaCrl : Text
  pckCrl : Text
  platforms : List Platform
  qeIdentityIssuerChain : Text
  qeIdentity : Text

def Collaterals.getTcbWithFmspc (c : Collaterals) (fmspc : Text) : Option Platform :=
  c.platforms.find? (·.fmspc = fmspc)

def getCollateralWithFmspc (fmspc : Bytes 6) (c : Collaterals) :
    Except PolicyError Attestation.Reports.Collateral := do
  let platformTcb ← orElse (c.getTcbWithFmspc (bytesToHexString fmspc.1)) .invalidCollateral
  return {
    majorVersion := c.majorVersion
    minorVersion := c.minorVersion
    teeType := c.teeType
    pckCrlIssuerChain := c.pckCrlIssuerChain
    rootCaCrl := c.rootCaCrl
    pckCrl := c.pckCrl
    tcbInfoIssuerChain := platformTcb.tcbInfoIssuerChain
    tcbInfo := platformTcb.tcbInfo
    qeIdentityIssuerChain := c.qeIdentityIssuerChain
    qeIdentity := c.qeIdentity }

/-- A text with a NUL inside has no C form. -/
def convertCollateralToCstring (c : Attestation.Reports.Collateral) :
    Except PolicyError Attestation.Reports.Collateral :=
  if [c.pckCrlIssuerChain, c.rootCaCrl, c.pckCrl, c.tcbInfoIssuerChain, c.tcbInfo,
      c.qeIdentityIssuerChain, c.qeIdentity].any (·.contains 0) then .error .invalidCollateral
  else .ok c

structure TcbLevel where
  isvsvn : UInt16
  tcbDate : Text
  tcbStatus : Text

structure TdIdentity where
  tcbLevels : List TcbLevel

def TdIdentity.getTcbLevelBySvn (t : TdIdentity) (svn : UInt16) : Option TcbLevel :=
  t.tcbLevels.find? (·.isvsvn = svn)

structure Measurements where
  mrtd : Text
  rtmr0 : Text
  rtmr1 : Text
  rtmr2 : Option Text
  rtmr3 : Option Text

namespace Measurements

def newFromBytes (mrtd rtmr0 rtmr1 : Octets) (rtmr2 rtmr3 : Option Octets) :
    Measurements where
  mrtd := bytesToHexString mrtd
  rtmr0 := bytesToHexString rtmr0
  rtmr1 := bytesToHexString rtmr1
  rtmr2 := rtmr2.map bytesToHexString
  rtmr3 := rtmr3.map bytesToHexString

def toUppercase (m : Measurements) : Measurements where
  mrtd := toAsciiUppercase m.mrtd
  rtmr0 := toAsciiUppercase m.rtmr0
  rtmr1 := toAsciiUppercase m.rtmr1
  rtmr2 := m.rtmr2.map toAsciiUppercase
  rtmr3 := m.rtmr3.map toAsciiUppercase

end Measurements

/-- A pattern without a value matches anything; one with a value needs the same value. -/
def matchesOptional (pattern target : Option Text) : Bool :=
  match pattern, target with
  | some p, some t => p == t
  | some _, none => false
  | none, _ => true

def compareMeasurements (pattern target : Measurements) : Bool :=
  let pattern := pattern.toUppercase
  let target := target.toUppercase
  pattern.mrtd == target.mrtd && pattern.rtmr0 == target.rtmr0 && pattern.rtmr1 == target.rtmr1 &&
    matchesOptional pattern.rtmr2 target.rtmr2 && matchesOptional pattern.rtmr3 target.rtmr3

structure SvnMapping where
  tdMeasurements : Measurements
  isvsvn : UInt16

structure TdTcbMapping where
  svnMappings : List SvnMapping

namespace TdTcbMapping

def getEngineSvnByMeasurements (t : TdTcbMapping) (m : Measurements) : Option UInt16 :=
  (t.svnMappings.find? fun mapping => compareMeasurements mapping.tdMeasurements m).map (·.isvsvn)

def getEngineSvnByReport (t : TdTcbMapping) (report : VerifiedReport) : Option UInt16 :=
  t.getEngineSvnByMeasurements <| .newFromBytes report.mrtd.1 report.rtmr0.1 report.rtmr1.1
    (some report.rtmr2.1) (some report.rtmr3.1)

end TdTcbMapping

/-- A JSON text as it stands in the document, and the hexadecimal signature over it. -/
structure Signed where
  raw : Text
  signature : Text

structure ServtdCollateral where
  servtdIdentityIssuerChain : Text
  servtdIdentity : Signed
  servtdTcbMappingIssuerChain : Text
  servtdTcbMapping : Signed

structure PolicyData where
  id : Text
  version : Text
  policySvn : UInt32
  policy : Option (List PolicyTypes)
  forwardPolicy : Option (List PolicyTypes)
  backwardPolicy : Option (List PolicyTypes)
  collaterals : Collaterals
  servtdCollateral : ServtdCollateral

namespace PolicyData

variable (p : PolicyData)

def validate : Bool := !p.id.isEmpty && p.version == ascii "2.0"

variable (value relative : PolicyEvaluationInfo) (skipGlobal : Bool)

def evaluatePolicyCommon : Except PolicyError Unit :=
  evaluateOptionalBlock p.policy value relative skipGlobal

def evaluatePolicyForward : Except PolicyError Unit :=
  evaluateOptionalBlock p.forwardPolicy value relative skipGlobal

def evaluatePolicyBackward : Except PolicyError Unit :=
  evaluateOptionalBlock p.backwardPolicy value relative skipGlobal

def evaluateAgainstPolicy (other : PolicyData) : Except PolicyError Unit :=
  if p.policySvn < other.policySvn then .error .svnMismatch else .ok ()

end PolicyData

structure VerifiedPolicy where
  policyData : PolicyData
  servtdIdentity : TdIdentity
  servtdIdentityIssuerChain : Text
  servtdTcbMapping : TdTcbMapping
  servtdTcbMappingIssuerChain : Text
  policyIssuerChain : Text

/-- The JSON library, at the types that are read with it. -/
structure Json where
  rawPolicyData : Octets → Option Signed
  policyData : Text → Option PolicyData
  tdIdentity : Text → Option TdIdentity
  tdTcbMapping : Text → Option TdTcbMapping
  /-- `tcbInfo.tcbEvaluationDataNumber` of a platform TCB. -/
  tcbEvaluationDataNumber : Text → Option UInt32

/-- Pairs of characters, as long as each is a number in base sixteen. -/
def hexPairs : Text → Option Octets
  | a :: b :: rest => do
    let byte ← fromStrRadix16 a b
    let bytes ← hexPairs rest
    return byte :: bytes
  | _ => some []

def hexStringToBytes (hex : Text) : Except PolicyError Octets :=
  if hex.isEmpty || hex.length % 2 != 0 || !isAscii hex then .error .invalidParameter
  else orElse (hexPairs hex) .invalidParameter

section

variable (pki : Pki) (json : Json)

/-- The signature over the raw text is checked before the text is parsed. -/
def verifySigned {α : Type} (parse : Text → Option α) (e : PolicyError) (s : Signed)
    (issuerChain : Octets) : Except PolicyError α := do
  let signature ← hexStringToBytes s.signature
  (verifyCertChainAndSignature pki issuerChain s.raw signature).mapError
    fun _ => .signatureVerificationFailed
  orElse (parse s.raw) e

def verifyServtdIdentity (s : Signed) (issuerChain : Octets) :
    Except PolicyError TdIdentity :=
  verifySigned pki json.tdIdentity .invalidServtdIdentity s issuerChain

def verifyServtdTcbMapping (s : Signed) (issuerChain : Octets) :
    Except PolicyError TdTcbMapping :=
  verifySigned pki json.tdTcbMapping .invalidServtdTcbMapping s issuerChain

def verifyPolicyDataSignature (s : Signed) (issuerChain : Octets) :
    Except PolicyError PolicyData :=
  verifySigned pki json.policyData .invalidPolicy s issuerChain

def verify (raw : Signed) (issuerChain : Octets) : Except PolicyError VerifiedPolicy := do
  require (isUtf8 issuerChain) .invalidPolicy
  let policyData ← verifyPolicyDataSignature pki json raw issuerChain
  let collateral := policyData.servtdCollateral
  let servtdIdentity ←
    verifyServtdIdentity pki json collateral.servtdIdentity collateral.servtdIdentityIssuerChain
  let servtdTcbMapping ← verifyServtdTcbMapping pki json collateral.servtdTcbMapping
    collateral.servtdTcbMappingIssuerChain
  require policyData.validate .invalidParameter
  return {
    policyData := policyData
    servtdIdentity := servtdIdentity
    servtdIdentityIssuerChain := collateral.servtdIdentityIssuerChain
    servtdTcbMapping := servtdTcbMapping
    servtdTcbMappingIssuerChain := collateral.servtdTcbMappingIssuerChain
    policyIssuerChain := issuerChain }

end

/-- The digest of the named event must be the hash of the data. -/
def verifyEventHash (sha384 : Octets → Octets) (events : EventMap) (name : EventName)
    (data : Octets) : Except PolicyError Bool :=
  match events name with
  | none => .ok false
  | some event => do
    let expectedHash ← (digestSha384 sha384 data).mapError fun _ => .hashCalculation
    return expectedHash == event.header.sha384.1

def checkPolicyIntegrity (sha384 : Octets → Octets) (policy : Octets)
    (events : EventMap) : Except PolicyError Unit := do
  let matching ← verifyEventHash sha384 events .migTdPolicy policy
  require matching .policyHashMismatch

section

variable {pki : Pki} {json : Json} {pem : Octets}

/-- The leaf of the chain signed this document, and each certificate the one before it. -/
def SignedUnder (pki : Pki) (s : Signed) (chain : CertChain) : Prop :=
  List.IsChain (SignedBy pki) chain.1 ∧ ∃ signature, hexStringToBytes s.signature = .ok signature ∧
      SignsMessage pki chain.leaf s.raw signature

theorem verifySigned_ok {α : Type} {parse : Text → Option α} {e : PolicyError} {s : Signed}
    {a : α} :
    verifySigned pki parse e s pem = .ok a ↔ parse s.raw = some a ∧
        ∃ chain, extractCertChainFromPem pki pem = .ok chain ∧ SignedUnder pki s chain := by
  unfold verifySigned SignedUnder
  simp only [except_bind_ok, mapError_ok, orElse_ok, verifyCertChainAndSignature_ok,
    Unique.exists_iff, PUnit.default_eq_unit]
  constructor
  · rintro ⟨signature, hsig, ⟨chain, hchain, hlinks, hsigns⟩, hparse⟩
    exact ⟨hparse, chain, hchain, hlinks, signature, hsig, hsigns⟩
  · rintro ⟨hparse, chain, hchain, hlinks, signature, hsig, hsigns⟩
    exact ⟨signature, hsig, ⟨chain, hchain, hlinks, hsigns⟩, hparse⟩

theorem verify_ok {raw : Signed} {v : VerifiedPolicy} (h : verify pki json raw pem = .ok v) :
    v.policyIssuerChain = pem ∧ verifyPolicyDataSignature pki json raw pem = .ok v.policyData ∧
      verifyServtdIdentity pki json v.policyData.servtdCollateral.servtdIdentity
        v.servtdIdentityIssuerChain = .ok v.servtdIdentity ∧
      verifyServtdTcbMapping pki json v.policyData.servtdCollateral.servtdTcbMapping
        v.servtdTcbMappingIssuerChain = .ok v.servtdTcbMapping := by
  unfold verify at h
  simp only [except_bind_ok] at h
  obtain ⟨-, -, policyData, hpolicy, identity, hidentity, mapping, hmapping, -, -, hv⟩ := h
  cases hv
  exact ⟨rfl, hpolicy, hidentity, hmapping⟩

theorem checkPolicyIntegrity_ok {sha384 : Octets → Octets} {policy : Octets}
    {events : EventMap} (h : checkPolicyIntegrity sha384 policy events = .ok ()) :
    ∃ event, events .migTdPolicy = some event ∧ event.header.sha384.1 = sha384 policy := by
  unfold checkPolicyIntegrity verifyEventHash at h
  rw [except_bind_ok] at h
  obtain ⟨b, hb, h⟩ := h
  have htrue : b = true := require_ok.mp h
  cases hevent : events .migTdPolicy with
  | none =>
    simp only [hevent] at hb
    rw [htrue] at hb
    cases hb
  | some event =>
    simp only [hevent, except_bind_ok, mapError_ok] at hb
    obtain ⟨digest, hdigest, hsame⟩ := hb
    refine ⟨event, rfl, ?_⟩
    rw [htrue] at hsame
    have heq : digest = event.header.sha384.1 := eq_of_beq (Except.ok.inj hsame)
    rw [← heq, (digestSha384_ok hdigest).1]

theorem getEngineSvnByMeasurements_some {t : TdTcbMapping} {m : Measurements} {svn : UInt16}
    (h : t.getEngineSvnByMeasurements m = some svn) :
    ∃ mapping ∈ t.svnMappings, mapping.isvsvn = svn ∧
      compareMeasurements mapping.tdMeasurements m = true := by
  unfold TdTcbMapping.getEngineSvnByMeasurements at h
  obtain ⟨mapping, hfind, hsvn⟩ := Option.map_eq_some_iff.mp h
  have hmatch := List.find?_some hfind
  exact ⟨mapping, List.mem_of_find?_eq_some hfind, hsvn, hmatch⟩

end

end MigTd.Policy.Collateral
