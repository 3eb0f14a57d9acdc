/- source: mig_policy.rs
   digest: The five authenticators of a peer, from its evidence to the evaluation of the policy. -/

import MigTd.Migration.PreSession
import MigTd.Migration.ServtdRecord
import MigTd.Policy.Collateral

set_option autoImplicit false

namespace MigTd.Policy.MigPolicy

open Attestation.Reports Crypto.Certificates Lib.Ascii Lib.ByteCodec Lib.StateProgram
  Measurement.EventLog Migration.Information Migration.PreSession Migration.ServtdRecord Collateral
  Evaluation

/-- The libraries and calls that the authenticators rest on. -/
structure Services where
  features : MockFeatures
  pki : Pki
  attest : AttestLib
  json : Json
  cc : CcMeasurement
  sha384 : Octets → Octets
  getFmspcFromQuote : Octets → Option (Bytes 6)
  getCrlNumber : Text → Option UInt32
  /-- The ISO-8601 form of a Unix time, which exists for the years of the calendar. -/
  unixToIso8601 : Nat → Option Text
  tdcallVerifyReport : Bytes 256 → Bool

inductive QuoteError where
  | reportGenerationFailed
  | quoteGenerationFailed

/-- The own side: its verified policy, its issuer chain and the quote it gets for itself. -/
structure LocalSide where
  verifiedPolicy : Option VerifiedPolicy
  policyIssuerChain : Option Octets
  ownQuote : Except QuoteError Octets

abbrev Auth := Except (Stop PolicyError)

section

variable (sv : Services)

def verifyQuote (quote : Octets) (collaterals : Collaterals) :
    Except PolicyError (Bytes 6 × VerifiedReport) := do
  let fmspc ← orElse (sv.getFmspcFromQuote quote) .invalidQuote
  let collateral ← getCollateralWithFmspc fmspc collaterals
  let collateralCstr ← convertCollateralToCstring collateral
  let supplData ← (verifyQuoteWithCollaterals sv.attest quote collateralCstr).mapError
    fun _ => .quoteVerification
  return (fmspc, supplData)

def verifyTdreport (tdreport : Octets) : Except PolicyError TdxReport := do
  let report ← orElse (TdxReport.readFromBytes tdreport) .invalidTdReport
  require (sv.tdcallVerifyReport report.reportMac) .tdReportVerification
  let tdinfoHash ← (digestSha384 sv.sha384 report.tdInfo.1).mapError fun _ => .hashCalculation
  let teeTcbInfoHash ←
    (digestSha384 sv.sha384 report.teeTcbInfo.1).mapError fun _ => .hashCalculation
  require (report.teeTcbInfoHash.1 = teeTcbInfoHash ∧ report.teeInfoHash ≠ Bytes.zero 48 ∧
    report.teeInfoHash.1 = tdinfoHash) .invalidTdReport
  return report

def getRtmrsFromSupplData (v : VerifiedReport) : Rtmrs
  | 0 => v.rtmr0
  | 1 => v.rtmr1
  | 2 => v.rtmr2
  | 3 => v.rtmr3

def getRtmrsFromTdreport (r : TdxReport) : Rtmrs
  | 0 => r.tdInfo.rtmr0
  | 1 => r.tdInfo.rtmr1
  | 2 => r.tdInfo.rtmr2
  | 3 => r.tdInfo.rtmr3

end

/-- A field of TDINFO with the bit of SERVTD_ATTR that ignores it. -/
structure IgnorableField where
  bit : UInt64
  start : Nat
  size : Nat
  fits : start + size ≤ 512

def SERVTD_ATTR_IGNORE_ATTRIBUTES : IgnorableField :=
  ⟨0x1_0000_0000, 0, 8, (by decide : 8 ≤ 512)⟩
def SERVTD_ATTR_IGNORE_XFAM : IgnorableField :=
  ⟨0x2_0000_0000, 8, 8, (by decide : 16 ≤ 512)⟩
def SERVTD_ATTR_IGNORE_MRTD : IgnorableField :=
  ⟨0x4_0000_0000, 16, 48, (by decide : 64 ≤ 512)⟩
def SERVTD_ATTR_IGNORE_MRCONFIGID : IgnorableField :=
  ⟨0x8_0000_0000, 64, 48, (by decide : 112 ≤ 512)⟩
def SERVTD_ATTR_IGNORE_MROWNER : IgnorableField :=
  ⟨0x10_0000_0000, 112, 48, (by decide : 160 ≤ 512)⟩
def SERVTD_ATTR_IGNORE_MROWNERCONFIG : IgnorableField :=
  ⟨0x20_0000_0000, 160, 48, (by decide : 208 ≤ 512)⟩
def SERVTD_ATTR_IGNORE_RTMR0 : IgnorableField :=
  ⟨0x40_0000_0000, 208, 48, (by decide : 256 ≤ 512)⟩
def SERVTD_ATTR_IGNORE_RTMR1 : IgnorableField :=
  ⟨0x80_0000_0000, 256, 48, (by decide : 304 ≤ 512)⟩
def SERVTD_ATTR_IGNORE_RTMR2 : IgnorableField :=
  ⟨0x100_0000_0000, 304, 48, (by decide : 352 ≤ 512)⟩
def SERVTD_ATTR_IGNORE_RTMR3 : IgnorableField :=
  ⟨0x200_0000_0000, 352, 48, (by decide : 400 ≤ 512)⟩

def ignorableFields : List IgnorableField :=
  [SERVTD_ATTR_IGNORE_ATTRIBUTES, SERVTD_ATTR_IGNORE_XFAM, SERVTD_ATTR_IGNORE_MRTD,
    SERVTD_ATTR_IGNORE_MRCONFIGID, SERVTD_ATTR_IGNORE_MROWNER, SERVTD_ATTR_IGNORE_MROWNERCONFIG,
    SERVTD_ATTR_IGNORE_RTMR0, SERVTD_ATTR_IGNORE_RTMR1, SERVTD_ATTR_IGNORE_RTMR2,
    SERVTD_ATTR_IGNORE_RTMR3]

def IgnorableField.ignoredBy (f : IgnorableField) (attr : UInt64) : Bool := attr &&& f.bit != 0

def IgnorableField.clear (f : IgnorableField) (t : TdInfo) : TdInfo :=
  ⟨t.1.take f.start ++ (List.replicate f.size 0 ++ t.1.drop (f.start + f.size)), by
    have hfits := f.fits
    simp only [List.length_append, List.length_take, List.length_replicate, List.length_drop, t.2]
    omega⟩

/-- TDINFO with the ignored fields cleared, one after the other. -/
def maskTdInfo (attr : UInt64) (t : TdInfo) : TdInfo :=
  ignorableFields.foldl (fun t f => if f.ignoredBy attr then f.clear t else t) t

def verifyServtdInfoHash (sha384 : Octets → Octets) (tdinfoBytes : Octets)
    (servtdAttr : UInt64) (initServtdInfoHash : Bytes 48) : Except PolicyError TdInfo := do
  let (tdInfo, _) ← orElse (array 512 tdinfoBytes) .invalidParameter
  let masked := maskTdInfo servtdAttr tdInfo
  let infoHash ← (digestSha384 sha384 masked.1).mapError fun _ => .hashCalculation
  require (infoHash = initServtdInfoHash.1) .invalidTdReport
  return masked

def verifyInitTdinfo (sha384 : Octets → Octets) (initTdinfo : Octets)
    (servtdExt : ServtdExt) : Except PolicyError TdInfo :=
  verifyServtdInfoHash sha384 initTdinfo (UInt64.ofNat (leValue servtdExt.initAttr.1))
    servtdExt.initServtdInfoHash

def ownerConfigSvn (mrownerconfig : Bytes 48) : Nat := leValue (mrownerconfig.1.take 4)

/-- Nothing stands behind the security version. -/
def OwnerConfigPadded (mrownerconfig : Bytes 48) : Prop :=
  mrownerconfig.1.drop 4 = List.replicate 44 0
  deriving Decidable

def verifyPeerInitTdinfoAgainstOwner (peerInitTdInfo : Octets)
    (peerMrowner peerMrownerconfig : Bytes 48) : Except PolicyError Unit := do
  if h : peerInitTdInfo.length = TD_INFO_SIZE then
    let init : TdInfo := ⟨peerInitTdInfo, h⟩
    require (init.mrowner = peerMrowner) .policyHashMismatch
    require (OwnerConfigPadded init.mrownerconfig) .invalidParameter
    require (OwnerConfigPadded peerMrownerconfig) .invalidParameter
    require (ownerConfigSvn init.mrownerconfig ≤ ownerConfigSvn peerMrownerconfig) .svnMismatch
  else .error .invalidParameter

def verifyPeerInitTdinfoAgainstSupplData (peerInitTdInfo : Octets) (v : VerifiedReport) :
    Except PolicyError Unit :=
  verifyPeerInitTdinfoAgainstOwner peerInitTdInfo v.mrowner v.mrownerconfig

/-- The part of the two init-checking authenticators behind the owner check. -/
def verifyInitMeasurements (sha384 : Octets → Octets) (policy : VerifiedPolicy)
    (initTdinfo servtdExtSrc : Octets) : Except PolicyError Unit := do
  let servtdExt ← orElse (ServtdExt.readFromBytes servtdExtSrc) .invalidParameter
  let initTdInfo ← verifyInitTdinfo sha384 initTdinfo servtdExt
  let _ ← orElse (policy.servtdTcbMapping.getEngineSvnByMeasurements <| .newFromBytes
    initTdInfo.mrtd.1 initTdInfo.rtmr0.1 initTdInfo.rtmr1.1 none none) .svnMismatch
  return ()

section

variable (sv : Services)

def policyKeyHash (own : LocalSide) : Except PolicyError Octets := do
  let policyIssuerChain ← orElse own.policyIssuerChain .invalidParameter
  (getPolicySignerKeyHash sv.pki sv.sha384 policyIssuerChain).mapError fun _ => .invalidCollateral

def verifyOwnTdinfo (own : LocalSide) (report : Option TdInfo) : Except PolicyError Unit := do
  let policy ← orElse own.verifiedPolicy .invalidParameter
  let tdInfo ← orElse report .getTdxReport
  require (tdInfo.mrownerconfig.1 =
    leBytes 4 policy.policyData.policySvn.toNat ++ List.replicate 44 0) .svnMismatch
  let hash ← policyKeyHash sv own
  require (tdInfo.mrowner.1 = hash) .policyHashMismatch

def verifyInitMigtdDataPolicyBinding (own : LocalSide) (init : TdInfo) :
    Except PolicyError Unit := do
  let policy ← orElse own.verifiedPolicy .invalidParameter
  let hash ← policyKeyHash sv own
  require (init.mrowner.1 = hash) .policyHashMismatch
  require (OwnerConfigPadded init.mrownerconfig) .invalidParameter
  require (ownerConfigSvn init.mrownerconfig ≤ policy.policyData.policySvn.toNat) .svnMismatch

def getTcbDateAndStatusFromSupplData (v : VerifiedReport) : Except PolicyError (Text × Text) := do
  let tcbStatus := v.tcbStatus.1.takeWhile (· ≠ 0)
  require (isUtf8 tcbStatus) .invalidParameter
  let tcbDate ← orElse (sv.unixToIso8601 (leValue v.tcbDate.1)) .invalidParameter
  return (tcbDate, tcbStatus)

def setupEvaluationData (fmspc : Bytes 6) (v : VerifiedReport) (policy : VerifiedPolicy)
    (collaterals : Collaterals) : Except PolicyError PolicyEvaluationInfo := do
  let (tcbDate, tcbStatus) ← getTcbDateAndStatusFromSupplData sv v
  let collateral ← getCollateralWithFmspc fmspc collaterals
  let tcbEvaluationNumber ←
    orElse (sv.json.tcbEvaluationDataNumber collateral.tcbInfo) .invalidCollateral
  let migtdSvn := policy.servtdTcbMapping.getEngineSvnByReport v
  let migtdTcb := migtdSvn.bind policy.servtdIdentity.getTcbLevelBySvn
  let pckCrlNum ← orElse (sv.getCrlNumber collaterals.pckCrl) .invalidCollateral
  let rootCaCrlNum ← orElse (sv.getCrlNumber collaterals.rootCaCrl) .invalidCollateral
  return {
    teeTcbSvn := none
    tcbDate := some tcbDate
    tcbStatus := some tcbStatus
    tcbEvaluationNumber := some tcbEvaluationNumber
    fmspc := some fmspc
    migtdIsvsvn := migtdSvn
    migtdTcbStatus := migtdTcb.map (·.tcbStatus)
    migtdTcbDate := migtdTcb.map (·.tcbDate)
    pckCrlNum := some pckCrlNum
    rootCaCrlNum := some rootCaCrlNum }

def setupEvaluationDataWithTdreport (r : TdxReport) (policy : VerifiedPolicy) :
    PolicyEvaluationInfo :=
  let migtdSvn := policy.servtdTcbMapping.getEngineSvnByMeasurements <|
    .newFromBytes r.tdInfo.mrtd.1 r.tdInfo.rtmr0.1 r.tdInfo.rtmr1.1 none none
  let migtdTcb := migtdSvn.bind policy.servtdIdentity.getTcbLevelBySvn
  { teeTcbSvn := some r.teeTcbSvn
    tcbDate := none
    tcbStatus := none
    tcbEvaluationNumber := none
    fmspc := none
    migtdIsvsvn := migtdSvn
    migtdTcbStatus := migtdTcb.map (·.tcbStatus)
    migtdTcbDate := migtdTcb.map (·.tcbDate)
    pckCrlNum := none
    rootCaCrlNum := none }

variable (own : LocalSide)

def getLocalTcbEvaluationInfo : Except PolicyError PolicyEvaluationInfo := do
  let policy ← orElse own.verifiedPolicy .invalidParameter
  let quote ← own.ownQuote.mapError fun
    | .reportGenerationFailed => .getTdxReport
    | .quoteGenerationFailed => .quoteGeneration
  let (fmspc, supplData) ← verifyQuote sv quote policy.policyData.collaterals
  setupEvaluationData sv fmspc supplData policy policy.policyData.collaterals

/-- The checks that bind the three chains of the peer to the own ones. -/
def validatePeerChains (localChain : Octets) (localPolicy peerPolicy : VerifiedPolicy) :
    Except PolicyError Unit := do
  (validatePeerCertChain sv.pki localChain peerPolicy.policyIssuerChain).mapError
    fun _ => .peerCertChainValidation
  (validatePeerCertChain sv.pki localPolicy.servtdIdentityIssuerChain
    peerPolicy.servtdIdentityIssuerChain).mapError fun _ => .peerCertChainValidation
  (validatePeerCertChain sv.pki localPolicy.servtdTcbMappingIssuerChain
    peerPolicy.servtdTcbMappingIssuerChain).mapError fun _ => .peerCertChainValidation

def verifyPolicyAndEventLog (eventLog migPolicy policyIssuerChain : Octets) (rtmrs : Rtmrs) :
    Auth VerifiedPolicy := do
  let unverifiedPolicy ← noPanic (orElse (sv.json.rawPolicyData migPolicy) .invalidPolicy)
  noPanic <| (verifyEventLog sv.sha384 sv.cc sv.features eventLog rtmrs).mapError
    fun _ => .invalidEventLog
  let verifiedPolicy ← noPanic (verify sv.pki sv.json unverifiedPolicy policyIssuerChain)
  let localPolicy ← noPanic (orElse own.verifiedPolicy .invalidParameter)
  let localChain ← noPanic (orElse own.policyIssuerChain .invalidParameter)
  noPanic (validatePeerChains sv localChain localPolicy verifiedPolicy)
  let events ← (parseEvents sv.cc eventLog).mapError (Stop.map fun _ => .invalidEventLog)
  noPanic (checkPolicyIntegrity sv.sha384 migPolicy events)
  return verifiedPolicy

structure Authenticated (evidence : Type) where
  evaluationData : PolicyEvaluationInfo
  verifiedPolicy : VerifiedPolicy
  evidence : evidence

def authenticateRemoteCommon (quote eventLog migPolicy policyIssuerChain : Octets) :
    Auth (Authenticated VerifiedReport) := do
  let policy ← noPanic (orElse own.verifiedPolicy .invalidParameter)
  let (fmspc, supplData) ← noPanic <|
    (verifyQuote sv quote policy.policyData.collaterals).mapError fun _ => .quoteVerification
  let verifiedPolicy ← verifyPolicyAndEventLog sv own eventLog migPolicy policyIssuerChain
    (getRtmrsFromSupplData supplData)
  let evaluationData ← noPanic <|
    setupEvaluationData sv fmspc supplData verifiedPolicy policy.policyData.collaterals
  return ⟨evaluationData, verifiedPolicy, supplData⟩

def authenticateRebindingCommon (tdreport eventLog migPolicy policyIssuerChain : Octets) :
    Auth (Authenticated TdxReport) := do
  let tdreportVerified ← noPanic (verifyTdreport sv tdreport)
  let verifiedPolicy ← verifyPolicyAndEventLog sv own eventLog migPolicy policyIssuerChain
    (getRtmrsFromTdreport tdreportVerified)
  return ⟨setupEvaluationDataWithTdreport tdreportVerified verifiedPolicy, verifiedPolicy,
    tdreportVerified⟩

def authenticateMigrationDest (quoteDst eventLogDst migPolicyDst policyIssuerChain : Octets) :
    Auth VerifiedReport := do
  let peer ← authenticateRemoteCommon sv own quoteDst eventLogDst migPolicyDst policyIssuerChain
  let relativeReference ← noPanic (getLocalTcbEvaluationInfo sv own)
  let policy ← noPanic (orElse own.verifiedPolicy .invalidParameter)
  noPanic (policy.policyData.evaluatePolicyCommon peer.evaluationData relativeReference false)
  noPanic (policy.policyData.evaluatePolicyForward peer.evaluationData relativeReference false)
  noPanic (peer.verifiedPolicy.policyData.evaluateAgainstPolicy policy.policyData)
  return peer.evidence

def authenticateMigrationSource (quoteSrc eventLogSrc migPolicySrc policyIssuerChain : Octets) :
    Auth VerifiedReport := do
  let peer ← authenticateRemoteCommon sv own quoteSrc eventLogSrc migPolicySrc policyIssuerChain
  let relativeReference ← noPanic (getLocalTcbEvaluationInfo sv own)
  let policy ← noPanic (orElse own.verifiedPolicy .invalidParameter)
  noPanic (policy.policyData.evaluatePolicyCommon peer.evaluationData relativeReference false)
  noPanic (policy.policyData.evaluatePolicyBackward peer.evaluationData relativeReference false)
  return peer.evidence

def decodePeer (peerData : Octets) : Auth (Octets × Octets) :=
  noPanic (orElse (decodePeerData peerData) .invalidParameter)

def authenticateRemote (isSrc : Bool) (quotePeer policyPeer eventLogPeer : Octets) :
    Auth VerifiedReport := do
  let (policy, issuerChain) ← decodePeer policyPeer
  if isSrc then authenticateMigrationDest sv own quotePeer eventLogPeer policy issuerChain
  else authenticateMigrationSource sv own quotePeer eventLogPeer policy issuerChain

def authenticateRebindingNew (tdreportDst eventLogDst migPolicyDst : Octets) :
    Auth TdxReport := do
  let (migPolicyDst, peerIssuerChain) ← decodePeer migPolicyDst
  let peer ← authenticateRebindingCommon sv own tdreportDst eventLogDst migPolicyDst peerIssuerChain
  let relativeReference ← noPanic (getLocalTcbEvaluationInfo sv own)
  let policy ← noPanic (orElse own.verifiedPolicy .invalidParameter)
  noPanic (policy.policyData.evaluatePolicyCommon peer.evaluationData relativeReference true)
  noPanic (policy.policyData.evaluatePolicyForward peer.evaluationData relativeReference true)
  noPanic (peer.verifiedPolicy.policyData.evaluateAgainstPolicy policy.policyData)
  return peer.evidence

/-- The common block of the policy is not evaluated here, only the backward block. -/
def authenticateRebindingOld (tdreportSrc eventLogSrc migPolicySrc initTdinfo
    servtdExtSrc : Octets) : Auth TdxReport := do
  let (migPolicySrc, peerIssuerChain) ← decodePeer migPolicySrc
  let peer ← authenticateRebindingCommon sv own tdreportSrc eventLogSrc migPolicySrc peerIssuerChain
  let policy ← noPanic (orElse own.verifiedPolicy .invalidParameter)
  noPanic (verifyPeerInitTdinfoAgainstOwner initTdinfo peer.evidence.tdInfo.mrowner
    peer.evidence.tdInfo.mrownerconfig)
  noPanic (verifyInitMeasurements sv.sha384 policy initTdinfo servtdExtSrc)
  let relativeReference ← noPanic (getLocalTcbEvaluationInfo sv own)
  noPanic (policy.policyData.evaluatePolicyBackward peer.evaluationData relativeReference true)
  return peer.evidence

def authenticateMigrationSourceWithInitTdinfo (quoteSrc peerData eventLogSrc initTdinfo
    servtdExtSrc : Octets) : Auth VerifiedReport := do
  let (migPolicySrc, peerIssuerChain) ← decodePeer peerData
  let peer ← authenticateRemoteCommon sv own quoteSrc eventLogSrc migPolicySrc peerIssuerChain
  let relativeReference ← noPanic (getLocalTcbEvaluationInfo sv own)
  let policy ← noPanic (orElse own.verifiedPolicy .invalidParameter)
  noPanic (policy.policyData.evaluatePolicyCommon peer.evaluationData relativeReference false)
  noPanic (policy.policyData.evaluatePolicyBackward peer.evaluationData relativeReference false)
  if sv.features = .production then
    noPanic (verifyPeerInitTdinfoAgainstSupplData initTdinfo peer.evidence)
    noPanic (verifyInitMeasurements sv.sha384 policy initTdinfo servtdExtSrc)
  return peer.evidence

end

end MigTd.Policy.MigPolicy
