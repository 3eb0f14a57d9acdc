/- source: mig_policy.rs, servtd_collateral.rs
   digest: What acceptance by the authenticators means for the policy blocks and the init TDINFO. -/

import MigTd.Policy.PeerPolicy

set_option autoImplicit false

namespace MigTd.Policy.Authenticators

open Attestation.Reports Lib.Ascii Lib.ByteCodec Lib.StateProgram Migration.Information
  Migration.ServtdRecord Collateral Evaluation MigPolicy PeerPolicy

section

variable {sv : Services} {own : LocalSide}

structure Evaluated (sv : Services) (own : LocalSide) (policy : VerifiedPolicy)
    (relative : PolicyEvaluationInfo) : Prop where
  policy : own.verifiedPolicy = some policy
  relative : getLocalTcbEvaluationInfo sv own = .ok relative

variable {r : VerifiedReport}

theorem authenticateMigrationDest_ok {q l p c : Octets}
    (h : authenticateMigrationDest sv own q l p c = .ok r) :
    ∃ peer policy relative, authenticateRemoteCommon sv own q l p c = .ok peer ∧
      Evaluated sv own policy relative ∧ peer.evidence = r ∧
      policy.policyData.evaluatePolicyCommon peer.evaluationData relative false = .ok () ∧
      policy.policyData.evaluatePolicyForward peer.evaluationData relative false = .ok () := by
  unfold authenticateMigrationDest at h
  simp only [except_bind_ok, noPanic_ok, orElse_ok, Unique.exists_iff, PUnit.default_eq_unit] at h
  obtain ⟨peer, hpeer, relative, hrelative, policy, hpolicy, hcommon, hforward, -, hr⟩ := h
  exact ⟨peer, policy, relative, hpeer, ⟨hpolicy, hrelative⟩, Except.ok.inj hr, hcommon, hforward⟩

theorem authenticateMigrationSource_ok {q l p c : Octets}
    (h : authenticateMigrationSource sv own q l p c = .ok r) :
    ∃ peer policy relative, authenticateRemoteCommon sv own q l p c = .ok peer ∧
      Evaluated sv own policy relative ∧ peer.evidence = r ∧
      policy.policyData.evaluatePolicyCommon peer.evaluationData relative false = .ok () ∧
      policy.policyData.evaluatePolicyBackward peer.evaluationData relative false = .ok () := by
  unfold authenticateMigrationSource at h
  simp only [except_bind_ok, noPanic_ok, orElse_ok, Unique.exists_iff, PUnit.default_eq_unit] at h
  obtain ⟨peer, hpeer, relative, hrelative, policy, hpolicy, hcommon, hbackward, hr⟩ := h
  exact ⟨peer, policy, relative, hpeer, ⟨hpolicy, hrelative⟩, Except.ok.inj hr, hcommon, hbackward⟩

theorem authenticateMigrationSourceWithInitTdinfo_ok {q d l i e : Octets}
    (h : authenticateMigrationSourceWithInitTdinfo sv own q d l i e = .ok r) :
    ∃ parts peer policy relative, decodePeer d = .ok parts ∧
      authenticateRemoteCommon sv own q l parts.1 parts.2 = .ok peer ∧
      Evaluated sv own policy relative ∧ peer.evidence = r ∧
      policy.policyData.evaluatePolicyCommon peer.evaluationData relative false = .ok () ∧
      policy.policyData.evaluatePolicyBackward peer.evaluationData relative false = .ok () ∧
      (sv.features = .production → verifyPeerInitTdinfoAgainstSupplData i r = .ok () ∧
          verifyInitMeasurements sv.sha384 policy i e = .ok ()) := by
  unfold authenticateMigrationSourceWithInitTdinfo at h
  simp only [except_bind_ok, noPanic_ok, orElse_ok, Unique.exists_iff, PUnit.default_eq_unit] at h
  obtain ⟨parts, hdecode, peer, hpeer, relative, hrelative, policy, hpolicy, hcommon, hbackward,
    hrest⟩ := h
  by_cases hprod : sv.features = .production
  · simp only [hprod, if_true, except_bind_ok, noPanic_ok, Unique.exists_iff,
      PUnit.default_eq_unit] at hrest
    obtain ⟨howner, hinit, hr⟩ := hrest
    obtain rfl := Except.ok.inj hr
    exact ⟨parts, peer, policy, relative, hdecode, hpeer, ⟨hpolicy, hrelative⟩, rfl, hcommon,
      hbackward, fun _ => ⟨howner, hinit⟩⟩
  · rw [if_neg hprod] at hrest
    exact ⟨parts, peer, policy, relative, hdecode, hpeer, ⟨hpolicy, hrelative⟩,
      Except.ok.inj hrest, hcommon, hbackward, fun h => absurd h hprod⟩

theorem authenticateRebindingNew_ok {t l d : Octets} {r : TdxReport}
    (h : authenticateRebindingNew sv own t l d = .ok r) :
    ∃ parts peer policy relative, decodePeer d = .ok parts ∧
      authenticateRebindingCommon sv own t l parts.1 parts.2 = .ok peer ∧
      Evaluated sv own policy relative ∧ peer.evidence = r ∧
      policy.policyData.evaluatePolicyCommon peer.evaluationData relative true = .ok () ∧
      policy.policyData.evaluatePolicyForward peer.evaluationData relative true = .ok () := by
  unfold authenticateRebindingNew at h
  simp only [except_bind_ok, noPanic_ok, orElse_ok, Unique.exists_iff, PUnit.default_eq_unit] at h
  obtain ⟨parts, hdecode, peer, hpeer, relative, hrelative, policy, hpolicy, hcommon, hforward, -,
    hr⟩ := h
  exact ⟨parts, peer, policy, relative, hdecode, hpeer, ⟨hpolicy, hrelative⟩, Except.ok.inj hr,
    hcommon, hforward⟩

theorem authenticateRebindingOld_ok {t l d i e : Octets} {r : TdxReport}
    (h : authenticateRebindingOld sv own t l d i e = .ok r) :
    ∃ parts peer policy relative, decodePeer d = .ok parts ∧
      authenticateRebindingCommon sv own t l parts.1 parts.2 = .ok peer ∧
      Evaluated sv own policy relative ∧ peer.evidence = r ∧
      policy.policyData.evaluatePolicyBackward peer.evaluationData relative true = .ok () ∧
      verifyPeerInitTdinfoAgainstOwner i r.tdInfo.mrowner r.tdInfo.mrownerconfig = .ok () ∧
      verifyInitMeasurements sv.sha384 policy i e = .ok () := by
  unfold authenticateRebindingOld at h
  simp only [except_bind_ok, noPanic_ok, orElse_ok, Unique.exists_iff, PUnit.default_eq_unit] at h
  obtain ⟨parts, hdecode, peer, hpeer, policy, hpolicy, howner, hinit, relative, hrelative,
    hbackward, hr⟩ := h
  obtain rfl := Except.ok.inj hr
  exact ⟨parts, peer, policy, relative, hdecode, hpeer, ⟨hpolicy, hrelative⟩, rfl, hbackward,
    howner, hinit⟩

end

inductive Attempt where
  | migrationDest (quote eventLog migPolicy issuerChain : Octets)
  | migrationSource (quote eventLog migPolicy issuerChain : Octets)
  | migrationSourceWithInitTdinfo (quote peerData eventLog initTdinfo servtdExt : Octets)
  | rebindingNew (tdreport eventLog peerData : Octets)
  | rebindingOld (tdreport eventLog peerData initTdinfo servtdExt : Octets)

namespace Attempt

def Accepted (sv : Services) (own : LocalSide) : Attempt → Prop
  | migrationDest q l p c => ∃ r, authenticateMigrationDest sv own q l p c = .ok r
  | migrationSource q l p c => ∃ r, authenticateMigrationSource sv own q l p c = .ok r
  | migrationSourceWithInitTdinfo q d l i e =>
    ∃ r, authenticateMigrationSourceWithInitTdinfo sv own q d l i e = .ok r
  | rebindingNew t l d => ∃ r, authenticateRebindingNew sv own t l d = .ok r
  | rebindingOld t l d i e => ∃ r, authenticateRebindingOld sv own t l d i e = .ok r

/-- The evaluation data that the evidence of the peer amounts to. -/
def evaluationData (sv : Services) (own : LocalSide) : Attempt → Auth PolicyEvaluationInfo
  | migrationDest q l p c | migrationSource q l p c =>
    (authenticateRemoteCommon sv own q l p c).map (·.evaluationData)
  | migrationSourceWithInitTdinfo q d l _ _ => do
    let (p, c) ← decodePeer d
    (authenticateRemoteCommon sv own q l p c).map (·.evaluationData)
  | rebindingNew t l d | rebindingOld t l d _ _ => do
    let (p, c) ← decodePeer d
    (authenticateRebindingCommon sv own t l p c).map (·.evaluationData)

def isRebinding : Attempt → Bool
  | rebindingNew .. | rebindingOld .. => true
  | _ => false

/-- The block for the direction: forward on the side that hands over, backward on the other. -/
def directionBlock (p : PolicyData) : Attempt → Option (List PolicyTypes)
  | migrationDest .. | rebindingNew .. => p.forwardPolicy
  | _ => p.backwardPolicy

end Attempt

/-- The data of the peer satisfies the common block and the block for the direction, in the
rebinding variants without their global entries. -/
def BlocksSatisfied (sv : Services) (own : LocalSide) (a : Attempt) : Prop :=
  ∃ policy value relative, own.verifiedPolicy = some policy ∧
    a.evaluationData sv own = .ok value ∧ getLocalTcbEvaluationInfo sv own = .ok relative ∧
    policy.policyData.evaluatePolicyCommon value relative a.isRebinding = .ok () ∧
    evaluateOptionalBlock (a.directionBlock policy.policyData) value relative a.isRebinding = .ok ()

/-- Where the old side of a rebinding is authenticated, each service-TD entry of the common block
stands in the backward block too. -/
def CommonCovered (own : LocalSide) : Attempt → Prop
  | .rebindingOld .. => ∀ policy, own.verifiedPolicy = some policy →
    ∀ s, .servtd s ∈ policy.policyData.policy.getD [] →
      .servtd s ∈ policy.policyData.backwardPolicy.getD []
  | _ => True

private theorem evaluateOptionalBlock_ok {block : Option (List PolicyTypes)}
    {value relative : PolicyEvaluationInfo} {skipGlobal : Bool} :
    evaluateOptionalBlock block value relative skipGlobal = .ok () ↔
      ∀ t ∈ block.getD [], t.evaluate skipGlobal value relative = .ok () := by
  cases block with
  | none => simp [evaluateOptionalBlock]
  | some entries => simp [evaluateOptionalBlock, evaluatePolicyBlock_ok]

theorem covered_ok {common backward : Option (List PolicyTypes)}
    {value relative : PolicyEvaluationInfo}
    (hcover : ∀ s, PolicyTypes.servtd s ∈ common.getD [] → PolicyTypes.servtd s ∈ backward.getD [])
    (hback : evaluateOptionalBlock backward value relative true = .ok ()) :
    evaluateOptionalBlock common value relative true = .ok () := by
  rw [evaluateOptionalBlock_ok] at hback ⊢
  intro t ht
  cases t with
  | global g => rfl
  | servtd s => exact hback _ (hcover s ht)

/-- Acceptance implies the common block and the block for the direction, as long as the old side
of a rebinding meets a backward block that covers the common one. -/
theorem blocks_satisfied (sv : Services) (own : LocalSide) (a : Attempt)
    (hacc : a.Accepted sv own) (hcover : CommonCovered own a) : BlocksSatisfied sv own a := by
  cases a with
  | migrationDest q l p c =>
    obtain ⟨r, h⟩ := hacc
    obtain ⟨peer, policy, relative, hpeer, heval, -, hcommon, hforward⟩ :=
      authenticateMigrationDest_ok h
    exact ⟨policy, peer.evaluationData, relative, heval.policy, map_ok.mpr ⟨peer, hpeer, rfl⟩,
      heval.relative, hcommon, hforward⟩
  | migrationSource q l p c =>
    obtain ⟨r, h⟩ := hacc
    obtain ⟨peer, policy, relative, hpeer, heval, -, hcommon, hbackward⟩ :=
      authenticateMigrationSource_ok h
    exact ⟨policy, peer.evaluationData, relative, heval.policy, map_ok.mpr ⟨peer, hpeer, rfl⟩,
      heval.relative, hcommon, hbackward⟩
  | migrationSourceWithInitTdinfo q d l i e =>
    obtain ⟨r, h⟩ := hacc
    obtain ⟨parts, peer, policy, relative, hdecode, hpeer, heval, -, hcommon, hbackward, -⟩ :=
      authenticateMigrationSourceWithInitTdinfo_ok h
    refine ⟨policy, peer.evaluationData, relative, heval.policy, ?_, heval.relative, hcommon,
      hbackward⟩
    exact except_bind_ok.mpr ⟨parts, hdecode, map_ok.mpr ⟨peer, hpeer, rfl⟩⟩
  | rebindingNew t l d =>
    obtain ⟨r, h⟩ := hacc
    obtain ⟨parts, peer, policy, relative, hdecode, hpeer, heval, -, hcommon, hforward⟩ :=
      authenticateRebindingNew_ok h
    refine ⟨policy, peer.evaluationData, relative, heval.policy, ?_, heval.relative, hcommon,
      hforward⟩
    exact except_bind_ok.mpr ⟨parts, hdecode, map_ok.mpr ⟨peer, hpeer, rfl⟩⟩
  | rebindingOld t l d i e =>
    obtain ⟨r, h⟩ := hacc
    obtain ⟨parts, peer, policy, relative, hdecode, hpeer, heval, -, hbackward, -, -⟩ :=
      authenticateRebindingOld_ok h
    refine ⟨policy, peer.evaluationData, relative, heval.policy, ?_, heval.relative, ?_, hbackward⟩
    · exact except_bind_ok.mpr ⟨parts, hdecode, map_ok.mpr ⟨peer, hpeer, rfl⟩⟩
    · exact covered_ok (hcover policy heval.policy) hbackward

/-! A peer to run the authenticators on: its registers are zero but for the policy register. -/

/-- TDINFO with this value in RTMR2 and a last byte that is not zero. -/
def sampleTdInfo (rtmr2 : Bytes 48) : Octets :=
  List.replicate 304 0 ++ rtmr2.1 ++ List.replicate 159 0 ++ [1]

def sampleTdreport (tcbInfoHash infoHash rtmr2 : Bytes 48) : Octets :=
  List.replicate 32 0 ++ tcbInfoHash.1 ++ infoHash.1 ++ List.replicate 384 0 ++ sampleTdInfo rtmr2

def sampleOutput (rtmr2 : Bytes 48) : Bytes 1024 :=
  ⟨List.replicate 424 0 ++ rtmr2.1 ++ List.replicate 552 0, by
    simp only [List.length_append, List.length_replicate, rtmr2.2]⟩

def samplePeerData : Octets := [1, 0, 0, 0, 7, 1, 0, 0, 0, 8]

/-- The old side of a rebinding, with an init TDINFO and a SERVTD_EXT that consist of zeroes. -/
def sampleRebindingOld : Attempt :=
  .rebindingOld (sampleTdreport (Bytes.zero 48) (sampleDigest (sampleTdInfo (sampleDigest [7])))
      (sampleDigest [7]))
    (sampleLog [policyEvent 3 (sampleDigest [7])]) samplePeerData (List.replicate 512 0)
    (List.replicate 272 0)

def servicesFor (svn : UInt32) : Services :=
  sampleServices (atLeastSvn svn) (sampleOutput (sampleDigest [7]))

/-- The common block, evaluated on the data of the peer. -/
def commonEvaluates (sv : Services) (own : LocalSide) (a : Attempt) (policy : VerifiedPolicy) :
    Bool :=
  match a.evaluationData sv own, getLocalTcbEvaluationInfo sv own with
  | .ok value, .ok relative =>
    (policy.policyData.evaluatePolicyCommon value relative a.isRebinding).isOk
  | _, _ => false

private theorem not_satisfied {sv : Services} {own : LocalSide} (a : Attempt)
    (policy : VerifiedPolicy) (hpolicy : own.verifiedPolicy = some policy)
    (hfail : commonEvaluates sv own a policy = false) : ¬BlocksSatisfied sv own a := by
  rintro ⟨policy', value, relative, hpolicy', hvalue, hrelative, hcommon, -⟩
  obtain rfl := Option.some.inj (hpolicy.symm.trans hpolicy')
  rw [commonEvaluates, hvalue, hrelative] at hfail
  simp only [hcommon] at hfail
  cases hfail

/-- The old side of a rebinding is accepted with security version one although the common block
asks for five. -/
theorem blocks_unsatisfied_old :
    sampleRebindingOld.Accepted (servicesFor 5) (sampleSide (atLeastSvn 5)) ∧
      ¬BlocksSatisfied (servicesFor 5) (sampleSide (atLeastSvn 5)) sampleRebindingOld := by
  have hfail : commonEvaluates (servicesFor 5) (sampleSide (atLeastSvn 5)) sampleRebindingOld
      (sampleVerified (atLeastSvn 5)) = false := by decide +kernel
  refine ⟨exists_ok_of_isOk (by decide +kernel), ?_⟩
  exact not_satisfied sampleRebindingOld (sampleVerified (atLeastSvn 5)) rfl hfail

/-- A migration destination is accepted and satisfies both blocks. -/
theorem blocks_satisfied_dest :
    let a := Attempt.migrationDest [] (sampleLog [policyEvent 3 (sampleDigest [7])]) [7] [8]
    a.Accepted (servicesFor 1) (sampleSide (atLeastSvn 1)) ∧
      BlocksSatisfied (servicesFor 1) (sampleSide (atLeastSvn 1)) a := by
  intro a
  have hacc : a.Accepted (servicesFor 1) (sampleSide (atLeastSvn 1)) :=
    exists_ok_of_isOk (by decide +kernel)
  exact ⟨hacc, blocks_satisfied (servicesFor 1) (sampleSide (atLeastSvn 1)) a hacc trivial⟩

/-- The measurements of the TDINFO stand in this entry, up to the case of its digits. -/
def MeasuredBy (mapping : SvnMapping) (t : TdInfo) : Prop :=
  toAsciiUppercase mapping.tdMeasurements.mrtd = bytesToHexString t.mrtd.1 ∧
    toAsciiUppercase mapping.tdMeasurements.rtmr0 = bytesToHexString t.rtmr0.1 ∧
    toAsciiUppercase mapping.tdMeasurements.rtmr1 = bytesToHexString t.rtmr1.1

def initAttribute (ext : ServtdExt) : UInt64 := UInt64.ofNat (leValue ext.initAttr.1)

/-- The init TDINFO is bound to the owner of the peer, to SERVTD_EXT and to the TCB mapping. -/
structure InitBound (sha384 : Octets → Octets) (policy : VerifiedPolicy) (init : TdInfo)
    (ext : ServtdExt) (peerMrowner peerMrownerconfig : Bytes 48) : Prop where
  owner : init.mrowner = peerMrowner
  initConfig : OwnerConfigPadded init.mrownerconfig
  peerConfig : OwnerConfigPadded peerMrownerconfig
  svn : ownerConfigSvn init.mrownerconfig ≤ ownerConfigSvn peerMrownerconfig
  hash : sha384 (maskTdInfo (initAttribute ext) init).1 = ext.initServtdInfoHash.1
  mapped : ∃ mapping ∈ policy.servtdTcbMapping.svnMappings,
    MeasuredBy mapping (maskTdInfo (initAttribute ext) init)

theorem compare_measuredBy {mapping : SvnMapping} {t : TdInfo}
    (h : compareMeasurements mapping.tdMeasurements
      (.newFromBytes t.mrtd.1 t.rtmr0.1 t.rtmr1.1 none none) = true) : MeasuredBy mapping t := by
  simp only [compareMeasurements, Measurements.toUppercase, Measurements.newFromBytes,
    toAsciiUppercase_hex, Bool.and_eq_true, beq_iff_eq] at h
  obtain ⟨⟨⟨⟨hmrtd, hrtmr0⟩, hrtmr1⟩, -⟩, -⟩ := h
  exact ⟨hmrtd, hrtmr0, hrtmr1⟩

theorem initBound_of_checks {sha384 : Octets → Octets} {policy : VerifiedPolicy}
    {initTdinfo servtdExt : Octets} {mrowner mrownerconfig : Bytes 48}
    (howner : verifyPeerInitTdinfoAgainstOwner initTdinfo mrowner mrownerconfig = .ok ())
    (hinit : verifyInitMeasurements sha384 policy initTdinfo servtdExt = .ok ()) :
    ∃ (init : TdInfo) (ext : ServtdExt), init.1 = initTdinfo ∧
      ServtdExt.readFromBytes servtdExt = some ext ∧
      InitBound sha384 policy init ext mrowner mrownerconfig := by
  unfold verifyPeerInitTdinfoAgainstOwner at howner
  split at howner
  · rename_i hlen
    simp only [except_bind_ok, require_ok, Unique.exists_iff] at howner
    obtain ⟨hsame, hpad, hpeerPad, hsvn⟩ := howner
    unfold verifyInitMeasurements verifyInitTdinfo verifyServtdInfoHash at hinit
    simp only [except_bind_ok, orElse_ok, mapError_ok, require_ok, Unique.exists_iff] at hinit
    obtain ⟨ext, hext, masked, ⟨⟨t, rest⟩, harray, digest, hdigest, hhash, hmasked⟩,
      svn, hmap, -⟩ :=
      hinit
    -- The array that is hashed is the whole init TDINFO.
    have hwhole : t = ⟨initTdinfo, hlen⟩ := by
      have hread := decodes_array (⟨initTdinfo, hlen⟩ : TdInfo) []
      rw [List.append_nil] at hread
      have := Option.some.inj (harray.symm.trans hread)
      exact (Prod.ext_iff.mp this).1
    subst hwhole
    obtain rfl := Except.ok.inj hmasked
    obtain ⟨mapping, hmem, -, hcompare⟩ := getEngineSvnByMeasurements_some hmap
    refine ⟨⟨initTdinfo, hlen⟩, ext, rfl, hext, hsame, hpad, hpeerPad, hsvn, ?_, mapping, hmem,
      compare_measuredBy hcompare⟩
    rw [← hhash, (digestSha384_ok hdigest).1]
    rfl
  · cases howner

/-- An authenticator that checks an init TDINFO has accepted it, with this owner of the peer. -/
inductive AcceptsInit (sv : Services) (own : LocalSide) (initTdinfo servtdExt : Octets) :
    Bytes 48 → Bytes 48 → Prop
  | rebindingOld (tdreport eventLog peerData : Octets) (r : TdxReport)
      (h : authenticateRebindingOld sv own tdreport eventLog peerData initTdinfo servtdExt =
        .ok r) : AcceptsInit sv own initTdinfo servtdExt r.tdInfo.mrowner r.tdInfo.mrownerconfig
  | migrationSource (quote peerData eventLog : Octets) (r : VerifiedReport)
      (h : authenticateMigrationSourceWithInitTdinfo sv own quote peerData eventLog initTdinfo
        servtdExt = .ok r) : AcceptsInit sv own initTdinfo servtdExt r.mrowner r.mrownerconfig

theorem initBound_of_accepts {sv : Services} {own : LocalSide}
    {initTdinfo servtdExt : Octets} {mrowner mrownerconfig : Bytes 48}
    (hfeatures : sv.features = .production)
    (h : AcceptsInit sv own initTdinfo servtdExt mrowner mrownerconfig) :
    ∃ policy init ext, own.verifiedPolicy = some policy ∧ init.1 = initTdinfo ∧
      ServtdExt.readFromBytes servtdExt = some ext ∧
      InitBound sv.sha384 policy init ext mrowner mrownerconfig := by
  cases h with
  | rebindingOld t l d r h =>
    obtain ⟨_, _, policy, relative, -, -, heval, -, -, howner, hinit⟩ :=
      authenticateRebindingOld_ok h
    obtain ⟨init, ext, hbytes, hext, hbound⟩ := initBound_of_checks howner hinit
    exact ⟨policy, init, ext, heval.policy, hbytes, hext, hbound⟩
  | migrationSource q d l r h =>
    obtain ⟨_, _, policy, relative, -, -, heval, -, -, -, hchecks⟩ :=
      authenticateMigrationSourceWithInitTdinfo_ok h
    obtain ⟨howner, hinit⟩ := hchecks hfeatures
    obtain ⟨init, ext, hbytes, hext, hbound⟩ := initBound_of_checks howner hinit
    exact ⟨policy, init, ext, heval.policy, hbytes, hext, hbound⟩

theorem maskTdInfo_of_noIgnore {attr : UInt64} {t : TdInfo}
    (h : ∀ f ∈ ignorableFields, f.ignoredBy attr = false) : maskTdInfo attr t = t := by
  unfold maskTdInfo
  revert h
  induction ignorableFields with
  | nil => exact fun _ => rfl
  | cons f fields ih =>
    intro h
    rw [List.foldl_cons, h f List.mem_cons_self]
    exact ih fun g hg => h g (List.mem_cons_of_mem f hg)

/-- In the production build an accepted init TDINFO is bound to the owner of the peer, to
SERVTD_EXT and to the TCB mapping. With an injective hash and no ignore bit, SERVTD_EXT
determines it. -/
theorem init_tdinfo_bound : (∀ (sv : Services) (own : LocalSide) (initTdinfo servtdExt : Octets)
      (mrowner mrownerconfig : Bytes 48), sv.features = .production →
      AcceptsInit sv own initTdinfo servtdExt mrowner mrownerconfig →
      ∃ policy init ext, own.verifiedPolicy = some policy ∧ init.1 = initTdinfo ∧
        ServtdExt.readFromBytes servtdExt = some ext ∧
        InitBound sv.sha384 policy init ext mrowner mrownerconfig) ∧
    ∀ (sv sv' : Services) (own own' : LocalSide) (initTdinfo initTdinfo' servtdExt : Octets)
      (mrowner mrownerconfig mrowner' mrownerconfig' : Bytes 48) (ext : ServtdExt),
      sv.features = .production → sv'.features = .production → sv'.sha384 = sv.sha384 →
      Function.Injective sv.sha384 → ServtdExt.readFromBytes servtdExt = some ext →
      (∀ f ∈ ignorableFields, f.ignoredBy (initAttribute ext) = false) →
      AcceptsInit sv own initTdinfo servtdExt mrowner mrownerconfig →
      AcceptsInit sv' own' initTdinfo' servtdExt mrowner' mrownerconfig' →
      initTdinfo = initTdinfo' := by
  refine ⟨fun _ _ _ _ _ _ hfeatures h => initBound_of_accepts hfeatures h, ?_⟩
  intro sv sv' own own' initTdinfo initTdinfo' servtdExt mrowner mrownerconfig mrowner'
    mrownerconfig' ext hfeatures hfeatures' hsha hinj hext hno h h'
  obtain ⟨_, init, e, _, rfl, he, hbound⟩ := initBound_of_accepts hfeatures h
  obtain ⟨_, init', e', _, rfl, he', hbound'⟩ := initBound_of_accepts hfeatures' h'
  obtain rfl := Option.some.inj (hext.symm.trans he)
  obtain rfl := Option.some.inj (hext.symm.trans he')
  have hhash := hbound.hash
  have hhash' := hbound'.hash
  rw [maskTdInfo_of_noIgnore hno] at hhash hhash'
  rw [hsha] at hhash'
  exact hinj (hhash.trans hhash'.symm)

/-- A digest that is told apart by its first byte. -/
def markedDigest (mark : UInt8) : Bytes 48 := ⟨mark :: List.replicate 47 0, rfl⟩

/-- An injective hash that exchanges the data of the sample with digests of the right size. -/
def exchangingHash (data : Octets) : Octets :=
  Equiv.swap [7] (markedDigest 1).1 <|
    Equiv.swap ((Bytes.zero 48).1 ++ (markedDigest 1).1) (markedDigest 2).1 <|
    Equiv.swap (sampleTdInfo (markedDigest 2)) (markedDigest 3).1 <|
    Equiv.swap (List.replicate 239 0) (markedDigest 4).1 <|
    Equiv.swap (List.replicate 512 0) (markedDigest 5).1 data

theorem exchangingHash_injective : Function.Injective exchangingHash := by
  unfold exchangingHash
  exact (Equiv.injective _).comp <| (Equiv.injective _).comp <| (Equiv.injective _).comp <|
    (Equiv.injective _).comp (Equiv.injective _)

def exchangingServices : Services :=
  { sampleServices (atLeastSvn 1) (sampleOutput (markedDigest 2)) with sha384 := exchangingHash }

def exchangingExt : Octets := (markedDigest 5).1 ++ List.replicate 224 0

/-- The init TDINFO of zeroes is accepted for its SERVTD_EXT with a TDREPORT and with a quote, and no
other one ever is. -/
theorem init_tdinfo_bound_zero :
    ∃ r, authenticateRebindingOld exchangingServices (sampleSide (atLeastSvn 1))
        (sampleTdreport (markedDigest 4) (markedDigest 3) (markedDigest 2))
        (sampleLog [policyEvent 3 (markedDigest 1)]) samplePeerData (List.replicate 512 0)
        exchangingExt = .ok r ∧
      (∃ policy init ext, (sampleSide (atLeastSvn 1)).verifiedPolicy = some policy ∧
        init.1 = List.replicate 512 0 ∧ ServtdExt.readFromBytes exchangingExt = some ext ∧
        InitBound exchangingHash policy init ext r.tdInfo.mrowner r.tdInfo.mrownerconfig) ∧
      (authenticateMigrationSourceWithInitTdinfo exchangingServices (sampleSide (atLeastSvn 1)) []
        samplePeerData (sampleLog [policyEvent 3 (markedDigest 1)]) (List.replicate 512 0)
        exchangingExt).isOk = true ∧
      ∀ own initTdinfo mrowner mrownerconfig, AcceptsInit exchangingServices own initTdinfo
        exchangingExt mrowner mrownerconfig → initTdinfo = List.replicate 512 0 := by
  obtain ⟨r, hr⟩ : ∃ r, authenticateRebindingOld exchangingServices (sampleSide (atLeastSvn 1))
      (sampleTdreport (markedDigest 4) (markedDigest 3) (markedDigest 2))
      (sampleLog [policyEvent 3 (markedDigest 1)]) samplePeerData (List.replicate 512 0)
      exchangingExt = .ok r := exists_ok_of_isOk (by decide +kernel)
  have hacc := AcceptsInit.rebindingOld _ _ _ r hr
  obtain ⟨ext, hext⟩ : ∃ ext, ServtdExt.readFromBytes exchangingExt = some ext :=
    Option.isSome_iff_exists.mp (by decide +kernel)
  have hattr : ((ServtdExt.readFromBytes exchangingExt).all fun e =>
      ignorableFields.all fun f => !f.ignoredBy (initAttribute e)) = true := by decide +kernel
  have hno : ∀ f ∈ ignorableFields, f.ignoredBy (initAttribute ext) = false := by
    rw [hext] at hattr
    intro f hf
    simpa using List.all_eq_true.mp hattr f hf
  refine ⟨r, hr, init_tdinfo_bound.1 exchangingServices _ _ _ _ _ rfl hacc, by decide +kernel, ?_⟩
  intro own initTdinfo mrowner mrownerconfig h
  exact init_tdinfo_bound.2 exchangingServices exchangingServices _ _ _ _ exchangingExt _ _ _ _ ext
    rfl rfl rfl exchangingHash_injective hext hno h hacc

private theorem ownerConfig_svn {svn : UInt32} {config : Bytes 48}
    (h : config.1 = leBytes 4 svn.toNat ++ List.replicate 44 0) :
    OwnerConfigPadded config ∧ ownerConfigSvn config = svn.toNat := by
  have hsvn := leValue_leBytes 4 _ svn.toNat_lt
  simp [OwnerConfigPadded, ownerConfigSvn, h, hsvn]

/-- A MigTD that has passed its check at the start gives the same answer about init data as a peer
that holds them against its report, and passes for init data itself. -/
theorem init_data_answered_alike (sv : Services) (own : LocalSide) (tdInfo init : TdInfo) :
    (verifyOwnTdinfo sv own (some tdInfo) >>= fun _ =>
      verifyInitMigtdDataPolicyBinding sv own init) =
      (verifyOwnTdinfo sv own (some tdInfo) >>= fun _ =>
        verifyPeerInitTdinfoAgainstOwner init.1 tdInfo.mrowner tdInfo.mrownerconfig) ∧
    (verifyOwnTdinfo sv own (some tdInfo) >>= fun _ =>
      verifyPeerInitTdinfoAgainstOwner tdInfo.1 tdInfo.mrowner tdInfo.mrownerconfig) =
      verifyOwnTdinfo sv own (some tdInfo) := by
  cases h : verifyOwnTdinfo sv own (some tdInfo) with
  | error e => exact ⟨rfl, rfl⟩
  | ok _ =>
    unfold verifyOwnTdinfo at h
    simp only [except_bind_ok, orElse_ok, require_ok, Option.some.injEq, exists_eq_left',
      Unique.exists_iff] at h
    obtain ⟨policy, hpolicy, hconfig, _, hhash, rfl⟩ := h
    obtain ⟨hpadded, hsvn⟩ := ownerConfig_svn hconfig
    have hown : require (OwnerConfigPadded tdInfo.mrownerconfig) PolicyError.invalidParameter =
        .ok () := require_ok.mpr hpadded
    have peer (t : TdInfo) : verifyPeerInitTdinfoAgainstOwner t.1 tdInfo.mrowner
        tdInfo.mrownerconfig = (do
      require (t.mrowner.1 = tdInfo.mrowner.1) .policyHashMismatch
      require (OwnerConfigPadded t.mrownerconfig) .invalidParameter
      require (ownerConfigSvn t.mrownerconfig ≤ policy.policyData.policySvn.toNat)
        .svnMismatch) := by
      unfold verifyPeerInitTdinfoAgainstOwner
      rw [dif_pos (show t.1.length = TD_INFO_SIZE from t.2), hown, hsvn]
      simp only [← Subtype.ext_iff]
      rfl
    refine ⟨?_, (peer tdInfo).trans (except_bind_ok.mpr ⟨(), require_ok.mpr rfl,
      except_bind_ok.mpr ⟨(), hown, require_ok.mpr hsvn.le⟩⟩)⟩
    unfold verifyInitMigtdDataPolicyBinding
    rw [hpolicy, hhash]
    exact (peer init).symm

end MigTd.Policy.Authenticators
