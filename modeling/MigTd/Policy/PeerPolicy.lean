/- source: mig_policy.rs, migtd/src/event_log.rs, v2/policy.rs
   digest: What the acceptance of a peer policy establishes: its signatures and its measurement. -/

import MigTd.Policy.MigPolicy

set_option autoImplicit false

namespace MigTd.Policy.PeerPolicy

open Crypto.Certificates Lib.Ascii Lib.ByteCodec Lib.StateProgram Measurement.EventLog Collateral
  Evaluation MigPolicy

structure Checked (sv : Services) (own : LocalSide) (eventLog migPolicy issuerChain : Octets)
    (rtmrs : Rtmrs) (v : VerifiedPolicy) : Prop where
  log : verifyEventLog sv.sha384 sv.cc sv.features eventLog rtmrs = .ok ()
  signatures : ∃ raw, sv.json.rawPolicyData migPolicy = some raw ∧
    verify sv.pki sv.json raw issuerChain = .ok v
  chains : ∃ localPolicy localChain, own.verifiedPolicy = some localPolicy ∧
    own.policyIssuerChain = some localChain ∧
    validatePeerChains sv localChain localPolicy v = .ok ()
  measured : ∃ events, parseEvents sv.cc eventLog = .ok events ∧
    checkPolicyIntegrity sv.sha384 migPolicy events = .ok ()

variable {sv : Services} {rtmrs : Rtmrs} {eventLog migPolicy issuerChain : Octets} {own : LocalSide}

theorem verifyPolicyAndEventLog_ok {v : VerifiedPolicy}
    (h : verifyPolicyAndEventLog sv own eventLog migPolicy issuerChain rtmrs = .ok v) :
    Checked sv own eventLog migPolicy issuerChain rtmrs v := by
  unfold verifyPolicyAndEventLog at h
  simp only [except_bind_ok, noPanic_ok, orElse_ok, mapError_ok, Unique.exists_iff,
    PUnit.default_eq_unit] at h
  obtain ⟨raw, hraw, hlog, v', hverify, localPolicy, hpolicy, localChain, hchain, hpeer, events,
    hevents, hintegrity, hv⟩ := h
  cases hv
  exact ⟨hlog, ⟨raw, hraw, hverify⟩, ⟨localPolicy, localChain, hpolicy, hchain, hpeer⟩,
    ⟨events, hevents, hintegrity⟩⟩

/-! Trust: each document of the peer is signed under a chain that the own one vouches for. -/

/-- The document is signed by the leaf of a chain that was validated against the own chain. -/
def TrustedUnder (pki : Pki) (localPem peerPem : Octets) (s : Signed) : Prop :=
  ∃ localChain peerChain, extractCertChainFromPem pki localPem = .ok localChain ∧
    extractCertChainFromPem pki peerPem = .ok peerChain ∧ SignedUnder pki s peerChain ∧
    Validated pki localChain peerChain

theorem trustedUnder {α : Type} {pki : Pki} {localPem peerPem : Octets} {s : Signed}
    {parse : Text → Option α} {e : PolicyError} {a : α}
    (hsigned : verifySigned pki parse e s peerPem = .ok a)
    (hvalid : validatePeerCertChain pki localPem peerPem = .ok ()) :
    parse s.raw = some a ∧ TrustedUnder pki localPem peerPem s := by
  obtain ⟨hparse, chain, hchain, hunder⟩ := verifySigned_ok.mp hsigned
  obtain ⟨localChain, peerChain, hlocal, hpeer, hval⟩ := validatePeerCertChain_ok.mp hvalid
  -- Both checks extract the same chain from the same text.
  rw [hchain] at hpeer
  cases hpeer
  exact ⟨hparse, localChain, chain, hlocal, hchain, hunder, hval⟩

/-- The documents behind a verified peer policy, each trusted under its own chain. -/
structure PolicyTrusted (sv : Services) (own : LocalSide) (migPolicy issuerChain : Octets)
    (v : VerifiedPolicy) : Prop where
  trusted : ∃ raw localPolicy localChain, sv.json.rawPolicyData migPolicy = some raw ∧
    sv.json.policyData raw.raw = some v.policyData ∧
    sv.json.tdIdentity v.policyData.servtdCollateral.servtdIdentity.raw = some v.servtdIdentity ∧
    sv.json.tdTcbMapping v.policyData.servtdCollateral.servtdTcbMapping.raw =
      some v.servtdTcbMapping ∧
    own.verifiedPolicy = some localPolicy ∧ own.policyIssuerChain = some localChain ∧
    TrustedUnder sv.pki localChain issuerChain raw ∧
    TrustedUnder sv.pki localPolicy.servtdIdentityIssuerChain v.servtdIdentityIssuerChain
      v.policyData.servtdCollateral.servtdIdentity ∧
    TrustedUnder sv.pki localPolicy.servtdTcbMappingIssuerChain v.servtdTcbMappingIssuerChain
      v.policyData.servtdCollateral.servtdTcbMapping

/-- An accepted peer policy, its service-TD identity and its TCB mapping are each signed under a
chain whose links verify, whose issuers are CAs and which shares its root and the subject of its
leaf with the own chain. The validation of chains is transitive. -/
theorem peer_policy_trusted :
    (∀ (sv : Services) (own : LocalSide) (eventLog migPolicy issuerChain : Octets)
      (rtmrs : Rtmrs) (v : VerifiedPolicy),
      verifyPolicyAndEventLog sv own eventLog migPolicy issuerChain rtmrs = .ok v →
        PolicyTrusted sv own migPolicy issuerChain v) ∧
    ∀ (pki : Pki) (a b c : Octets), validatePeerCertChain pki a b = .ok () →
      validatePeerCertChain pki b c = .ok () → validatePeerCertChain pki a c = .ok () := by
  refine ⟨?_, fun pki a b c => validatePeerCertChain_trans⟩
  intro sv own eventLog migPolicy issuerChain rtmrs v h
  have hc := verifyPolicyAndEventLog_ok h
  obtain ⟨raw, hraw, hverify⟩ := hc.signatures
  obtain ⟨localPolicy, localChain, hpolicy, hchain, hpeer⟩ := hc.chains
  obtain ⟨hpem, hdata, hidentity, hmapping⟩ := verify_ok hverify
  unfold validatePeerChains at hpeer
  simp only [except_bind_ok, mapError_ok, Unique.exists_iff, PUnit.default_eq_unit] at hpeer
  obtain ⟨hvalid, hvalidIdentity, hvalidMapping⟩ := hpeer
  rw [hpem] at hvalid
  obtain ⟨hparse, htrust⟩ := trustedUnder hdata hvalid
  obtain ⟨hparseIdentity, htrustIdentity⟩ := trustedUnder hidentity hvalidIdentity
  obtain ⟨hparseMapping, htrustMapping⟩ := trustedUnder hmapping hvalidMapping
  exact ⟨raw, localPolicy, localChain, hraw, hparse, hparseIdentity, hparseMapping, hpolicy,
    hchain, htrust, htrustIdentity, htrustMapping⟩

/-! Measurement: where the digest of the policy stands in the log. -/

def policyRegister : Fin 4 := 2

/-- The policy stands in the log under its own register, folded into the reported value, and no
event with the policy tag stands elsewhere or for other data. -/
structure PolicyMeasured (sv : Services) (migPolicy : Octets) (rtmrs : Rtmrs)
    (events : List Event) : Prop where
  recorded : ∃ e ∈ events, e.1.mrIndex = MR_INDEX_POLICY ∧
    e.1.sha384.1 = sv.sha384 migPolicy ∧ e.1.sha384 ∈ registerDigests events policyRegister
  folded : (rtmrs policyRegister).1 =
    hashChain sv.sha384 (Bytes.zero 48).1 (registerDigests events policyRegister)
  unambiguous : ∀ e ∈ events, IsTagged .migTdPolicy e →
    e.1.mrIndex = MR_INDEX_POLICY ∧ e.1.sha384.1 = sv.sha384 migPolicy

/-- All events with the policy tag stand under the register of the policy with one digest. -/
def OnePolicyEvent (events : List Event) : Prop :=
  (∀ e ∈ events, IsTagged .migTdPolicy e → e.1.mrIndex = MR_INDEX_POLICY) ∧
    ∀ e ∈ events, IsTagged .migTdPolicy e → ∀ e' ∈ events, IsTagged .migTdPolicy e' →
      e.1.sha384 = e'.1.sha384
  deriving Decidable

variable {events : List Event}

theorem mem_registerDigests {e : Event} (he : e ∈ events)
    (hmr : e.1.mrIndex = MR_INDEX_POLICY) : e.1.sha384 ∈ registerDigests events policyRegister := by
  refine List.mem_map.mpr ⟨e, List.mem_filter.mpr ⟨he, ?_⟩, rfl⟩
  rw [hmr]
  decide

theorem tagged_of_checked {v : VerifiedPolicy}
    (hc : Checked sv own eventLog migPolicy issuerChain rtmrs v)
    (hevents : eventsOf sv.cc eventLog = some events) :
    ∃ e ∈ events, IsTagged .migTdPolicy e ∧ e.1.sha384.1 = sv.sha384 migPolicy := by
  obtain ⟨map, hmap, hintegrity⟩ := hc.measured
  obtain ⟨event, hevent, hdigest⟩ := checkPolicyIntegrity_ok hintegrity
  have hbyTag : EventName.byTag .migTdPolicy = true := rfl
  obtain ⟨events', hevents', hlast⟩ := parseEvents_tagged hbyTag hmap
  rw [hevents] at hevents'
  cases hevents'
  rw [hevent] at hlast
  obtain ⟨e, he, rfl⟩ := Option.map_eq_some_iff.mp hlast.symm
  obtain ⟨hmem, htag⟩ := List.mem_filter.mp (List.mem_of_getLast? he)
  exact ⟨e, hmem, by simpa using htag, hdigest⟩

theorem PolicyMeasured.onePolicyEvent {migPolicy : Octets}
    (hm : PolicyMeasured sv migPolicy rtmrs events) :
    OnePolicyEvent events := by
  refine ⟨fun a ha hta => (hm.unambiguous a ha hta).1, ?_⟩
  intro a ha hta b hb htb
  exact Subtype.ext ((hm.unambiguous a ha hta).2.trans (hm.unambiguous b hb htb).2.symm)

/-- In the production build an accepted policy is the measured one exactly when all events with
the policy tag stand under the register of the policy and carry one digest. -/
theorem policy_measured_iff (sv : Services) (own : LocalSide)
    (eventLog migPolicy issuerChain : Octets) (rtmrs : Rtmrs) (v : VerifiedPolicy)
    (hfeatures : sv.features = .production)
    (h : verifyPolicyAndEventLog sv own eventLog migPolicy issuerChain rtmrs = .ok v) :
    ∃ events, eventsOf sv.cc eventLog = some events ∧
      (PolicyMeasured sv migPolicy rtmrs events ↔ OnePolicyEvent events) := by
  have hc := verifyPolicyAndEventLog_ok h
  have hlog := hc.log
  rw [hfeatures] at hlog
  obtain ⟨events, hevents, hfold⟩ := verifyEventLog_ok hlog
  obtain ⟨e, he, htag, hdigest⟩ := tagged_of_checked hc hevents
  refine ⟨events, hevents, PolicyMeasured.onePolicyEvent, ?_⟩
  rintro ⟨hregister, hsame⟩
  have hmr := hregister e he htag
  refine ⟨⟨e, he, hmr, hdigest, mem_registerDigests he hmr⟩, hfold policyRegister, ?_⟩
  intro a ha hta
  refine ⟨hregister a ha hta, ?_⟩
  rw [hsame a ha hta e he htag, hdigest]

def sampleCertificate (key : Octets) (extensions : Option (List Extension)) : Certificate where
  tbsCertificate := ⟨[], [], ⟨⟨[], none⟩, ⟨0, key⟩⟩, extensions⟩
  signatureAlgorithm := ⟨ECDSA_WITH_SHA384, none⟩
  signatureValue := ⟨0, [2]⟩

/-- Every chain has a leaf and the CA `[0]`, whose key `[1]` makes the signature `[2]`. -/
def samplePki : Pki where
  pemSliceIter pem := [some pem, some [0]]
  certificateFromDer der := some (if der = [0] then
    sampleCertificate [1] (some [⟨BASIC_CONSTRAINTS_OID, none, some []⟩])
    else sampleCertificate der none)
  tbsToDer _ := some []
  extendedKeyUsageFromDer _ := some []
  basicConstraintsFromDer _ := some ⟨some true, none⟩
  ecdsaP384Sha384 key _ signature := signature = if key = [1] then [2] else [0]

def sampleCollaterals : Collaterals where
  majorVersion := 1
  minorVersion := 0
  teeType := 0x81
  rootCa := []
  pckCrlIssuerChain := []
  rootCaCrl := []
  pckCrl := []
  platforms := [⟨bytesToHexString (Bytes.zero 6).1, [], []⟩]
  qeIdentityIssuerChain := []
  qeIdentity := []

/-- One service-TD entry that asks for a minimal security version. -/
def atLeastSvn (svn : UInt32) : List PolicyTypes :=
  [.servtd ⟨⟨some ⟨ascii "greater-or-equal", .integer svn⟩, none, none⟩⟩]

def samplePolicyData (common : List PolicyTypes) : PolicyData where
  id := ascii "sample"
  version := ascii "2.0"
  policySvn := 1
  policy := some common
  forwardPolicy := none
  backwardPolicy := none
  collaterals := sampleCollaterals
  servtdCollateral := ⟨[11], ⟨[], ascii "00"⟩, [10], ⟨[], ascii "00"⟩⟩

def sampleIdentity : TdIdentity := ⟨[⟨1, ascii "2025-01-01T00:00:00Z", ascii "UpToDate"⟩]⟩

/-- The measurements of a TD whose registers are zero have security version one. -/
def sampleMapping : TdTcbMapping where
  svnMappings :=
    [⟨.newFromBytes (Bytes.zero 48).1 (Bytes.zero 48).1 (Bytes.zero 48).1 none none, 1⟩]

def sampleJson (common : List PolicyTypes) : Json where
  rawPolicyData _ := some ⟨[], ascii "00"⟩
  policyData _ := some (samplePolicyData common)
  tdIdentity _ := some sampleIdentity
  tdTcbMapping _ := some sampleMapping
  tcbEvaluationDataNumber _ := some 1

def sampleCc : CcMeasurement :=
  packed (ascii "td_payload") (ascii "secure_authority") (ascii "td_payload_svn")

def sampleVerified (common : List PolicyTypes) : VerifiedPolicy where
  policyData := samplePolicyData common
  servtdIdentity := sampleIdentity
  servtdIdentityIssuerChain := [11]
  servtdTcbMapping := sampleMapping
  servtdTcbMappingIssuerChain := [10]
  policyIssuerChain := [8]

def sampleSide (common : List PolicyTypes) : LocalSide where
  verifiedPolicy := some (sampleVerified common)
  policyIssuerChain := some [8]
  ownQuote := .ok []

def sampleServices (common : List PolicyTypes) (output : Bytes 1024) : Services where
  features := .production
  pki := samplePki
  attest := ⟨some [], fun _ _ => ⟨0, output, 822⟩, fun _ _ _ => ⟨0, output, 822⟩⟩
  json := sampleJson common
  cc := sampleCc
  sha384 := lastBytes
  getFmspcFromQuote _ := some (Bytes.zero 6)
  getCrlNumber _ := some 1
  unixToIso8601 _ := some (ascii "2025-01-01T00:00:00Z")
  tdcallVerifyReport _ := true

def sampleDigest (data : Octets) : Bytes 48 :=
  ⟨lastBytes data, lastBytes_length data⟩

def policyEvent (mrIndex : UInt32) (digest : Bytes 48) : Octets :=
  (⟨mrIndex, EV_EVENT_TAG, 1, TPML_ALG_SHA384, digest, 8⟩ : CcEventHeader).asBytes ++
    [1, 0, 0, 0, 0, 0, 0, 0]

def sampleLog (events : List Octets) : Octets :=
  List.replicate 32 0 ++ events.flatten ++ [0]

def sampleRtmrs (i : Fin 4) (policy : Octets) : Rtmrs :=
  Function.update (fun _ => Bytes.zero 48) i (sampleDigest policy)

theorem not_measured {log migPolicy : Octets}
    (h : (eventsOf sv.cc log).all (fun events => ¬OnePolicyEvent events) = true)
    (events : List Event) (he : eventsOf sv.cc log = some events) :
    ¬PolicyMeasured sv migPolicy rtmrs events := by
  rw [he] at h
  intro hm
  have hno : ¬OnePolicyEvent events := by simpa using h
  exact hno hm.onePolicyEvent

/-- A policy whose only event stands under another register is accepted, and so is one behind an
event with the same tag for other data. -/
theorem policy_measured_elsewhere :
    let sv := sampleServices [] (Bytes.zero 1024)
    let elsewhere := sampleLog [policyEvent 4 (sampleDigest [7])]
    let twice := sampleLog [policyEvent 3 (sampleDigest [6]), policyEvent 3 (sampleDigest [7])]
    ((verifyPolicyAndEventLog sv (sampleSide []) elsewhere [7] [8]
      (sampleRtmrs 3 [7])).isOk = true ∧
      ∀ events, eventsOf sv.cc elsewhere = some events →
        ¬PolicyMeasured sv [7] (sampleRtmrs 3 [7]) events) ∧
    ((verifyPolicyAndEventLog sv (sampleSide []) twice [7] [8] (sampleRtmrs 2 [7])).isOk = true ∧
      ∀ events, eventsOf sv.cc twice = some events →
        ¬PolicyMeasured sv [7] (sampleRtmrs 2 [7]) events) := by
  intro sv elsewhere twice
  refine ⟨⟨by decide +kernel, ?_⟩, ⟨by decide +kernel, ?_⟩⟩
  · exact not_measured (by decide +kernel)
  · exact not_measured (by decide +kernel)

/-- The honest log is accepted, and its policy is the measured one. -/
theorem policy_measured_iff_honest :
    let sv := sampleServices [] (Bytes.zero 1024)
    let log := sampleLog [policyEvent 3 (sampleDigest [7])]
    sv.features = .production ∧ ∃ v,
      verifyPolicyAndEventLog sv (sampleSide []) log [7] [8] (sampleRtmrs 2 [7]) = .ok v ∧
      ∃ events, eventsOf sv.cc log = some events ∧
        (PolicyMeasured sv [7] (sampleRtmrs 2 [7]) events ↔ OnePolicyEvent events) := by
  intro sv log
  obtain ⟨v, hv⟩ : ∃ v, verifyPolicyAndEventLog sv (sampleSide []) log [7] [8]
      (sampleRtmrs 2 [7]) = .ok v := exists_ok_of_isOk (by decide +kernel)
  exact ⟨rfl, v, hv,
    policy_measured_iff sv (sampleSide []) log [7] [8] (sampleRtmrs 2 [7]) v rfl hv⟩

/-- The same run, with the trust behind its policy and a chain of three validations. -/
theorem peer_policy_trusted_honest :
    let sv := sampleServices [] (Bytes.zero 1024)
    let log := sampleLog [policyEvent 3 (sampleDigest [7])]
    (∃ v, verifyPolicyAndEventLog sv (sampleSide []) log [7] [8] (sampleRtmrs 2 [7]) = .ok v ∧
      PolicyTrusted sv (sampleSide []) [7] [8] v) ∧
    validatePeerCertChain samplePki [8] [10] = .ok () := by
  intro sv log
  obtain ⟨v, hv⟩ : ∃ v, verifyPolicyAndEventLog sv (sampleSide []) log [7] [8]
      (sampleRtmrs 2 [7]) = .ok v := exists_ok_of_isOk (by decide +kernel)
  refine
    ⟨⟨v, hv, peer_policy_trusted.1 sv (sampleSide []) log [7] [8] (sampleRtmrs 2 [7]) v hv⟩, ?_⟩
  exact peer_policy_trusted.2 samplePki [8] [9] [10] (by decide +kernel) (by decide +kernel)

end MigTd.Policy.PeerPolicy
