/- source: server_client.rs, ratls/mod.rs, mig_policy.rs
   digest: The verifiers of RA-TLS certificates, and what an accepted certificate is bound to. -/

import MigTd.Policy.Authenticators

set_option autoImplicit false

namespace MigTd.Ratls.Verification

open Attestation.Reports Crypto.Certificates Lib.ByteCodec Lib.StateProgram Measurement.EventLog
  Migration.Information Policy.Authenticators Policy.Evaluation Policy.MigPolicy Policy.PeerPolicy

def EXTENDED_KEY_USAGE : ObjectIdentifier := [2, 5, 29, 37]
def MIGTD_EXTENDED_KEY_USAGE : ObjectIdentifier := [1, 2, 840, 113741, 1, 5, 5, 1, 1]
def EXTNID_MIGTD_QUOTE_REPORT : ObjectIdentifier := [1, 2, 840, 113741, 1, 5, 5, 1, 2]
def EXTNID_MIGTD_EVENT_LOG : ObjectIdentifier := [1, 2, 840, 113741, 1, 5, 5, 1, 3]
def EXTNID_MIGTD_POLICY_HASH : ObjectIdentifier := [1, 2, 840, 113741, 1, 5, 5, 1, 4]
def EXTNID_MIGTD_TDREPORT : ObjectIdentifier := [1, 2, 840, 113741, 1, 5, 5, 1, 5]
def EXTNID_MIGTD_SERVTD_EXT : ObjectIdentifier := [1, 2, 840, 113741, 1, 5, 5, 1, 6]
def EXTNID_MIGTD_TDREPORT_INIT : ObjectIdentifier := [1, 2, 840, 113741, 1, 5, 5, 1, 7]

def MIG_POLICY_UNSATISFIED_ERROR : String := "PolicyUnsatisfiedError"
def INVALID_MIG_POLICY_ERROR : String := "InvalidPolicyError"
def MUTUAL_ATTESTATION_ERROR : String := "MutualAttestationError"
def MISMATCH_PUBLIC_KEY : String := "MismatchPublicKeyError"

def PUBLIC_KEY_HASH_SIZE : Nat := 48

/-- What the build without `policy_v2` reads on its own side, and its policy check. -/
structure V1Side where
  eventLog : Except (Stop Unit) Octets
  policy : Option Octets
  verifyPolicy : Bool → Octets → VerifiedReport → EventMap → VerifiedReport → EventMap →
    Except PolicyError Unit

structure Deployment where
  services : Services
  side : LocalSide
  v1 : V1Side

section

variable (pki : Pki)

/-- The loop of `check_migtd_eku`: an unreadable extension ends it with an error. -/
def checkMigtdEku : List Extension → Except CryptoError Unit
  | [] => .error .parseCertificate
  | extn :: rest =>
    if extn.extnId = EXTENDED_KEY_USAGE then
      match extn.extnValue with
      | none => checkMigtdEku rest
      | some value => do
        let eku ← orElse (pki.extendedKeyUsageFromDer value) .generateCertificate
        if MIGTD_EXTENDED_KEY_USAGE ∈ eku then .ok () else checkMigtdEku rest
    else checkMigtdEku rest

def findExtension (extensions : List Extension) (id : ObjectIdentifier) : Option Octets :=
  extensions.findSome? fun extn => if extn.extnId = id then extn.extnValue else none

def requireExtension (extensions : List Extension) (id : ObjectIdentifier) :
    Except (Stop CryptoError) Octets :=
  noPanic (orElse (findExtension extensions id) .parseCertificate)

/-- The start of every verifier: parse the certificate and look at its key usage. -/
def openCertificate (der : Octets) :
    Except (Stop CryptoError) (Certificate × List Extension) := do
  let cert ← noPanic (orElse (pki.certificateFromDer der) .parseCertificate)
  let extensions ← noPanic (orElse cert.tbsCertificate.extensions .parseCertificate)
  noPanic (checkMigtdEku pki extensions)
  return (cert, extensions)

/-- The common text of `verify_signature` and `verify_signature_with_tdreport`. -/
def verifySelfSignature (cert : Certificate) (verifyKey : Octets → Except CryptoError Unit) :
    Except CryptoError Unit := do
  let publicKey ←
    orElse cert.tbsCertificate.subjectPublicKeyInfo.subjectPublicKey.asBytes .parseCertificate
  let tbs ← orElse (pki.tbsToDer cert.tbsCertificate) .generateCertificate
  let signature ← orElse cert.signatureValue.asBytes .parseCertificate
  verifyKey publicKey
  ecdsaVerify pki publicKey tbs signature

end

section

variable (d : Deployment)

def verifyPublicKey (verifiedReport : VerifiedReport) (publicKey : Octets) :
    Except CryptoError Unit := do
  if d.services.features.azCvmEmu || d.services.features.useMockQuote then return ()
  else
    let digest ← digestSha384 d.services.sha384 publicKey
    require ((verifiedReport.1.drop 520).take PUBLIC_KEY_HASH_SIZE = digest)
      (.tlsVerifyPeerCert MISMATCH_PUBLIC_KEY)

def verifyPublicKeyWithTdreport (tdreport publicKey : Octets) : Except CryptoError Unit := do
  if d.services.features.azCvmEmu then return ()
  else
    let tdxReport ← orElse (TdxReport.readFromBytes tdreport)
      (.tlsVerifyPeerCert MISMATCH_PUBLIC_KEY)
    let digest ← digestSha384 d.services.sha384 publicKey
    require (tdxReport.reportData.1.take PUBLIC_KEY_HASH_SIZE = digest)
      (.tlsVerifyPeerCert MISMATCH_PUBLIC_KEY)

def verifySignature (cert : Certificate) (verifiedReport : VerifiedReport) :
    Except CryptoError Unit :=
  verifySelfSignature d.services.pki cert (verifyPublicKey d verifiedReport)

def verifySignatureWithTdreport (cert : Certificate) (tdreport : Octets) :
    Except CryptoError Unit :=
  verifySelfSignature d.services.pki cert (verifyPublicKeyWithTdreport d tdreport)

/-- A failed policy check, as TLS reports it. -/
def policyVerdict {α : Type} (result : Auth α) : Except (Stop CryptoError) α :=
  result.mapError <| Stop.map fun
    | .invalidPolicy => .tlsVerifyPeerCert INVALID_MIG_POLICY_ERROR
    | _ => .tlsVerifyPeerCert MIG_POLICY_UNSATISFIED_ERROR

def checkPolicyHash (expectedPolicyHash peerData : Octets) :
    Except (Stop CryptoError) Unit := do
  let exactPolicyHash ← noPanic (digestSha384 d.services.sha384 peerData)
  noPanic <| require (expectedPolicyHash = exactPolicyHash)
    (.tlsVerifyPeerCert INVALID_MIG_POLICY_ERROR)

def authenticatePolicy (isSrc : Bool) (verifiedReportLocal verifiedReportPeer : VerifiedReport)
    (eventLogPeer : Octets) : Auth Unit := do
  let eventLog ← d.v1.eventLog.mapError (Stop.map fun _ => .invalidEventLog)
  let policy ← noPanic (orElse d.v1.policy .invalidParameter)
  noPanic <| (verifyEventLog d.services.sha384 d.services.cc d.services.features eventLogPeer
    (getRtmrsFromSupplData verifiedReportPeer)).mapError fun _ => .invalidEventLog
  let events ←
    (parseEvents d.services.cc eventLog).mapError (Stop.map fun _ => .invalidParameter)
  let eventsPeer ←
    (parseEvents d.services.cc eventLogPeer).mapError (Stop.map fun _ => .invalidParameter)
  noPanic <| d.v1.verifyPolicy isSrc policy verifiedReportLocal events verifiedReportPeer eventsPeer

def verifyPeerCertV1 (isClient : Bool) (cert quoteLocal : Octets) :
    Except (Stop CryptoError) Unit := do
  let verifiedReportLocal ← noPanic <|
    (MigTd.Attestation.Reports.verifyQuote d.services.attest quoteLocal).mapError
      fun _ => .tlsVerifyPeerCert MUTUAL_ATTESTATION_ERROR
  let (cert, extensions) ← openCertificate d.services.pki cert
  let quoteReport ← requireExtension extensions EXTNID_MIGTD_QUOTE_REPORT
  let eventLog ← requireExtension extensions EXTNID_MIGTD_EVENT_LOG
  let verifiedReportPeer ← noPanic <|
    (MigTd.Attestation.Reports.verifyQuote d.services.attest quoteReport).mapError
      fun _ => .tlsVerifyPeerCert MUTUAL_ATTESTATION_ERROR
  noPanic (verifySignature d cert verifiedReportPeer)
  -- The source of a migration is the TLS client.
  policyVerdict (authenticatePolicy d isClient verifiedReportLocal verifiedReportPeer eventLog)

def verifyPeerCert (isClient : Bool) (cert peerData : Octets) :
    Except (Stop CryptoError) Unit := do
  let (cert, extensions) ← openCertificate d.services.pki cert
  let quoteReport ← requireExtension extensions EXTNID_MIGTD_QUOTE_REPORT
  let eventLog ← requireExtension extensions EXTNID_MIGTD_EVENT_LOG
  let expectedPolicyHash ← requireExtension extensions EXTNID_MIGTD_POLICY_HASH
  checkPolicyHash d expectedPolicyHash peerData
  let supplData ← policyVerdict
    (authenticateRemote d.services d.side isClient quoteReport peerData eventLog)
  noPanic (verifySignature d cert supplData)

def verifyRebindingOldCert (cert peerData : Octets) : Except (Stop CryptoError) Unit := do
  let (cert, extensions) ← openCertificate d.services.pki cert
  let tdReport ← requireExtension extensions EXTNID_MIGTD_TDREPORT
  let eventLog ← requireExtension extensions EXTNID_MIGTD_EVENT_LOG
  let expectedPolicyHash ← requireExtension extensions EXTNID_MIGTD_POLICY_HASH
  let initTdinfo ← requireExtension extensions EXTNID_MIGTD_TDREPORT_INIT
  let servtdExt ← requireExtension extensions EXTNID_MIGTD_SERVTD_EXT
  checkPolicyHash d expectedPolicyHash peerData
  let supplData ← policyVerdict
    (authenticateRebindingOld d.services d.side tdReport eventLog peerData initTdinfo servtdExt)
  noPanic (verifySignatureWithTdreport d cert supplData.1)

def verifyRebindingNewCert (cert peerData : Octets) : Except (Stop CryptoError) Unit := do
  let (cert, extensions) ← openCertificate d.services.pki cert
  let tdReport ← requireExtension extensions EXTNID_MIGTD_TDREPORT
  let eventLog ← requireExtension extensions EXTNID_MIGTD_EVENT_LOG
  let expectedPolicyHash ← requireExtension extensions EXTNID_MIGTD_POLICY_HASH
  checkPolicyHash d expectedPolicyHash peerData
  let supplData ← policyVerdict
    (authenticateRebindingNew d.services d.side tdReport eventLog peerData)
  noPanic (verifySignatureWithTdreport d cert supplData.1)

end

/-- The certificate is signed with its own key and carries the MigTD key usage. -/
structure SelfCertified (pki : Pki) (cert : Certificate) (extensions : List Extension)
    (key : Octets) : Prop where
  carries : cert.tbsCertificate.extensions = some extensions
  publicKey : cert.tbsCertificate.subjectPublicKeyInfo.subjectPublicKey.asBytes = some key
  signature : ∃ tbs signature, pki.tbsToDer cert.tbsCertificate = some tbs ∧
    cert.signatureValue.asBytes = some signature ∧ pki.ecdsaP384Sha384 key tbs signature = true
  keyUsage : ∃ e ∈ extensions, e.extnId = EXTENDED_KEY_USAGE ∧ ∃ value eku,
    e.extnValue = some value ∧ pki.extendedKeyUsageFromDer value = some eku ∧
      MIGTD_EXTENDED_KEY_USAGE ∈ eku

section

variable {pki : Pki} {extensions : List Extension}

theorem checkMigtdEku_ok (h : checkMigtdEku pki extensions = .ok ()) :
    ∃ e ∈ extensions, e.extnId = EXTENDED_KEY_USAGE ∧ ∃ value eku, e.extnValue = some value ∧
      pki.extendedKeyUsageFromDer value = some eku ∧ MIGTD_EXTENDED_KEY_USAGE ∈ eku := by
  induction extensions with
  | nil => cases h
  | cons extn rest ih =>
    have hlater : checkMigtdEku pki rest = .ok () →
        ∃ e ∈ extn :: rest, e.extnId = EXTENDED_KEY_USAGE ∧ ∃ value eku,
          e.extnValue = some value ∧ pki.extendedKeyUsageFromDer value = some eku ∧
            MIGTD_EXTENDED_KEY_USAGE ∈ eku := by
      intro hrest
      obtain ⟨e, he, hfound⟩ := ih hrest
      exact ⟨e, List.mem_cons_of_mem extn he, hfound⟩
    rw [checkMigtdEku] at h
    by_cases hid : extn.extnId = EXTENDED_KEY_USAGE
    · rw [if_pos hid] at h
      cases hvalue : extn.extnValue with
      | none =>
        rw [hvalue] at h
        exact hlater h
      | some value =>
        simp only [hvalue, except_bind_ok, orElse_ok] at h
        obtain ⟨eku, heku, h⟩ := h
        by_cases hmem : MIGTD_EXTENDED_KEY_USAGE ∈ eku
        · exact ⟨extn, List.mem_cons_self, hid, value, eku, hvalue, heku, hmem⟩
        · rw [if_neg hmem] at h
          exact hlater h
    · rw [if_neg hid] at h
      exact hlater h

variable {opened : Certificate × List Extension} {der : Octets}

theorem openCertificate_ok (h : openCertificate pki der = .ok opened) :
    pki.certificateFromDer der = some opened.1 ∧
      opened.1.tbsCertificate.extensions = some opened.2 ∧
      checkMigtdEku pki opened.2 = .ok () := by
  unfold openCertificate at h
  simp only [except_bind_ok, noPanic_ok, orElse_ok, Unique.exists_iff, PUnit.default_eq_unit] at h
  obtain ⟨cert, hcert, extensions, hext, heku, h⟩ := h
  cases h
  exact ⟨hcert, hext, heku⟩

theorem selfCertified {verifyKey : Octets → Except CryptoError Unit}
    (hopen : openCertificate pki der = .ok opened)
    (h : verifySelfSignature pki opened.1 verifyKey = .ok ()) :
    ∃ key, SelfCertified pki opened.1 opened.2 key ∧ verifyKey key = .ok () := by
  obtain ⟨-, hext, heku⟩ := openCertificate_ok hopen
  unfold verifySelfSignature at h
  simp only [except_bind_ok, orElse_ok, Unique.exists_iff, PUnit.default_eq_unit] at h
  obtain ⟨key, hkey, tbs, htbs, signature, hsignature, hchecked, hverify⟩ := h
  have hecdsa : pki.ecdsaP384Sha384 key tbs signature = true := by
    by_contra hno
    simp [ecdsaVerify, hno] at hverify
  exact ⟨key, ⟨hext, hkey, ⟨tbs, signature, htbs, hsignature, hecdsa⟩, checkMigtdEku_ok heku⟩,
    hchecked⟩

@[simp] private theorem requireExtension_ok {id : ObjectIdentifier} {value : Octets} :
    requireExtension extensions id = .ok value ↔ findExtension extensions id = some value := by
  simp [requireExtension]

@[simp] private theorem policyVerdict_ok {α : Type} {result : Auth α} {a : α} :
    policyVerdict result = .ok a ↔ result = .ok a := mapError_ok

variable {d : Deployment} {key : Octets}

theorem checkPolicyHash_ok {expected peerData : Octets} {u : Unit}
    (h : checkPolicyHash d expected peerData = .ok u) :
    expected = d.services.sha384 peerData := by
  unfold checkPolicyHash at h
  simp only [except_bind_ok, noPanic_ok, require_ok] at h
  obtain ⟨digest, hdigest, rfl⟩ := h
  exact (digestSha384_ok hdigest).1

def KeyInReportData (d : Deployment) (key : Octets) (reportData : Bytes 64) : Prop :=
  reportData.1.take PUBLIC_KEY_HASH_SIZE = d.services.sha384 key

theorem verifyPublicKey_ok {report : VerifiedReport}
    (hproduction : d.services.features = .production)
    (h : verifyPublicKey d report key = .ok ()) : KeyInReportData d key report.reportData := by
  simp only [verifyPublicKey, hproduction, MockFeatures.production, Bool.or_self,
    Bool.false_eq_true, if_false, except_bind_ok, require_ok] at h
  obtain ⟨digest, hdigest, hsame⟩ := h
  rw [KeyInReportData, ← (digestSha384_ok hdigest).1, ← hsame]
  show ((report.1.drop 520).take 64).take 48 = (report.1.drop 520).take 48
  rw [List.take_take]
  rfl

theorem verifyPublicKeyWithTdreport_ok {report : TdxReport}
    (hproduction : d.services.features = .production)
    (h : verifyPublicKeyWithTdreport d report.1 key = .ok ()) :
    KeyInReportData d key report.reportData := by
  simp only [verifyPublicKeyWithTdreport, hproduction, MockFeatures.production,
    Bool.false_eq_true, if_false, except_bind_ok, require_ok, orElse_ok,
    TdxReport.readFromBytes_self, Option.some.injEq] at h
  obtain ⟨_, rfl, digest, hdigest, hsame⟩ := h
  rw [KeyInReportData, hsame, (digestSha384_ok hdigest).1]

end

/-- The verification library accepts a quote only with the REPORTDATA that the quote carries. -/
structure QuotesSound (lib : AttestLib) (reportData : Octets → Option (Bytes 64)) : Prop where
  integrity : ∀ quote key, (lib.verifyQuoteIntegrity quote key).result = 0 →
    reportData quote = some (lib.verifyQuoteIntegrity quote key).reportData
  integrityEx : ∀ quote key collateral,
    (lib.verifyQuoteIntegrityEx quote key collateral).result = 0 →
    reportData quote = some (lib.verifyQuoteIntegrityEx quote key collateral).reportData

section

variable {sv : Services} {own : LocalSide} {reportData : Octets → Option (Bytes 64)}

theorem verifyQuote_reportData {lib : AttestLib} (hsound : QuotesSound lib reportData)
    {quote : Octets} {v : VerifiedReport}
    (h : MigTd.Attestation.Reports.verifyQuote lib quote = .ok v) :
    reportData quote = some v.reportData := by
  unfold MigTd.Attestation.Reports.verifyQuote at h
  split at h
  · cases h
  · obtain ⟨hresult, hdata⟩ := acceptOutput_ok h
    rw [hdata]
    exact hsound.integrity _ _ hresult

theorem authenticateRemoteCommon_reportData (hsound : QuotesSound sv.attest reportData)
    {q l p c : Octets} {peer : Authenticated VerifiedReport}
    (h : authenticateRemoteCommon sv own q l p c = .ok peer) :
    reportData q = some peer.evidence.reportData := by
  unfold authenticateRemoteCommon at h
  simp only [except_bind_ok, noPanic_ok, orElse_ok, mapError_ok] at h
  obtain ⟨policy, -, ⟨fmspc, supplData⟩, hquote, verified, -, data, -, hpeer⟩ := h
  cases hpeer
  unfold MigTd.Policy.MigPolicy.verifyQuote at hquote
  simp only [except_bind_ok, orElse_ok, mapError_ok] at hquote
  obtain ⟨fmspc', -, collateral, -, text, -, suppl, hverified, hpair⟩ := hquote
  cases hpair
  unfold verifyQuoteWithCollaterals at hverified
  split at hverified
  · cases hverified
  · obtain ⟨hresult, hdata⟩ := acceptOutput_ok hverified
    rw [hdata]
    exact hsound.integrityEx _ _ _ hresult

theorem authenticateRemote_reportData (hsound : QuotesSound sv.attest reportData)
    {isSrc : Bool} {quote data log : Octets} {r : VerifiedReport}
    (h : authenticateRemote sv own isSrc quote data log = .ok r) :
    reportData quote = some r.reportData := by
  unfold authenticateRemote at h
  obtain ⟨⟨policy, chain⟩, -, h⟩ := except_bind_ok.mp h
  cases isSrc with
  | true =>
    obtain ⟨peer, -, -, hpeer, -, rfl, -, -⟩ := authenticateMigrationDest_ok h
    exact authenticateRemoteCommon_reportData hsound hpeer
  | false =>
    obtain ⟨peer, -, -, hpeer, -, rfl, -, -⟩ := authenticateMigrationSource_ok h
    exact authenticateRemoteCommon_reportData hsound hpeer

theorem authenticateRebindingCommon_reportData {t l p c : Octets}
    {peer : Authenticated TdxReport} (h : authenticateRebindingCommon sv own t l p c = .ok peer) :
    peer.evidence.reportData.1 = (t.drop 128).take 64 := by
  unfold authenticateRebindingCommon at h
  simp only [except_bind_ok, noPanic_ok] at h
  obtain ⟨report, hreport, verified, -, hpeer⟩ := h
  cases hpeer
  unfold verifyTdreport at hreport
  simp only [except_bind_ok, orElse_ok, require_ok, mapError_ok] at hreport
  obtain ⟨read, hread, -, -, -, -, -, -, -, -, hsame⟩ := hreport
  cases hsame
  exact TdxReport.reportData_of_read hread

end

/-- The verifiers of the two builds; each takes a certificate and one further argument, the own
quote in the build without `policy_v2` and the data of the peer elsewhere. -/
inductive Verifier where
  | peerV1 (isClient : Bool)
  | peer (isClient : Bool)
  | rebindingOld
  | rebindingNew

namespace Verifier

def verify (d : Deployment) : Verifier → Octets → Octets → Except (Stop CryptoError) Unit
  | peerV1 isClient => verifyPeerCertV1 d isClient
  | peer isClient => verifyPeerCert d isClient
  | rebindingOld => verifyRebindingOldCert d
  | rebindingNew => verifyRebindingNewCert d

/-- With `policy_v2` the policy hash of the certificate is that of the data of the peer. -/
def PolicyBound (d : Deployment) (extensions : List Extension) (data : Octets) : Verifier → Prop
  | peerV1 _ => True
  | _ => findExtension extensions EXTNID_MIGTD_POLICY_HASH = some (d.services.sha384 data)

/-- The authenticator accepted the evidence in the certificate, with this data of the peer, and
the REPORTDATA of this evidence holds the hash of the key. -/
def EvidenceBound (d : Deployment) (reportData : Octets → Option (Bytes 64))
    (extensions : List Extension) (key data : Octets) : Verifier → Prop
  | peerV1 isClient => ∃ quote log own report carried,
    findExtension extensions EXTNID_MIGTD_QUOTE_REPORT = some quote ∧
    findExtension extensions EXTNID_MIGTD_EVENT_LOG = some log ∧
    MigTd.Attestation.Reports.verifyQuote d.services.attest data = .ok own ∧
    MigTd.Attestation.Reports.verifyQuote d.services.attest quote = .ok report ∧
    authenticatePolicy d isClient own report log = .ok () ∧
    reportData quote = some carried ∧ KeyInReportData d key carried
  | peer isClient => ∃ quote log report carried,
    findExtension extensions EXTNID_MIGTD_QUOTE_REPORT = some quote ∧
    findExtension extensions EXTNID_MIGTD_EVENT_LOG = some log ∧
    authenticateRemote d.services d.side isClient quote data log = .ok report ∧
    reportData quote = some carried ∧ KeyInReportData d key carried
  | rebindingOld => ∃ tdreport log init ext report carried,
    findExtension extensions EXTNID_MIGTD_TDREPORT = some tdreport ∧
    findExtension extensions EXTNID_MIGTD_EVENT_LOG = some log ∧
    findExtension extensions EXTNID_MIGTD_TDREPORT_INIT = some init ∧
    findExtension extensions EXTNID_MIGTD_SERVTD_EXT = some ext ∧
    authenticateRebindingOld d.services d.side tdreport log data init ext = .ok report ∧
    carried.1 = (tdreport.drop 128).take 64 ∧ KeyInReportData d key carried
  | rebindingNew => ∃ tdreport log report carried,
    findExtension extensions EXTNID_MIGTD_TDREPORT = some tdreport ∧
    findExtension extensions EXTNID_MIGTD_EVENT_LOG = some log ∧
    authenticateRebindingNew d.services d.side tdreport log data = .ok report ∧
    carried.1 = (tdreport.drop 128).take 64 ∧ KeyInReportData d key carried

end Verifier

/-- In the production build an accepted certificate is signed with its own key, carries the MigTD
key usage and the hash of the data of the peer, and its key stands in the evidence that the
authenticator accepted. -/
theorem certificate_bound (d : Deployment) (reportData : Octets → Option (Bytes 64))
    (hproduction : d.services.features = .production)
    (hsound : QuotesSound d.services.attest reportData) (v : Verifier) (certDer data : Octets)
    (h : v.verify d certDer data = .ok ()) :
    ∃ cert extensions key, d.services.pki.certificateFromDer certDer = some cert ∧
      SelfCertified d.services.pki cert extensions key ∧ v.PolicyBound d extensions data ∧
      v.EvidenceBound d reportData extensions key data := by
  cases v with
  | peerV1 isClient =>
    simp only [Verifier.verify, verifyPeerCertV1, except_bind_ok, noPanic_ok, mapError_ok,
      requireExtension_ok, policyVerdict_ok, Unique.exists_iff, PUnit.default_eq_unit] at h
    obtain ⟨own, hown, ⟨cert, extensions⟩, hopen, quote, hquote, log, hlog, report, hreport,
      hsignature, hpolicy⟩ := h
    obtain ⟨key, hself, hkey⟩ := selfCertified hopen hsignature
    exact ⟨cert, extensions, key, (openCertificate_ok hopen).1, hself, trivial, quote, log, own,
      report, report.reportData, hquote, hlog, hown, hreport, hpolicy,
      verifyQuote_reportData hsound hreport, verifyPublicKey_ok hproduction hkey⟩
  | peer isClient =>
    simp only [Verifier.verify, verifyPeerCert, except_bind_ok, noPanic_ok, requireExtension_ok,
      policyVerdict_ok, Unique.exists_iff, PUnit.default_eq_unit] at h
    obtain ⟨⟨cert, extensions⟩, hopen, quote, hquote, log, hlog, hash, hhash, hpolicy, report,
      hreport, hsignature⟩ := h
    obtain rfl := checkPolicyHash_ok hpolicy
    obtain ⟨key, hself, hkey⟩ := selfCertified hopen hsignature
    exact ⟨cert, extensions, key, (openCertificate_ok hopen).1, hself, hhash, quote, log, report,
      report.reportData, hquote, hlog, hreport, authenticateRemote_reportData hsound hreport,
      verifyPublicKey_ok hproduction hkey⟩
  | rebindingOld =>
    simp only [Verifier.verify, verifyRebindingOldCert, except_bind_ok, noPanic_ok,
      requireExtension_ok, policyVerdict_ok, Unique.exists_iff, PUnit.default_eq_unit] at h
    obtain ⟨⟨cert, extensions⟩, hopen, tdreport, htdreport, log, hlog, hash, hhash, init, hinit,
      ext, hext, hpolicy, report, hreport, hsignature⟩ := h
    obtain rfl := checkPolicyHash_ok hpolicy
    obtain ⟨key, hself, hkey⟩ := selfCertified hopen hsignature
    obtain ⟨_, peer, -, -, -, hpeer, -, rfl, -, -, -⟩ := authenticateRebindingOld_ok hreport
    exact ⟨cert, extensions, key, (openCertificate_ok hopen).1, hself, hhash, tdreport, log, init,
      ext, peer.evidence, peer.evidence.reportData, htdreport, hlog, hinit, hext, hreport,
      authenticateRebindingCommon_reportData hpeer, verifyPublicKeyWithTdreport_ok hproduction hkey⟩
  | rebindingNew =>
    simp only [Verifier.verify, verifyRebindingNewCert, except_bind_ok, noPanic_ok,
      requireExtension_ok, policyVerdict_ok, Unique.exists_iff, PUnit.default_eq_unit] at h
    obtain ⟨⟨cert, extensions⟩, hopen, tdreport, htdreport, log, hlog, hash, hhash, hpolicy, report,
      hreport, hsignature⟩ := h
    obtain rfl := checkPolicyHash_ok hpolicy
    obtain ⟨key, hself, hkey⟩ := selfCertified hopen hsignature
    obtain ⟨_, peer, -, -, -, hpeer, -, rfl, -, -⟩ := authenticateRebindingNew_ok hreport
    exact ⟨cert, extensions, key, (openCertificate_ok hopen).1, hself, hhash, tdreport, log,
      peer.evidence, peer.evidence.reportData, htdreport, hlog, hreport,
      authenticateRebindingCommon_reportData hpeer, verifyPublicKeyWithTdreport_ok hproduction hkey⟩

/-- The output of the verifier for the quote: the policy in RTMR2 and the key in REPORTDATA. -/
def keyedOutput : Bytes 1024 :=
  ⟨List.replicate 424 0 ++ ((sampleDigest [7]).1 ++ (List.replicate 48 0 ++
    ((sampleDigest [5]).1 ++ List.replicate 456 0))), by
    simp only [List.length_append, List.length_replicate, (sampleDigest _).2]⟩

def sampleExtensions : List Extension :=
  [⟨EXTENDED_KEY_USAGE, none, some [1]⟩, ⟨EXTNID_MIGTD_QUOTE_REPORT, none, some [2]⟩,
    ⟨EXTNID_MIGTD_EVENT_LOG, none, some (sampleLog [policyEvent 3 (sampleDigest [7])])⟩,
    ⟨EXTNID_MIGTD_POLICY_HASH, none, some (sampleDigest samplePeerData).1⟩]

def ratlsCertificate : Certificate where
  tbsCertificate := ⟨[], [], ⟨⟨[], none⟩, ⟨0, [5]⟩⟩, some sampleExtensions⟩
  signatureAlgorithm := ⟨ECDSA_WITH_SHA384, none⟩
  signatureValue := ⟨0, [0]⟩

/-- The certificate `[9]` is the one above; the others belong to the policy chains. -/
def ratlsPki : Pki :=
  { samplePki with
    certificateFromDer := fun der =>
      if der = [9] then some ratlsCertificate else samplePki.certificateFromDer der
    extendedKeyUsageFromDer := fun _ => some [MIGTD_EXTENDED_KEY_USAGE] }

def ratlsDeployment : Deployment where
  services := { sampleServices (atLeastSvn 1) keyedOutput with pki := ratlsPki }
  side := sampleSide (atLeastSvn 1)
  v1 := ⟨.ok [], none, fun _ _ _ _ _ _ => .error .invalidPolicy⟩

private theorem ratlsDeployment_sound : QuotesSound ratlsDeployment.services.attest fun _ =>
      some (slice keyedOutput 520 64 (by decide)) :=
  ⟨fun _ _ _ => rfl, fun _ _ _ _ => rfl⟩

/-- The certificate is accepted and bound to its evidence. -/
theorem certificate_bound_peer :
    let carried := slice keyedOutput 520 64 (by decide)
    (Verifier.peer true).verify ratlsDeployment [9] samplePeerData = .ok () ∧
      ∃ cert extensions key, ratlsPki.certificateFromDer [9] = some cert ∧
        SelfCertified ratlsPki cert extensions key ∧
        (Verifier.peer true).PolicyBound ratlsDeployment extensions samplePeerData ∧
        (Verifier.peer true).EvidenceBound ratlsDeployment (fun _ => some carried) extensions key
          samplePeerData := by
  intro carried
  obtain ⟨u, h⟩ : ∃ u, (Verifier.peer true).verify ratlsDeployment [9] samplePeerData = .ok u :=
    exists_ok_of_isOk (by decide +kernel)
  exact ⟨h, certificate_bound ratlsDeployment (fun _ => some carried) rfl ratlsDeployment_sound
    (.peer true) [9] samplePeerData h⟩

end MigTd.Ratls.Verification
