/- source: src/x509.rs, crypto/src/lib.rs, ecdsa.rs
   digest: Certificates as the checks read them, PEM chains, and the trust checks on a chain. -/

import MigTd.Lib.StateProgram
import MigTd.Migration.Information

set_option autoImplicit false

namespace MigTd.Crypto.Certificates

open Lib.StateProgram Migration.Information

abbrev ObjectIdentifier := List Nat

structure BitString where
  unusedBits : Nat
  bytes : Octets
  deriving DecidableEq

/-- `as_bytes`, which exists only when the last byte is in use completely. -/
def BitString.asBytes (b : BitString) : Option Octets :=
  if b.unusedBits = 0 then some b.bytes else none

structure Extension where
  extnId : ObjectIdentifier
  critical : Option Bool
  extnValue : Option Octets
  deriving DecidableEq

structure AlgorithmIdentifier where
  algorithm : ObjectIdentifier
  parameters : Option Octets
  deriving DecidableEq

/-- An attribute of a name: its type, and the tag and the bytes of its value. -/
structure DistinguishedName where
  attributeType : ObjectIdentifier
  tag : UInt8
  value : Octets
  deriving DecidableEq

structure SubjectPublicKeyInfo where
  algorithm : AlgorithmIdentifier
  subjectPublicKey : BitString
  deriving DecidableEq

/-- The signed part. No check reads the version, the serial number, the inner algorithm, the
issuer, the validity or the unique identifiers; `unread` stands for their encodings. -/
structure TBSCertificate where
  unread : Octets
  subject : List (List DistinguishedName)
  subjectPublicKeyInfo : SubjectPublicKeyInfo
  extensions : Option (List Extension)
  deriving DecidableEq

structure Certificate where
  tbsCertificate : TBSCertificate
  signatureAlgorithm : AlgorithmIdentifier
  signatureValue : BitString
  deriving DecidableEq

/-- The `cA` flag and the path length are both optional in the encoding. -/
structure BasicConstraints where
  ca : Option Bool
  pathLen : Option UInt32

/-- The PEM, DER and ECDSA libraries. -/
structure Pki where
  /-- The sections of a PEM text in order; an undecodable one is absent. -/
  pemSliceIter : Octets → List (Option Octets)
  certificateFromDer : Octets → Option Certificate
  tbsToDer : TBSCertificate → Option Octets
  extendedKeyUsageFromDer : Octets → Option (List ObjectIdentifier)
  basicConstraintsFromDer : Octets → Option BasicConstraints
  /-- Public key, message and signature, with ECDSA_P384_SHA384_ASN1. -/
  ecdsaP384Sha384 : Octets → Octets → Octets → Bool

/-- A chain from its leaf to its root. Extraction refuses the empty chain. -/
abbrev CertChain := {chain : List Octets // chain ≠ []}

def CertChain.leaf (c : CertChain) : Octets := c.1.head c.2

def CertChain.root (c : CertChain) : Octets := c.1.getLast c.2

def ECDSA_WITH_SHA384 : ObjectIdentifier := [1, 2, 840, 10045, 4, 3, 3]

def BASIC_CONSTRAINTS_OID : ObjectIdentifier := [2, 5, 29, 19]

section

variable (pki : Pki)

def ecdsaVerify (publicKey data signature : Octets) : Except CryptoError Unit :=
  if pki.ecdsaP384Sha384 publicKey data signature then .ok () else .error .ecdsaVerify

def extractCertChainFromPem (certChainPem : Octets) : Except CryptoError CertChain := do
  let certChain ← (pki.pemSliceIter certChainPem).mapM fun cert => orElse cert .decodePemCert
  if h : certChain = [] then
    .error (.certChainVerification "No certificates found in chain")
  else
    .ok ⟨certChain, h⟩

def extractPublicKeyFromCert (cert : Certificate) : Except CryptoError Octets :=
  orElse cert.tbsCertificate.subjectPublicKeyInfo.subjectPublicKey.asBytes .parseCertificate

/-- Only ECDSA-P384 with SHA-384 is supported. -/
def verifySignatureWithAlgorithm (publicKey message signature : Octets)
    (signatureAlgorithm : AlgorithmIdentifier) : Except CryptoError Unit :=
  if signatureAlgorithm.algorithm = ECDSA_WITH_SHA384 then
    (ecdsaVerify pki publicKey message signature).mapError fun _ => .signatureVerification
  else
    .error .unsupportedAlgorithm

def verifyCertSignature (subjectCert issuerCert : Certificate) : Except CryptoError Unit := do
  let issuerPublicKey ← extractPublicKeyFromCert issuerCert
  let signature ← orElse subjectCert.signatureValue.asBytes .parseCertificate
  let tbsCertDer ← orElse (pki.tbsToDer subjectCert.tbsCertificate) .parseCertificate
  verifySignatureWithAlgorithm pki issuerPublicKey tbsCertDer signature
    subjectCert.signatureAlgorithm

/-- The loop of `verify_certificate_chain` over neighbours. -/
def verifyLinks : List Octets → Except CryptoError Unit
  | subject :: issuer :: rest => do
    let subjectCert ← orElse (pki.certificateFromDer subject) .parseCertificate
    let issuerCert ← orElse (pki.certificateFromDer issuer) .parseCertificate
    verifyCertSignature pki subjectCert issuerCert
    verifyLinks (issuer :: rest)
  | _ => .ok ()

def verifyCertificateChain (certChain : List Octets) : Except CryptoError Unit :=
  if certChain.isEmpty then .error (.certChainVerification "Empty certificate chain")
  else if certChain.length = 1 then .ok ()
  else verifyLinks pki certChain

/-- The algorithm is the one that signed the certificate itself. -/
def verifySignatureWithCert (certDer message signature : Octets) :
    Except CryptoError Unit := do
  let cert ← orElse (pki.certificateFromDer certDer) .parseCertificate
  let publicKey ← extractPublicKeyFromCert cert
  verifySignatureWithAlgorithm pki publicKey message signature cert.signatureAlgorithm

def verifyCertChainAndSignature (certChainPem message signature : Octets) :
    Except CryptoError Unit := do
  let certChain ← extractCertChainFromPem pki certChainPem
  verifyCertificateChain pki certChain.1
  verifySignatureWithCert pki certChain.leaf message signature

def getPolicySignerKeyHash (sha384 : Octets → Octets) (certChainPem : Octets) :
    Except CryptoError Octets := do
  let certChain ← extractCertChainFromPem pki certChainPem
  let cert ← orElse (pki.certificateFromDer certChain.leaf) .parseCertificate
  let publicKey ← extractPublicKeyFromCert cert
  (digestSha384 sha384 publicKey).mapError fun _ => .calculateDigest

/-- The first BasicConstraints extension decides; a certificate without one is no CA. -/
def isCaCertificate (cert : Certificate) : Except CryptoError Bool :=
  match cert.tbsCertificate.extensions with
  | none => .ok false
  | some extensions =>
    match extensions.find? (·.extnId = BASIC_CONSTRAINTS_OID) with
    | none => .ok false
    | some ext => do
      let value ← orElse ext.extnValue .parseCertificate
      let bc ← orElse (pki.basicConstraintsFromDer value) .parseCertificate
      return bc.ca.getD false

def checkRootCaMatch (localChain peerChain : CertChain) : Except CryptoError Unit :=
  if localChain.root ≠ peerChain.root then
    .error (.peerCertChainValidation "Root CA mismatch between local and peer certificate chains")
  else .ok ()

/-- The loop of `validate_peer_cert_chain` over the issuers of the peer chain. -/
def checkIssuersAreCa : List Octets → Except CryptoError Unit
  | [] => .ok ()
  | certDer :: rest => do
    let issuer ← orElse (pki.certificateFromDer certDer) .parseCertificate
    if ← isCaCertificate pki issuer then checkIssuersAreCa rest
    else .error (.peerCertChainValidation
      "Peer chain contains a non-CA issuer certificate (BasicConstraints cA=TRUE missing)")

def validatePeerCertChain (localChainPem peerChainPem : Octets) :
    Except CryptoError Unit := do
  let localChain ← extractCertChainFromPem pki localChainPem
  let peerChain ← extractCertChainFromPem pki peerChainPem
  verifyCertificateChain pki peerChain.1
  checkRootCaMatch localChain peerChain
  let localLeaf ← orElse (pki.certificateFromDer localChain.leaf) .parseCertificate
  let peerLeaf ← orElse (pki.certificateFromDer peerChain.leaf) .parseCertificate
  if localLeaf.tbsCertificate.subject ≠ peerLeaf.tbsCertificate.subject then
    .error (.peerCertChainValidation
      "Leaf certificate Subject Name mismatch between local and peer chains")
  else checkIssuersAreCa pki (peerChain.1.drop 1)

end

/-! What the checks establish, in terms of the given relations. -/

section

variable (pki : Pki)

def SignedBy (subject issuer : Octets) : Prop :=
  ∃ s i key tbs signature, pki.certificateFromDer subject = some s ∧
    pki.certificateFromDer issuer = some i ∧
    i.tbsCertificate.subjectPublicKeyInfo.subjectPublicKey.asBytes = some key ∧
    pki.tbsToDer s.tbsCertificate = some tbs ∧ s.signatureValue.asBytes = some signature ∧
    s.signatureAlgorithm.algorithm = ECDSA_WITH_SHA384 ∧
    pki.ecdsaP384Sha384 key tbs signature = true

def SignsMessage (cert message signature : Octets) : Prop :=
  ∃ c key, pki.certificateFromDer cert = some c ∧
    c.tbsCertificate.subjectPublicKeyInfo.subjectPublicKey.asBytes = some key ∧
    c.signatureAlgorithm.algorithm = ECDSA_WITH_SHA384 ∧
    pki.ecdsaP384Sha384 key message signature = true

def IsCa (cert : Octets) : Prop :=
  ∃ c extensions ext value bc, pki.certificateFromDer cert = some c ∧
    c.tbsCertificate.extensions = some extensions ∧
    extensions.find? (·.extnId = BASIC_CONSTRAINTS_OID) = some ext ∧
    ext.extnValue = some value ∧ pki.basicConstraintsFromDer value = some bc ∧ bc.ca = some true

def SameSubject (a b : Octets) : Prop :=
  ∃ c d, pki.certificateFromDer a = some c ∧ pki.certificateFromDer b = some d ∧
    c.tbsCertificate.subject = d.tbsCertificate.subject

/-- The peer chain is as trustworthy as the local one. -/
structure Validated (localChain peerChain : CertChain) : Prop where
  links : List.IsChain (SignedBy pki) peerChain.1
  issuers : ∀ cert ∈ peerChain.1.drop 1, IsCa pki cert
  root : localChain.root = peerChain.root
  subject : SameSubject pki localChain.leaf peerChain.leaf

variable {pki}

private theorem ecdsaVerify_ok {key data signature : Octets} :
    ecdsaVerify pki key data signature = .ok () ↔
      pki.ecdsaP384Sha384 key data signature = true := by
  unfold ecdsaVerify
  split_ifs with h
  · simp [h]
  · simp [h]

theorem verifySignatureWithAlgorithm_ok {key message signature : Octets}
    {alg : AlgorithmIdentifier} :
    verifySignatureWithAlgorithm pki key message signature alg = .ok () ↔
      alg.algorithm = ECDSA_WITH_SHA384 ∧ pki.ecdsaP384Sha384 key message signature = true := by
  unfold verifySignatureWithAlgorithm
  split_ifs with h
  · rw [mapError_ok, ecdsaVerify_ok]
    simp [h]
  · simp [h]

theorem verifySignatureWithCert_ok {cert message signature : Octets} :
    verifySignatureWithCert pki cert message signature = .ok () ↔
      SignsMessage pki cert message signature := by
  unfold verifySignatureWithCert extractPublicKeyFromCert SignsMessage
  simp only [except_bind_ok, orElse_ok, verifySignatureWithAlgorithm_ok]
  constructor
  · rintro ⟨c, hc, key, hkey, halg, hsig⟩
    exact ⟨c, key, hc, hkey, halg, hsig⟩
  · rintro ⟨c, key, hc, hkey, halg, hsig⟩
    exact ⟨c, hc, key, hkey, halg, hsig⟩

private theorem verifyCertSignature_ok {s i : Certificate} :
    verifyCertSignature pki s i = .ok () ↔ ∃ key tbs signature,
      i.tbsCertificate.subjectPublicKeyInfo.subjectPublicKey.asBytes = some key ∧
      pki.tbsToDer s.tbsCertificate = some tbs ∧ s.signatureValue.asBytes = some signature ∧
      s.signatureAlgorithm.algorithm = ECDSA_WITH_SHA384 ∧
      pki.ecdsaP384Sha384 key tbs signature = true := by
  unfold verifyCertSignature extractPublicKeyFromCert
  simp only [except_bind_ok, orElse_ok, verifySignatureWithAlgorithm_ok]
  constructor
  · rintro ⟨key, hkey, signature, hsig, tbs, htbs, halg, hver⟩
    exact ⟨key, tbs, signature, hkey, htbs, hsig, halg, hver⟩
  · rintro ⟨key, tbs, signature, hkey, htbs, hsig, halg, hver⟩
    exact ⟨key, hkey, signature, hsig, tbs, htbs, halg, hver⟩

theorem verifyLinks_ok {chain : List Octets} :
    verifyLinks pki chain = .ok () ↔ List.IsChain (SignedBy pki) chain := by
  induction chain with
  | nil => simp [verifyLinks]
  | cons subject tail ih =>
    cases tail with
    | nil => simp [verifyLinks]
    | cons issuer rest =>
      rw [List.isChain_cons_cons, verifyLinks]
      simp only [except_bind_ok, orElse_ok, Unique.exists_iff, PUnit.default_eq_unit,
        verifyCertSignature_ok, ih]
      constructor
      · rintro ⟨s, hs, i, hi, ⟨key, tbs, signature, h⟩, hrest⟩
        exact ⟨⟨s, i, key, tbs, signature, hs, hi, h⟩, hrest⟩
      · rintro ⟨⟨s, i, key, tbs, signature, hs, hi, h⟩, hrest⟩
        exact ⟨s, hs, i, hi, ⟨key, tbs, signature, h⟩, hrest⟩

theorem verifyCertificateChain_ok {chain : CertChain} :
    verifyCertificateChain pki chain.1 = .ok () ↔ List.IsChain (SignedBy pki) chain.1 := by
  have hne : chain.1.isEmpty = false := by simp [chain.2]
  unfold verifyCertificateChain
  rw [hne]
  by_cases hone : chain.1.length = 1
  · obtain ⟨cert, hcert⟩ := List.length_eq_one_iff.mp hone
    simp [hcert]
  · simp [hone, verifyLinks_ok]

theorem verifyCertChainAndSignature_ok {pem message signature : Octets} :
    verifyCertChainAndSignature pki pem message signature = .ok () ↔
      ∃ chain, extractCertChainFromPem pki pem = .ok chain ∧ List.IsChain (SignedBy pki) chain.1 ∧
        SignsMessage pki chain.leaf message signature := by
  unfold verifyCertChainAndSignature
  simp only [except_bind_ok, Unique.exists_iff, PUnit.default_eq_unit, verifyCertificateChain_ok,
    verifySignatureWithCert_ok]

theorem isCaCertificate_true {c : Certificate} :
    isCaCertificate pki c = .ok true ↔ ∃ extensions ext value bc,
      c.tbsCertificate.extensions = some extensions ∧
      extensions.find? (·.extnId = BASIC_CONSTRAINTS_OID) = some ext ∧
      ext.extnValue = some value ∧ pki.basicConstraintsFromDer value = some bc ∧
      bc.ca = some true := by
  unfold isCaCertificate
  cases hext : c.tbsCertificate.extensions with
  | none => simp
  | some extensions =>
    cases hfind : extensions.find? (·.extnId = BASIC_CONSTRAINTS_OID) with
    | none => simp [hfind]
    | some ext =>
      simp only [hfind, except_bind_ok, orElse_ok]
      constructor
      · rintro ⟨value, hvalue, bc, hbc, hca⟩
        refine ⟨extensions, ext, value, bc, rfl, hfind, hvalue, hbc, ?_⟩
        have hget : bc.ca.getD false = true := Except.ok.inj hca
        cases hb : bc.ca with
        | none => simp [hb] at hget
        | some b => simpa [hb] using hget
      · rintro ⟨exts, ext', value, bc, hexts, hfind', hvalue, hbc, hca⟩
        cases hexts
        rw [hfind] at hfind'
        cases hfind'
        refine ⟨value, hvalue, bc, hbc, ?_⟩
        rw [hca]
        rfl

theorem checkIssuersAreCa_ok {certs : List Octets} :
    checkIssuersAreCa pki certs = .ok () ↔ ∀ cert ∈ certs, IsCa pki cert := by
  induction certs with
  | nil => simp [checkIssuersAreCa]
  | cons cert rest ih =>
    rw [List.forall_mem_cons, checkIssuersAreCa, except_bind_ok]
    simp only [orElse_ok, except_bind_ok]
    constructor
    · rintro ⟨c, hc, b, hb, hrest⟩
      cases b with
      | false => simp at hrest
      | true =>
        obtain ⟨extensions, ext, value, bc, h⟩ := isCaCertificate_true.mp hb
        exact ⟨⟨c, extensions, ext, value, bc, hc, h⟩, ih.mp (by simpa using hrest)⟩
    · rintro ⟨⟨c, extensions, ext, value, bc, hc, h⟩, hrest⟩
      refine ⟨c, hc, true, isCaCertificate_true.mpr ⟨extensions, ext, value, bc, h⟩, ?_⟩
      simpa using ih.mpr hrest

theorem validatePeerCertChain_ok {localPem peerPem : Octets} :
    validatePeerCertChain pki localPem peerPem = .ok () ↔
      ∃ localChain peerChain, extractCertChainFromPem pki localPem = .ok localChain ∧
        extractCertChainFromPem pki peerPem = .ok peerChain ∧
        Validated pki localChain peerChain := by
  unfold validatePeerCertChain checkRootCaMatch
  simp only [except_bind_ok, orElse_ok, Unique.exists_iff, PUnit.default_eq_unit,
    verifyCertificateChain_ok]
  constructor
  · rintro ⟨l, hl, p, hp, hlinks, hroot, lc, hlc, pc, hpc, hrest⟩
    have hsame : l.root = p.root := by
      by_contra hne
      simp [hne] at hroot
    have hsubject : lc.tbsCertificate.subject = pc.tbsCertificate.subject := by
      by_contra hne
      simp [hne] at hrest
    rw [if_neg (not_not.mpr hsubject)] at hrest
    exact ⟨l, p, hl, hp, hlinks, checkIssuersAreCa_ok.mp hrest, hsame, lc, pc, hlc, hpc, hsubject⟩
  · rintro ⟨l, p, hl, hp, hlinks, hissuers, hroot, lc, pc, hlc, hpc, hsubject⟩
    refine ⟨l, hl, p, hp, hlinks, ?_, lc, hlc, pc, hpc, ?_⟩
    · rw [if_neg (not_not.mpr hroot)]
    · rw [if_neg (not_not.mpr hsubject)]
      exact checkIssuersAreCa_ok.mpr hissuers

theorem Validated.trans {a b c : CertChain} (hab : Validated pki a b) (hbc : Validated pki b c) :
    Validated pki a c := by
  refine ⟨hbc.links, hbc.issuers, hab.root.trans hbc.root, ?_⟩
  obtain ⟨ca, cb, ha, hb, hsab⟩ := hab.subject
  obtain ⟨cb', cc, hb', hc, hsbc⟩ := hbc.subject
  rw [hb] at hb'
  cases hb'
  exact ⟨ca, cc, ha, hc, hsab.trans hsbc⟩

theorem validatePeerCertChain_trans {a b c : Octets}
    (hab : validatePeerCertChain pki a b = .ok ())
    (hbc : validatePeerCertChain pki b c = .ok ()) : validatePeerCertChain pki a c = .ok () := by
  obtain ⟨ca, cb, ha, hb, vab⟩ := validatePeerCertChain_ok.mp hab
  obtain ⟨cb', cc, hb', hc, vbc⟩ := validatePeerCertChain_ok.mp hbc
  rw [hb] at hb'
  cases hb'
  exact validatePeerCertChain_ok.mpr ⟨ca, cc, ha, hc, vab.trans vbc⟩

end

end MigTd.Crypto.Certificates
