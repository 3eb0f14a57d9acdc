/- source: migration/mod.rs, crypto/src/lib.rs, hash.rs
   digest: Result codes, build features and the per-request migration information. -/

import MigTd.Lib.ByteCodec

set_option autoImplicit false

namespace MigTd.Migration.Information

open Lib.ByteCodec

inductive MigrationResult where
  | success
  | invalidParameter
  | unsupported
  | outOfResource
  | tdxModuleError
  | networkError
  | secureSessionError
  | mutualAttestationError
  | policyUnsatisfiedError
  | invalidPolicyError
  | vmmCanceled
  | vmmInternalError
  | unsupportedOperationError
  | initializationError
  deriving DecidableEq, Repr

namespace MigrationResult

def asU8 : MigrationResult → UInt8
  | success => 0
  | invalidParameter => 1
  | unsupported => 2
  | outOfResource => 3
  | tdxModuleError => 4
  | networkError => 5
  | secureSessionError => 6
  | mutualAttestationError => 7
  | policyUnsatisfiedError => 8
  | invalidPolicyError => 9
  | vmmCanceled => 10
  | vmmInternalError => 11
  | unsupportedOperationError => 12
  | initializationError => 0xFF

/-- The checked conversion back; every other byte is refused. -/
def tryFrom (value : UInt8) : Option MigrationResult :=
  match value with
  | 0 => some success
  | 1 => some invalidParameter
  | 2 => some unsupported
  | 3 => some outOfResource
  | 4 => some tdxModuleError
  | 5 => some networkError
  | 6 => some secureSessionError
  | 7 => some mutualAttestationError
  | 8 => some policyUnsatisfiedError
  | 9 => some invalidPolicyError
  | 10 => some vmmCanceled
  | 11 => some vmmInternalError
  | 12 => some unsupportedOperationError
  | 0xFF => some initializationError
  | _ => none

@[simp] theorem tryFrom_asU8 (r : MigrationResult) : tryFrom r.asU8 = some r := by
  cases r <;> rfl

theorem asU8_of_tryFrom {b : UInt8} {r : MigrationResult} (h : tryFrom b = some r) :
    b = r.asU8 := by
  unfold tryFrom at h
  split at h <;> cases h <;> rfl

end MigrationResult

/-- Errors of the crypto crate that the modelled functions produce or inspect. -/
inductive CryptoError where
  | calculateDigest
  | parseCertificate
  | generateCertificate
  | ecdsaVerify
  | tlsStream
  | tlsVerifyPeerCert (desc : String)
  | decodePemCert
  | certChainVerification (desc : String)
  | signatureVerification
  | unsupportedAlgorithm
  | peerCertChainValidation (desc : String)
  deriving DecidableEq, Repr

def SHA384_DIGEST_SIZE : Nat := 48

/-- `digest_sha384`: the digest of the ring library, refused when its size is unexpected. -/
def digestSha384 (sha384 : Octets → Octets) (data : Octets) :
    Except CryptoError Octets :=
  if (sha384 data).length ≠ SHA384_DIGEST_SIZE then .error .calculateDigest
  else .ok (sha384 data)

theorem digestSha384_ok {sha384 : Octets → Octets} {data d : Octets}
    (h : digestSha384 sha384 data = .ok d) :
    d = sha384 data ∧ d.length = SHA384_DIGEST_SIZE := by
  unfold digestSha384 at h
  split at h
  · cases h
  · rename_i hl
    cases h
    exact ⟨rfl, not_not.mp hl⟩

/-- The cargo features that change the modelled code; the test features are off. -/
structure Build where
  policyV2 : Bool
  vmcallRaw : Bool
  deriving DecidableEq, Repr

/-- Rebinding is compiled in by `all(main, policy_v2, vmcall-raw)`. -/
def Build.rebinding (b : Build) : Bool := b.policyV2 && b.vmcallRaw

abbrev TargetTdUuid := Words 4

def TD_INFO_SIZE : Nat := 512

/-- `MigtdMigrationInformation`; `mig_policy_id` and `communication_id` exist only without
`vmcall-raw`, `init_td_info` only with `policy_v2`. -/
structure MigtdMigrationInformation where
  migRequestId : UInt64
  migrationSource : UInt8
  hasInitData : UInt8
  targetTdUuid : TargetTdUuid
  bindingHandle : UInt64
  migPolicyId : UInt64
  communicationId : UInt64
  initTdInfo : Bytes TD_INFO_SIZE
  deriving DecidableEq

namespace MigtdMigrationInformation

def default : MigtdMigrationInformation where
  migRequestId := 0
  migrationSource := 0
  hasInitData := 0
  targetTdUuid := ⟨[0, 0, 0, 0], rfl⟩
  bindingHandle := 0
  migPolicyId := 0
  communicationId := 0
  initTdInfo := Bytes.zero TD_INFO_SIZE

def initTdInfoIfPresent (info : MigtdMigrationInformation) : Option (Bytes TD_INFO_SIZE) :=
  if info.hasInitData = 1 then some info.initTdInfo else none

def isSrc (info : MigtdMigrationInformation) : Bool := info.migrationSource == 1

end MigtdMigrationInformation

end MigTd.Migration.Information
