/- source: spdm/mod.rs
   digest: SPDM status values and their translation to and from the codes reported to the host. -/

import MigTd.Migration.Information

set_option autoImplicit false

namespace MigTd.Spdm.Status

open Migration.Information

inductive StatusSeverity where
  | success
  | error
  deriving DecidableEq, Repr

inductive LibraryCode where
  | invalidMsgField
  | invalidMsgSize
  | invalidStateLocal
  | invalidParameter
  | unsupportedCap
  | bufferFull
  | cryptoError
  | receiveFail
  | other (code : UInt16)
  deriving DecidableEq, Repr

inductive StatusCode where
  | success
  | library (code : LibraryCode)
  | vdm (vdmErrorCode : UInt16)
  deriving DecidableEq, Repr

/-- `SpdmStatus`; `errorData` holds the bytes of a received ERROR message. -/
structure SpdmStatus where
  severity : StatusSeverity
  statusCode : StatusCode
  errorData : Option Octets
  deriving DecidableEq, Repr

namespace SpdmStatus

def ofLibrary (code : LibraryCode) : SpdmStatus := ⟨.error, .library code, none⟩

def SPDM_STATUS_INVALID_MSG_FIELD : SpdmStatus := ofLibrary .invalidMsgField
def SPDM_STATUS_INVALID_MSG_SIZE : SpdmStatus := ofLibrary .invalidMsgSize
def SPDM_STATUS_INVALID_STATE_LOCAL : SpdmStatus := ofLibrary .invalidStateLocal
def SPDM_STATUS_INVALID_PARAMETER : SpdmStatus := ofLibrary .invalidParameter
def SPDM_STATUS_UNSUPPORTED_CAP : SpdmStatus := ofLibrary .unsupportedCap
def SPDM_STATUS_BUFFER_FULL : SpdmStatus := ofLibrary .bufferFull
def SPDM_STATUS_CRYPTO_ERROR : SpdmStatus := ofLibrary .cryptoError
def SPDM_STATUS_RECEIVE_FAIL : SpdmStatus := ofLibrary .receiveFail

def ofMigrationResult (migResult : MigrationResult) : SpdmStatus :=
  if migResult = .success then ⟨.success, .success, none⟩
  else ⟨.error, .vdm migResult.asU8.toUInt16, none⟩

def toMigrationResult (status : SpdmStatus) : MigrationResult :=
  if status.severity = .success then .success
  else match status.statusCode with
    | .vdm code => (MigrationResult.tryFrom code.toUInt8).getD .secureSessionError
    | _ => .secureSessionError

/-- The application code that a status carries on the wire, or zero. -/
def appError (status : SpdmStatus) : UInt8 :=
  match status.statusCode with
  | .vdm code => code.toUInt8
  | _ => 0

end SpdmStatus

/-- `SpdmErrorCode`: the codes that the dispatcher puts into Param1 of an ERROR message. -/
inductive SpdmErrorCode where
  | invalidRequest
  | unspecified
  | versionMismatch
  | vendorDefined
  deriving DecidableEq, Repr

def SpdmErrorCode.getU8 : SpdmErrorCode → UInt8
  | invalidRequest => 0x01
  | unspecified => 0x05
  | versionMismatch => 0x41
  | vendorDefined => 0xFF

def SPDM_RESPONSE_ERROR : UInt8 := 0x7F

def spdmError (version : UInt8) (code : SpdmErrorCode) (data : UInt8) : Octets :=
  [version, SPDM_RESPONSE_ERROR, code.getU8, data]

/-- `decode_spdm_session_err`: the code that the host is told for a failed session. -/
def decodeSpdmSessionErr (e : SpdmStatus) : MigrationResult :=
  let localResult := e.toMigrationResult
  if localResult ≠ .secureSessionError then localResult
  else match e.errorData with
    | some (_ :: _ :: param1 :: param2 :: _) =>
      if param1 = SpdmErrorCode.vendorDefined.getU8 then
        (MigrationResult.tryFrom param2).getD .secureSessionError
      else .secureSessionError
    | _ => .secureSessionError

/-- An ERROR message that claims a vendor-defined failure but carries the code of success. -/
def MuteVendorError (bytes : Octets) : Prop :=
  ∃ version response rest, bytes = version :: response :: SpdmErrorCode.vendorDefined.getU8 ::
    MigrationResult.success.asU8 :: rest

section

variable {e : SpdmStatus}

theorem asU8_toUInt16_toUInt8 (r : MigrationResult) : r.asU8.toUInt16.toUInt8 = r.asU8 := by
  cases r <;> rfl

variable {r : MigrationResult}

theorem appError_ofMigrationResult (h : r ≠ .success) :
    (SpdmStatus.ofMigrationResult r).appError = r.asU8 := by
  rw [SpdmStatus.ofMigrationResult, if_neg h]
  exact asU8_toUInt16_toUInt8 r

theorem decode_ofMigrationResult (h : r ≠ .success) :
    decodeSpdmSessionErr (SpdmStatus.ofMigrationResult r) = r := by
  have hl : (SpdmStatus.ofMigrationResult r).toMigrationResult = r := by
    rw [SpdmStatus.ofMigrationResult, if_neg h]
    change (MigrationResult.tryFrom r.asU8.toUInt16.toUInt8).getD _ = r
    rw [asU8_toUInt16_toUInt8, MigrationResult.tryFrom_asU8]
    rfl
  have hd : (SpdmStatus.ofMigrationResult r).errorData = none := by
    rw [SpdmStatus.ofMigrationResult, if_neg h]
  unfold decodeSpdmSessionErr
  rw [hl, hd]
  by_cases hs : r = .secureSessionError
  · simp [hs]
  · simp [hs]

variable {code : LibraryCode}

private theorem toMigrationResult_library (he : e.severity = .error)
    (hc : e.statusCode = .library code) : e.toMigrationResult = .secureSessionError := by
  unfold SpdmStatus.toMigrationResult
  rw [he, hc]
  rfl

theorem decode_library (he : e.severity = .error) (hc : e.statusCode = .library code) :
    decodeSpdmSessionErr e = match e.errorData with
      | some (_ :: _ :: param1 :: param2 :: _) =>
        if param1 = SpdmErrorCode.vendorDefined.getU8 then
          (MigrationResult.tryFrom param2).getD .secureSessionError
        else .secureSessionError
      | _ => .secureSessionError := by
  unfold decodeSpdmSessionErr
  rw [toMigrationResult_library he hc]
  rfl

theorem decode_library_success (he : e.severity = .error) (hc : e.statusCode = .library code) :
    decodeSpdmSessionErr e = .success ↔ ∃ bytes, e.errorData = some bytes ∧ MuteVendorError bytes := by
  rw [decode_library he hc]
  constructor
  · intro h
    split at h
    · rename_i version response param1 param2 rest hd
      split at h
      · rename_i hv
        cases ht : MigrationResult.tryFrom param2 with
        | none =>
          rw [ht] at h
          cases h
        | some r =>
          rw [ht] at h
          have hr : r = .success := h
          have hp := MigrationResult.asU8_of_tryFrom ht
          rw [hr] at hp
          exact ⟨_, hd, version, response, rest, by rw [hv, hp]⟩
      · cases h
    · cases h
  · rintro ⟨bytes, hd, version, response, rest, rfl⟩
    rw [hd]
    rfl

theorem decode_vendorDefined (he : e.severity = .error)
    (hc : e.statusCode = .library code) {version : UInt8}
    (hd : e.errorData = some (spdmError version .vendorDefined r.asU8)) :
    decodeSpdmSessionErr e = r := by
  rw [decode_library he hc, hd]
  change (MigrationResult.tryFrom r.asU8).getD _ = r
  rw [MigrationResult.tryFrom_asU8]
  rfl

end

end MigTd.Spdm.Status
