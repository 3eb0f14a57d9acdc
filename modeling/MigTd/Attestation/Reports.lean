/- source: attest.rs, attestation/src/lib.rs, policy/src/lib.rs
   digest: TDREPORT and verified quote reports as byte layouts, and the quote verification calls. -/

import MigTd.Lib.ByteCodec
import MigTd.Lib.Ascii

set_option autoImplicit false

namespace MigTd.Attestation.Reports

open Lib.Ascii Lib.ByteCodec

def slice {n : Nat} (b : Bytes n) (start size : Nat) (h : start + size ≤ n) : Bytes size :=
  ⟨(b.1.drop start).take size, by
    rw [List.length_take, List.length_drop, b.2]
    omega⟩

abbrev TdInfo := Bytes 512

namespace TdInfo

variable (t : TdInfo)

def mrtd : Bytes 48 := slice t 16 48 (by decide)
def mrowner : Bytes 48 := slice t 112 48 (by decide)
def mrownerconfig : Bytes 48 := slice t 160 48 (by decide)
def rtmr0 : Bytes 48 := slice t 208 48 (by decide)
def rtmr1 : Bytes 48 := slice t 256 48 (by decide)
def rtmr2 : Bytes 48 := slice t 304 48 (by decide)
def rtmr3 : Bytes 48 := slice t 352 48 (by decide)

end TdInfo

/-! `TDREPORT_STRUCT`: REPORTMACSTRUCT, TEE_TCB_INFO, padding and TDINFO_STRUCT. -/

abbrev TdxReport := Bytes 1024

namespace TdxReport

/-- Copy the report out of the first 1024 bytes; shorter inputs are refused. -/
def readFromBytes (bytes : Octets) : Option TdxReport :=
  (array 1024 bytes).map Prod.fst

variable (r : TdxReport)

def reportMac : Bytes 256 := slice r 0 256 (by decide)
def teeTcbInfoHash : Bytes 48 := slice r 32 48 (by decide)
def teeInfoHash : Bytes 48 := slice r 80 48 (by decide)
def reportData : Bytes 64 := slice r 128 64 (by decide)
def teeTcbInfo : Bytes 239 := slice r 256 239 (by decide)
def teeTcbSvn : Bytes 16 := slice r 264 16 (by decide)
def tdInfo : TdInfo := slice r 512 512 (by decide)

theorem readFromBytes_self : readFromBytes r.1 = some r := by
  have hread := decodes_array r []
  rw [List.append_nil] at hread
  unfold readFromBytes
  rw [hread]
  rfl

variable {r} {bytes : Octets}

private theorem readFromBytes_some (h : readFromBytes bytes = some r) :
    r.1 = bytes.take 1024 ∧ 1024 ≤ bytes.length := by
  unfold readFromBytes array at h
  split at h
  · rename_i hlen
    simp only [Option.map_some, Option.some.injEq] at h
    rw [← h]
    exact ⟨rfl, hlen⟩
  · simp at h

theorem reportData_of_read (h : readFromBytes bytes = some r) :
    r.reportData.1 = (bytes.drop 128).take 64 := by
  obtain ⟨hr, -⟩ := readFromBytes_some h
  change (r.1.drop 128).take 64 = _
  rw [hr, List.drop_take, List.take_take]
  rfl

end TdxReport

def TD_VERIFIED_REPORT_SIZE : Nat := 822

abbrev VerifiedReport := Bytes TD_VERIFIED_REPORT_SIZE

namespace VerifiedReport

variable (v : VerifiedReport)

def mrtd : Bytes 48 := slice v 136 48 (by decide)
def mrowner : Bytes 48 := slice v 232 48 (by decide)
def mrownerconfig : Bytes 48 := slice v 280 48 (by decide)
def rtmr0 : Bytes 48 := slice v 328 48 (by decide)
def rtmr1 : Bytes 48 := slice v 376 48 (by decide)
def rtmr2 : Bytes 48 := slice v 424 48 (by decide)
def rtmr3 : Bytes 48 := slice v 472 48 (by decide)
def reportData : Bytes 64 := slice v 520 64 (by decide)
def tcbDate : Bytes 8 := slice v 734 8 (by decide)
def tcbStatus : Bytes 32 := slice v 742 32 (by decide)

end VerifiedReport

/-- The collateral as it is handed to the verifier; its texts have no NUL inside. -/
structure Collateral where
  majorVersion : UInt16
  minorVersion : UInt16
  teeType : UInt32
  pckCrlIssuerChain : Text
  rootCaCrl : Text
  pckCrl : Text
  tcbInfoIssuerChain : Text
  tcbInfo : Text
  qeIdentityIssuerChain : Text
  qeIdentity : Text

/-- What the C verifier returns: a status, its output buffer and the size it claims. -/
structure VerifierOutput where
  result : Int
  tdReportVerify : Bytes 1024
  reportVerifySize : UInt32

/-- The quote verification library and the root key that was set for it. -/
structure AttestLib where
  rootCaPublicKey : Option Octets
  verifyQuoteIntegrity : Octets → Octets → VerifierOutput
  verifyQuoteIntegrityEx : Octets → Octets → Collateral → VerifierOutput

inductive AttestError where
  | invalidRootCa
  | verifyQuote
  | invalidOutput
  deriving DecidableEq, Repr

/-- MISC_SELECT and the attributes of the quoting enclave, cut down to the masks behind them. -/
def maskVerifiedReportValues (v : VerifiedReport) : VerifiedReport :=
  ⟨v.1.take 626 ++ (List.zipWith (· &&& ·) ((v.1.drop 626).take 4) ((v.1.drop 630).take 4) ++
      ((v.1.drop 630).take 4 ++
        (List.zipWith (· &&& ·) ((v.1.drop 634).take 16) ((v.1.drop 650).take 16) ++
          v.1.drop 650))), by
    simp only [List.length_append, List.length_take, List.length_drop, List.length_zipWith, v.2]
    decide⟩

def acceptOutput (out : VerifierOutput) : Except AttestError VerifiedReport :=
  if out.result ≠ 0 then .error .verifyQuote
  else if out.reportVerifySize.toNat ≠ TD_VERIFIED_REPORT_SIZE then .error .invalidOutput
  else .ok (maskVerifiedReportValues
    (slice out.tdReportVerify 0 TD_VERIFIED_REPORT_SIZE (by decide)))

def verifyQuote (lib : AttestLib) (quote : Octets) : Except AttestError VerifiedReport :=
  match lib.rootCaPublicKey with
  | none => .error .invalidRootCa
  | some publicKey => acceptOutput (lib.verifyQuoteIntegrity quote publicKey)

def verifyQuoteWithCollaterals (lib : AttestLib) (quote : Octets) (collateral : Collateral) :
    Except AttestError VerifiedReport :=
  match lib.rootCaPublicKey with
  | none => .error .invalidRootCa
  | some publicKey => acceptOutput (lib.verifyQuoteIntegrityEx quote publicKey collateral)

def VerifierOutput.reportData (out : VerifierOutput) : Bytes 64 :=
  slice out.tdReportVerify 520 64 (by decide)

private theorem mask_reportData (v : VerifiedReport) :
    (maskVerifiedReportValues v).reportData = v.reportData := by
  apply Subtype.ext
  have hlen : (v.1.take 626).length = 626 := by
    rw [List.length_take, v.2]
    decide
  change (((v.1.take 626) ++ _).drop 520).take 64 = (v.1.drop 520).take 64
  rw [List.drop_append_of_le_length (by omega), List.take_append_of_le_length]
  · rw [List.drop_take, List.take_take]
    rfl
  · rw [List.length_drop, hlen]
    decide

theorem acceptOutput_ok {out : VerifierOutput} {v : VerifiedReport}
    (h : acceptOutput out = .ok v) : out.result = 0 ∧ v.reportData = out.reportData := by
  unfold acceptOutput at h
  split_ifs at h with hresult hsize
  cases h
  refine ⟨not_not.mp hresult, ?_⟩
  rw [mask_reportData]
  apply Subtype.ext
  change (((out.tdReportVerify.1.drop 0).take 822).drop 520).take 64 =
    (out.tdReportVerify.1.drop 520).take 64
  rw [List.drop_zero, List.drop_take, List.take_take]
  rfl

end MigTd.Attestation.Reports
