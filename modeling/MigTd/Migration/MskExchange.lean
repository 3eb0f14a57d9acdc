/- source: session.rs, data.rs
   digest: Version negotiation and the TDCALLs that read and install a migration session key. -/

import MigTd.Migration.ServtdRecord
import Mathlib.Order.Bounds.Basic

set_option autoImplicit false

namespace MigTd.Migration.MskExchange

open Lib.StateProgram Lib.ByteCodec Information ServtdRecord Tdx.Module

def TDCS_FIELD_MIG_DEC_KEY : UInt64 := 0x9810000300000010
def TDCS_FIELD_MIG_ENC_KEY : UInt64 := 0x9810000300000018
def TDCS_FIELD_MIG_VERSION : UInt64 := 0x9810000100000020
def GSM_FIELD_MIN_EXPORT_VERSION : UInt64 := 0x2000000100000001
def GSM_FIELD_MAX_EXPORT_VERSION : UInt64 := 0x2000000100000002
def GSM_FIELD_MIN_IMPORT_VERSION : UInt64 := 0x2000000100000003
def GSM_FIELD_MAX_IMPORT_VERSION : UInt64 := 0x2000000100000004

abbrev MigrationSessionKey := Words 4

structure ExchangeInformation where
  key : MigrationSessionKey
  minVer : UInt16
  maxVer : UInt16
  reserved : Bytes 4
  deriving DecidableEq

def EXCHANGE_INFORMATION_SIZE : Nat := 40

namespace ExchangeInformation

def validate (x : ExchangeInformation) : Except MigrationResult Unit :=
  if x.reserved.1 ≠ [0, 0, 0, 0] then .error .invalidParameter else .ok ()

def asBytes (x : ExchangeInformation) : Octets :=
  putWords x.key.1 ++ (putU16 x.minVer ++ (putU16 x.maxVer ++ x.reserved.1))

/-- The record that overwriting its memory with received bytes leaves. -/
def layout : Decoder ExchangeInformation := do
  let key ← wordArray 4
  let minVer ← u16
  let maxVer ← u16
  let reserved ← array 4
  return { key, minVer, maxVer, reserved }

end ExchangeInformation

section

variable (tdx : TdxModule) (info : MigtdMigrationInformation)

def readWords : (n : Nat) → (field : UInt64) → TdProgram (Words n)
  | 0, _ => pure ⟨[], rfl⟩
  | n + 1, field => do
    let content ← tdCall tdx (.servtdRd info.bindingHandle field info.targetTdUuid)
    let rest ← readWords n (field + 1)
    return ⟨content :: rest.1, by simp [rest.2]⟩

abbrev readMsk : TdProgram MigrationSessionKey := readWords tdx info 4 TDCS_FIELD_MIG_ENC_KEY

def writeWords : (field : UInt64) → List UInt64 → TdProgram Unit
  | _, [] => pure ()
  | field, word :: rest => do
    let _ ← tdCall tdx (.servtdWr info.bindingHandle field word info.targetTdUuid)
    writeWords (field + 1) rest

abbrev writeMsk (msk : MigrationSessionKey) : TdProgram Unit :=
  writeWords tdx info TDCS_FIELD_MIG_DEC_KEY msk.1

abbrev setMigVersion (migVer : UInt16) : TdProgram Unit := do
  let _ ← tdCall tdx
    (.servtdWr info.bindingHandle TDCS_FIELD_MIG_VERSION migVer.toUInt64 info.targetTdUuid)

def versionFields (isSrc : Bool) : UInt64 × UInt64 :=
  if isSrc then (GSM_FIELD_MIN_EXPORT_VERSION, GSM_FIELD_MAX_EXPORT_VERSION)
  else (GSM_FIELD_MIN_IMPORT_VERSION, GSM_FIELD_MAX_IMPORT_VERSION)

abbrev exchangeInfo (isSrc : Bool) : TdProgram ExchangeInformation := do
  let key ← readMsk tdx info
  let minVersion ← tdCall tdx (.sysRd (versionFields isSrc).1)
  let maxVersion ← tdCall tdx (.sysRd (versionFields isSrc).2)
  ensure (minVersion.toNat ≤ 0xFFFF ∧ maxVersion.toNat ≤ 0xFFFF) .invalidParameter
  return {
    key
    minVer := minVersion.toUInt16
    maxVer := maxVersion.toUInt16
    reserved := Bytes.zero 4 }

end

/-- `cal_mig_version`: the roles decide which range is the exporting one. -/
abbrev calMigVersion (isSrc : Bool) (localInfo remoteInfo : ExchangeInformation) :
    Except MigrationResult UInt16 :=
  let exporter := if isSrc then localInfo else remoteInfo
  let importer := if isSrc then remoteInfo else localInfo
  if exporter.minVer > exporter.maxVer ∨ importer.minVer > importer.maxVer ∨
      exporter.maxVer < importer.minVer ∨ importer.maxVer < exporter.minVer then
    .error .invalidParameter
  else
    .ok (min exporter.maxVer importer.maxVer)

theorem asBytes_length (x : ExchangeInformation) :
    x.asBytes.length = EXCHANGE_INFORMATION_SIZE := by
  have hk : (putWords x.key.1).length = 32 := by
    obtain ⟨key, hkey⟩ := x.key
    have h8 : ∀ w : UInt64, (putU64 w).length = 8 := fun w => leBytes_length 8 w.toNat
    simp [putWords, List.length_flatMap, h8, hkey]
  have hmin : (putU16 x.minVer).length = 2 := leBytes_length 2 _
  have hmax : (putU16 x.maxVer).length = 2 := leBytes_length 2 _
  simp only [ExchangeInformation.asBytes, List.length_append, hk, hmin, hmax, x.reserved.2]
  rfl

theorem decodes_layout (x : ExchangeInformation) :
    Decodes ExchangeInformation.layout x x.asBytes := by
  refine Decodes.bind (decodes_wordArray x.key) ?_
  refine Decodes.bind (decodes_u16 x.minVer) ?_
  refine Decodes.bind (decodes_u16 x.maxVer) ?_
  exact (decodes_array x.reserved).last fun reserved => { x with reserved }

def wordReads (info : MigtdMigrationInformation) : UInt64 → List UInt64 → TdLog
  | _, [] => []
  | field, word :: rest =>
    ⟨.servtdRd info.bindingHandle field info.targetTdUuid, .ok word⟩ ::
      wordReads info (field + 1) rest

def wordWrites (info : MigtdMigrationInformation) : UInt64 → List UInt64 → List TdCall
  | _, [] => []
  | field, word :: rest =>
    .servtdWr info.bindingHandle field word info.targetTdUuid :: wordWrites info (field + 1) rest

/-- What the module reports to a side that offers this information. -/
def exchangeEvents (info : MigtdMigrationInformation) (isSrc : Bool) (x : ExchangeInformation) :
    TdLog :=
  wordReads info TDCS_FIELD_MIG_ENC_KEY x.key.1 ++
    [⟨.sysRd (versionFields isSrc).1, .ok x.minVer.toUInt64⟩,
      ⟨.sysRd (versionFields isSrc).2, .ok x.maxVer.toUInt64⟩]

/-- The module gives these answers one after another. -/
def Answers (tdx : TdxModule) : TdLog → TdLog → Prop
  | _, [] => True
  | log, e :: rest => tdx log e.call = e.result ∧ Answers tdx (log ++ [e]) rest

def versionWrite (info : MigtdMigrationInformation) (migVer : UInt16) : TdCall :=
  .servtdWr info.bindingHandle TDCS_FIELD_MIG_VERSION migVer.toUInt64 info.targetTdUuid

/-- The version and all four words of the key, in the order in which they are written. -/
def installWrites (info : MigtdMigrationInformation) (migVer : UInt16)
    (key : MigrationSessionKey) : List TdCall :=
  versionWrite info migVer :: wordWrites info TDCS_FIELD_MIG_DEC_KEY key.1

/-- The fields that carry the migration version and the decryption key. -/
def IsMigField (field : UInt64) : Prop :=
  field = TDCS_FIELD_MIG_VERSION ∨ ∃ i : Fin 4, field = TDCS_FIELD_MIG_DEC_KEY + i.val.toUInt64
  deriving Decidable

def WritesMig (bindingHandle : UInt64) (targetTdUuid : TargetTdUuid) (call : TdCall) : Prop :=
  ∃ field data, IsMigField field ∧ call = .servtdWr bindingHandle field data targetTdUuid

/-- A read of the target or of the module's global metadata. -/
def ReadsOnly (call : TdCall) : Prop :=
  (∃ h f u, call = .servtdRd h f u) ∨ ∃ f, call = .sysRd f

variable {migVer : UInt16}

section

variable {tdx : TdxModule} {info : MigtdMigrationInformation} {log log' : TdLog} {field : UInt64}

theorem answers_append (log a b : TdLog) :
    Answers tdx log (a ++ b) ↔ Answers tdx log a ∧ Answers tdx (log ++ a) b := by
  induction a generalizing log with
  | nil => simp [Answers]
  | cons e rest ih => simp [Answers, ih, and_assoc]

theorem readWords_iff {n : Nat} {field : UInt64} {ws : Words n} :
    readWords tdx info n field log = (.ok ws, log') ↔ log' = log ++ wordReads info field ws.1 ∧
      Answers tdx log (wordReads info field ws.1) := by
  induction n generalizing field log with
  | zero =>
    obtain ⟨ws, hws⟩ := ws
    obtain rfl := List.eq_nil_of_length_eq_zero hws
    rw [readWords, pure_ok]
    simp [wordReads, Answers, eq_comm]
  | succ n ih =>
    obtain ⟨ws, hws⟩ := ws
    cases ws with
    | nil => cases hws
    | cons w ws =>
      simp only [readWords, bind_ok, tdCall_ok, pure_ok, wordReads, Answers]
      constructor
      · rintro ⟨v, mid, ⟨hv, rfl⟩, rest, mid', hrest, heq, rfl⟩
        obtain ⟨rfl, rfl⟩ := List.cons.inj (congrArg Subtype.val heq)
        obtain ⟨hlog, hanswers⟩ := ih.mp hrest
        exact ⟨by rw [hlog]; simp, hv, hanswers⟩
      · rintro ⟨hlog, hw, hanswers⟩
        refine ⟨w, _, ⟨hw, rfl⟩, ⟨ws, Nat.succ.inj hws⟩, log', ih.mpr ⟨?_, hanswers⟩, rfl, rfl⟩
        rw [hlog]
        simp

theorem toUInt64_toUInt16 {v : UInt64} (h : v.toNat ≤ 0xFFFF) : v.toUInt16.toUInt64 = v := by
  apply UInt64.toNat_inj.mp
  rw [UInt16.toNat_toUInt64, UInt64.toNat_toUInt16]
  omega

theorem exchangeInfo_iff {isSrc : Bool} {x : ExchangeInformation} :
    exchangeInfo tdx info isSrc log = (.ok x, log') ↔ x.reserved = Bytes.zero 4 ∧
      log' = log ++ exchangeEvents info isSrc x ∧ Answers tdx log (exchangeEvents info isSrc x) := by
  simp only [exchangeInfo, bind_ok, readWords_iff, tdCall_ok, ensure_ok, pure_ok, exchangeEvents,
    answers_append, Answers, and_assoc, exists_and_left, exists_eq_left, exists_eq_left']
  constructor
  · rintro ⟨key, hkey, lo, hlo, hi, hhi, hlo16, hhi16, rfl, -, rfl⟩
    rw [toUInt64_toUInt16 hlo16, toUInt64_toUInt16 hhi16]
    exact ⟨rfl, by simp, hkey, hlo, hhi, trivial⟩
  · rintro ⟨hreserved, rfl, hkey, hlo, hhi, -⟩
    have small (v : UInt16) : v.toUInt64.toNat ≤ 0xFFFF := by
      rw [UInt16.toNat_toUInt64]
      exact Nat.le_of_lt_succ v.toNat_lt
    refine ⟨x.key, hkey, _, hlo, _, hhi, small _, small _, ?_, (), by simp⟩
    rw [UInt16.toUInt16_toUInt64, UInt16.toUInt16_toUInt64, ← hreserved]

instance keeps_readWords (n : Nat) (field : UInt64) :
    Keeps (Issues ReadsOnly) (readWords tdx info n field) := by
  induction n generalizing field with
  | zero => exact keeps_pure _
  | succ n ih =>
    have hc : Keeps (Issues ReadsOnly)
        (tdCall tdx (.servtdRd info.bindingHandle field info.targetTdUuid)) :=
      keeps_tdCall tdx (.inl ⟨_, _, _, rfl⟩)
    unfold readWords
    infer_instance

instance keeps_exchangeInfo (isSrc : Bool) :
    Keeps (Issues ReadsOnly) (exchangeInfo tdx info isSrc) := by
  have hs (f : UInt64) : Keeps (Issues ReadsOnly) (tdCall tdx (.sysRd f)) :=
    keeps_tdCall tdx (.inr ⟨f, rfl⟩)
  unfold exchangeInfo readMsk
  infer_instance

theorem writeWords_ok {ws : List UInt64} {r : Unit}
    (h : writeWords tdx info field ws log = (.ok r, log')) :
    succeeded log' = succeeded log ++ wordWrites info field ws := by
  induction ws generalizing field log with
  | nil =>
    obtain ⟨-, rfl⟩ := pure_ok.mp h
    simp [wordWrites]
  | cons w ws ih =>
    obtain ⟨v, m, hc, hrest⟩ := bind_ok.mp h
    obtain ⟨-, rfl⟩ := tdCall_ok.mp hc
    rw [ih hrest, succeeded_append, succeeded_ok, List.append_assoc]
    rfl

instance keeps_writeWords (field : UInt64) (ws : List UInt64) :
    Keeps (Issues (· ∈ wordWrites info field ws)) (writeWords tdx info field ws) := by
  induction ws generalizing field with
  | nil => exact keeps_pure ()
  | cons w ws ih =>
    have hw : Keeps (Issues (· ∈ wordWrites info field (w :: ws)))
        (tdCall tdx (.servtdWr info.bindingHandle field w info.targetTdUuid)) :=
      keeps_tdCall tdx List.mem_cons_self
    have hws : Keeps (Issues (· ∈ wordWrites info field (w :: ws)))
        (writeWords tdx info (field + 1) ws) :=
      (ih (field + 1)).mono fun _ _ hr => hr.mono fun _ hc => List.mem_cons_of_mem _ hc
    unfold writeWords
    infer_instance

theorem install_ok {msk : MigrationSessionKey} {mid : TdLog} {r r' : Unit}
    (hv : setMigVersion tdx info migVer log = (.ok r, mid))
    (hk : writeMsk tdx info msk mid = (.ok r', log')) :
    succeeded log' = succeeded log ++ installWrites info migVer msk := by
  obtain ⟨v, m, hc, hp⟩ := bind_ok.mp hv
  obtain ⟨-, rfl⟩ := tdCall_ok.mp hc
  obtain ⟨-, rfl⟩ := pure_ok.mp hp
  rw [writeWords_ok hk, succeeded_append, succeeded_ok, List.append_assoc]
  rfl

variable {call : TdCall} {key : MigrationSessionKey}

private theorem mem_wordWrites {ws : List UInt64} (h : call ∈ wordWrites info field ws) :
    ∃ i data, i < ws.length ∧
      call = .servtdWr info.bindingHandle (field + i.toUInt64) data info.targetTdUuid := by
  induction ws generalizing field with
  | nil => cases h
  | cons w ws ih =>
    rcases List.mem_cons.mp h with rfl | h
    · exact ⟨0, w, by simp, by simp⟩
    · obtain ⟨i, data, hi, rfl⟩ := ih h
      refine ⟨i + 1, data, by simpa using hi, ?_⟩
      rw [add_one_add_toUInt64]

theorem writesMig_keyWord (h : call ∈ wordWrites info TDCS_FIELD_MIG_DEC_KEY key.1) :
    WritesMig info.bindingHandle info.targetTdUuid call := by
  obtain ⟨i, data, hi, rfl⟩ := mem_wordWrites h
  rw [key.2] at hi
  exact ⟨_, data, .inr ⟨⟨i, hi⟩, rfl⟩, rfl⟩

theorem writesMig_of_mem_installWrites (h : call ∈ installWrites info migVer key) :
    WritesMig info.bindingHandle info.targetTdUuid call := by
  rcases List.mem_cons.mp h with rfl | h
  · exact ⟨_, _, .inl rfl, rfl⟩
  · exact writesMig_keyWord h

theorem installWrites_length (migVer : UInt16) (key : MigrationSessionKey) :
    (installWrites info migVer key).length = 5 := by
  have hwords (field : UInt64) (ws : List UInt64) : (wordWrites info field ws).length = ws.length := by
    induction ws generalizing field with
    | nil => rfl
    | cons w ws ih => simp [wordWrites, ih]
  rw [installWrites, List.length_cons, hwords, key.2]

instance keeps_setMigVersion (migVer : UInt16) :
    Keeps (Issues (WritesMig info.bindingHandle info.targetTdUuid))
      (setMigVersion tdx info migVer) := by
  have hc : Keeps (Issues (WritesMig info.bindingHandle info.targetTdUuid))
      (tdCall tdx (versionWrite info migVer)) :=
    keeps_tdCall tdx ⟨_, _, .inl rfl, rfl⟩
  unfold versionWrite at hc
  unfold setMigVersion
  infer_instance

instance keeps_writeMsk (msk : MigrationSessionKey) :
    Keeps (Issues (WritesMig info.bindingHandle info.targetTdUuid)) (writeMsk tdx info msk) := by
  have hw : Keeps (Issues (· ∈ wordWrites info TDCS_FIELD_MIG_DEC_KEY msk.1))
      (writeMsk tdx info msk) := keeps_writeWords _ _
  exact hw.mono fun _ _ hr => hr.mono fun _ hc => writesMig_keyWord hc

end

/-! The negotiated version, as a statement about the two ranges. -/

def ExchangeInformation.range (x : ExchangeInformation) : Set ℕ :=
  Set.Icc x.minVer.toNat x.maxVer.toNat

theorem isGreatest_min {a b c d : ℕ} (hab : a ≤ b) (hcd : c ≤ d) (hcb : c ≤ b)
    (had : a ≤ d) : IsGreatest (Set.Icc a b ∩ Set.Icc c d) (min b d) := by
  rw [Set.Icc_inter_Icc]
  apply isGreatest_Icc
  exact sup_le (le_inf hab had) (le_inf hcb hcd)

private theorem toNat_min (a b : UInt16) : (min a b).toNat = min a.toNat b.toNat := by
  change (if a ≤ b then a else b).toNat = _
  split
  · rename_i h
    exact (Nat.min_eq_left h).symm
  · rename_i h
    have hba : b.toNat ≤ a.toNat := Nat.le_of_lt (Nat.lt_of_not_le h)
    exact (Nat.min_eq_right hba).symm

theorem calMigVersion_isGreatest {isSrc : Bool} {localInfo remoteInfo : ExchangeInformation}
    (h : calMigVersion isSrc localInfo remoteInfo = .ok migVer) :
    IsGreatest (localInfo.range ∩ remoteInfo.range) migVer.toNat := by
  have side (x y : ExchangeInformation)
      (hn : ¬(x.minVer > x.maxVer ∨ y.minVer > y.maxVer ∨ x.maxVer < y.minVer ∨
        y.maxVer < x.minVer)) :
      IsGreatest (x.range ∩ y.range) (min x.maxVer y.maxVer).toNat := by
    simp only [not_or, gt_iff_lt, UInt16.not_lt, UInt16.le_iff_toNat_le] at hn
    obtain ⟨hx, hy, hyx, hxy⟩ := hn
    rw [toNat_min]
    exact isGreatest_min hx hy hyx hxy
  unfold calMigVersion at h
  cases isSrc with
  | true =>
    simp only [↓reduceIte] at h
    split at h
    · cases h
    · rename_i hn
      cases h
      exact side _ _ hn
  | false =>
    simp only [Bool.false_eq_true, ↓reduceIte] at h
    split at h
    · cases h
    · rename_i hn
      cases h
      rw [Set.inter_comm]
      exact side _ _ hn

theorem calMigVersion_roles (x y : ExchangeInformation) :
    calMigVersion true x y = calMigVersion false y x := rfl

end MigTd.Migration.MskExchange
