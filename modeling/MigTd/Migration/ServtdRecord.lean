/- source: servtd_ext.rs, rebinding.rs
   digest: The SERVTD_EXT record, its TDCALL reader, the attribute check and the rebinding writes. -/

import MigTd.Tdx.Module

set_option autoImplicit false

namespace MigTd.Migration.ServtdRecord

open Lib.StateProgram Lib.ByteCodec Information Tdx.Module

def TDCS_FIELD_SERVTD_INIT_SERVTD_INFO_HASH : UInt64 := 0x191000030000020E
def TDCS_FIELD_SERVTD_INIT_ATTR : UInt64 := 0x191000030000020D
def TDCS_FIELD_INIT_CPUSVN : UInt64 := 0x1110000300000060
def TDCS_FIELD_INIT_TEE_TCB_SVN : UInt64 := 0x1110000300000062
def TDCS_FIELD_INIT_TEE_MODEL : UInt64 := 0x1110000200000064
def TDCS_FIELD_SERVTD_INFO_HASH : UInt64 := 0x1910000300000207
def TDCS_FIELD_SERVTD_ATTR : UInt64 := 0x1910000300000202
def TDCS_FIELD_SERVTD_ACCEPT_SERVTD_EXT_HASH : UInt64 := 0x1910000300000214
def TDCS_FIELD_SERVTD_REBIND_ACCEPT_TOKEN : UInt64 := 0x191000030000021E
def TDCS_FIELD_SERVTD_REBIND_ATTR : UInt64 := 0x1910000300000222
def TDCS_FIELD_WRITE_MASK : UInt64 := 0xFFFFFFFFFFFFFFFF

/-- The hardcoded SERVTD_ATTR that the host must have set. -/
def EXPECTED_SERVTD_ATTR : UInt64 := 0

/-- The `repr(C)` record, field by field in memory order. -/
structure ServtdExt where
  initServtdInfoHash : Bytes 48
  initAttr : Bytes 8
  reserved : Bytes 8
  initCpusvn : Bytes 16
  initTeeTcbSvn : Bytes 16
  initTeeModel : Bytes 12
  reserved1 : Bytes 4
  curServtdInfoHash : Bytes 48
  curServtdAttr : Bytes 8
  reserved2 : Bytes 104
  deriving DecidableEq

namespace ServtdExt

def layout : Decoder ServtdExt := do
  return {
    initServtdInfoHash := ← array 48
    initAttr := ← array 8
    reserved := ← array 8
    initCpusvn := ← array 16
    initTeeTcbSvn := ← array 16
    initTeeModel := ← array 12
    reserved1 := ← array 4
    curServtdInfoHash := ← array 48
    curServtdAttr := ← array 8
    reserved2 := ← array 104 }

def readFromBytes (bytes : Octets) : Option ServtdExt :=
  (layout bytes).map Prod.fst

def asBytes (e : ServtdExt) : Octets :=
  e.initServtdInfoHash.1 ++ e.initAttr.1 ++ e.reserved.1 ++ e.initCpusvn.1 ++
    e.initTeeTcbSvn.1 ++ e.initTeeModel.1 ++ e.reserved1.1 ++ e.curServtdInfoHash.1 ++
    e.curServtdAttr.1 ++ e.reserved2.1

/-- The digest of the record with the current-binding fields cleared. -/
def calculateApprovedServtdExtHash (sha384 : Octets → Octets) (e : ServtdExt) :
    Except MigrationResult Octets :=
  let cleared := { e with
    curServtdAttr := Bytes.zero 8
    curServtdInfoHash := Bytes.zero 48 }
  match digestSha384 sha384 cleared.asBytes with
  | .ok d => .ok d
  | .error _ => .error .invalidParameter

end ServtdExt

section

variable (tdx : TdxModule) (bindingHandle : UInt64) (targetTdUuid : TargetTdUuid)

/-- Read consecutive elements of a field, keeping the low `elemSize` bytes of each. -/
def readField (elemSize : Nat) : (count : Nat) → (field : UInt64) →
    TdProgram (Bytes (count * elemSize))
  | 0, _ => pure ⟨[], by simp⟩
  | n + 1, field => do
    let content ← tdCall tdx (.servtdRd bindingHandle field targetTdUuid)
    let rest ← readField elemSize n (field + 1)
    return ⟨leBytes elemSize content.toNat ++ rest.1, by simp [rest.2, Nat.succ_mul, Nat.add_comm]⟩

/-- `read_servtd_ext`, which also insists on the expected current attribute. -/
def readServtdExt : TdProgram ServtdExt := do
  let read := readField tdx bindingHandle targetTdUuid
  let initServtdInfoHash ← read 8 6 TDCS_FIELD_SERVTD_INIT_SERVTD_INFO_HASH
  let initAttr ← read 8 1 TDCS_FIELD_SERVTD_INIT_ATTR
  let initCpusvn ← read 8 2 TDCS_FIELD_INIT_CPUSVN
  let initTeeTcbSvn ← read 8 2 TDCS_FIELD_INIT_TEE_TCB_SVN
  let initTeeModel ← read 4 3 TDCS_FIELD_INIT_TEE_MODEL
  let curServtdInfoHash ← read 8 6 TDCS_FIELD_SERVTD_INFO_HASH
  let curServtdAttr ← read 8 1 TDCS_FIELD_SERVTD_ATTR
  ensure (UInt64.ofNat (leValue curServtdAttr.1) = EXPECTED_SERVTD_ATTR) .invalidParameter
  return {
    initServtdInfoHash, initAttr, initCpusvn, initTeeTcbSvn, initTeeModel
    reserved1 := Bytes.zero 4
    curServtdInfoHash, curServtdAttr
    reserved := Bytes.zero 8
    reserved2 := Bytes.zero 104 }

/-- `verify_servtd_attr`: the check that must precede the writes to the target. -/
def verifyServtdAttr : TdProgram Unit := do
  let actualAttr ← tdCall tdx (.servtdRd bindingHandle TDCS_FIELD_SERVTD_ATTR targetTdUuid)
  ensure (actualAttr = EXPECTED_SERVTD_ATTR) .invalidParameter

end

section

variable (tdx : TdxModule)

def writeElements : (field : UInt64) → List UInt64 → TdProgram Unit
  | _, [] => pure ()
  | field, elem :: rest => do
    let _ ← tdCall tdx (.vmWrite field elem TDCS_FIELD_WRITE_MASK)
    writeElements (field + 1) rest

def writeWordsOf (field : UInt64) (count : Nat) (bytes : Octets) : TdProgram Unit := do
  ensure (bytes.length = 8 * count) .invalidParameter
  writeElements tdx field (leWords count bytes)

def writeApprovedServtdExtHash (servtdExtHash : Octets) : TdProgram Unit :=
  writeWordsOf tdx TDCS_FIELD_SERVTD_ACCEPT_SERVTD_EXT_HASH 6 servtdExtHash

def writeRebindingSessionToken (rebindToken : Octets) : TdProgram Unit :=
  writeWordsOf tdx TDCS_FIELD_SERVTD_REBIND_ACCEPT_TOKEN 4 rebindToken

def writeServtdRebindAttr (servtdAttr : Octets) : TdProgram Unit :=
  writeWordsOf tdx TDCS_FIELD_SERVTD_REBIND_ATTR 1 servtdAttr

end

def attrChecked (bindingHandle : UInt64) (targetTdUuid : TargetTdUuid) : TdEvent :=
  ⟨.servtdRd bindingHandle TDCS_FIELD_SERVTD_ATTR targetTdUuid, .ok EXPECTED_SERVTD_ATTR⟩

def ReadsTarget (bindingHandle : UInt64) (targetTdUuid : TargetTdUuid) (call : TdCall) : Prop :=
  ∃ field, call = .servtdRd bindingHandle field targetTdUuid

def elementWrites : UInt64 → List UInt64 → List TdCall
  | _, [] => []
  | field, elem :: rest => .vmWrite field elem TDCS_FIELD_WRITE_MASK :: elementWrites (field + 1) rest

variable {field : UInt64}

section

variable {tdx : TdxModule} {h : UInt64} {u : TargetTdUuid} {log log' : TdLog}

instance keeps_servtdRd (field : UInt64) :
    Keeps (Issues (ReadsTarget h u)) (tdCall tdx (.servtdRd h field u)) :=
  keeps_tdCall tdx ⟨field, rfl⟩

instance keeps_readField (elemSize count : Nat) (field : UInt64) :
    Keeps (Issues (ReadsTarget h u)) (readField tdx h u elemSize count field) := by
  induction count generalizing field with
  | zero => exact keeps_pure _
  | succ n ih =>
    unfold readField
    infer_instance

instance keeps_readServtdExt : Keeps (Issues (ReadsTarget h u)) (readServtdExt tdx h u) := by
  unfold readServtdExt
  infer_instance

instance keeps_verifyServtdAttr : Keeps (Issues (ReadsTarget h u)) (verifyServtdAttr tdx h u) := by
  unfold verifyServtdAttr
  infer_instance

theorem verifyServtdAttr_ok : verifyServtdAttr tdx h u log = (.ok (), log') ↔
      tdx log (attrChecked h u).call = .ok EXPECTED_SERVTD_ATTR ∧
        log' = log ++ [attrChecked h u] := by
  unfold verifyServtdAttr attrChecked
  simp only [bind_ok, tdCall_ok, ensure_ok]
  constructor
  · rintro ⟨a, m, ⟨ha, rfl⟩, rfl, rfl⟩
    exact ⟨ha, rfl⟩
  · rintro ⟨ha, rfl⟩
    exact ⟨_, _, ⟨ha, rfl⟩, rfl, rfl⟩

private theorem readField_single {bs : Bytes (1 * 8)}
    (hr : readField tdx h u 8 1 field log = (.ok bs, log')) :
    log' = log ++ [⟨.servtdRd h field u, .ok (UInt64.ofNat (leValue bs.1))⟩] := by
  simp only [readField, bind_ok, tdCall_ok, pure_ok] at hr
  obtain ⟨v, m, ⟨-, rfl⟩, r, m', ⟨rfl, rfl⟩, rfl, rfl⟩ := hr
  have hv : leValue (leBytes 8 v.toNat) = v.toNat := leValue_leBytes 8 v.toNat v.toNat_lt
  simp only [List.append_nil]
  rw [hv, UInt64.ofNat_toNat]

theorem readServtdExt_checks {e : ServtdExt}
    (hr : readServtdExt tdx h u log = (.ok e, log')) : attrChecked h u ∈ log' := by
  simp only [readServtdExt, bind_ok, ensure_ok, pure_ok] at hr
  obtain ⟨_, _, -, _, _, -, _, _, -, _, _, -, _, _, -, _, _, -, attr, _, ha, -, _,
    ⟨hattr, rfl⟩, -, rfl⟩ := hr
  rw [readField_single ha, hattr]
  exact List.mem_append_right _ (List.mem_singleton.mpr rfl)

end

theorem add_one_add_toUInt64 (field : UInt64) (i : Nat) :
    field + 1 + i.toUInt64 = field + (i + 1).toUInt64 := by
  rw [Nat.toUInt64_eq, Nat.toUInt64_eq, UInt64.ofNat_add, UInt64.add_assoc, UInt64.add_comm 1]
  rfl

section

variable {tdx : TdxModule} {log log' : TdLog} {ws : List UInt64}

instance keeps_writeElements (field : UInt64) (ws : List UInt64) :
    Keeps (Issues (· ∈ elementWrites field ws)) (writeElements tdx field ws) := by
  induction ws generalizing field with
  | nil => exact keeps_pure ()
  | cons w ws ih =>
    have hw : Keeps (Issues (· ∈ elementWrites field (w :: ws)))
        (tdCall tdx (.vmWrite field w TDCS_FIELD_WRITE_MASK)) :=
      keeps_tdCall tdx List.mem_cons_self
    have hws : Keeps (Issues (· ∈ elementWrites field (w :: ws)))
        (writeElements tdx (field + 1) ws) :=
      (ih (field + 1)).mono fun _ _ hr => hr.mono fun _ hc => List.mem_cons_of_mem _ hc
    unfold writeElements
    infer_instance

private theorem writeElements_ok {r : Unit} (hw : writeElements tdx field ws log = (.ok r, log')) :
    succeeded log' = succeeded log ++ elementWrites field ws := by
  induction ws generalizing field log with
  | nil =>
    obtain ⟨-, rfl⟩ := pure_ok.mp hw
    simp [elementWrites]
  | cons w ws ih =>
    obtain ⟨v, m, hc, hrest⟩ := bind_ok.mp hw
    obtain ⟨-, rfl⟩ := tdCall_ok.mp hc
    rw [ih hrest, succeeded_append, succeeded_ok, List.append_assoc]
    rfl

instance keeps_writeWordsOf (field : UInt64) (count : Nat) (bytes : Octets) :
    Keeps (Issues (· ∈ elementWrites field (leWords count bytes)))
      (writeWordsOf tdx field count bytes) := by
  unfold writeWordsOf
  infer_instance

theorem writeWordsOf_ok {count : Nat} {bytes : Octets} {r : Unit}
    (hw : writeWordsOf tdx field count bytes log = (.ok r, log')) :
    bytes.length = 8 * count ∧
      succeeded log' = succeeded log ++ elementWrites field (leWords count bytes) := by
  obtain ⟨_, _, he, hrest⟩ := bind_ok.mp hw
  obtain ⟨hlen, rfl⟩ := ensure_ok.mp he
  exact ⟨hlen, writeElements_ok hrest⟩

theorem mem_elementWrites {call : TdCall} (h : call ∈ elementWrites field ws) :
    ∃ i value, i < ws.length ∧ call = .vmWrite (field + i.toUInt64) value TDCS_FIELD_WRITE_MASK := by
  induction ws generalizing field with
  | nil => cases h
  | cons w ws ih =>
    rcases List.mem_cons.mp h with rfl | h
    · exact ⟨0, w, by simp, by simp⟩
    · obtain ⟨i, value, hi, rfl⟩ := ih h
      refine ⟨i + 1, value, by simpa using hi, ?_⟩
      rw [add_one_add_toUInt64]

end

def WritesApproved (call : TdCall) : Prop :=
  ∃ i : Fin 6, ∃ value, call = .vmWrite
    (TDCS_FIELD_SERVTD_ACCEPT_SERVTD_EXT_HASH + i.val.toUInt64) value TDCS_FIELD_WRITE_MASK

def WritesRebind (call : TdCall) : Prop :=
  (∃ i : Fin 4, ∃ value, call = .vmWrite
    (TDCS_FIELD_SERVTD_REBIND_ACCEPT_TOKEN + i.val.toUInt64) value TDCS_FIELD_WRITE_MASK) ∨
  ∃ value, call = .vmWrite TDCS_FIELD_SERVTD_REBIND_ATTR value TDCS_FIELD_WRITE_MASK

section

variable {tdx : TdxModule}

theorem keeps_fields {Q : TdCall → Prop} (field : UInt64) (count : Nat) (bytes : Octets)
    (h : ∀ i value, i < count → Q (.vmWrite (field + i.toUInt64) value TDCS_FIELD_WRITE_MASK)) :
    Keeps (Issues Q) (writeWordsOf tdx field count bytes) := by
  refine (keeps_writeWordsOf field count bytes).mono fun _ _ hr => hr.mono fun call hc => ?_
  obtain ⟨i, value, hi, rfl⟩ := mem_elementWrites hc
  rw [leWords_length] at hi
  exact h i value hi

instance keeps_writeApprovedServtdExtHash (hash : Octets) :
    Keeps (Issues WritesApproved) (writeApprovedServtdExtHash tdx hash) :=
  keeps_fields _ _ _ fun i value hi => ⟨⟨i, hi⟩, value, rfl⟩

instance keeps_writeRebindingSessionToken (token : Octets) :
    Keeps (Issues WritesRebind) (writeRebindingSessionToken tdx token) :=
  keeps_fields _ _ _ fun i value hi => .inl ⟨⟨i, hi⟩, value, rfl⟩

instance keeps_writeServtdRebindAttr (attr : Octets) :
    Keeps (Issues WritesRebind) (writeServtdRebindAttr tdx attr) :=
  keeps_fields _ _ _ fun i value hi => .inr ⟨value, by
    obtain rfl : i = 0 := by omega
    simp⟩

end

end MigTd.Migration.ServtdRecord
