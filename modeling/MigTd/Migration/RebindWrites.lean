/- source: rebinding.rs, servtd_ext.rs, spdm_rsp.rs
   digest: What a completed rebinding leaves in the own TD, over TLS and over SPDM. -/

import MigTd.Ratls.Verification
import MigTd.Spdm.Completion

set_option autoImplicit false

namespace MigTd.Migration.RebindWrites

open Crypto.Certificates Lib.ByteCodec Lib.StateProgram Information ServtdRecord Spdm.Installation
  Spdm Spdm.Responder Spdm.ResponderSpecs Spdm.Vdm Tdx.Module Ratls.Verification Spdm.Context
  Spdm.Status

/-- What the transport and the peer do in one rebinding. Each outcome is the one after its
conversion into a `MigrationResult`, timeouts included. -/
structure RebindChannel where
  serverRebinding : Except MigrationResult Unit
  /-- The bytes that `tls_session_read_exact` fills the token with. -/
  readExact : Except MigrationResult (Bytes 32)
  peerCerts : Option (List Octets)
  shutdownTransport : Except MigrationResult Unit

def getServtdExtFromCert (pki : Pki) : Option (List Octets) → Except MigrationResult ServtdExt
  | none => .error .secureSessionError
  | some [] => .error .secureSessionError
  | some (leaf :: _) => do
    let cert ← orElse (pki.certificateFromDer leaf) .secureSessionError
    let extensions ← orElse cert.tbsCertificate.extensions .secureSessionError
    let servtdExt ← orElse (findExtension extensions EXTNID_MIGTD_SERVTD_EXT) .secureSessionError
    orElse (ServtdExt.readFromBytes servtdExt) .invalidParameter

/-- `rebinding_new_prepare`. The attribute is written before the record is cleared. -/
def rebindingNewPrepare (sha384 : Octets → Octets) (tdx : TdxModule) (pki : Pki)
    (net : RebindChannel) : TdProgram Unit := do
  lift net.serverRebinding
  let rebindToken ← lift net.readExact
  let servtdExt ← lift (getServtdExtFromCert pki net.peerCerts)
  writeRebindingSessionToken tdx rebindToken.1
  writeServtdRebindAttr tdx servtdExt.curServtdAttr.1
  let cleared := { servtdExt with
    curServtdInfoHash := Bytes.zero 48
    curServtdAttr := Bytes.zero 8 }
  let hash ← lift (cleared.calculateApprovedServtdExtHash sha384)
  writeApprovedServtdExtHash tdx hash
  lift net.shutdownTransport

/-- TDG.VM.WR replaces the bits of its mask. -/
def applyWrite (fields : UInt64 → UInt64) : TdCall → UInt64 → UInt64
  | .vmWrite field value mask =>
    Function.update fields field ((fields field &&& ~~~mask) ||| (value &&& mask))
  | _ => fields

def fieldsAfter (fields : UInt64 → UInt64) (log : TdLog) : UInt64 → UInt64 :=
  (succeeded log).foldl applyWrite fields

/-- Consecutive elements of a field, read back little-endian. -/
def fieldBytes (fields : UInt64 → UInt64) (field : UInt64) (count : Nat) : Octets :=
  putWords ((List.range count).map fun i => fields (field + i.toUInt64))

variable {field : UInt64} {ws : List UInt64} {count : Nat}

section

variable {fields : UInt64 → UInt64}

theorem applyWrite_all (field value : UInt64) :
    applyWrite fields (.vmWrite field value TDCS_FIELD_WRITE_MASK) =
      Function.update fields field value := by
  have hall : TDCS_FIELD_WRITE_MASK = -1 := rfl
  rw [applyWrite, hall]
  congr 1
  simp

theorem foldl_elementWrites_of_ne {g : UInt64} (h : ∀ i < ws.length, field + i.toUInt64 ≠ g) :
    (elementWrites field ws).foldl applyWrite fields g = fields g := by
  induction ws generalizing fields field with
  | nil => rfl
  | cons w ws ih =>
    have hhead : field ≠ g := by simpa using h 0 (by simp)
    rw [elementWrites, List.foldl_cons, ih, applyWrite_all, Function.update_of_ne hhead.symm]
    intro i hi
    rw [add_one_add_toUInt64]
    exact h (i + 1) (by simpa using hi)

private theorem add_succ_ne {i : Nat} (h : i + 1 < 2 ^ 64) : field + 1 + i.toUInt64 ≠ field := by
  rw [add_one_add_toUInt64]
  intro heq
  have hzero : (i + 1).toUInt64 = 0 := by simpa using heq
  have hvalue := congrArg UInt64.toNat hzero
  rw [Nat.toUInt64_eq, UInt64.toNat_ofNat', Nat.mod_eq_of_lt h] at hvalue
  cases hvalue

private theorem elements_written (h : ws.length < 2 ^ 64) : ((List.range ws.length).map fun i =>
      (elementWrites field ws).foldl applyWrite fields (field + i.toUInt64)) = ws := by
  induction ws generalizing fields field with
  | nil => rfl
  | cons w ws ih =>
    rw [List.length_cons] at h
    have hfirst : (elementWrites (field + 1) ws).foldl applyWrite
        (Function.update fields field w) field = w := by
      rw [foldl_elementWrites_of_ne fun i hi => add_succ_ne (by omega), Function.update_self]
    have hrest : ((List.range ws.length).map fun i => (elementWrites (field + 1) ws).foldl applyWrite
        (Function.update fields field w) (field + 1 + i.toUInt64)) = ws := ih (by omega)
    rw [List.length_cons, List.range_succ_eq_map, List.map_cons, List.map_map, elementWrites,
      List.foldl_cons, applyWrite_all]
    simp only [Function.comp_def, Nat.succ_eq_add_one, ← add_one_add_toUInt64, hrest]
    congr 1
    simpa using hfirst

theorem fieldBytes_written {bytes : Octets}
    (hlength : bytes.length = 8 * count) (hcount : count < 2 ^ 64) :
    fieldBytes ((elementWrites field (leWords count bytes)).foldl applyWrite fields) field count =
      bytes := by
  have helements := @elements_written field (leWords count bytes) fields (by rwa [leWords_length])
  rw [leWords_length] at helements
  rw [fieldBytes, helements, putWords_leWords hlength]

theorem fieldBytes_kept {other : UInt64}
    (h : ∀ i < count, ∀ j < ws.length, other + j.toUInt64 ≠ field + i.toUInt64) :
    fieldBytes ((elementWrites other ws).foldl applyWrite fields) field count =
      fieldBytes fields field count := by
  unfold fieldBytes
  congr 1
  refine List.map_congr_left fun i hi => ?_
  exact foldl_elementWrites_of_ne (h i (List.mem_range.mp hi))

end

/-- The own TD holds this token, this approved hash and this attribute. -/
structure Holds (fields : UInt64 → UInt64) (token hash attr : Octets) : Prop where
  token : fieldBytes fields TDCS_FIELD_SERVTD_REBIND_ACCEPT_TOKEN 4 = token
  hash : fieldBytes fields TDCS_FIELD_SERVTD_ACCEPT_SERVTD_EXT_HASH 6 = hash
  attr : fieldBytes fields TDCS_FIELD_SERVTD_REBIND_ATTR 1 = attr

theorem token_apart_hash (i : Fin 4) (j : Fin 6) :
    TDCS_FIELD_SERVTD_ACCEPT_SERVTD_EXT_HASH + j.val.toUInt64 ≠
      TDCS_FIELD_SERVTD_REBIND_ACCEPT_TOKEN + i.val.toUInt64 := by
  revert i j
  decide

theorem token_apart_attr (i : Fin 4) (j : Fin 1) : TDCS_FIELD_SERVTD_REBIND_ATTR + j.val.toUInt64 ≠
      TDCS_FIELD_SERVTD_REBIND_ACCEPT_TOKEN + i.val.toUInt64 := by
  revert i j
  decide

theorem hash_apart_attr (i : Fin 6) (j : Fin 1) : TDCS_FIELD_SERVTD_REBIND_ATTR + j.val.toUInt64 ≠
      TDCS_FIELD_SERVTD_ACCEPT_SERVTD_EXT_HASH + i.val.toUInt64 := by
  revert i j
  decide

section

variable {fields : UInt64 → UInt64} {token hash attr : Octets}
  (htoken : token.length = 8 * 4) (hhash : hash.length = 8 * 6) (hattr : attr.length = 8 * 1)

include htoken hhash hattr

theorem holds_rebindWrites : Holds ((rebindWrites token hash attr).foldl applyWrite fields)
    token hash attr := by
  unfold rebindWrites
  rw [List.foldl_append, List.foldl_append]
  constructor
  · rw [fieldBytes_kept, fieldBytes_kept, fieldBytes_written htoken (by decide)]
    · intro i hi j hj
      exact token_apart_hash ⟨i, hi⟩ ⟨j, by simpa using hj⟩
    · intro i hi j hj
      exact token_apart_attr ⟨i, hi⟩ ⟨j, by simpa using hj⟩
  · rw [fieldBytes_kept, fieldBytes_written hhash (by decide)]
    intro i hi j hj
    exact hash_apart_attr ⟨i, hi⟩ ⟨j, by simpa using hj⟩
  · exact fieldBytes_written hattr (by decide)

theorem holds_attr_before_hash : Holds
    ((elementWrites TDCS_FIELD_SERVTD_REBIND_ACCEPT_TOKEN (leWords 4 token) ++
      elementWrites TDCS_FIELD_SERVTD_REBIND_ATTR (leWords 1 attr) ++
      elementWrites TDCS_FIELD_SERVTD_ACCEPT_SERVTD_EXT_HASH (leWords 6 hash)).foldl
        applyWrite fields) token hash attr := by
  rw [List.foldl_append, List.foldl_append]
  constructor
  · rw [fieldBytes_kept, fieldBytes_kept, fieldBytes_written htoken (by decide)]
    · intro i hi j hj
      exact token_apart_attr ⟨i, hi⟩ ⟨j, by simpa using hj⟩
    · intro i hi j hj
      exact token_apart_hash ⟨i, hi⟩ ⟨j, by simpa using hj⟩
  · exact fieldBytes_written hhash (by decide)
  · rw [fieldBytes_kept, fieldBytes_written hattr (by decide)]
    intro i hi j hj
    exact (hash_apart_attr ⟨j, by simpa using hj⟩ ⟨i, hi⟩).symm

end

/-! The approved hash, and what a source has read for it. -/

def cleared (e : ServtdExt) : ServtdExt :=
  { e with curServtdAttr := Bytes.zero 8, curServtdInfoHash := Bytes.zero 48 }

variable {sha384 : Octets → Octets} {e : ServtdExt}

theorem approvedHash_ok {hash : Octets}
    (h : e.calculateApprovedServtdExtHash sha384 = .ok hash) :
    hash = sha384 (cleared e).asBytes ∧ hash.length = 8 * 6 := by
  cases hdigest : digestSha384 sha384 (cleared e).asBytes with
  | ok d =>
    have hresult := hdigest
    unfold cleared at hresult
    simp only [ServtdExt.calculateApprovedServtdExtHash, hresult] at h
    cases h
    exact digestSha384_ok hdigest
  | error _ =>
    unfold cleared at hdigest
    simp only [ServtdExt.calculateApprovedServtdExtHash, hdigest] at h
    cases h

def initElements : List UInt64 :=
  [(TDCS_FIELD_SERVTD_INIT_SERVTD_INFO_HASH, 6), (TDCS_FIELD_SERVTD_INIT_ATTR, 1),
    (TDCS_FIELD_INIT_CPUSVN, 2), (TDCS_FIELD_INIT_TEE_TCB_SVN, 2),
    (TDCS_FIELD_INIT_TEE_MODEL, 3)].flatMap fun field =>
      (List.range field.2).map fun i => field.1 + i.toUInt64

def elementReads (h : UInt64) (u : TargetTdUuid) : UInt64 → List UInt64 → TdLog
  | _, [] => []
  | field, w :: ws => ⟨.servtdRd h field u, .ok w⟩ :: elementReads h u (field + 1) ws

section

variable {tdx : TdxModule} {h : UInt64} {u : TargetTdUuid} {log log' : TdLog}

theorem readField_ok {elemSize : Nat} {bs : Bytes (count * elemSize)}
    (hr : readField tdx h u elemSize count field log = (.ok bs, log')) :
    ∃ ws : List UInt64, ws.length = count ∧ log' = log ++ elementReads h u field ws ∧
      bs.1 = ws.flatMap fun w => leBytes elemSize w.toNat := by
  induction count generalizing field log with
  | zero =>
    obtain ⟨rfl, rfl⟩ := pure_ok.mp hr
    exact ⟨[], rfl, by simp [elementReads], rfl⟩
  | succ n ih =>
    obtain ⟨w, m, hcall, hr⟩ := bind_ok.mp hr
    obtain ⟨-, rfl⟩ := tdCall_ok.mp hcall
    obtain ⟨rest, m', hrest, hr⟩ := bind_ok.mp hr
    obtain ⟨rfl, rfl⟩ := pure_ok.mp hr
    obtain ⟨ws, hlength, rfl, hbytes⟩ := ih hrest
    refine ⟨w :: ws, by rw [List.length_cons, hlength], ?_, ?_⟩
    · rw [elementReads, List.append_assoc, List.singleton_append]
    · rw [List.flatMap_cons, ← hbytes]

theorem mem_elementReads {i : Nat} {w : UInt64} (hw : ws[i]? = some w) :
    ⟨.servtdRd h (field + i.toUInt64) u, .ok w⟩ ∈ elementReads h u field ws := by
  induction ws generalizing field i with
  | nil => cases hw
  | cons v ws ih =>
    cases i with
    | zero =>
      obtain rfl := Option.some.inj hw
      simp [elementReads]
    | succ i =>
      rw [elementReads, ← add_one_add_toUInt64]
      exact List.mem_cons_of_mem _ (ih hw)

/-- The bytes are the low parts of the answers to consecutive reads. -/
def ReadBack (h : UInt64) (u : TargetTdUuid) (new : TdLog) (field : UInt64) (elemSize count : Nat)
    (bytes : Octets) : Prop :=
  ∃ ws : List UInt64, ws.length = count ∧ elementReads h u field ws ⊆ new ∧
    bytes = ws.flatMap fun w => leBytes elemSize w.toNat

/-- Where each part of a record comes from, apart from the fields of the current binding. -/
structure InitRead (h : UInt64) (u : TargetTdUuid) (new : TdLog) (e : ServtdExt) : Prop where
  infoHash : ReadBack h u new TDCS_FIELD_SERVTD_INIT_SERVTD_INFO_HASH 8 6 e.initServtdInfoHash.1
  attr : ReadBack h u new TDCS_FIELD_SERVTD_INIT_ATTR 8 1 e.initAttr.1
  cpusvn : ReadBack h u new TDCS_FIELD_INIT_CPUSVN 8 2 e.initCpusvn.1
  teeTcbSvn : ReadBack h u new TDCS_FIELD_INIT_TEE_TCB_SVN 8 2 e.initTeeTcbSvn.1
  teeModel : ReadBack h u new TDCS_FIELD_INIT_TEE_MODEL 4 3 e.initTeeModel.1
  reserved : e.reserved = Bytes.zero 8 ∧ e.reserved1 = Bytes.zero 4 ∧ e.reserved2 = Bytes.zero 104

theorem initRead_of_ok (hr : readServtdExt tdx h u log = (.ok e, log')) :
    InitRead h u (log'.drop log.length) e := by
  simp only [readServtdExt, bind_ok, ensure_ok, pure_ok] at hr
  obtain ⟨b1, _, h1, b2, _, h2, b3, _, h3, b4, _, h4, b5, _, h5, b6, _, h6, b7, _, h7, _, _,
    ⟨-, rfl⟩, rfl, rfl⟩ := hr
  obtain ⟨w1, l1, rfl, e1⟩ := readField_ok h1
  obtain ⟨w2, l2, rfl, e2⟩ := readField_ok h2
  obtain ⟨w3, l3, rfl, e3⟩ := readField_ok h3
  obtain ⟨w4, l4, rfl, e4⟩ := readField_ok h4
  obtain ⟨w5, l5, rfl, e5⟩ := readField_ok h5
  obtain ⟨w6, l6, rfl, e6⟩ := readField_ok h6
  obtain ⟨w7, l7, rfl, e7⟩ := readField_ok h7
  simp only [List.append_assoc, List.drop_left]
  exact {
    infoHash := ⟨w1, l1, fun _ hmem => by simp [hmem], e1⟩
    attr := ⟨w2, l2, fun _ hmem => by simp [hmem], e2⟩
    cpusvn := ⟨w3, l3, fun _ hmem => by simp [hmem], e3⟩
    teeTcbSvn := ⟨w4, l4, fun _ hmem => by simp [hmem], e4⟩
    teeModel := ⟨w5, l5, fun _ hmem => by simp [hmem], e5⟩
    reserved := ⟨rfl, rfl, rfl⟩ }

end

/-- No INIT element has been read with two answers. -/
def AgreeOnInit (h h' : UInt64) (u u' : TargetTdUuid) (new new' : TdLog) : Prop :=
  ∀ field ∈ initElements, ∀ v v', (⟨.servtdRd h field u, .ok v⟩ : TdEvent) ∈ new →
    (⟨.servtdRd h' field u', .ok v'⟩ : TdEvent) ∈ new' → v = v'

section

variable {h h' : UInt64} {u u' : TargetTdUuid} {new new' : TdLog}

theorem ReadBack.unique {elemSize : Nat} {bytes bytes' : Octets}
    (hread : ReadBack h u new field elemSize count bytes)
    (hread' : ReadBack h' u' new' field elemSize count bytes')
    (hfield : ∀ i < count, field + i.toUInt64 ∈ initElements)
    (hagree : AgreeOnInit h h' u u' new new') : bytes = bytes' := by
  obtain ⟨ws, hlength, hnew, rfl⟩ := hread
  obtain ⟨ws', hlength', hnew', rfl⟩ := hread'
  have hwords : ws = ws' := by
    refine List.ext_getElem (hlength.trans hlength'.symm) fun i hi hi' => ?_
    exact hagree _ (hfield i (by omega)) _ _ (hnew (mem_elementReads (List.getElem?_eq_getElem hi)))
      (hnew' (mem_elementReads (List.getElem?_eq_getElem hi')))
  rw [hwords]

private theorem init_fields_listed :
    (∀ i < 6, TDCS_FIELD_SERVTD_INIT_SERVTD_INFO_HASH + i.toUInt64 ∈ initElements) ∧
    (∀ i < 1, TDCS_FIELD_SERVTD_INIT_ATTR + i.toUInt64 ∈ initElements) ∧
    (∀ i < 2, TDCS_FIELD_INIT_CPUSVN + i.toUInt64 ∈ initElements) ∧
    (∀ i < 2, TDCS_FIELD_INIT_TEE_TCB_SVN + i.toUInt64 ∈ initElements) ∧
    ∀ i < 3, TDCS_FIELD_INIT_TEE_MODEL + i.toUInt64 ∈ initElements := by
  decide

theorem cleared_unique {e' : ServtdExt} (hread : InitRead h u new e)
    (hread' : InitRead h' u' new' e') (hagree : AgreeOnInit h h' u u' new new') :
    cleared e = cleared e' := by
  obtain ⟨hhash, hattr, hcpusvn, htcbSvn, hmodel⟩ := init_fields_listed
  have e1 := Subtype.ext (hread.infoHash.unique hread'.infoHash hhash hagree)
  have e2 := Subtype.ext (hread.attr.unique hread'.attr hattr hagree)
  have e3 := Subtype.ext (hread.cpusvn.unique hread'.cpusvn hcpusvn hagree)
  have e4 := Subtype.ext (hread.teeTcbSvn.unique hread'.teeTcbSvn htcbSvn hagree)
  have e5 := Subtype.ext (hread.teeModel.unique hread'.teeModel hmodel hagree)
  obtain ⟨r1, r2, r3⟩ := hread.reserved
  obtain ⟨r1', r2', r3'⟩ := hread'.reserved
  simp only [cleared, e1, e2, e3, e4, e5, r1, r2, r3, r1', r2', r3']

end

section

variable {token : Bytes 32} {ext : ServtdExt} {fields : UInt64 → UInt64}

theorem rebindingNewPrepare_ok {tdx : TdxModule} {pki : Pki}
    {net : RebindChannel} {log log' : TdLog} (htoken : net.readExact = .ok token)
    (hext : getServtdExtFromCert pki net.peerCerts = .ok ext)
    (hrun : rebindingNewPrepare sha384 tdx pki net log = (.ok (), log')) :
    Holds (fieldsAfter fields log') token.1 (sha384 (cleared ext).asBytes) ext.curServtdAttr.1 := by
  obtain ⟨_, _, hserver, hrest⟩ := bind_ok.mp hrun
  obtain ⟨-, rfl⟩ := lift_ok.mp hserver
  obtain ⟨token', _, hread, hrest⟩ := bind_ok.mp hrest
  obtain ⟨htoken', rfl⟩ := lift_ok.mp hread
  obtain rfl := Except.ok.inj (htoken.symm.trans htoken')
  obtain ⟨ext', _, hcert, hrest⟩ := bind_ok.mp hrest
  obtain ⟨hext', rfl⟩ := lift_ok.mp hcert
  obtain rfl := Except.ok.inj (hext.symm.trans hext')
  obtain ⟨_, l1, hw1, hrest⟩ := bind_ok.mp hrest
  obtain ⟨_, l2, hw2, hrest⟩ := bind_ok.mp hrest
  obtain ⟨hash, _, hcalculate, hrest⟩ := bind_ok.mp hrest
  obtain ⟨hhash, rfl⟩ := lift_ok.mp hcalculate
  obtain ⟨_, l3, hw3, hshutdown⟩ := bind_ok.mp hrest
  obtain ⟨-, rfl⟩ := lift_ok.mp hshutdown
  -- Clearing the record twice makes no difference to its digest.
  obtain ⟨hdigest, hlength⟩ := approvedHash_ok hhash
  have hdigest : hash = sha384 (cleared ext).asBytes := hdigest
  rw [← hdigest, fieldsAfter, (writeWordsOf_ok hw3).2, (writeWordsOf_ok hw2).2,
    (writeWordsOf_ok hw1).2, List.append_assoc, List.append_assoc, List.foldl_append,
    ← List.append_assoc]
  exact holds_attr_before_hash token.2 hlength ext.curServtdAttr.2

theorem handleExchangeRebindInfoReq_ok {P : Platform} {sessionId : Option UInt32} {vdm : VdmMessage}
    {r rest out : Octets} {s t : RspState} (htoken : tokenElement r = .ok (token, rest))
    (hext : s.servtdExt = some ext)
    (hrun : handleExchangeRebindInfoReq P sessionId vdm r s = (.ok out, t)) :
    Holds (fieldsAfter fields t.log) token.1 (P.sha384 (cleared ext).asBytes)
      ext.curServtdAttr.1 := by
  have heffect := handleExchangeRebindInfoReq_effect (P := P) sessionId vdm r s
  unfold Post at heffect
  rw [hrun] at heffect
  cases heffect with
  | @wrote _ _ sid session token' ext' x request install sessions complete =>
    obtain ⟨rest', hcarried⟩ := request.carried
    obtain ⟨rfl, -⟩ := Prod.mk.inj (Except.ok.inj (htoken.symm.trans hcarried))
    obtain rfl := Option.some.inj (hext.symm.trans request.kept)
    obtain rfl := complete out rfl
    obtain ⟨hash, hhash, hwrites⟩ := installRebind_ok install
    obtain ⟨hdigest, hlength⟩ := approvedHash_ok hhash
    rw [← hdigest, fieldsAfter, hwrites, List.foldl_append]
    exact holds_rebindWrites token.2 hlength ext.curServtdAttr.2

end

/-- Whatever the token and the record are: a rebinding that succeeds over TLS and one that succeeds
over SPDM leave the token, the digest of the cleared record and its current attribute with the own
TD, and the digest of a record that a source has read is a function of the INIT fields. -/
theorem rebind_writes_agree (token : Bytes 32) (ext : ServtdExt) (P : Platform) :
    (∀ (tdx : TdxModule) (pki : Pki) (net : RebindChannel) (log log' : TdLog)
        (sessionId : Option UInt32) (vdm : VdmMessage) (r rest out : Octets) (s t : RspState)
        (fields fields' : UInt64 → UInt64),
      net.readExact = .ok token → getServtdExtFromCert pki net.peerCerts = .ok ext →
      rebindingNewPrepare P.sha384 tdx pki net log = (.ok (), log') →
      tokenElement r = .ok (token, rest) → s.servtdExt = some ext →
      handleExchangeRebindInfoReq P sessionId vdm r s = (.ok out, t) →
      Holds (fieldsAfter fields log') token.1 (P.sha384 (cleared ext).asBytes)
        ext.curServtdAttr.1 ∧
      Holds (fieldsAfter fields' t.log) token.1 (P.sha384 (cleared ext).asBytes)
        ext.curServtdAttr.1) ∧
    ∀ (tdx tdx' : TdxModule) (h h' : UInt64) (u u' : TargetTdUuid)
        (log₀ log₁ log₀' log₁' : TdLog) (ext' : ServtdExt),
      readServtdExt tdx h u log₀ = (.ok ext, log₁) →
      readServtdExt tdx' h' u' log₀' = (.ok ext', log₁') →
      AgreeOnInit h h' u u' (log₁.drop log₀.length) (log₁'.drop log₀'.length) →
      P.sha384 (cleared ext).asBytes = P.sha384 (cleared ext').asBytes := by
  constructor
  · intro tdx pki net log log' sessionId vdm r rest out s t fields fields' hread hcert htls
      htoken hext hspdm
    exact ⟨rebindingNewPrepare_ok hread hcert htls,
      handleExchangeRebindInfoReq_ok htoken hext hspdm⟩
  · intro tdx tdx' h h' u u' log₀ log₁ log₀' log₁' ext' hread hread' hagree
    rw [cleared_unique (initRead_of_ok hread) (initRead_of_ok hread') hagree]

/-- A peer whose certificate carries this record, and the token that it sends. -/
def presenting (token : Bytes 32) (record : Octets) : Pki × RebindChannel :=
  (⟨fun _ => [], fun _ => some ⟨⟨[], [], ⟨⟨[], none⟩, ⟨0, []⟩⟩,
      some [⟨EXTNID_MIGTD_SERVTD_EXT, none, some record⟩]⟩, ⟨[], none⟩, ⟨0, []⟩⟩,
      fun _ => none, fun _ => none, fun _ => none, fun _ _ _ => false⟩,
    ⟨.ok (), .ok token, some [[]], .ok ()⟩)

def boundRecord : ServtdExt :=
  ⟨Bytes.zero 48, Bytes.zero 8, Bytes.zero 8, Bytes.zero 16, Bytes.zero 16, Bytes.zero 12,
    Bytes.zero 4, Bytes.zero 48, ⟨[9, 0, 0, 0, 0, 0, 0, 0], rfl⟩, Bytes.zero 104⟩

/-- A responder that has attested a requester with this record. -/
def boundContext : RspState :=
  { Reference.attestedContext with
    info := .rebindInformation .default
    servtdExt := some boundRecord }

def boundMessage : VdmMessage :=
  .current .exchangeRebindInfoReq VDM_MESSAGE_EXCHANGE_REBIND_INFO_ELEMENT_REQ_COUNT

def boundPeer : Pki × RebindChannel := presenting (Bytes.zero 32) boundRecord.asBytes

def overTls : Except MigrationResult Unit × TdLog :=
  rebindingNewPrepare Reference.platform.sha384 Reference.platform.tdx boundPeer.1 boundPeer.2 []

def overSpdm : Except SpdmStatus Octets × RspState :=
  handleExchangeRebindInfoReq Reference.platform (some 7) boundMessage
    (Reference.element .rebindSessionToken (List.replicate 32 0)) boundContext

theorem rebind_writes_agree_bound : overTls.1 = .ok () ∧ overSpdm.1.isOk = true ∧
    Holds (fieldsAfter (fun _ => 1) overTls.2) (Bytes.zero 32).1
      (Reference.shortDigest (cleared boundRecord).asBytes) boundRecord.curServtdAttr.1 ∧
    Holds (fieldsAfter (fun _ => 2) overSpdm.2.log) (Bytes.zero 32).1
      (Reference.shortDigest (cleared boundRecord).asBytes) boundRecord.curServtdAttr.1 := by
  have hruns : overTls.1 = .ok () ∧ overSpdm.1 = .ok [0, 0, 10, 0] ∧
      boundPeer.2.readExact = .ok (Bytes.zero 32) ∧
      getServtdExtFromCert boundPeer.1 boundPeer.2.peerCerts = .ok boundRecord ∧
      tokenElement (Reference.element .rebindSessionToken (List.replicate 32 0)) =
        .ok (Bytes.zero 32, []) := by
    decide +kernel
  obtain ⟨htls, hspdm, hread, hcert, htoken⟩ := hruns
  have htlsRun : overTls = (.ok (), overTls.2) := by rw [← htls]
  have hspdmRun : overSpdm = (.ok [0, 0, 10, 0], overSpdm.2) := by rw [← hspdm]
  obtain ⟨hfirst, hsecond⟩ := (rebind_writes_agree (Bytes.zero 32) boundRecord
    Reference.platform).1 Reference.platform.tdx boundPeer.1 boundPeer.2 [] overTls.2 (some 7)
    boundMessage _ _ _ boundContext overSpdm.2 (fun _ => 1) (fun _ => 2) hread hcert htlsRun htoken
    rfl hspdmRun
  exact ⟨htls, by rw [hspdm]; rfl, hfirst, hsecond⟩

end MigTd.Migration.RebindWrites
