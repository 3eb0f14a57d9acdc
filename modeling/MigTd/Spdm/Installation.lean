/- source: spdm_rsp.rs
   digest: What the installation of a key or of a rebinding leaves in the log, on every outcome. -/

import MigTd.Migration.AttrOrder
import MigTd.Spdm.ResponderFrames

set_option autoImplicit false

namespace MigTd.Spdm.Installation

open Lib.ByteCodec Lib.EventLog Lib.StateProgram Migration.AttrOrder Migration.Information
  Migration.MskExchange Migration.ServtdRecord Migration.ServtdRecord.ServtdExt Context Responder
  ResponderFrames Tdx.Module

def isMigWrite : TdCall → Bool
  | .servtdWr _ field _ _ => decide (IsMigField field)
  | _ => false

variable {call : TdCall}

theorem isMigWrite_iff : isMigWrite call = true ↔ ∃ h u, WritesMig h u call := by
  cases call with
  | servtdWr h f d u =>
    constructor
    · intro hf
      exact ⟨h, u, f, d, of_decide_eq_true hf, rfl⟩
    · rintro ⟨h', u', f', d', hf, heq⟩
      cases heq
      exact decide_eq_true hf
  | servtdRd | servtdRebindApprove | vmWrite | sysRd =>
    constructor
    · intro hf
      cases hf
    · rintro ⟨h', u', f', d', hf, heq⟩
      cases heq

def migWrites (log : TdLog) : Nat := (succeeded log).countP isMigWrite

theorem migWrites_append (log added : TdLog) :
    migWrites (log ++ added) = migWrites log + migWrites added := by
  simp [migWrites]

theorem isMigWrite_of_readsOnly (h : ReadsOnly call) : isMigWrite call = false := by
  rcases h with ⟨_, _, _, rfl⟩ | ⟨_, rfl⟩ <;> rfl

theorem isMigWrite_of_writesApproved (h : WritesApproved call) : isMigWrite call = false := by
  obtain ⟨i, value, rfl⟩ := h
  rfl

theorem isMigWrite_of_writesRebind (h : WritesRebind call) : isMigWrite call = false := by
  rcases h with ⟨i, value, rfl⟩ | ⟨value, rfl⟩ <;> rfl

theorem migWrites_of_issues {Q : TdCall → Prop} {log log' : TdLog} (h : Issues Q log log')
    (hq : ∀ c, Q c → isMigWrite c = false) : migWrites log' = migWrites log := by
  obtain ⟨added, rfl, hadded⟩ := h
  have hzero : migWrites added = 0 := by
    unfold migWrites
    rw [List.countP_eq_zero]
    intro c hc
    obtain ⟨v, hv⟩ := mem_succeeded.mp hc
    rw [hq c (hadded _ hv)]
    exact Bool.false_ne_true
  rw [migWrites_append, hzero, Nat.add_zero]

variable {e : MigrationResult}

section

variable {tdx : TdxModule} {info : MigtdMigrationInformation} {log log' : TdLog}

theorem migWrites_tdCall_ok {v : UInt64}
    (h : tdCall tdx call log = (.ok v, log')) : migWrites log' ≤ migWrites log + 1 := by
  obtain ⟨-, rfl⟩ := tdCall_ok.mp h
  have hone : migWrites [⟨call, .ok v⟩] ≤ 1 := List.countP_le_length
  rw [migWrites_append]
  omega

theorem migWrites_tdCall_error
    (h : tdCall tdx call log = (.error e, log')) : migWrites log' = migWrites log := by
  unfold tdCall at h
  cases hr : tdx log call with
  | ok v =>
    rw [hr] at h
    cases h
  | error x =>
    rw [hr] at h
    cases h
    rw [migWrites_append]
    rfl

theorem migWrites_writeWords_error {field : UInt64} {ws : List UInt64}
    (h : writeWords tdx info field ws log = (.error e, log')) :
    migWrites log' < migWrites log + ws.length := by
  induction ws generalizing field log with
  | nil => cases h
  | cons w ws ih =>
    rw [List.length_cons]
    rcases bind_error.mp h with hcall | ⟨v, mid, hcall, hrest⟩
    · rw [migWrites_tdCall_error hcall]
      omega
    · have hmid := migWrites_tdCall_ok hcall
      have hlog := ih hrest
      omega

end

section

variable {P : Platform} {info : MigtdMigrationInformation} {remote own : ExchangeInformation}
  {log log' : TdLog}

theorem installMsk_ok (h : installMsk P info remote log = (.ok own, log')) :
    own.reserved = Bytes.zero 4 ∧ ∃ migVer, calMigVersion false own remote = .ok migVer ∧
      ∃ added, log' = log ++ exchangeEvents info false own ++
          [attrChecked info.bindingHandle info.targetTdUuid] ++ added ∧
        succeeded added = installWrites info migVer remote.key := by
  obtain ⟨x, l1, hx, h⟩ := bind_ok.mp h
  obtain ⟨_, l2, hattr, h⟩ := bind_ok.mp h
  obtain ⟨migVer, l3, hlift, h⟩ := bind_ok.mp h
  obtain ⟨_, l4, hset, h⟩ := bind_ok.mp h
  obtain ⟨_, l5, hmsk, h⟩ := bind_ok.mp h
  obtain ⟨rfl, rfl⟩ := pure_ok.mp h
  obtain ⟨hver, rfl⟩ := lift_ok.mp hlift
  obtain ⟨-, rfl⟩ := verifyServtdAttr_ok.mp hattr
  obtain ⟨hreserved, rfl, -⟩ := exchangeInfo_iff.mp hx
  refine ⟨hreserved, migVer, hver, ?_⟩
  have hwrites := install_ok hset hmsk
  have hgrow : Issues (WritesMig info.bindingHandle info.targetTdUuid) _ l5 :=
    trans_of _ ((keeps_setMigVersion migVer).of_ok hset) ((keeps_writeMsk remote.key).of_ok hmsk)
  obtain ⟨added, rfl, -⟩ := hgrow
  refine ⟨added, rfl, ?_⟩
  rw [succeeded_append] at hwrites
  exact List.append_cancel_left hwrites

theorem installMsk_error
    (h : installMsk P info remote log = (.error e, log')) : migWrites log' < migWrites log + 5 := by
  have hreads {l l' : TdLog} (hi : Issues ReadsOnly l l') : migWrites l' = migWrites l :=
    migWrites_of_issues hi fun _ => isMigWrite_of_readsOnly
  have hattr : Keeps (Issues ReadsOnly)
      (verifyServtdAttr P.tdx info.bindingHandle info.targetTdUuid) :=
    keeps_verifyServtdAttr.mono fun _ _ hi => hi.mono fun _ hc => readsOnly_of_readsTarget hc
  rcases bind_error.mp h with h | ⟨x, l1, hx, h⟩
  · rw [hreads ((keeps_exchangeInfo false).of_ok h)]
    omega
  have h1 := hreads ((keeps_exchangeInfo false).of_ok hx)
  rcases bind_error.mp h with h | ⟨_, l2, hv, h⟩
  · have h2 := hreads (hattr.of_ok h)
    omega
  have h2 := hreads (hattr.of_ok hv)
  rcases bind_error.mp h with h | ⟨migVer, l3, hver, h⟩
  · obtain ⟨-, rfl⟩ := lift_error.mp h
    omega
  obtain ⟨-, rfl⟩ := lift_ok.mp hver
  rcases bind_error.mp h with h | ⟨_, l4, hset, h⟩
  · have h3 : migWrites log' = migWrites l2 := by
      rcases bind_error.mp h with h | ⟨_, _, -, h⟩
      · exact migWrites_tdCall_error h
      · cases h
    omega
  have h4 : migWrites l4 ≤ migWrites l2 + 1 := by
    obtain ⟨_, _, hcall, hp⟩ := bind_ok.mp hset
    obtain ⟨-, rfl⟩ := pure_ok.mp hp
    exact migWrites_tdCall_ok hcall
  rcases bind_error.mp h with h | ⟨_, _, -, h⟩
  · have h5 := migWrites_writeWords_error h
    rw [remote.key.2] at h5
    omega
  · cases h

theorem keeps_attr_installMsk (info : MigtdMigrationInformation) (remote : ExchangeInformation) :
    Keeps (AttrKept []) (installMsk P info remote) := by
  refine keeps_bind_of inferInstance fun _ own l _ => ?_
  refine (keeps_grows_bind inferInstance (fun _ _ _ h => verifyServtdAttr_holds h) ?_).rel l
  intro _
  have hset (migVer : UInt16) : Keeps (AttrKept [attrChecked info.bindingHandle info.targetTdUuid])
      (setMigVersion P.tdx info migVer) := keeps_attr_of_writes inferInstance
  have hmsk : Keeps (AttrKept [attrChecked info.bindingHandle info.targetTdUuid])
      (writeMsk P.tdx info remote.key) := keeps_attr_of_writes inferInstance
  infer_instance

theorem installMsk_guarded (info : MigtdMigrationInformation) (remote : ExchangeInformation)
    (log : TdLog) :
    Post (installMsk P info remote) log fun _ log' =>
      Issues (fun c => isMigWrite c = false) log log' ∨
      ∃ own migVer, own.reserved = Bytes.zero 4 ∧ calMigVersion false own remote = .ok migVer ∧
        log ++ exchangeEvents info false own <+: log' := by
  have quiet {l l' : TdLog} (h : Issues ReadsOnly l l') :
      Issues (fun c => isMigWrite c = false) l l' := h.mono fun _ => isMigWrite_of_readsOnly
  have hattr : Keeps (Issues ReadsOnly)
      (verifyServtdAttr P.tdx info.bindingHandle info.targetTdUuid) :=
    keeps_verifyServtdAttr.mono fun _ _ hi => hi.mono fun _ hc => readsOnly_of_readsTarget hc
  refine post_bind_keeps (keeps_exchangeInfo false) ?_ fun _ _ _ h => .inl (quiet h)
  intro own l1 hown h1
  refine post_bind_keeps hattr ?_ fun _ _ _ h => .inl (quiet (trans_of _ h1 h))
  intro _ l2 _ h2
  refine post_bind_lift.mpr ⟨?_, fun _ _ => .inl (quiet (trans_of _ h1 h2))⟩
  intro migVer hver
  have hrest : Keeps (Issues (WritesMig info.bindingHandle info.targetTdUuid)) (do
      setMigVersion P.tdx info migVer
      writeMsk P.tdx info remote.key
      return own) := inferInstance
  obtain ⟨hreserved, rfl, -⟩ := exchangeInfo_iff.mp hown
  obtain ⟨read, rfl, -⟩ := h2
  obtain ⟨added, hadded, -⟩ := hrest.rel (log ++ exchangeEvents info false own ++ read)
  refine .inr ⟨own, migVer, hreserved, hver, ?_⟩
  rw [hadded, List.append_assoc]
  exact List.prefix_append _ _

theorem installWrites_carried (b : Build) (info : MigtdMigrationInformation) (migVer : UInt16)
    (key : MigrationSessionKey) :
    installWrites (SpdmAppContextData.carried b info) migVer key =
      installWrites info migVer key := by
  have hwords (field : UInt64) (ws : List UInt64) :
      wordWrites (SpdmAppContextData.carried b info) field ws = wordWrites info field ws := by
    induction ws generalizing field with
    | nil => rfl
    | cons w ws ih =>
      rw [wordWrites, wordWrites, ih]
      rfl
  rw [installWrites, installWrites, hwords]
  rfl

theorem exchangeEvents_carried (b : Build) (info : MigtdMigrationInformation) (isSrc : Bool)
    (x : ExchangeInformation) :
    exchangeEvents (SpdmAppContextData.carried b info) isSrc x = exchangeEvents info isSrc x := by
  have hwords (field : UInt64) (ws : List UInt64) :
      wordReads (SpdmAppContextData.carried b info) field ws = wordReads info field ws := by
    induction ws generalizing field with
    | nil => rfl
    | cons w ws ih =>
      rw [wordReads, wordReads, ih]
      rfl
  rw [exchangeEvents, exchangeEvents, hwords]

/-- The three writes of a completed rebinding, in order. -/
def rebindWrites (token hash attr : Octets) : List TdCall :=
  elementWrites TDCS_FIELD_SERVTD_REBIND_ACCEPT_TOKEN (leWords 4 token) ++
    elementWrites TDCS_FIELD_SERVTD_ACCEPT_SERVTD_EXT_HASH (leWords 6 hash) ++
    elementWrites TDCS_FIELD_SERVTD_REBIND_ATTR (leWords 1 attr)

theorem installRebind_ok {token : Bytes 32} {ext : ServtdExt}
    (h : installRebind P token ext log = (.ok (), log')) :
    ∃ hash, ext.calculateApprovedServtdExtHash P.sha384 = .ok hash ∧
      succeeded log' = succeeded log ++ rebindWrites token.1 hash ext.curServtdAttr.1 := by
  obtain ⟨_, l1, htoken, h⟩ := bind_ok.mp h
  obtain ⟨_, l2, happrove, hattr⟩ := bind_ok.mp h
  obtain ⟨hash, l3, hlift, hwrite⟩ := bind_ok.mp happrove
  obtain ⟨hhash, rfl⟩ := lift_ok.mp hlift
  refine ⟨hash, hhash, ?_⟩
  rw [(writeWordsOf_ok hattr).2, (writeWordsOf_ok hwrite).2, (writeWordsOf_ok htoken).2]
  simp only [rebindWrites, List.append_assoc]

end

end MigTd.Spdm.Installation
