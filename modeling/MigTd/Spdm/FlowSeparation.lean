/- source: spdm_rsp.rs, spdm_rebind.rs
   digest: The mode in which the requests of a run are served, and the writes that each mode allows. -/

import MigTd.Spdm.KeyInstallation

set_option autoImplicit false

namespace MigTd.Spdm.FlowSeparation

open Lib.StateProgram Migration.Information Migration.MskExchange Migration.ServtdRecord Context
  Dispatcher Installation KeyInstallation Responder ResponderFrames ResponderRun Status.SpdmStatus
  Vdm Tdx.Module

section

variable {P : Platform} {s : RspState} {peerData : Octets} {messages : List Message}

theorem handle_migAttest {vdm : VdmMessage} (op : vdm.opCode = .exchangeMigrationAttestInfoReq)
    (d : Delivery) (r : Octets) (s : RspState) :
    handle P d vdm r s =
      if s.info.isMigration then attestMigration P d.services d.sessionId vdm r s
      else (.error SPDM_STATUS_INVALID_MSG_FIELD, s) := by
  unfold handle
  rw [op]
  change (ensure (s.info.isMigration = true) SPDM_STATUS_INVALID_MSG_FIELD >>= fun _ =>
    attestMigration P d.services d.sessionId vdm r) s = _
  unfold ensure
  split <;> rfl

theorem handle_rebindAttest {vdm : VdmMessage} (op : vdm.opCode = .exchangeRebindAttestInfoReq)
    (build : P.build.rebinding = true) (d : Delivery) (r : Octets) (s : RspState) :
    handle P d vdm r s =
      if s.info.isRebind then attestRebinding P d.services d.sessionId vdm r s
      else (.error SPDM_STATUS_INVALID_MSG_FIELD, s) := by
  unfold handle
  rw [op]
  dsimp only
  rw [if_pos build]
  change (ensure (s.info.isRebind = true) SPDM_STATUS_INVALID_MSG_FIELD >>= fun _ =>
    attestRebinding P d.services d.sessionId vdm r) s = _
  unfold ensure
  split <;> rfl

/-- A rebinding run serves every request in its own mode, so that a rebinding attestation request
meets the checks behind the gate. A migration run never sets its mode: a migration attestation
request meets these checks exactly in a context that had the mode before. -/
theorem run_mode {info : MigtdMigrationInformation} :
    (∀ v ∈ (spdmResponderRebindNew P s info peerData messages).visits,
      v.before.info = .rebindInformation info ∧
      (P.build.rebinding = true → ∀ d vdm r, vdm.opCode = .exchangeRebindAttestInfoReq →
        handle P d vdm r v.before =
          attestRebinding P d.services d.sessionId vdm r v.before)) ∧
    ∀ v ∈ (spdmResponderTransferMsk P s info peerData messages).visits,
      (v.before.info = .migrationInformation info ↔ s.info = .migrationInformation info) ∧
      ∀ d vdm r, vdm.opCode = .exchangeMigrationAttestInfoReq →
        handle P d vdm r v.before =
          if s.info.isMigration then attestMigration P d.services d.sessionId vdm r v.before
          else (.error SPDM_STATUS_INVALID_MSG_FIELD, v.before) := by
  constructor
  · intro v hv
    have hinfo := (serve_step hv).2.1.info
    refine ⟨hinfo, fun build d vdm r op => ?_⟩
    rw [handle_rebindAttest op build, hinfo]
    rfl
  · intro v hv
    have hinfo := (serve_step hv).2.1.info
    refine ⟨by rw [hinfo], fun d vdm r op => ?_⟩
    rw [handle_migAttest op, hinfo]

end

def honestAttestation : Delivery :=
  ⟨Reference.services, none, Reference.migAttestRequest 1 (List.replicate 272 0), 8192⟩

/-- The context of a migration run names no mode, so that the gate refuses an attestation that
would be accepted in the right mode. -/
theorem run_mode_unset :
    ∃ v ∈ (spdmResponderTransferMsk Reference.platform (spdmResponder Reference.negotiated 400)
        .default [8] [Reference.connect, Reference.deliver none Reference.pubKeyRequest,
          Reference.startSession 7 1, .vdm honestAttestation none]).visits,
      v.before.info = .none ∧
      (dispatch Reference.platform honestAttestation v.before).1 =
        .error (SPDM_STATUS_INVALID_MSG_FIELD, [0x12, 0x7F, 0xFF, 0]) ∧
      (dispatch Reference.platform honestAttestation
        { v.before with info := .migrationInformation .default }).1.isOk = true := by
  decide +kernel

section

variable {P : Platform} {call : TdCall}

theorem not_writesRebind_of_approved (h : WritesApproved call) : ¬WritesRebind call := by
  have htoken : ∀ i : Fin 6, ∀ j : Fin 4,
      TDCS_FIELD_SERVTD_ACCEPT_SERVTD_EXT_HASH + i.val.toUInt64 ≠
        TDCS_FIELD_SERVTD_REBIND_ACCEPT_TOKEN + j.val.toUInt64 := by
    decide
  have hattr : ∀ i : Fin 6, TDCS_FIELD_SERVTD_ACCEPT_SERVTD_EXT_HASH + i.val.toUInt64 ≠
      TDCS_FIELD_SERVTD_REBIND_ATTR := by
    decide
  obtain ⟨i, value, rfl⟩ := h
  rintro (⟨j, value', heq⟩ | ⟨value', heq⟩)
  · exact htoken i j (TdCall.vmWrite.inj heq).1
  · exact hattr i (TdCall.vmWrite.inj heq).1

variable {info : MigtdMigrationInformation} {s : RspState}

theorem not_writesRebind_of_msk (h : MskCall info call) : ¬WritesRebind call := by
  rintro (⟨_, _, heq⟩ | ⟨_, heq⟩) <;> exact ne_vmWrite_of_msk h heq

theorem step_noRebind (hs : s.info.isRebind = false) (m : Message) :
    Issues (fun c => ¬WritesRebind c) s.log (step P s m).log := by
  cases step_callEffect P s m with
  | silent log =>
    rw [log]
    exact refl_of _ s.log
  | keyFailed opened op request install =>
    exact (installMsk_issues install).mono fun _ => not_writesRebind_of_msk
  | keyInstalled opened op request install approval =>
    exact trans_of _ ((installMsk_issues install).mono fun _ => not_writesRebind_of_msk)
      ((approval_issues approval).mono fun _ => not_writesRebind_of_approved)
  | rebind opened op request =>
    have mode := request.mode
    rw [hs] at mode
    cases mode

def keyRead (info : MigtdMigrationInformation) : TdCall :=
  .servtdRd info.bindingHandle TDCS_FIELD_MIG_ENC_KEY info.targetTdUuid

theorem installMsk_refused {remote : ExchangeInformation}
    {log : TdLog} {e : UInt64} (refused : P.tdx log (keyRead info) = .error e) :
    installMsk P info remote log = (.error .tdxModuleError, log ++ [⟨keyRead info, .error e⟩]) := by
  have hcall : tdCall P.tdx (keyRead info) log =
      (.error .tdxModuleError, log ++ [⟨keyRead info, .error e⟩]) := by
    unfold tdCall
    rw [refused]
  have hread : exchangeInfo P.tdx info false log =
      (.error .tdxModuleError, log ++ [⟨keyRead info, .error e⟩]) :=
    bind_error.mpr (.inl (bind_error.mpr (.inl hcall)))
  exact bind_error.mpr (.inl hread)

theorem step_noKey {m : Message}
    (holds : SpdmAppContextData.Holds P.build info s.appContextDataBuffer)
    (refused : InAttestedSession s m → ∃ e, P.tdx s.log (keyRead info) = .error e) :
    Issues (fun c => isMigWrite c = false) s.log (step P s m).log := by
  -- The application context names the target of the run.
  have stopped {context : SpdmAppContextData} {rest : Octets} (request : InAttestedSession s m)
      (target : SpdmAppContextData.read P.build s.appContextDataBuffer = some (context, rest))
      (remote : ExchangeInformation) : ∃ e, installMsk P context.migrationInfo remote s.log =
        (.error .tdxModuleError, s.log ++ [⟨keyRead context.migrationInfo, .error e⟩]) := by
    obtain ⟨e, he⟩ := refused request
    have hread : keyRead context.migrationInfo = keyRead info := by
      rw [holds.read P.build target]
      rfl
    rw [← hread] at he
    exact ⟨e, installMsk_refused he⟩
  cases step_keyEffect P s m with
  | nothing log => exact log
  | @part context rest remote x request first target install =>
    obtain ⟨e, hstop⟩ := stopped request target remote
    rw [hstop] at install
    refine ⟨[⟨keyRead context.migrationInfo, .error e⟩], (congrArg Prod.snd install).symm, ?_⟩
    intro event hevent
    obtain rfl := List.mem_singleton.mp hevent
    rfl
  | @all context rest remote own log request first target install =>
    obtain ⟨e, hstop⟩ := stopped request target remote
    rw [hstop] at install
    cases congrArg Prod.fst install

end

/-- In a migration run nothing of a rebinding is written. In a rebinding run no round writes
version or key, except for a migration information request in an attested session when the module
hands out the key of the target that the run does not even name. -/
theorem flows_separated {P : Platform} {n : NegotiateInfo} {size : Nat}
    {info : MigtdMigrationInformation} {peerData : Octets} {messages : List Message} :
    (∀ v ∈ (spdmResponderTransferMsk P (spdmResponder n size) info peerData messages).visits,
      ∀ e ∈ newEvents v, ¬WritesRebind e.call) ∧
    ∀ v ∈ (spdmResponderRebindNew P (spdmResponder n size) info peerData messages).visits,
      (InAttestedSession v.before v.input → ∃ e, P.tdx v.before.log (keyRead .default) = .error e) →
      ∀ e ∈ newEvents v, isMigWrite e.call = false := by
  constructor
  · intro v hv
    obtain ⟨hstep, hframe, -⟩ := serve_step hv
    have hmode : v.before.info.isRebind = false := by
      rw [hframe.info]
      rfl
    have hissues := step_noRebind (P := P) hmode v.input
    rw [← hstep] at hissues
    exact newEvents_of_issues hissues
  · intro v hv refused
    obtain ⟨hstep, -, holds⟩ := serve_step hv
    have hissues := step_noKey holds refused
    rw [← hstep] at hissues
    exact newEvents_of_issues hissues

/-- A rebinding run up to an attested session, and then a migration information request. -/
def mixedMessages : List Message :=
  [Reference.connect, Reference.deliver none Reference.pubKeyRequest, Reference.startSession 7 1,
    Reference.deliver none (Reference.rebindAttestRequest 1 (List.replicate 272 0)),
    Reference.finishSession 7, Reference.deliver (some 7) Reference.migInfoRequest]

/-- A module that completes every call but the reads of the own key. -/
def lockedPlatform : Platform :=
  { Reference.platform with
    tdx := fun log call => if call = keyRead .default then .error 1 else Reference.tdx log call }

theorem flows_separated_locked :
    (∃ v ∈ (spdmResponderRebindNew lockedPlatform (spdmResponder Reference.negotiated 400)
        .default [8] mixedMessages).visits, InAttestedSession v.before v.input) ∧
    ∀ v ∈ (spdmResponderRebindNew lockedPlatform (spdmResponder Reference.negotiated 400)
        .default [8] mixedMessages).visits, ∀ e ∈ newEvents v, isMigWrite e.call = false := by
  have hlocked (log : TdLog) : lockedPlatform.tdx log (keyRead .default) = .error 1 := by
    simp [lockedPlatform]
  refine ⟨by decide +kernel, ?_⟩
  intro v hv
  exact flows_separated.2 v hv fun _ => ⟨1, hlocked _⟩

/-- On the reference platform the same request writes version and key in a rebinding run. -/
theorem flows_mixed :
    ∃ v ∈ (spdmResponderRebindNew Reference.platform (spdmResponder Reference.negotiated 400)
        .default [8] mixedMessages).visits,
      v.before.info.isRebind = true ∧
      (installWrites .default 1 ⟨[1, 2, 3, 4], rfl⟩).Sublist (succeeded (newEvents v)) := by
  decide +kernel

end MigTd.Spdm.FlowSeparation
