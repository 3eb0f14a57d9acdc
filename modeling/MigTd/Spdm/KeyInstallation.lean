/- source: spdm_rsp.rs
   digest: Writes of version and key happen in attested sessions only, and are completed once. -/

import MigTd.Spdm.Installation
import MigTd.Spdm.Reference

set_option autoImplicit false

namespace MigTd.Spdm.KeyInstallation

open Lib.ByteCodec Lib.RunHistory Lib.StateProgram Migration.Information Migration.MskExchange
  Migration.ServtdRecord Context Dispatcher Installation Responder ResponderFrames ResponderRun
  ResponderSpecs Status Vdm Tdx.Module

/-- The round completed both writes: the version and all four words of one key. -/
def Completes (v : Visit RspState Message) : Prop :=
  ∃ info migVer key, (installWrites info migVer key).Sublist (succeeded (newEvents v))

/-- The message is a migration information request in an established session that carries the
attestation marker. -/
def InAttestedSession (s : RspState) (m : Message) : Prop :=
  ∃ d sendError vdm r sid session, m = .vdm d sendError ∧
    openRequest s.negotiateInfo d.reqBytes = .ok (vdm, r) ∧
    vdm.opCode = .exchangeMigrationInfoReq ∧ d.sessionId = some sid ∧ Ready s sid session

def inAttestedSession (s : RspState) : Message → Bool
  | .vdm d _ => match openRequest s.negotiateInfo d.reqBytes, d.sessionId.bind s.sessions with
    | .ok (vdm, _), some session => vdm.opCode == .exchangeMigrationInfoReq &&
        session.state == .established && session.marked
    | _, _ => false
  | _ => false

variable {s t : RspState} {m : Message}

private theorem inAttestedSession_iff : inAttestedSession s m = true ↔ InAttestedSession s m := by
  constructor
  · intro h
    cases m with
    | lost => cases h
    | library => cases h
    | vdm d sendError =>
      unfold inAttestedSession at h
      dsimp only at h
      split at h
      · rename_i vdm r session opened found
        simp only [Bool.and_eq_true, beq_iff_eq] at h
        obtain ⟨sid, hsid, hfound⟩ := Option.bind_eq_some_iff.mp found
        exact ⟨d, sendError, vdm, r, sid, session, rfl, opened, h.1.1, hsid, hfound, h.1.2, h.2⟩
      · cases h
  · rintro ⟨d, sendError, vdm, r, sid, session, rfl, opened, op, hsid, ready⟩
    have found : d.sessionId.bind s.sessions = some session := by
      rw [hsid]
      exact ready.found
    unfold inAttestedSession
    simp only [opened, found, op, ready.established, ready.attested, BEq.rfl, Bool.and_self]

instance : Decidable (InAttestedSession s m) :=
  decidable_of_iff (inAttestedSession s m = true) inAttestedSession_iff

section

variable {P : Platform} {info : MigtdMigrationInformation} {remote : ExchangeInformation}
  {ext : ServtdExt} {log log' : TdLog}

variable {x : Except MigrationResult ExchangeInformation}

theorem installMsk_issues
    (h : installMsk P info remote log = (x, log')) : Issues (MskCall info) log log' :=
  (inferInstance : Keeps (Issues (MskCall info)) (installMsk P info remote)).of_ok h

theorem installMsk_extends (h : installMsk P info remote log = (x, log')) : log <+: log' := by
  obtain ⟨added, rfl, -⟩ := installMsk_issues h
  exact List.prefix_append log added

theorem ne_vmWrite_of_msk {call : TdCall} (h : MskCall info call) {field value mask : UInt64} :
    call ≠ .vmWrite field value mask := by
  rcases h with (⟨_, _, _, rfl⟩ | ⟨_, rfl⟩) | ⟨_, _, _, rfl⟩ <;> exact TdCall.noConfusion

variable {x : Except MigrationResult Unit}

theorem approve_issues (h : approve P ext log = (x, log')) : Issues WritesApproved log log' :=
  (inferInstance : Keeps (Issues WritesApproved) (approve P ext)).of_ok h

theorem approval_issues
    (h : t.log = log ∨ P.build.policyV2 = true ∧ ∃ ext x, s.servtdExt = some ext ∧
      approve P ext log = (x, t.log)) : Issues WritesApproved log t.log := by
  rcases h with h | ⟨-, ext, x, -, h⟩
  · rw [h]
    exact refl_of _ log
  · exact approve_issues h

theorem installRebind_issues {token : Bytes 32} (h : installRebind P token ext log = (x, log')) :
    Issues (fun c => WritesApproved c ∨ WritesRebind c) log log' :=
  (inferInstance : Keeps (Issues fun c => WritesApproved c ∨ WritesRebind c)
    (installRebind P token ext)).of_ok h

end

/-- What a round can do to the installed key: nothing, a part of it, or all of it and the flag.
The last two go to the target in the application context. -/
inductive KeyEffect (P : Platform) (s : RspState) (m : Message) (t : RspState) : Prop
  | nothing (log : Issues (fun c => isMigWrite c = false) s.log t.log)
      (flag : t.migInfoExchanged = s.migInfoExchanged)
  | part {context : SpdmAppContextData} {rest : Octets} {remote : ExchangeInformation}
      {x : MigrationResult} (request : InAttestedSession s m) (first : s.migInfoExchanged = false)
      (target : SpdmAppContextData.read P.build s.appContextDataBuffer = some (context, rest))
      (install : installMsk P context.migrationInfo remote s.log = (.error x, t.log))
      (flag : t.migInfoExchanged = s.migInfoExchanged)
  | all {context : SpdmAppContextData} {rest : Octets} {remote own : ExchangeInformation}
      {log : TdLog} (request : InAttestedSession s m) (first : s.migInfoExchanged = false)
      (target : SpdmAppContextData.read P.build s.appContextDataBuffer = some (context, rest))
      (install : installMsk P context.migrationInfo remote s.log = (.ok own, log))
      (approval : Issues WritesApproved log t.log) (flag : t.migInfoExchanged = true)

theorem step_keyEffect (P : Platform) (s : RspState) (m : Message) :
    KeyEffect P s m (step P s m) := by
  have inSession {d : Delivery} {sendError : Option SpdmStatus} {vdm : VdmMessage} {r : Octets}
      {sid : UInt32} {session : SpdmSession} {remote : ExchangeInformation}
      {context : SpdmAppContextData}
      (opened : openRequest s.negotiateInfo d.reqBytes = .ok (vdm, r))
      (op : vdm.opCode = .exchangeMigrationInfoReq)
      (request : MigInfoRequest P d.sessionId vdm r s sid session remote context) :
      InAttestedSession s (.vdm d sendError) :=
    ⟨d, sendError, vdm, r, sid, session, rfl, opened, op, request.addressed, request.ready⟩
  cases step_callEffect P s m with
  | silent log flag =>
    refine .nothing ?_ flag
    rw [log]
    exact refl_of _ s.log
  | keyFailed opened op request install flag =>
    obtain ⟨rest, target⟩ := request.context
    exact .part (inSession opened op request) request.first target install flag
  | keyInstalled opened op request install approval flag =>
    obtain ⟨rest, target⟩ := request.context
    exact .all (inSession opened op request) request.first target install
      (approval_issues approval) flag
  | rebind opened op request install build flag =>
    refine .nothing ((installRebind_issues install).mono ?_) flag
    rintro c (hc | hc)
    · exact isMigWrite_of_writesApproved hc
    · exact isMigWrite_of_writesRebind hc

section

variable {P : Platform}

theorem KeyEffect.extends (h : KeyEffect P s m t) : s.log <+: t.log := by
  cases h with
  | nothing log flag =>
    obtain ⟨added, hadded, -⟩ := log
    rw [hadded]
    exact List.prefix_append s.log added
  | part request first target install => exact installMsk_extends install
  | all request first target install approval =>
    obtain ⟨added, hadded, -⟩ := approval
    rw [hadded]
    exact (installMsk_extends install).trans (List.prefix_append _ added)

theorem KeyEffect.after_flag (h : KeyEffect P s m t) (hs : s.migInfoExchanged = true) :
    t.migInfoExchanged = true ∧ Issues (fun c => isMigWrite c = false) s.log t.log := by
  cases h with
  | nothing log flag => exact ⟨flag.trans hs, log⟩
  | part _ first =>
    rw [hs] at first
    cases first
  | all _ first =>
    rw [hs] at first
    cases first

theorem five_le_migWrites {info : MigtdMigrationInformation} {migVer : UInt16}
    {key : MigrationSessionKey} {log : TdLog}
    (h : (installWrites info migVer key).Sublist (succeeded log)) : 5 ≤ migWrites log := by
  have hall : ∀ c ∈ installWrites info migVer key, isMigWrite c = true := by
    intro c hc
    exact isMigWrite_iff.mpr ⟨_, _, writesMig_of_mem_installWrites hc⟩
  have hlen : (installWrites info migVer key).length = 5 := by
    rw [installWrites_length]
  calc 5 = (installWrites info migVer key).countP isMigWrite := by
        rw [List.countP_eq_length.mpr hall, hlen]
    _ ≤ migWrites log := h.countP_le

theorem KeyEffect.flag_of_completes {v : Visit RspState Message}
    (h : KeyEffect P v.before v.input v.after) (hc : Completes v) :
    v.after.migInfoExchanged = true := by
  obtain ⟨info, migVer, key, hsub⟩ := hc
  have hfive := five_le_migWrites hsub
  have happend := newEvents_append h.extends
  have hcount : migWrites v.after.log = migWrites v.before.log + migWrites (newEvents v) := by
    rw [happend, migWrites_append]
  cases h with
  | nothing log flag =>
    have hzero := migWrites_of_issues log fun _ hc => hc
    omega
  | part _ _ _ install =>
    have few := installMsk_error install
    omega
  | all _ _ _ _ _ flag => exact flag

/-- Version and key are written only in attested sessions, at most one request completes both
writes, and after it no request writes either. -/
theorem key_installed_once {s t : RspState} {h : List (Visit RspState Message)}
    (w : Walk (step P) s h t) :
    (∀ v ∈ h, ∀ e ∈ newEvents v, isMigWrite e.call = true → InAttestedSession v.before v.input) ∧
    ∀ g v k, h = g ++ v :: k → Completes v →
      ∀ u ∈ k, ¬Completes u ∧ ∀ e ∈ newEvents u, isMigWrite e.call = false := by
  have effect {v : Visit RspState Message} (hv : v.after = step P v.before v.input) :
      KeyEffect P v.before v.input v.after := by
    rw [hv]
    exact step_keyEffect P v.before v.input
  constructor
  · intro v hv e he hwrite
    obtain ⟨hstep, -⟩ := w.mem hv
    cases effect hstep with
    | nothing log flag =>
      have hnot := newEvents_of_issues log e he
      rw [hwrite] at hnot
      cases hnot
    | part request => exact request
    | all request => exact request
  · rintro g v k rfl hcompletes u hu
    obtain ⟨-, hstep, hrest⟩ := w.split
    have hflag := (effect hstep).flag_of_completes hcompletes
    -- From here on every round starts with the flag set.
    obtain ⟨-, hall⟩ := hrest.always hflag fun x i hx =>
      ((step_keyEffect P x i).after_flag hx).1
    obtain ⟨hustep, -⟩ := hrest.mem hu
    have hquiet := ((effect hustep).after_flag (hall u hu).1).2
    refine ⟨?_, newEvents_of_issues hquiet⟩
    rintro ⟨info, migVer, key, hsub⟩
    have hfive := five_le_migWrites hsub
    have hcount := migWrites_of_issues hquiet fun _ hc => hc
    rw [newEvents_append (effect hustep).extends, migWrites_append] at hcount
    omega

end

def keyRequest : Message := Reference.deliver (some 7) Reference.migInfoRequest

def keyVisit : Visit RspState Message :=
  ⟨Reference.attestedContext, keyRequest,
    step Reference.platform Reference.attestedContext keyRequest⟩

def replayVisit : Visit RspState Message :=
  ⟨step Reference.platform Reference.attestedContext keyRequest, keyRequest,
    step Reference.platform (step Reference.platform Reference.attestedContext keyRequest)
      keyRequest⟩

theorem key_installed_once_replay :
    Completes keyVisit ∧ ∀ e ∈ newEvents replayVisit, isMigWrite e.call = false := by
  have hwrites : (installWrites .default 1 ⟨[1, 2, 3, 4], rfl⟩).Sublist
      (succeeded (newEvents keyVisit)) := by
    decide +kernel
  have hfirst : Completes keyVisit := ⟨_, _, _, hwrites⟩
  have honce := (key_installed_once
    (walk_trace Reference.attestedContext [keyRequest, keyRequest])).2
    [] keyVisit [replayVisit] rfl hfirst replayVisit (List.mem_singleton.mpr rfl)
  exact ⟨hfirst, honce.2⟩

end MigTd.Spdm.KeyInstallation
