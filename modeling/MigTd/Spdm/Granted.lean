/- source: spdm_rsp.rs, session.rs
   digest: Which information requests are granted, by their checks and by the module's answers. -/

import MigTd.Spdm.KeyInstallation

set_option autoImplicit false

namespace MigTd.Spdm.Granted

open Lib.ByteCodec Lib.RunHistory Lib.StateProgram Migration.Information Migration.MskExchange
  Migration.ServtdRecord Context Dispatcher Installation KeyInstallation Responder ResponderFrames
  ResponderRun ResponderSpecs Status Vdm Tdx.Module

/-- The log after the module completed these calls one after another, if it did. -/
def complete (tdx : TdxModule) : TdLog → List TdCall → Option TdLog
  | log, [] => some log
  | log, call :: rest => match tdx log call with
    | .ok v => complete tdx (log ++ [⟨call, .ok v⟩]) rest
    | .error _ => none

/-- The calls one after another, up to the first that fails. -/
def callAll (tdx : TdxModule) : List TdCall → TdProgram Unit
  | [] => pure ()
  | call :: rest => do
    let _ ← tdCall tdx call
    callAll tdx rest

section

variable {tdx : TdxModule} {calls : List TdCall} {log log' : TdLog} {info : MigtdMigrationInformation}

theorem callAll_ok : callAll tdx calls log = (.ok (), log') ↔ complete tdx log calls = some log' := by
  induction calls generalizing log with
  | nil =>
    rw [callAll, pure_ok, complete, Option.some_inj]
    exact ⟨fun h => h.2, fun h => ⟨rfl, h⟩⟩
  | cons call rest ih =>
    rw [callAll, bind_ok, complete]
    constructor
    · rintro ⟨v, mid, hcall, hrest⟩
      obtain ⟨hv, rfl⟩ := tdCall_ok.mp hcall
      rw [hv]
      exact ih.mp hrest
    · intro h
      cases hv : tdx log call with
      | ok v =>
        rw [hv] at h
        exact ⟨v, _, tdCall_ok.mpr ⟨hv, rfl⟩, ih.mpr h⟩
      | error e =>
        rw [hv] at h
        cases h

theorem callAll_error {e : MigrationResult} (h : callAll tdx calls log = (.error e, log')) :
    (succeeded log').length < (succeeded log).length + calls.length := by
  induction calls generalizing log with
  | nil => cases h
  | cons call rest ih =>
    rw [List.length_cons]
    rcases bind_error.mp h with hcall | ⟨v, mid, hcall, hrest⟩
    · have hlog : succeeded log' = succeeded log := by
        unfold tdCall at hcall
        split at hcall
        · cases hcall
        · cases hcall
          rw [succeeded_append]
          exact List.append_nil _
      rw [hlog]
      omega
    · obtain ⟨-, rfl⟩ := tdCall_ok.mp hcall
      have hlen := ih hrest
      rw [succeeded_append, succeeded_ok, List.length_append, List.length_singleton] at hlen
      omega

theorem callAll_append (a b : List TdCall) :
    callAll tdx (a ++ b) = (callAll tdx a >>= fun _ => callAll tdx b) := by
  induction a with
  | nil => rfl
  | cons call rest ih =>
    funext log
    rw [List.cons_append, callAll, callAll, ih]
    dsimp only [bind]
    rcases tdCall tdx call log with ⟨x, mid⟩
    cases x <;> rfl

theorem writeWords_eq (field : UInt64) (ws : List UInt64) :
    writeWords tdx info field ws = callAll tdx (wordWrites info field ws) := by
  induction ws generalizing field with
  | nil => rfl
  | cons w ws ih =>
    rw [writeWords, ih]
    rfl

theorem elementWrites_length (field : UInt64) (ws : List UInt64) :
    (elementWrites field ws).length = ws.length := by
  induction ws generalizing field with
  | nil => rfl
  | cons w ws ih => rw [elementWrites, List.length_cons, List.length_cons, ih]

private theorem writeElements_eq (field : UInt64) (ws : List UInt64) :
    writeElements tdx field ws = callAll tdx (elementWrites field ws) := by
  induction ws generalizing field with
  | nil => rfl
  | cons w ws ih =>
    rw [writeElements, ih]
    rfl

theorem writeWordsOf_eq {count : Nat} {bytes : Octets} (field : UInt64)
    (h : bytes.length = 8 * count) :
    writeWordsOf tdx field count bytes = callAll tdx (elementWrites field (leWords count bytes)) := by
  unfold writeWordsOf ensure
  rw [if_pos h, writeElements_eq]
  rfl

/-- The module reports an offer of this side that has a version in common with the peer's, confirms
the attribute, and completes the writes of version and key. -/
def Installs (tdx : TdxModule) (info : MigtdMigrationInformation) (remote : ExchangeInformation)
    (log : TdLog) : Prop :=
  ∃ own migVer, own.reserved = Bytes.zero 4 ∧ Answers tdx log (exchangeEvents info false own ++
      [attrChecked info.bindingHandle info.targetTdUuid]) ∧
    calMigVersion false own remote = .ok migVer ∧
    (complete tdx (log ++ (exchangeEvents info false own ++
      [attrChecked info.bindingHandle info.targetTdUuid]))
      (installWrites info migVer remote.key)).isSome

theorem installMsk_iff {P : Platform} {remote : ExchangeInformation} :
    (∃ own log', installMsk P info remote log = (.ok own, log')) ↔ Installs P.tdx info remote log := by
  constructor
  · rintro ⟨own, log', h⟩
    obtain ⟨x, l1, hx, h⟩ := bind_ok.mp h
    obtain ⟨_, l2, hattr, h⟩ := bind_ok.mp h
    obtain ⟨migVer, l3, hlift, h⟩ := bind_ok.mp h
    obtain ⟨_, l4, hset, h⟩ := bind_ok.mp h
    obtain ⟨_, l5, hmsk, h⟩ := bind_ok.mp h
    obtain ⟨hver, rfl⟩ := lift_ok.mp hlift
    obtain ⟨hconfirmed, rfl⟩ := verifyServtdAttr_ok.mp hattr
    obtain ⟨hreserved, rfl, hanswers⟩ := exchangeInfo_iff.mp hx
    refine ⟨x, migVer, hreserved, ?_, hver, ?_⟩
    · rw [answers_append]
      exact ⟨hanswers, hconfirmed, trivial⟩
    · obtain ⟨v, l6, hcall, hp⟩ := bind_ok.mp hset
      obtain ⟨-, rfl⟩ := pure_ok.mp hp
      have hwrites : callAll P.tdx (installWrites info migVer remote.key) _ = (.ok (), l5) :=
        bind_ok.mpr ⟨v, _, hcall, by rw [← writeWords_eq]; exact hmsk⟩
      rw [← List.append_assoc, callAll_ok.mp hwrites]
      rfl
  · rintro ⟨own, migVer, hreserved, hanswers, hver, hwrites⟩
    obtain ⟨log', hlog⟩ := Option.isSome_iff_exists.mp hwrites
    obtain ⟨hoffer, hattr, -⟩ := (answers_append _ _ _).mp hanswers
    obtain ⟨v, mid, hcall, hkey⟩ := bind_ok.mp (callAll_ok.mpr hlog)
    rw [← writeWords_eq] at hkey
    refine ⟨own, log', bind_ok.mpr ⟨own, _, exchangeInfo_iff.mpr ⟨hreserved, rfl, hoffer⟩, ?_⟩⟩
    refine bind_ok.mpr ⟨(), _, verifyServtdAttr_ok.mpr ⟨hattr, rfl⟩, ?_⟩
    refine bind_ok.mpr ⟨migVer, _, lift_ok.mpr ⟨hver, rfl⟩, ?_⟩
    rw [← List.append_assoc] at hcall
    refine bind_ok.mpr ⟨(), mid, bind_ok.mpr ⟨v, mid, hcall, pure_ok.mpr ⟨rfl, rfl⟩⟩, ?_⟩
    exact bind_ok.mpr ⟨(), log', hkey, pure_ok.mpr ⟨rfl, rfl⟩⟩

end

/-- The message is a migration information request that meets every check on the state it finds,
and the module answers as the installation of its key needs. -/
def KeyGranted (P : Platform) (s : RspState) (m : Message) : Prop :=
  ∃ d sendError vdm r sid session remote context, m = .vdm d sendError ∧
    openRequest s.negotiateInfo d.reqBytes = .ok (vdm, r) ∧
    vdm.opCode = .exchangeMigrationInfoReq ∧
    MigInfoRequest P d.sessionId vdm r s sid session remote context ∧
    Installs P.tdx context.migrationInfo remote s.log

/-- The same for a rebinding information request, whose writes the module completes. -/
def RebindGranted (P : Platform) (s : RspState) (m : Message) : Prop :=
  ∃ d sendError vdm r sid session token ext hash, m = .vdm d sendError ∧
    openRequest s.negotiateInfo d.reqBytes = .ok (vdm, r) ∧
    vdm.opCode = .exchangeRebindInfoReq ∧ P.build.rebinding = true ∧
    RebindInfoRequest d.sessionId vdm r s sid session token ext ∧
    ext.calculateApprovedServtdExtHash P.sha384 = .ok hash ∧
    (complete P.tdx s.log (rebindWrites token.1 hash ext.curServtdAttr.1)).isSome

section

variable {P : Platform} {d : Delivery} {vdm : VdmMessage} {r : Octets} {s : RspState}
  {sid : UInt32} {session : SpdmSession} {sessionId : Option UInt32}

theorem attestedSession_ready (ready : Ready s sid session) :
    attestedSession sid s = (.ok (), s) := by
  have hget : getSessionViaId sid s = (.ok session, s) :=
    bind_ok.mpr ⟨_, s, observe_ok.mpr ⟨rfl, rfl⟩, lift_ok.mpr ⟨orElse_ok.mpr ready.found, rfl⟩⟩
  refine bind_ok.mpr ⟨session, s, hget, ?_⟩
  rw [if_pos ⟨ready.established, ready.attested⟩]
  rfl

theorem parse_of_ok {α : Type} {reader : ElementReader α} {a : α}
    (h : ∃ rest, reader r = .ok (a, rest)) : parse reader r s = (.ok a, s) := by
  obtain ⟨rest, hread⟩ := h
  exact lift_ok.mpr ⟨map_ok.mpr ⟨_, hread, rfl⟩, rfl⟩

theorem handleExchangeMigInfoReq_installs {remote own : ExchangeInformation}
    {context : SpdmAppContextData} {log : TdLog}
    (request : MigInfoRequest P sessionId vdm r s sid session remote context)
    (install : installMsk P context.migrationInfo remote s.log = (.ok own, log)) :
    Post (handleExchangeMigInfoReq P sessionId vdm r) s fun _ t => log <+: t.log := by
  obtain ⟨rfl, first, ready, header, offer, rest, hcontext⟩ := request
  have hread : readAppContext P s = (.ok context, s) :=
    bind_ok.mpr ⟨_, s, observe_ok.mpr ⟨rfl, rfl⟩,
      lift_ok.mpr ⟨orElse_ok.mpr (by rw [hcontext]; rfl), rfl⟩⟩
  refine post_bind_run (a := sid) (t := s) rfl ?_
  refine post_bind_run (a := s.migInfoExchanged) (t := s) rfl ?_
  simp only [first, Bool.false_eq_true, ↓reduceIte]
  refine post_bind_run (attestedSession_ready ready) ?_
  refine post_bind_run (a := ()) (lift_ok.mpr ⟨header, rfl⟩) ?_
  refine post_bind_run (parse_of_ok offer) ?_
  refine post_bind_run hread ?_
  refine post_bind_embed (fun x log' hrun => ?_) fun e log' hrun => ?_
  · rw [install] at hrun
    cases hrun
    refine post_bind.mpr (post_update.mpr ?_)
    refine post_bind.mpr (post_observe.mpr ?_)
    refine post_bind.mpr ((approveStored_post _ _).mono ?_)
    rintro z u ⟨-, hlog⟩
    have hprefix : log <+: u.log := by
      rcases hlog with hlog | ⟨ext, w, -, hrun⟩
      · rw [hlog]
      · obtain ⟨added, hadded, -⟩ := approve_issues hrun
        rw [hadded]
        exact List.prefix_append _ _
    cases z with
    | error e => exact hprefix
    | ok _ =>
      exact post_bind_same inferInstance (fun out _ => post_same inferInstance fun _ _ => hprefix)
        fun _ _ => hprefix
  · rw [install] at hrun
    cases hrun

theorem handleExchangeRebindInfoReq_installs {token : Bytes 32} {ext : ServtdExt}
    (request : RebindInfoRequest sessionId vdm r s sid session token ext) :
    Post (handleExchangeRebindInfoReq P sessionId vdm r) s fun _ t =>
      ∃ x, installRebind P token ext s.log = (x, t.log) := by
  obtain ⟨mode, rfl, ready, header, carried, kept⟩ := request
  refine post_bind_run (a := s.info) (t := s) rfl ?_
  refine post_bind_run (a := ()) (ensure_ok.mpr ⟨mode, rfl⟩) ?_
  refine post_bind_run (a := sid) (t := s) rfl ?_
  refine post_bind_run (attestedSession_ready ready) ?_
  refine post_bind_run (a := ()) (lift_ok.mpr ⟨header, rfl⟩) ?_
  refine post_bind_run (parse_of_ok carried) ?_
  refine post_bind_run (a := s.servtdExt) (t := s) rfl ?_
  refine post_bind_run (lift_ok.mpr ⟨orElse_ok.mpr kept, rfl⟩) ?_
  refine post_bind_embed (fun _ log hrun => ?_) fun x log hrun => ⟨_, hrun⟩
  exact post_same inferInstance fun _ _ => ⟨_, hrun⟩

theorem dispatch_log (opened : openRequest s.negotiateInfo d.reqBytes = .ok (vdm, r)) :
    (dispatch P d s).2.log = (handle P d vdm r s).2.log := by
  have hserved : Served P d s (dispatch P d s).1 (dispatch P d s).2 := dispatch_served P d s
  generalize (dispatch P d s).1 = out at hserved
  generalize (dispatch P d s).2 = t at hserved ⊢
  have same {vdm' : VdmMessage} {r' : Octets} {x : Except SpdmStatus Octets}
      {u : RspState} (hopen : openRequest s.negotiateInfo d.reqBytes = .ok (vdm', r'))
      (handled : handle P d vdm' r' s = (x, u)) : u.log = (handle P d vdm r s).2.log := by
    rw [opened] at hopen
    cases hopen
    rw [handled]
  cases hserved with
  | unreadable hopen =>
    rw [opened] at hopen
    cases hopen
  | failed hopen handled => exact same hopen handled
  | served hopen handled rest =>
    have hlog := same hopen handled
    rcases rest with rfl | ⟨-, transcript, rfl⟩ <;> exact hlog
  | marked hopen handled =>
    have hlog := same hopen handled
    rw [markLastSession_same]
    exact hlog

theorem installRebind_eq {token : Bytes 32} {ext : ServtdExt} {hash : Octets}
    (h : ext.calculateApprovedServtdExtHash P.sha384 = .ok hash) : installRebind P token ext =
      callAll P.tdx (rebindWrites token.1 hash ext.curServtdAttr.1) := by
  have hlength : hash.length = 8 * 6 := by
    unfold ServtdExt.calculateApprovedServtdExtHash at h
    dsimp only at h
    split at h
    · rename_i digest hdigest
      cases h
      exact (digestSha384_ok hdigest).2
    · cases h
  have happrove : approve P ext = writeApprovedServtdExtHash P.tdx hash := by
    funext log
    exact run_bind_ok (lift_ok.mpr ⟨h, rfl⟩)
  unfold installRebind
  rw [happrove, rebindWrites, List.append_assoc, callAll_append, callAll_append,
    ← writeWordsOf_eq _ token.2, ← writeWordsOf_eq _ hlength, ← writeWordsOf_eq _ ext.curServtdAttr.2]
  rfl

end

/-- The round wrote the version and the whole key of the request that it served to this target. -/
def KeyDelivered (info : MigtdMigrationInformation) (v : Visit RspState Message) : Prop :=
  ∃ d sendError vdm r remote rest migVer, v.input = .vdm d sendError ∧
    openRequest v.before.negotiateInfo d.reqBytes = .ok (vdm, r) ∧
    vdm.opCode = .exchangeMigrationInfoReq ∧ migInfoReqElements r = .ok (remote, rest) ∧
    (installWrites info migVer remote.key).Sublist (succeeded (newEvents v))

/-- The round wrote the token of the request that it served, the approved hash and the attribute. -/
def RebindDelivered (P : Platform) (v : Visit RspState Message) : Prop :=
  ∃ d sendError vdm r token rest ext hash, v.input = .vdm d sendError ∧
    openRequest v.before.negotiateInfo d.reqBytes = .ok (vdm, r) ∧
    vdm.opCode = .exchangeRebindInfoReq ∧ tokenElement r = .ok (token, rest) ∧ v.before.servtdExt = some ext ∧
    ServtdExt.calculateApprovedServtdExtHash P.sha384 ext = .ok hash ∧
    succeeded (newEvents v) = rebindWrites token.1 hash ext.curServtdAttr.1

section

variable {P : Platform} {v : Visit RspState Message} {info : MigtdMigrationInformation}

theorem after_log {d : Delivery} {sendError : Option SpdmStatus} {vdm : VdmMessage} {r : Octets}
    (hstep : v.after = step P v.before v.input) (hinput : v.input = .vdm d sendError)
    (opened : openRequest v.before.negotiateInfo d.reqBytes = .ok (vdm, r)) :
    v.after.log = (handle P d vdm r v.before).2.log := by
  rw [hstep, hinput]
  exact dispatch_log opened

theorem keyDelivered_of_granted (hstep : v.after = step P v.before v.input)
    (holds : SpdmAppContextData.Holds P.build info v.before.appContextDataBuffer)
    (h : KeyGranted P v.before v.input) : KeyDelivered info v := by
  obtain ⟨d, sendError, vdm, r, sid, session, remote, context, hinput, opened, op, request,
    installs⟩ := h
  obtain ⟨own, log, install⟩ := installMsk_iff.mpr installs
  obtain ⟨rest, hoffer⟩ := request.offer
  obtain ⟨_, hcontext⟩ := request.context
  have hlog : log <+: v.after.log := by
    rw [after_log hstep hinput opened, handle, op]
    exact handleExchangeMigInfoReq_installs request install
  obtain ⟨more, hmore⟩ := hlog
  obtain ⟨-, migVer, -, added, rfl, hwrites⟩ := installMsk_ok install
  rw [holds.read P.build hcontext, installWrites_carried] at hwrites
  refine ⟨d, sendError, vdm, r, remote, rest, migVer, hinput, opened, op, hoffer, ?_⟩
  have hnew : newEvents v = exchangeEvents context.migrationInfo false own ++
      [attrChecked context.migrationInfo.bindingHandle context.migrationInfo.targetTdUuid] ++
      added ++ more := by
    unfold newEvents
    rw [← hmore]
    simp only [List.append_assoc, List.drop_left]
  rw [hnew, succeeded_append, succeeded_append, hwrites]
  exact (List.sublist_append_right _ _).trans (List.sublist_append_left _ _)

theorem keyGranted_of_delivered (hstep : v.after = step P v.before v.input)
    (h : KeyDelivered info v) : KeyGranted P v.before v.input := by
  obtain ⟨_, _, _, _, _, _, _, -, -, -, -, hsub⟩ := h
  have hfive := five_le_migWrites hsub
  have hcount : migWrites v.after.log = migWrites v.before.log + migWrites (newEvents v) := by
    rw [← migWrites_append, ← newEvents_append]
    rw [hstep]
    exact (step_keyEffect P v.before v.input).extends
  have heffect := step_callEffect P v.before v.input
  rw [← hstep] at heffect
  generalize hinput : v.input = m at heffect
  cases heffect with
  | silent log =>
    rw [log] at hcount
    omega
  | keyFailed opened op request install =>
    have hfew := installMsk_error install
    omega
  | keyInstalled opened op request install =>
    exact ⟨_, _, _, _, _, _, _, _, rfl, opened, op, request, installMsk_iff.mp ⟨_, _, install⟩⟩
  | rebind opened op request install =>
    have hnone := migWrites_of_issues (installRebind_issues install) fun c hc =>
      hc.elim isMigWrite_of_writesApproved isMigWrite_of_writesRebind
    omega

theorem keyDelivered_iff (hstep : v.after = step P v.before v.input)
    (holds : SpdmAppContextData.Holds P.build info v.before.appContextDataBuffer) :
    KeyDelivered info v ↔ KeyGranted P v.before v.input :=
  ⟨keyGranted_of_delivered hstep, keyDelivered_of_granted hstep holds⟩

theorem rebindDelivered_iff (hstep : v.after = step P v.before v.input) :
    RebindDelivered P v ↔ RebindGranted P v.before v.input := by
  constructor
  · rintro ⟨d, sendError, vdm, r, token, rest, ext, hash, hinput, opened, op, hcarried, hkept, hhash,
      hwrites⟩
    have hlength : (rebindWrites token.1 hash ext.curServtdAttr.1).length = 11 := by
      simp [rebindWrites, elementWrites_length, leWords_length]
    -- Another request of the round is one of another kind.
    have same {vdm' : VdmMessage} {r' : Octets}
        (hopen : openRequest v.before.negotiateInfo d.reqBytes = .ok (vdm', r')) :
        vdm' = vdm ∧ r' = r := Prod.mk.inj (Except.ok.inj (hopen.symm.trans opened))
    have heffect := step_callEffect P v.before v.input
    rw [← hstep, hinput] at heffect
    rw [hinput]
    cases heffect with
    | silent log =>
      unfold newEvents at hwrites
      rw [log, List.drop_length] at hwrites
      rw [← hwrites] at hlength
      cases hlength
    | keyFailed opened' op' =>
      rw [(same opened').1, op] at op'
      cases op'
    | keyInstalled opened' op' =>
      rw [(same opened').1, op] at op'
      cases op'
    | @rebind _ _ vdm' r' sid session token' ext' x _ opened' op' request install build =>
      obtain ⟨rfl, rfl⟩ := same opened'
      obtain ⟨rest', hcarried'⟩ := request.carried
      obtain ⟨rfl, -⟩ := Prod.mk.inj (Except.ok.inj (hcarried'.symm.trans hcarried))
      obtain rfl := Option.some.inj (request.kept.symm.trans hkept)
      obtain ⟨added, hadded, -⟩ := installRebind_issues install
      have hnew : succeeded v.after.log = succeeded v.before.log ++ succeeded (newEvents v) := by
        unfold newEvents
        rw [hadded, List.drop_left, succeeded_append]
      rw [hwrites] at hnew
      cases x with
      | error e =>
        rw [installRebind_eq hhash] at install
        have hfew := callAll_error install
        rw [hnew, List.length_append] at hfew
        omega
      | ok _ =>
        rw [installRebind_eq hhash] at install
        refine ⟨d, sendError, vdm', r', sid, session, token', ext', hash, rfl, opened, op, ?_, request,
          hhash, by rw [callAll_ok.mp install]; rfl⟩
        refine build.resolve_left fun hlog => ?_
        rw [hlog, List.self_eq_append_right] at hnew
        rw [hnew] at hlength
        cases hlength
  · rintro ⟨d, sendError, vdm, r, sid, session, token, ext, hash, hinput, opened, op, build, request,
      hhash, hcomplete⟩
    obtain ⟨log', hlog⟩ := Option.isSome_iff_exists.mp hcomplete
    obtain ⟨rest, hcarried⟩ := request.carried
    have hinstall := callAll_ok.mpr hlog
    rw [← installRebind_eq hhash] at hinstall
    have hafter : v.after.log = log' := by
      rw [after_log hstep hinput opened, handle, op]
      dsimp only
      rw [if_pos build]
      obtain ⟨x, hx⟩ := handleExchangeRebindInfoReq_installs request
      exact congrArg Prod.snd (hx.symm.trans hinstall)
    refine ⟨d, sendError, vdm, r, token, rest, ext, hash, hinput, opened, op, hcarried,
      request.kept, hhash, ?_⟩
    obtain ⟨hash', hhash', hwrites⟩ := installRebind_ok hinstall
    obtain rfl := Except.ok.inj (hhash.symm.trans hhash')
    obtain ⟨added, rfl, -⟩ := installRebind_issues hinstall
    rw [succeeded_append] at hwrites
    unfold newEvents
    rw [hafter, List.drop_left]
    exact List.append_cancel_left hwrites

end

end MigTd.Spdm.Granted
