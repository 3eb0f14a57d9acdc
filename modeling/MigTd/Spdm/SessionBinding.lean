/- source: spdm_vdm.rs, spdm_rsp.rs
   digest: Which accepted evidence stands behind the marker and the kept record of a session. -/

import MigTd.Spdm.KeyInstallation

set_option autoImplicit false

namespace MigTd.Spdm.SessionBinding

open Lib.ByteCodec Lib.RunHistory Lib.StateProgram Migration.Information Migration.ServtdRecord
  Migration.ServtdRecord.ServtdExt Context Dispatcher KeyInstallation Responder ResponderFrames
  ResponderRun ResponderSpecs Status Vdm Tdx.Module

/-- The round answered an attestation request for this session, and its evidence was checked
against this TH1. -/
def Attests (P : Platform) (u : Visit RspState Message) (sid : UInt32) (th1 : SpdmDigestStruct)
    (e : AttestElements) : Prop :=
  ∃ d sendError vdm r, u.input = .vdm d sendError ∧
    openRequest u.before.negotiateInfo d.reqBytes = .ok (vdm, r) ∧ vdm.opCode.isAttest = true ∧
    d.sessionId.or u.before.lastSessionId = some sid ∧
    Accepted P d.services vdm.opCode r u.before.peerData th1 e ∧ (dispatch P d u.before).1.isOk = true

/-- The library starts a session only while its table of sessions is empty. -/
def StartsInFreeSlot : RspState → List LibraryEvent → Prop
  | _, [] => True
  | s, e :: rest => (∀ sid th1, e = .sessionStarted sid th1 → ∀ x, s.sessions x = none) ∧
      StartsInFreeSlot (e.apply s) rest

/-- The library was built with one session slot (`max_session_count` is 1). -/
def OneSlot (s : RspState) : Message → Prop
  | .library events _ => StartsInFreeSlot s events
  | _ => True

/-- At most one session is known, and it is the latest one. -/
def Sole (s : RspState) : Prop :=
  ∀ x, (s.sessions x).isSome → (∀ y, (s.sessions y).isSome → y = x) ∧
    ∀ last, s.lastSessionId = some last → last = x

variable {s t u : RspState} {sid x : UInt32}

theorem Sole.of_subset (hs : Sole s) (sessions : ∀ x, (t.sessions x).isSome → (s.sessions x).isSome)
    (last : ∀ x, t.lastSessionId = some x → s.lastSessionId = some x) : Sole t := by
  intro x hx
  obtain ⟨honly, hlast⟩ := hs x (sessions x hx)
  exact ⟨fun y hy => honly y (sessions y hy), fun y hy => hlast y (last y hy)⟩

theorem isSome_of_update {f : UInt32 → Option SpdmSession} {session : Option SpdmSession}
    (hs : session.isSome → (f sid).isSome)
    (h : (Function.update f sid session x).isSome) : (f x).isSome := by
  by_cases hx : x = sid
  · subst hx
    rw [Function.update_self] at h
    exact hs h
  · rwa [Function.update_of_ne hx] at h

theorem apply_sole {e : LibraryEvent} (hs : Sole s)
    (free : ∀ sid th1, e = .sessionStarted sid th1 → ∀ x, s.sessions x = none) :
    Sole (e.apply s) := by
  cases e with
  | negotiated => exact hs.of_subset (fun _ h => h) fun _ h => h
  | sessionStarted sid th1 =>
    have hempty := free sid th1 rfl
    have only (y : UInt32) (hy : ((LibraryEvent.apply s (.sessionStarted sid th1)).sessions y).isSome) :
        y = sid := by
      by_contra hne
      change (Function.update s.sessions sid _ y).isSome at hy
      rw [Function.update_of_ne hne, hempty y] at hy
      cases hy
    intro x hx
    obtain rfl := only x hx
    exact ⟨only, fun last hlast => (Option.some.inj hlast).symm⟩
  | sessionState sid state =>
    refine hs.of_subset (fun x hx => isSome_of_update ?_ hx) fun _ h => h
    intro h
    rwa [Option.isSome_map] at h
  | sessionEnded sid =>
    exact hs.of_subset (fun x hx => isSome_of_update (fun h => by cases h) hx) fun _ h => h
  | lastSessionCleared => exact hs.of_subset (fun _ h => h) fun _ h => by cases h
  | contextReset => exact hs.of_subset (fun _ h => by cases h) fun _ h => by cases h

theorem events_sole {events : List LibraryEvent} (hs : Sole s) (free : StartsInFreeSlot s events) :
    Sole (events.foldl LibraryEvent.apply s) := by
  induction events generalizing s with
  | nil => exact hs
  | cons e rest ih => exact ih (apply_sole hs free.1) free.2

/-- Every marked session was marked before, for the same TH1. -/
def Inherits (s t : RspState) : Prop :=
  ∀ sid session, t.sessions sid = some session → session.marked = true →
    ∃ old, s.sessions sid = some old ∧ old.marked = true ∧ old.th1 = session.th1

theorem inherits_of_subset
    (h : ∀ sid, t.sessions sid = s.sessions sid ∨ t.sessions sid = none) : Inherits s t := by
  intro sid session hfound hmarked
  rcases h sid with heq | hgone
  · rw [heq] at hfound
    exact ⟨session, hfound, hmarked, rfl⟩
  · rw [hgone] at hfound
    cases hfound

theorem Inherits.trans (hst : Inherits s t) (htu : Inherits t u) : Inherits s u := by
  intro sid session hfound hmarked
  obtain ⟨mid, hmid, hmidMarked, hmidTh1⟩ := htu sid session hfound hmarked
  obtain ⟨old, hold, holdMarked, holdTh1⟩ := hst sid mid hmid hmidMarked
  exact ⟨old, hold, holdMarked, holdTh1.trans hmidTh1⟩

theorem apply_inherits (e : LibraryEvent) (s : RspState) : Inherits s (e.apply s) := by
  have updated {sid : UInt32} {session : Option SpdmSession} {t : RspState}
      (ht : t.sessions = Function.update s.sessions sid session)
      (hs : ∀ x, session = some x → x.marked = true →
        ∃ old, s.sessions sid = some old ∧ old.marked = true ∧ old.th1 = x.th1) :
      Inherits s t := by
    intro x found hfound hmarked
    rw [ht] at hfound
    by_cases hx : x = sid
    · subst hx
      rw [Function.update_self] at hfound
      exact hs found hfound hmarked
    · rw [Function.update_of_ne hx] at hfound
      exact ⟨found, hfound, hmarked, rfl⟩
  cases e with
  | negotiated => exact inherits_of_subset fun _ => .inl rfl
  | sessionStarted sid th1 =>
    refine updated rfl ?_
    intro x hx hmarked
    cases hx
    cases hmarked
  | sessionState sid state =>
    refine updated rfl ?_
    intro x hx hmarked
    obtain ⟨old, hold, rfl⟩ := Option.map_eq_some_iff.mp hx
    exact ⟨old, hold, hmarked, rfl⟩
  | sessionEnded sid =>
    refine updated rfl ?_
    intro x hx
    cases hx
  | lastSessionCleared => exact inherits_of_subset fun _ => .inl rfl
  | contextReset => exact inherits_of_subset fun _ => .inr rfl

theorem events_inherit (events : List LibraryEvent) (s : RspState) :
    Inherits s (events.foldl LibraryEvent.apply s) := by
  induction events generalizing s with
  | nil => exact inherits_of_subset fun _ => .inl rfl
  | cons e rest ih => exact (apply_inherits e s).trans (ih (e.apply s))

variable {session : SpdmSession} {P : Platform} {m : Message} {transcript : Octets}

theorem markLastSession_inherits
    (hfound : (markLastSession u transcript).sessions sid = some session)
    (hmarked : session.marked = true) :
    (∃ old, u.sessions sid = some old ∧ old.marked = true ∧ old.th1 = session.th1) ∨
    u.lastSessionId = some sid ∧ ∃ old, u.sessions sid = some old ∧ old.th1 = session.th1 := by
  unfold markLastSession at hfound
  split at hfound
  · rename_i last hlast
    by_cases hx : sid = last
    · subst hx
      right
      change Function.update u.sessions sid _ sid = _ at hfound
      rw [Function.update_self] at hfound
      obtain ⟨old, hold, rfl⟩ := Option.map_eq_some_iff.mp hfound
      exact ⟨hlast, old, hold, rfl⟩
    · left
      change Function.update u.sessions last _ sid = _ at hfound
      rw [Function.update_of_ne hx] at hfound
      exact ⟨session, hfound, hmarked, rfl⟩
  · exact .inl ⟨session, hfound, hmarked, rfl⟩

private theorem markLastSession_isSome
    (h : ((markLastSession u transcript).sessions x).isSome) : (u.sessions x).isSome := by
  unfold markLastSession at h
  split at h
  · refine isSome_of_update ?_ h
    intro hs
    rwa [Option.isSome_map] at hs
  · exact h

theorem vdm_subset (P : Platform) (d : Delivery) (sendError : Option SpdmStatus) (s : RspState) :
    (∀ x, ((step P s (.vdm d sendError)).sessions x).isSome → (s.sessions x).isSome) ∧
      (step P s (.vdm d sendError)).lastSessionId = s.lastSessionId := by
  have kept {u : RspState} (frame : Frame P.build s u) (x : UInt32)
      (hx : (u.sessions x).isSome) : (s.sessions x).isSome := by
    rcases frame.sessions x with heq | hgone
    · rwa [heq] at hx
    · rw [hgone] at hx
      cases hx
  have heffect := step_effect P s (.vdm d sendError)
  generalize step P s (.vdm d sendError) = t at heffect ⊢
  cases heffect with
  | unreadable => exact ⟨fun _ hx => hx, rfl⟩
  | handled opened effect frame => exact ⟨kept frame, frame.lastSessionId⟩
  | @marked _ _ vdm r out transcript u opened attest effect log flag frame =>
    refine ⟨fun x hx => kept frame x (markLastSession_isSome hx), ?_⟩
    rw [markLastSession_same]
    exact frame.lastSessionId

theorem step_sole (hs : Sole s) (slot : OneSlot s m) : Sole (step P s m) := by
  cases m with
  | lost => exact hs
  | library events result => exact events_sole hs slot
  | vdm d sendError =>
    obtain ⟨hsessions, hlast⟩ := vdm_subset P d sendError s
    exact hs.of_subset hsessions fun x hx => hlast ▸ hx

theorem step_marked (hfound : (step P s m).sessions sid = some session)
    (hmarked : session.marked = true) :
    (∃ old, s.sessions sid = some old ∧ old.marked = true ∧ old.th1 = session.th1) ∨
    ∃ d sendError vdm r a e, m = .vdm d sendError ∧
      openRequest s.negotiateInfo d.reqBytes = .ok (vdm, r) ∧ vdm.opCode.isAttest = true ∧
      modeOf vdm.opCode s.info = true ∧ Target s d.sessionId a ∧
      Accepted P d.services vdm.opCode r s.peerData a.session.th1 e ∧
      (dispatch P d s).1.isOk = true ∧ s.lastSessionId = some sid ∧
      (∃ old, s.sessions sid = some old ∧ old.th1 = session.th1) ∧
      (P.build.policyV2 = true → (step P s m).servtdExt = readFromBytes e.servtdExt) := by
  have heffect := step_effect P s m
  generalize step P s m = t at heffect hfound ⊢
  cases heffect with
  | lost => exact .inl ⟨session, hfound, hmarked, rfl⟩
  | @library events result => exact .inl (events_inherit events s sid session hfound hmarked)
  | unreadable => exact .inl ⟨session, hfound, hmarked, rfl⟩
  | handled opened effect frame =>
    exact .inl (inherits_of_subset frame.sessions sid session hfound hmarked)
  | @marked d sendError vdm r out transcript u opened attest effect log flag frame answered =>
    cases effect with
    | @accepted _ a _ elements mode target evidence sessions kept =>
      rcases markLastSession_inherits hfound hmarked with hold | ⟨hlast, hold⟩
      · rw [sessions] at hold
        exact .inl hold
      · rw [frame.lastSessionId] at hlast
        rw [sessions] at hold
        rw [markLastSession_same]
        exact .inr ⟨d, sendError, vdm, r, a, elements, rfl, opened, attest, mode, target, evidence,
          answered, hlast, hold, kept⟩

theorem step_marker (hs : Sole s)
    (hfound : (step P s m).sessions sid = some session) (hmarked : session.marked = true) :
    (∃ old, s.sessions sid = some old ∧ old.marked = true ∧ old.th1 = session.th1) ∨
    ∃ e, Attests P ⟨s, m, step P s m⟩ sid session.th1 e ∧
      (P.build.policyV2 = true → (step P s m).servtdExt = readFromBytes e.servtdExt) := by
  rcases step_marked hfound hmarked with hold | ⟨d, sendError, vdm, r, a, e, hinput, opened, attest,
    -, target, evidence, answered, hlast, ⟨old, hold, hth1⟩, kept⟩
  · exact .inl hold
  · -- The latest session is the addressed one, whose TH1 the evidence was checked against.
    have hlive : (s.sessions a.sid).isSome := by
      rw [target.found]
      rfl
    obtain rfl : sid = a.sid := (hs a.sid hlive).2 sid hlast
    rw [target.found] at hold
    rw [← hth1, ← Option.some.inj hold]
    exact .inr ⟨e, ⟨d, sendError, vdm, r, hinput, opened, attest, target.addressed, evidence,
      answered⟩, kept⟩

theorem step_unmarked (mode : s.info = .none)
    (hs : ∀ sid session, s.sessions sid = some session → session.marked = false) :
    ∀ sid session, (step P s m).sessions sid = some session → session.marked = false := by
  intro sid session hfound
  by_contra hmarked
  rcases step_marked hfound (Bool.not_eq_false _ ▸ hmarked) with
    ⟨old, hold, holdMarked, -⟩ | ⟨_, _, vdm, _, _, _, _, _, _, gate, _⟩
  · rw [hs sid old hold] at holdMarked
    cases holdMarked
  · rw [mode] at gate
    unfold modeOf at gate
    split at gate <;> cases gate

def InReadySession (s : RspState) (m : Message) : Prop :=
  ∃ d sendError sid session, m = .vdm d sendError ∧ d.sessionId = some sid ∧ Ready s sid session

theorem step_ready (P : Platform) (s : RspState) (m : Message) :
    Issues (fun _ => InReadySession s m) s.log (step P s m).log := by
  have any {log log' : TdLog} {Q : TdCall → Prop} {d : Delivery} {sendError : Option SpdmStatus}
      {sid : UInt32} {session : SpdmSession} (hissues : Issues Q log log')
      (addressed : d.sessionId = some sid) (ready : Ready s sid session) :
      Issues (fun _ => InReadySession s (.vdm d sendError)) log log' :=
    hissues.mono fun _ _ => ⟨d, sendError, sid, session, rfl, addressed, ready⟩
  cases step_callEffect P s m with
  | silent log =>
    rw [log]
    exact refl_of _ s.log
  | keyFailed opened op request install =>
    exact any (installMsk_issues install) request.addressed request.ready
  | keyInstalled opened op request install approval =>
    exact trans_of _ (any (installMsk_issues install) request.addressed request.ready)
      (any (approval_issues approval) request.addressed request.ready)
  | rebind opened op request install =>
    exact any (installRebind_issues install) request.addressed request.ready

def WritesRecord (call : TdCall) : Prop :=
  WritesApproved call ∨
    ∃ value, call = .vmWrite TDCS_FIELD_SERVTD_REBIND_ATTR value TDCS_FIELD_WRITE_MASK

/-- The value of such a write is computed from this record. -/
def FromRecord (P : Platform) (ext : ServtdExt) (call : TdCall) : Prop :=
  (∃ hash, ext.calculateApprovedServtdExtHash P.sha384 = .ok hash ∧
    call ∈ elementWrites TDCS_FIELD_SERVTD_ACCEPT_SERVTD_EXT_HASH (leWords 6 hash)) ∨
  call ∈ elementWrites TDCS_FIELD_SERVTD_REBIND_ATTR (leWords 1 ext.curServtdAttr.1)

section

variable (P : Platform) (ext : ServtdExt)

instance keeps_fromRecord_approve : Keeps (Issues (FromRecord P ext)) (approve P ext) := by
  refine keeps_bind_of inferInstance ?_
  intro log hash log' hlift
  obtain ⟨hhash, rfl⟩ := lift_ok.mp hlift
  have hk : Keeps (Issues (· ∈ elementWrites TDCS_FIELD_SERVTD_ACCEPT_SERVTD_EXT_HASH
      (leWords 6 hash))) (writeApprovedServtdExtHash P.tdx hash) := keeps_writeWordsOf _ _ _
  exact (hk.rel log).mono fun c hc => .inl ⟨hash, hhash, hc⟩

/-- The token is the only part of a rebinding that does not come from the record. -/
instance keeps_fromRecord_installRebind (token : Bytes 32) :
    Keeps (Issues fun c => c ∈ elementWrites TDCS_FIELD_SERVTD_REBIND_ACCEPT_TOKEN
      (leWords 4 token.1) ∨ FromRecord P ext c) (installRebind P token ext) := by
  have htoken : Keeps (Issues (· ∈ elementWrites TDCS_FIELD_SERVTD_REBIND_ACCEPT_TOKEN
      (leWords 4 token.1))) (writeRebindingSessionToken P.tdx token.1) := keeps_writeWordsOf _ _ _
  have hattr : Keeps (Issues (FromRecord P ext))
      (writeServtdRebindAttr P.tdx ext.curServtdAttr.1) :=
    (keeps_writeWordsOf _ _ _).mono fun _ _ hr => hr.mono fun _ hc => .inr hc
  unfold installRebind
  infer_instance

variable {P} {ext} {call : TdCall}

theorem not_writesRecord_of_token {ws : List UInt64} (hws : ws.length = 4)
    (h : call ∈ elementWrites TDCS_FIELD_SERVTD_REBIND_ACCEPT_TOKEN ws) : ¬WritesRecord call := by
  have hhash : ∀ j : Fin 4, ∀ i : Fin 6, TDCS_FIELD_SERVTD_REBIND_ACCEPT_TOKEN + j.val.toUInt64 ≠
      TDCS_FIELD_SERVTD_ACCEPT_SERVTD_EXT_HASH + i.val.toUInt64 := by
    decide
  have hattr : ∀ j : Fin 4, TDCS_FIELD_SERVTD_REBIND_ACCEPT_TOKEN + j.val.toUInt64 ≠
      TDCS_FIELD_SERVTD_REBIND_ATTR := by
    decide
  obtain ⟨j, value, hj, rfl⟩ := mem_elementWrites h
  rw [hws] at hj
  rintro (⟨i, value', heq⟩ | ⟨value', heq⟩)
  · exact hhash ⟨j, hj⟩ i (TdCall.vmWrite.inj heq).1
  · exact hattr ⟨j, hj⟩ (TdCall.vmWrite.inj heq).1

theorem not_writesRecord_of_msk {info : MigtdMigrationInformation}
    (h : MskCall info call) : ¬WritesRecord call := by
  rintro (⟨_, _, heq⟩ | ⟨_, heq⟩) <;> exact ne_vmWrite_of_msk h heq

end

/-- The record behind a write: the one that was kept when the request arrived in a ready session. -/
def UsesKept (P : Platform) (s : RspState) (m : Message) (call : TdCall) : Prop :=
  ∃ d sendError sid session ext, m = .vdm d sendError ∧ d.sessionId = some sid ∧
    Ready s sid session ∧ P.build.policyV2 = true ∧ s.servtdExt = some ext ∧ FromRecord P ext call

theorem step_record (P : Platform) (s : RspState) (m : Message) :
    Issues (fun c => WritesRecord c → UsesKept P s m c) s.log (step P s m).log := by
  cases step_callEffect P s m with
  | silent log =>
    rw [log]
    exact refl_of _ s.log
  | keyFailed opened op request install =>
    exact (installMsk_issues install).mono fun _ hc h => (not_writesRecord_of_msk hc h).elim
  | keyInstalled opened op request install approval =>
    refine trans_of _ ((installMsk_issues install).mono fun _ hc h =>
      (not_writesRecord_of_msk hc h).elim) ?_
    rcases approval with hlog | ⟨hv, ext, x, hkept, happrove⟩
    · rw [hlog]
      exact refl_of _ _
    · refine ((keeps_fromRecord_approve P ext).of_ok happrove).mono ?_
      intro c hc _
      exact ⟨_, _, _, _, ext, rfl, request.addressed, request.ready, hv, hkept, hc⟩
  | @rebind d sendError vdm r sid session token ext x _ opened op request install build =>
    rcases build with hlog | hbuild
    · rw [hlog]
      exact refl_of _ s.log
    · refine ((keeps_fromRecord_installRebind P ext token).of_ok install).mono ?_
      rintro c (hc | hc) hrecord
      · exact (not_writesRecord_of_token (leWords_length 4 token.1) hc hrecord).elim
      · exact ⟨_, _, _, _, ext, rfl, request.addressed, request.ready,
          (Bool.and_eq_true_iff.mp hbuild).1, request.kept, hc⟩

theorem step_kept (hs : Sole s)
    (hfound : (step P s m).sessions sid = some session) (hmarked : session.marked = true) :
    (∃ old, s.sessions sid = some old ∧ old.marked = true ∧ old.th1 = session.th1 ∧
      (P.build.policyV2 = true → (step P s m).servtdExt = s.servtdExt)) ∨
    ∃ e, Attests P ⟨s, m, step P s m⟩ sid session.th1 e ∧
      (P.build.policyV2 = true → (step P s m).servtdExt = readFromBytes e.servtdExt) := by
  rcases step_marker (P := P) hs hfound hmarked with ⟨old, hold, holdMarked, hth1⟩ | hattests
  · -- An attestation request addresses a session without the marker, so that none carries it.
    have none {d : Delivery} {a : Addressed} (target : Target s d.sessionId a) : False := by
      have hlive : (s.sessions a.sid).isSome := by
        rw [target.found]
        rfl
      obtain rfl : sid = a.sid := (hs a.sid hlive).1 sid (by rw [hold]; rfl)
      have hfresh := target.fresh
      rw [target.found] at hold
      rw [Option.some.inj hold, holdMarked] at hfresh
      cases hfresh
    refine .inl ⟨old, hold, holdMarked, hth1, fun _ => ?_⟩
    have heffect := step_effect P s m
    generalize step P s m = t at heffect ⊢
    cases heffect with
    | lost => rfl
    | @library events result => exact (foldl_apply_untouched events s).ext
    | unreadable => rfl
    | handled opened effect frame =>
      cases effect with
      | other op log ext => exact ext
      | migInfo op effect ext => exact ext
      | rebindInfo op effect ext => exact ext
      | attest op effect =>
        cases effect with
        | refused => rfl
        | rejected target => exact (none target).elim
        | accepted mode target => exact (none target).elim
    | marked opened attest effect =>
      cases effect with
      | accepted mode target => exact (none target).elim
  · exact .inr hattests

variable {h : List (Visit RspState Message)}

theorem walk_sole (w : Walk (step P) s h t) (start : ∀ sid, s.sessions sid = none)
    (slots : ∀ v ∈ h, OneSlot v.before v.input) : Sole t := by
  refine w.invariant (P := fun h t => (∀ v ∈ h, OneSlot v.before v.input) → Sole t) ?_ ?_ slots
  · intro _ x hx
    rw [start x] at hx
    cases hx
  · intro h u m _ ih slots
    refine step_sole (ih fun v hv => slots v (List.mem_append_left _ hv)) ?_
    exact slots ⟨u, m, step P u m⟩ (List.mem_append_right _ (List.mem_singleton.mpr rfl))

theorem walk_marker (w : Walk (step P) s h t) (start : ∀ sid, s.sessions sid = none)
    (slots : ∀ v ∈ h, OneSlot v.before v.input) :
    ∀ sid session, t.sessions sid = some session → session.marked = true →
      ∃ u ∈ h, ∃ e, Attests P u sid session.th1 e ∧
        (P.build.policyV2 = true → t.servtdExt = readFromBytes e.servtdExt) := by
  refine w.invariant (P := fun h t => (∀ v ∈ h, OneSlot v.before v.input) →
    ∀ sid session, t.sessions sid = some session → session.marked = true →
      ∃ u ∈ h, ∃ e, Attests P u sid session.th1 e ∧
        (P.build.policyV2 = true → t.servtdExt = readFromBytes e.servtdExt)) ?_ ?_ slots
  · intro _ sid session hfound
    rw [start sid] at hfound
    cases hfound
  · intro h u m w ih slots sid session hfound hmarked
    have hearlier : ∀ v ∈ h, OneSlot v.before v.input := fun v hv =>
      slots v (List.mem_append_left _ hv)
    have hsole := walk_sole w start hearlier
    rcases step_kept hsole hfound hmarked with ⟨old, hold, holdMarked, hth1, hext⟩ | ⟨e, he, hext⟩
    · obtain ⟨v, hv, e, he, hkept⟩ := ih hearlier sid old hold holdMarked
      rw [hth1] at he
      exact ⟨v, List.mem_append_left _ hv, e, he, fun version => (hext version).trans (hkept version)⟩
    · exact ⟨_, List.mem_append_right _ (List.mem_singleton.mpr rfl), e, he, hext⟩

/-- A session carries the marker only for evidence that was checked against its own TH1, and every
TDCALL is issued for such a session. -/
theorem attestation_bound {s t : RspState} {h : List (Visit RspState Message)}
    (w : Walk (step P) s h t) (start : ∀ sid, s.sessions sid = none)
    (slots : ∀ v ∈ h, OneSlot v.before v.input) :
    (∀ sid session, t.sessions sid = some session → session.marked = true →
      ∃ u ∈ h, ∃ e, Attests P u sid session.th1 e) ∧
    ∀ g v k, h = g ++ v :: k → newEvents v ≠ [] →
      ∃ d sendError sid session, v.input = .vdm d sendError ∧ d.sessionId = some sid ∧
        v.before.sessions sid = some session ∧ ∃ u ∈ g, ∃ e, Attests P u sid session.th1 e := by
  have attested {h : List (Visit RspState Message)} {t : RspState} (w : Walk (step P) s h t)
      (slots : ∀ v ∈ h, OneSlot v.before v.input) {sid : UInt32} {session : SpdmSession}
      (hfound : t.sessions sid = some session) (hmarked : session.marked = true) :
      ∃ u ∈ h, ∃ e, Attests P u sid session.th1 e := by
    obtain ⟨u, hu, e, he, -⟩ := walk_marker w start slots sid session hfound hmarked
    exact ⟨u, hu, e, he⟩
  refine ⟨fun sid session => attested w slots, ?_⟩
  rintro g v k rfl hevents
  obtain ⟨hbefore, hstep, -⟩ := w.split
  obtain ⟨event, hevent⟩ := List.exists_mem_of_ne_nil _ hevents
  have hissues := step_ready P v.before v.input
  rw [← hstep] at hissues
  obtain ⟨d, sendError, sid, session, hinput, haddressed, hready⟩ :=
    newEvents_of_issues hissues event hevent
  refine ⟨d, sendError, sid, session, hinput, haddressed, hready.found, ?_⟩
  exact attested hbefore (fun u hu => slots u (List.mem_append_left _ hu)) hready.found
    hready.attested

/-- What a round writes from a record was carried by a request that was accepted for the very
session that it serves. -/
theorem approved_authenticated {s t : RspState} {h : List (Visit RspState Message)}
    (w : Walk (step P) s h t) (start : ∀ sid, s.sessions sid = none)
    (slots : ∀ v ∈ h, OneSlot v.before v.input) :
    ∀ g v k, h = g ++ v :: k → ∀ event ∈ newEvents v, WritesRecord event.call →
      ∃ d sendError sid session, v.input = .vdm d sendError ∧ d.sessionId = some sid ∧
        v.before.sessions sid = some session ∧ ∃ u ∈ g, ∃ e ext, Attests P u sid session.th1 e ∧
          readFromBytes e.servtdExt = some ext ∧ FromRecord P ext event.call := by
  rintro g v k rfl event hevent hrecord
  obtain ⟨hbefore, hstep, -⟩ := w.split
  have hissues := step_record P v.before v.input
  rw [← hstep] at hissues
  obtain ⟨d, sendError, sid, session, ext, hinput, haddressed, hready, hversion, hkept, hfrom⟩ :=
    newEvents_of_issues hissues event hevent hrecord
  obtain ⟨u, hu, e, he, hext⟩ := walk_marker hbefore start
    (fun u hu => slots u (List.mem_append_left _ hu)) sid session hready.found hready.attested
  refine ⟨d, sendError, sid, session, hinput, haddressed, hready.found, u, hu, e, ext, he, ?_, hfrom⟩
  rw [← hext hversion]
  exact hkept

def boundMessages : List Message :=
  [Reference.connect, Reference.deliver none Reference.pubKeyRequest, Reference.startSession 7 1,
    Reference.deliver none (Reference.rebindAttestRequest 1 (List.replicate 272 0)),
    Reference.finishSession 7]

example : ((boundMessages.foldl (step Reference.platform) Reference.rebindContext).sessions 7).map
    (·.marked) = some true := by
  decide +kernel

theorem bound_slots : ∀ v ∈ trace (step Reference.platform) Reference.rebindContext
      (boundMessages ++ [Reference.deliver (some 7) Reference.rebindInfoRequest]),
    OneSlot v.before v.input := by
  have hconnected (x : UInt32) : (step Reference.platform Reference.rebindContext
      Reference.connect).sessions x = none := rfl
  have empty (s : RspState) (hs : ∀ x, s.sessions x = none) (x : UInt32) : (step Reference.platform
      s (Reference.deliver none Reference.pubKeyRequest)).sessions x = none := by
    rw [← Option.not_isSome_iff_eq_none]
    intro hx
    unfold Reference.deliver at hx
    have hbefore := (vdm_subset _ _ _ s).1 x hx
    rw [hs x] at hbefore
    cases hbefore
  intro v hv
  simp only [boundMessages, List.cons_append, List.nil_append, trace, List.mem_cons,
    List.not_mem_nil, or_false] at hv
  rcases hv with rfl | rfl | rfl | rfl | rfl | rfl
  · exact ⟨fun _ _ h => LibraryEvent.noConfusion h, trivial⟩
  · trivial
  · refine ⟨fun _ _ _ => ?_, trivial⟩
    dsimp only
    exact empty _ hconnected
  · trivial
  · exact ⟨fun _ _ h => LibraryEvent.noConfusion h, trivial⟩
  · trivial

theorem bound_marked : ((boundMessages.foldl (step Reference.platform)
      Reference.rebindContext).sessions 7).map (fun x => (x.marked, x.th1)) =
    some (true, Reference.th1Of 1) := by
  decide +kernel

theorem attestation_bound_rebind :
    ∃ u ∈ trace (step Reference.platform) Reference.rebindContext boundMessages,
      ∃ e, Attests Reference.platform u 7 (Reference.th1Of 1) e := by
  obtain ⟨session, hfound, heq⟩ := Option.map_eq_some_iff.mp bound_marked
  obtain ⟨hmarked, hth1⟩ := Prod.mk.inj heq
  rw [← hth1]
  refine (attestation_bound (walk_trace Reference.rebindContext boundMessages) (fun _ => rfl)
    ?_).1 7 session hfound hmarked
  intro v hv
  refine bound_slots v ?_
  rw [trace_append]
  exact List.mem_append_left _ hv

def attrWrite (value : UInt64) : TdCall :=
  .vmWrite TDCS_FIELD_SERVTD_REBIND_ATTR value TDCS_FIELD_WRITE_MASK

-- Attestation alone issues no TDCALL.
example : (boundMessages.foldl (step Reference.platform) Reference.rebindContext).log = [] := by
  decide +kernel

theorem approved_authenticated_rebind :
    ∃ u ∈ trace (step Reference.platform) Reference.rebindContext boundMessages, ∃ e ext,
      Attests Reference.platform u 7 (Reference.th1Of 1) e ∧
      readFromBytes e.servtdExt = some ext ∧ FromRecord Reference.platform ext (attrWrite 0) := by
  have hwalk : Walk (step Reference.platform) Reference.rebindContext (trace
      (step Reference.platform) Reference.rebindContext
      (boundMessages ++ [Reference.deliver (some 7) Reference.rebindInfoRequest])) _ :=
    walk_trace _ _
  have hwritten : (⟨attrWrite 0, .ok 0⟩ : TdEvent) ∈ newEvents
      ⟨boundMessages.foldl (step Reference.platform) Reference.rebindContext,
        Reference.deliver (some 7) Reference.rebindInfoRequest,
        step Reference.platform (boundMessages.foldl (step Reference.platform)
          Reference.rebindContext) (Reference.deliver (some 7) Reference.rebindInfoRequest)⟩ := by
    decide +kernel
  obtain ⟨d, sendError, sid, session, hinput, haddressed, hfound, u, hu, e, ext, he, hext, hfrom⟩ :=
    approved_authenticated hwalk (fun _ => rfl) bound_slots _ _ [] (trace_append _ _ _) _ hwritten
      (.inr ⟨0, rfl⟩)
  cases hinput
  obtain rfl : 7 = sid := Option.some.inj haddressed
  have hmarked := bound_marked
  rw [hfound] at hmarked
  rw [(Prod.mk.inj (Option.some.inj hmarked)).2] at he
  exact ⟨u, hu, e, ext, he, hext, hfrom⟩

end MigTd.Spdm.SessionBinding
