/- source: transport.rs, session.rs, rebinding.rs, migtd/main.rs, vmcall_raw/src/stream.rs
   digest: The entries of VMCALL_MIG_CONTEXT_FLAGS along the exits of the migration flows. -/

import MigTd.VmcallRaw.Completion

/-!
Builds with `vmcall-raw`. Each flow is a straight line of calls, and every call is followed by `?`:
it is written as the list of its calls. What a call answers is left open, a timeout and a
cancellation by the VMM included; no call but the two transport functions adds or removes an entry.
-/

set_option autoImplicit false

namespace MigTd.Migration.TransportContexts

open Information VmcallRaw.Completion

structure Build where
  policyV2 : Bool
  spdmAttestation : Bool
  deriving DecidableEq

inductive Call where
  | verifyInitMigtdDataPolicyBinding
  | vmcallRawTransportInit
  | preSessionDataExchange
  | exchangeInfo
  | ratlsClient
  | ratlsServer
  | write
  | read
  /-- The test that the peer sent a whole `ExchangeInformation`. -/
  | receivedSize
  | validate
  | calMigVersion
  | verifyServtdAttr
  | setMigVersion
  | writeMsk
  | spdmRequester
  | spdmResponder
  | spdmRequesterTransferMsk
  | spdmResponderTransferMsk
  | spdmRequesterRebindOld
  | spdmResponderRebindNew
  | readServtdExt
  | localInitTdInfo
  | ratlsClientRebinding
  | createRebindToken
  | tlsSendRebindToken
  | approveRebinding
  | ratlsServerRebinding
  | tlsReceiveRebindToken
  | getServtdExtFromCert
  | writeRebindingSessionToken
  | writeServtdRebindAttr
  | calculateApprovedServtdExtHash
  | writeApprovedServtdExtHash
  deriving DecidableEq, Repr

inductive Action where
  | call (c : Call)
  | setupTransport
  | shutdownTransport
  deriving DecidableEq, Repr

def calls (cs : List Call) : List Action := cs.map .call

inductive Kind where
  | startMigration
  | startRebinding
  deriving DecidableEq, Repr

/-- A request, with what its calls will answer. -/
structure Request where
  id : UInt64
  kind : Kind
  /-- `is_src()`, or `migration_source == 1` -/
  isSrc : Bool
  hasInitTdInfo : Bool
  /-- What the flow sees of a call, after its `map_err`. -/
  outcome : Call → Except MigrationResult Unit

def migrationSrcExchangeMsk (b : Build) : List Action :=
  if b.spdmAttestation then
    calls [.spdmRequester, .spdmRequesterTransferMsk] ++ [.shutdownTransport]
  else calls [.ratlsClient, .write, .read, .receivedSize, .validate] ++ [.shutdownTransport]

def migrationDstExchangeMsk (b : Build) : List Action :=
  if b.spdmAttestation then
    calls [.spdmResponder, .spdmResponderTransferMsk] ++ [.shutdownTransport]
  else calls [.ratlsServer, .write, .read, .receivedSize, .validate] ++ [.shutdownTransport]

def verifyInitData (b : Build) (r : Request) : List Action :=
  if b.policyV2 && r.hasInitTdInfo then calls [.verifyInitMigtdDataPolicyBinding] else []

def exchangeMsk (b : Build) (r : Request) : List Action :=
  verifyInitData b r ++ [.setupTransport]
    ++ (if b.policyV2 then calls [.preSessionDataExchange] else [])
    ++ (if b.spdmAttestation then [] else calls [.exchangeInfo])
    ++ (if r.isSrc then migrationSrcExchangeMsk b else migrationDstExchangeMsk b)
    ++ (if b.spdmAttestation then []
      else calls [.calMigVersion, .verifyServtdAttr, .setMigVersion, .writeMsk])

def rebindingOldPrepare (b : Build) (r : Request) : List Action :=
  if b.spdmAttestation then
    calls [.spdmRequester, .spdmRequesterRebindOld] ++ [.shutdownTransport]
  else
    calls [.readServtdExt] ++ (if r.hasInitTdInfo then [] else calls [.localInitTdInfo])
      ++ calls [.ratlsClientRebinding, .createRebindToken, .tlsSendRebindToken, .approveRebinding]
      ++ [.shutdownTransport]

def rebindingNewPrepare (b : Build) : List Action :=
  if b.spdmAttestation then
    calls [.spdmResponder, .spdmResponderRebindNew] ++ [.shutdownTransport]
  else
    calls [.ratlsServerRebinding, .tlsReceiveRebindToken, .getServtdExtFromCert,
      .writeRebindingSessionToken, .writeServtdRebindAttr, .calculateApprovedServtdExtHash,
      .writeApprovedServtdExtHash] ++ [.shutdownTransport]

def startRebinding (b : Build) (r : Request) : List Action :=
  verifyInitData b r ++ [.setupTransport] ++ calls [.preSessionDataExchange]
    ++ (if r.isSrc then rebindingOldPrepare b r else rebindingNewPrepare b)

def Request.actions (b : Build) (r : Request) : List Action :=
  match r.kind with
  | .startMigration => exchangeMsk b r
  | .startRebinding => startRebinding b r

abbrev Flags := UInt64 → Option Bool

/-- One action of a request. `connect` adds the entry when the callback is registered, and `reset`
cannot fail. -/
def act (r : Request) (flags : Flags) : Action → Except MigrationResult Unit × Flags
  | .call c => (r.outcome c, flags)
  | .setupTransport => match r.outcome .vmcallRawTransportInit with
    | .error _ => (.error .invalidParameter, flags)
    | .ok _ => (.ok (), Function.update flags r.id (some false))
  | .shutdownTransport => (.ok (), Function.update flags r.id none)

/-- The rest of a flow, without the other tasks. -/
def attend (r : Request) : List Action → Flags → Except MigrationResult Unit × Flags
  | [], flags => (.ok (), flags)
  | a :: rest, flags => match act r flags a with
    | (.ok _, flags) => attend r rest flags
    | (.error e, flags) => (.error e, flags)

/-- The calls up to the first action of another kind. -/
def leadingCalls : List Action → List Call
  | .call c :: rest => c :: leadingCalls rest
  | _ => []

def afterSetup : List Action → List Action
  | [] => []
  | .setupTransport :: rest => rest
  | _ :: rest => afterSetup rest

def Request.Succeeds (r : Request) (c : Call) : Prop := r.outcome c = .ok ()

/-- No call fails between the set-up of the transport and its shutdown: either the transport is
never set up, or all these calls succeed. -/
def Undisturbed (r : Request) (actions : List Action) : Prop :=
  (∀ c ∈ leadingCalls actions ++ [.vmcallRawTransportInit], r.Succeeds c) →
    ∀ c ∈ leadingCalls (afterSetup actions), r.Succeeds c

/-! The flows have one set-up, followed by one shutdown. -/

def isCall : Action → Bool
  | .call _ => true
  | _ => false

def opened : List Action → Bool
  | .call _ :: rest => opened rest
  | .shutdownTransport :: rest => rest.all isCall
  | _ => false

def bracketed : List Action → Bool
  | .call _ :: rest => bracketed rest
  | .setupTransport :: rest => opened rest
  | _ => false

theorem bracketed_actions (b : Build) (r : Request) : bracketed (r.actions b) = true := by
  obtain ⟨policyV2, spdm⟩ := b
  obtain ⟨id, kind, isSrc, hasInitTdInfo, outcome⟩ := r
  cases kind <;> cases policyV2 <;> cases spdm <;> cases isSrc <;> cases hasInitTdInfo <;> rfl

section

variable {r : Request} {flags : Flags} {actions : List Action}

theorem attend_calls (h : actions.all isCall = true) : (attend r actions flags).2 = flags := by
  induction actions with
  | nil => rfl
  | cons a rest ih =>
    cases a with
    | call c =>
      rw [List.all_cons, Bool.and_eq_true] at h
      rw [attend, act]
      cases r.outcome c with
      | ok u => exact ih h.2
      | error e => rfl
    | setupTransport => simp [isCall] at h
    | shutdownTransport => simp [isCall] at h

theorem attend_opened (h : opened actions = true) (hentry : flags r.id ≠ none) :
    (attend r actions flags).2 r.id = none ↔ ∀ c ∈ leadingCalls actions, r.Succeeds c := by
  induction actions with
  | nil => cases h
  | cons a rest ih =>
    cases a with
    | call c =>
      rw [attend, act, leadingCalls, List.forall_mem_cons]
      cases hc : r.outcome c with
      | ok u => exact ⟨fun hnone => ⟨hc, (ih h).mp hnone⟩, fun hall => (ih h).mpr hall.2⟩
      | error e =>
        refine ⟨fun hnone => absurd hnone hentry, fun hall => ?_⟩
        have hok : r.outcome c = .ok () := hall.1
        rw [hc] at hok
        cases hok
    | setupTransport => cases h
    | shutdownTransport =>
      have hrest : rest.all isCall = true := h
      refine ⟨fun _ => nofun, fun _ => ?_⟩
      rw [attend, act]
      change (attend r rest (Function.update flags r.id none)).2 r.id = none
      rw [attend_calls hrest, Function.update_self]

theorem attend_bracketed (h : bracketed actions = true) (hentry : flags r.id = none) :
    (attend r actions flags).2 r.id = none ↔ Undisturbed r actions := by
  unfold Undisturbed
  induction actions with
  | nil => cases h
  | cons a rest ih =>
    cases a with
    | call c =>
      rw [attend, act, leadingCalls, List.cons_append, List.forall_mem_cons, afterSetup]
      · cases hc : r.outcome c with
        | ok u =>
          have hsucceeds : r.Succeeds c := hc
          simp only [hsucceeds, true_and]
          exact ih h
        | error e =>
          refine ⟨fun _ hall => ?_, fun _ => hentry⟩
          have hok : r.outcome c = .ok () := hall.1
          rw [hc] at hok
          cases hok
      · nofun
    | setupTransport =>
      have hopened : opened rest = true := h
      rw [attend, act, leadingCalls, List.nil_append, afterSetup]
      · cases hinit : r.outcome .vmcallRawTransportInit with
        | ok u =>
          have hset : Function.update flags r.id (some false) r.id ≠ none := by
            rw [Function.update_self]
            exact nofun
          refine (attend_opened hopened hset).trans ⟨fun hall _ => hall, fun hall => hall ?_⟩
          intro c hc
          rw [List.mem_singleton.mp hc]
          exact hinit
        | error e =>
          refine ⟨fun _ hall => ?_, fun _ => hentry⟩
          have hok : r.outcome .vmcallRawTransportInit = .ok () :=
            hall _ (List.mem_singleton_self _)
          rw [hinit] at hok
          cases hok
      · nofun
    | shutdownTransport => cases h

end

/-- A request whose task has not ended. When no action is left, its status is being reported. -/
structure Task where
  request : Request
  rest : List Action

def Task.id (t : Task) : UInt64 := t.request.id

structure State where
  flags : Flags
  tasks : List Task

def State.initial : State := ⟨fun _ => none, []⟩

inductive Event where
  | accept (r : Request)
  | advance (id : UInt64)
  | poll (id : UInt64) (buffer : Octets)
  | interrupt

def supports (b : Build) : Kind → Bool
  | .startMigration => true
  | .startRebinding => b.policyV2

/-- A failed action ends the flow, not the task: the status is still to be reported. -/
def Task.after (t : Task) (rest : List Action) : Except MigrationResult Unit → Task
  | .ok _ => { t with rest := rest }
  | .error _ => { t with rest := [] }

def replace (tasks : List Task) (t : Task) : List Task :=
  tasks.map fun other => if other.id = t.id then t else other

def advance (s : State) (t : Task) : State :=
  match t.rest with
  | [] => { s with tasks := s.tasks.filter fun other => other.id ≠ t.id }
  | a :: rest =>
    let out := act t.request s.flags a
    { flags := out.2, tasks := replace s.tasks (t.after rest out.1) }

def step (b : Build) (s : State) : Event → State
  | .accept r =>
    if r.id ∈ s.tasks.map Task.id ∨ supports b r.kind = false then s
    else { s with tasks := s.tasks ++ [⟨r, r.actions b⟩] }
  | .advance id => match s.tasks.find? fun t => t.id = id with
    | none => s
    | some t => advance s t
  | .poll id buffer =>
    { s with flags := Function.update s.flags id (pollVmcallCompletion (s.flags id) buffer).2 }
  | .interrupt => { s with flags := intrNotification s.flags }

def run (b : Build) (s : State) (events : List Event) : State := events.foldl (step b) s

/-- Every entry is the entry of a request in flight. -/
def Released (s : State) : Prop := ∀ id, s.flags id ≠ none → id ∈ s.tasks.map Task.id

theorem Released.bounded {s : State} (h : Released s) {ids : List UInt64} (hnodup : ids.Nodup)
    (hentries : ∀ id ∈ ids, s.flags id ≠ none) : ids.length ≤ s.tasks.length := by
  have hsub : ids ⊆ s.tasks.map Task.id := fun id hid => h id (hentries id hid)
  have hle := (hnodup.subperm hsub).length_le
  rwa [List.length_map] at hle

/-- Left alone, the task would remove the entry of its request. -/
def Settles (flags : Flags) (t : Task) : Prop :=
  (attend t.request t.rest flags).2 t.id = none

section

variable {b : Build} {s : State} {t : Task} {flags flags' : Flags}

private theorem attend_entry {r : Request} (actions : List Action)
    (h : flags r.id = none ↔ flags' r.id = none) :
    (attend r actions flags).2 r.id = none ↔ (attend r actions flags').2 r.id = none := by
  induction actions generalizing flags flags' with
  | nil => exact h
  | cons a rest ih =>
    rw [attend, attend]
    cases a with
    | call c =>
      rw [act, act]
      cases r.outcome c with
      | ok u => exact ih h
      | error e => exact h
    | setupTransport =>
      rw [act, act]
      cases r.outcome .vmcallRawTransportInit with
      | ok u => exact ih (by rw [Function.update_self, Function.update_self])
      | error e => exact h
    | shutdownTransport =>
      exact ih (by rw [Function.update_self, Function.update_self])

theorem Settles.of_entry (h : Settles flags t)
    (hentry : flags' t.id = none ↔ flags t.id = none) : Settles flags' t :=
  (attend_entry t.rest hentry).mpr h

theorem act_frame (r : Request) (flags : Flags) (a : Action) {id : UInt64} (h : id ≠ r.id) :
    (act r flags a).2 id = flags id := by
  cases a with
  | call c => rfl
  | setupTransport =>
    rw [act]
    cases r.outcome .vmcallRawTransportInit with
    | ok u => exact Function.update_of_ne h _ _
    | error e => rfl
  | shutdownTransport => exact Function.update_of_ne h _ _

theorem Task.after_id (t : Task) (rest : List Action) (out : Except MigrationResult Unit) :
    (t.after rest out).id = t.id := by
  cases out <;> rfl

theorem Settles.after {a : Action} {rest : List Action} (hrest : t.rest = a :: rest)
    (h : Settles s.flags t) :
    Settles (act t.request s.flags a).2 (t.after rest (act t.request s.flags a).1) := by
  unfold Settles at h
  rw [hrest, attend] at h
  generalize act t.request s.flags a = out at h ⊢
  obtain ⟨result, flags⟩ := out
  cases result with
  | ok u => exact h
  | error e => exact h

theorem mem_replace {tasks : List Task} {other : Task} (h : other ∈ replace tasks t) :
    other = t ∨ other ∈ tasks ∧ other.id ≠ t.id := by
  obtain ⟨old, hold, heq⟩ := List.mem_map.mp h
  by_cases hid : old.id = t.id
  · rw [if_pos hid] at heq
    exact .inl heq.symm
  · rw [if_neg hid] at heq
    subst heq
    exact .inr ⟨hold, hid⟩

theorem replace_ids (tasks : List Task) (t : Task) :
    (replace tasks t).map Task.id = tasks.map Task.id := by
  rw [replace, List.map_map]
  refine List.map_congr_left fun old _ => ?_
  rw [Function.comp_apply]
  by_cases hid : old.id = t.id
  · rw [if_pos hid, hid]
  · rw [if_neg hid]

/-- Every entry belongs to a request in flight, and every task will remove its own. -/
structure Settled (s : State) : Prop where
  released : Released s
  settles : ∀ t ∈ s.tasks, Settles s.flags t

theorem Settled.of_entries (h : Settled s) {flags : Flags}
    (hflags : ∀ id, flags id = none ↔ s.flags id = none) : Settled { s with flags := flags } where
  released id hid := h.released id fun hnone => hid ((hflags id).mpr hnone)
  settles t ht := (h.settles t ht).of_entry (hflags t.id)

theorem Settled.advance (h : Settled s) (ht : t ∈ s.tasks) : Settled (advance s t) := by
  have hsettles : Settles s.flags t := h.settles t ht
  unfold TransportContexts.advance
  cases hrest : t.rest with
  | nil =>
    -- The status was reported, and nothing was left to do: the entry is gone.
    have hnone : s.flags t.id = none := by
      rw [Settles, hrest] at hsettles
      exact hsettles
    refine ⟨fun id hid => ?_, fun other hother => h.settles other (List.mem_of_mem_filter hother)⟩
    obtain ⟨other, hother, rfl⟩ := List.mem_map.mp (h.released id hid)
    refine List.mem_map.mpr ⟨other, List.mem_filter.mpr ⟨hother, ?_⟩, rfl⟩
    have hne : other.id ≠ t.id := fun heq => hid (heq ▸ hnone)
    simpa using hne
  | cons a rest =>
    refine ⟨fun id hid => ?_, fun other hother => ?_⟩
    · rw [replace_ids]
      by_cases hmine : id = t.id
      · exact List.mem_map.mpr ⟨t, ht, hmine.symm⟩
      · exact h.released id fun hnone => hid ((act_frame t.request s.flags a hmine).trans hnone)
    · obtain rfl | ⟨hold, hne⟩ := mem_replace hother
      · exact hsettles.after hrest
      · rw [Task.after_id] at hne
        exact (h.settles other hold).of_entry (Eq.congr_left (act_frame t.request s.flags a hne))

theorem Settled.step (h : Settled s) {e : Event}
    (hclean : ∀ r, e = .accept r → Undisturbed r (r.actions b)) : Settled (step b s e) := by
  cases e with
  | accept r =>
    rw [TransportContexts.step]
    by_cases hrefused : r.id ∈ s.tasks.map Task.id ∨ supports b r.kind = false
    · rwa [if_pos hrefused]
    · rw [if_neg hrefused]
      have hnew : s.flags r.id = none := by
        by_contra hentry
        exact hrefused (.inl (h.released r.id hentry))
      refine ⟨fun id hid => ?_, fun t ht => ?_⟩
      · rw [List.map_append]
        exact List.mem_append_left _ (h.released id hid)
      · obtain hold | hadded := List.mem_append.mp ht
        · exact h.settles t hold
        · rw [List.mem_singleton.mp hadded]
          exact (attend_bracketed (bracketed_actions b r) hnew).mpr (hclean r rfl)
  | advance id =>
    rw [TransportContexts.step]
    cases hfind : s.tasks.find? fun t => t.id = id with
    | none => exact h
    | some t => exact h.advance (List.mem_of_find?_eq_some hfind)
  | poll id buffer =>
    refine h.of_entries fun other => ?_
    by_cases hid : other = id
    · subst hid
      rw [Function.update_self]
      cases s.flags other with
      | none => exact Iff.rfl
      | some set =>
        cases set with
        | false => exact Iff.rfl
        | true =>
          unfold pollVmcallCompletion
          simp only [reduceCtorEq, iff_false]
          split_ifs <;> exact nofun
    · rw [Function.update_of_ne hid]
  | interrupt =>
    refine h.of_entries fun id => ?_
    rw [intrNotification, Option.map_eq_none_iff]

theorem Settled.run (h : Settled s) {events : List Event}
    (hclean : ∀ r, Event.accept r ∈ events → Undisturbed r (r.actions b)) :
    Settled (run b s events) := by
  induction events generalizing s with
  | nil => exact h
  | cons e rest ih =>
    refine ih (h.step fun r he => hclean r ?_) fun r hr => hclean r (List.mem_cons_of_mem e hr)
    rw [he]
    exact List.mem_cons_self

end

private theorem settled_initial : Settled State.initial := ⟨fun _ h => absurd rfl h, nofun⟩

/-- A request leaves no entry exactly when nothing fails between the set-up of its transport and the
shutdown. While that is so of all requests, every entry is that of a request in flight, and the
table is no larger than their number. -/
theorem transport_contexts_released_iff (b : Build) :
    (∀ (r : Request) (flags : Flags), flags r.id = none →
      ((attend r (r.actions b) flags).2 r.id = none ↔ Undisturbed r (r.actions b))) ∧
    ∀ events : List Event, (∀ r, Event.accept r ∈ events → Undisturbed r (r.actions b)) →
      (∀ id, id ∉ (run b State.initial events).tasks.map Task.id →
        (run b State.initial events).flags id = none) ∧
      ∀ ids : List UInt64, ids.Nodup → (∀ id ∈ ids, (run b State.initial events).flags id ≠ none) →
        ids.length ≤ (run b State.initial events).tasks.length := by
  refine ⟨fun r flags hnone => attend_bracketed (bracketed_actions b r) hnone, ?_⟩
  intro events hclean
  have hreleased : Released (run b State.initial events) := (settled_initial.run hclean).released
  refine ⟨fun id hid => ?_, fun ids hnodup hentries => hreleased.bounded hnodup hentries⟩
  by_contra hentry
  exact hid (hreleased id hentry)

def sampleRequest (id : UInt64) (kind : Kind) (outcome : Call → Except MigrationResult Unit) :
    Request :=
  { id := id, kind := kind, isSrc := true, hasInitTdInfo := false, outcome := outcome }

def preSessionTimeout : Call → Except MigrationResult Unit
  | .preSessionDataExchange => .error .networkError
  | _ => .ok ()

/-- The VMM does not accept the callback: the entry is never added. -/
def noCallback : Call → Except MigrationResult Unit
  | .vmcallRawTransportInit => .error .invalidParameter
  | _ => .ok ()

def releasedTwo : List Event :=
  [.accept (sampleRequest 7 .startMigration fun _ => .ok ()),
    .accept (sampleRequest 8 .startRebinding noCallback),
    .advance 7, .advance 8, .interrupt, .poll 7 [], .advance 8]

theorem transport_contexts_two :
    (∀ r, Event.accept r ∈ releasedTwo → Undisturbed r (r.actions ⟨true, true⟩)) ∧
      (run ⟨true, true⟩ State.initial releasedTwo).flags 7 ≠ none ∧
      (run ⟨true, true⟩ State.initial releasedTwo).flags 8 = none ∧
      [(7 : UInt64)].length ≤ (run ⟨true, true⟩ State.initial releasedTwo).tasks.length := by
  have hclean : ∀ r, Event.accept r ∈ releasedTwo → Undisturbed r (r.actions ⟨true, true⟩) := by
    intro r hr
    obtain rfl | rfl : r = sampleRequest 7 .startMigration (fun _ => .ok ()) ∨
        r = sampleRequest 8 .startRebinding noCallback := by
      simpa [releasedTwo] using hr
    · exact fun _ _ _ => rfl
    · intro hall
      cases hall .vmcallRawTransportInit (List.mem_append_right _ (List.mem_singleton_self _))
  have hseven : (run ⟨true, true⟩ State.initial releasedTwo).flags 7 ≠ none := by decide
  have hreleased := (transport_contexts_released_iff ⟨true, true⟩).2 releasedTwo hclean
  refine ⟨hclean, hseven, hreleased.1 8 (by decide), ?_⟩
  refine hreleased.2 [7] (List.nodup_singleton 7) fun id hid => ?_
  rw [List.mem_singleton.mp hid]
  exact hseven

/-- Both flows keep the entry of a request whose pre-session exchange timed out, after their tasks
have ended. -/
def timeoutEvents : List Event :=
  [.accept (sampleRequest 7 .startMigration preSessionTimeout), .advance 7, .advance 7, .advance 7,
    .accept (sampleRequest 8 .startRebinding preSessionTimeout), .advance 8, .advance 8, .advance 8]

theorem transport_contexts_kept : (run ⟨true, false⟩ State.initial timeoutEvents).tasks.length = 0 ∧
      (run ⟨true, false⟩ State.initial timeoutEvents).flags 7 = some false ∧
      (run ⟨true, false⟩ State.initial timeoutEvents).flags 8 = some false := by
  decide

end MigTd.Migration.TransportContexts
