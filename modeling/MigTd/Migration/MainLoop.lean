/- source: migtd/main.rs, session.rs
   digest: The accepting task, the pending slot and the request tasks under any interleaving. -/

import MigTd.Lib.RunHistory
import MigTd.Migration.Requests
import Mathlib.Data.Finset.Card

/-!
An event is what one party does between two suspension points. The list of tasks holds every
request task that has been added and has not ended, and an event may name any of them, so every
schedule of the executor is a sequence of events. What a request does before it reports is left
open: its status is any status.
-/

set_option autoImplicit false

namespace MigTd.Migration.MainLoop

open Lib.ByteCodec Lib.RunHistory Information Requests

def MAX_CONCURRENCY_REQUESTS : Nat := 12

structure Report where
  id : UInt64
  status : MigrationResult
  deriving DecidableEq

/-- How far `report_status` comes: without memory no report is made, and a report that the
host refuses is not waited for. -/
inductive Delivery where
  | unsent
  | refused
  | sent
  deriving DecidableEq

def Delivery.issued : Delivery → Report → List Report
  | unsent, _ => []
  | refused, r => [r]
  | sent, r => [r]

/-- An accepted request; the mark counts the reports that were made before it. -/
structure Accepted where
  request : WaitForRequestResponse
  mark : Nat
  deriving DecidableEq

def Accepted.id (a : Accepted) : UInt64 := a.request.migRequestId

/-- A task that has not ended, with the report whose confirmation it waits for. -/
structure Task where
  accepted : Accepted
  report : Option Report
  deriving DecidableEq

/-- Where the accepting task stands. -/
inductive Phase where
  | gate
  | waiting
  | reporting
  deriving DecidableEq

structure LoopState where
  requests : Finset UInt64
  pending : Option Accepted
  phase : Phase
  tasks : List Task
  reports : List Report

inductive Event where
  | pollGate
  /-- `wait_for_request` fails without having read a request. -/
  | waitFails
  | pollHost (memory : Octets) (delivery : Delivery)
  | confirmError
  | spawn
  | finish (i : Nat) (status : MigrationResult) (delivery : Delivery)
  | confirm (i : Nat)

namespace LoopState

def init : LoopState := ⟨∅, none, .gate, [], []⟩

def remove (s : LoopState) (i : Nat) (id : UInt64) : LoopState :=
  { s with
    requests := s.requests.erase id
    tasks := s.tasks.eraseIdx i }

def outstanding (s : LoopState) : List Accepted :=
  s.pending.toList ++ s.tasks.map Task.accepted

def ids (s : LoopState) : List UInt64 := s.outstanding.map Accepted.id

def reportsFor (s : LoopState) (a : Accepted) : List Report :=
  (s.reports.drop a.mark).filter (·.id = a.id)

end LoopState

variable (b : Build) (readMigInfo : Octets → Option MigtdMigrationInformation)

/-- An event that its party cannot take leaves the state as it is. -/
def step (s : LoopState) : Event → LoopState
  | .pollGate =>
    if s.phase = .gate ∧ s.pending = none ∧ s.requests.card < MAX_CONCURRENCY_REQUESTS then
      { s with phase := .waiting }
    else s
  | .waitFails => if s.phase = .waiting then { s with phase := .gate } else s
  | .pollHost memory delivery =>
    if s.phase = .waiting then
      match pollRequest b readMigInfo memory s.requests with
      | ⟨.pending, requests, _⟩ => { s with requests := requests }
      -- The slot is filled before the accepting task suspends again.
      | ⟨.ready (.ok request), requests, _⟩ =>
        { s with
          requests := requests
          pending := some ⟨request, s.reports.length⟩
          phase := .gate }
      | ⟨.ready (.error _), requests, none⟩ => { s with requests := requests, phase := .gate }
      | ⟨.ready (.error _), requests, some (id, status)⟩ =>
        { s with
          requests := requests
          reports := s.reports ++ delivery.issued ⟨id, status⟩
          phase := if delivery = .sent then .reporting else .gate }
    else s
  | .confirmError => if s.phase = .reporting then { s with phase := .gate } else s
  | .spawn =>
    match s.pending with
    | some a => { s with pending := none, tasks := s.tasks ++ [⟨a, none⟩] }
    | none => s
  | .finish i status delivery =>
    match s.tasks[i]? with
    | some ⟨a, none⟩ =>
      let told := { s with reports := s.reports ++ delivery.issued ⟨a.id, status⟩ }
      -- Only `vmcall-raw` waits until the host has confirmed.
      if b.vmcallRaw = true ∧ delivery = .sent then
        { told with tasks := s.tasks.set i ⟨a, some ⟨a.id, status⟩⟩ }
      else told.remove i a.id
    | _ => s
  | .confirm i =>
    match s.tasks[i]? with
    | some ⟨a, some _⟩ => s.remove i a.id
    | _ => s

/-- This event reports the rejection of a buffer under this id. -/
def ReportsRejection (s : LoopState) (e : Event) (id : UInt64) (status : MigrationResult) : Prop :=
  ∃ memory delivery, e = .pollHost memory delivery ∧ delivery ≠ .unsent ∧ s.phase = .waiting ∧
    Rejects b memory id status

inductive Transition (s : LoopState) (e : Event) : LoopState → Prop
  | turn (p : Phase) (hquiet : ∀ id status, ¬ReportsRejection b s e id status)
      (hp : p = .gate ∨ p = s.phase ∨
        s.pending = none ∧ s.requests.card < MAX_CONCURRENCY_REQUESTS) :
      Transition s e { s with phase := p }
  | accept (r : WaitForRequestResponse) (hquiet : ∀ id status, ¬ReportsRejection b s e id status)
      (hphase : s.phase = .waiting) (hfresh : r.migRequestId ∉ s.requests) :
      Transition s e { s with
          requests := insert r.migRequestId s.requests
          pending := some ⟨r, s.reports.length⟩
          phase := .gate }
  | reject (id : UInt64) (status : MigrationResult) (p : Phase)
      (hreject : ReportsRejection b s e id status) (hp : p ≠ .waiting) :
      Transition s e { s with reports := s.reports ++ [⟨id, status⟩], phase := p }
  | spawn (a : Accepted) (hspawn : e = .spawn) (hpending : s.pending = some a) :
      Transition s e { s with pending := none, tasks := s.tasks ++ [⟨a, none⟩] }
  | report (l r : List Task) (a : Accepted) (status : MigrationResult)
      (hquiet : ∀ id status, ¬ReportsRejection b s e id status)
      (htasks : s.tasks = l ++ ⟨a, none⟩ :: r) :
      Transition s e { s with
          tasks := l ++ ⟨a, some ⟨a.id, status⟩⟩ :: r
          reports := s.reports ++ [⟨a.id, status⟩] }
  | finish (l r : List Task) (t : Task) (own : List Report)
      (hquiet : ∀ id status, ¬ReportsRejection b s e id status)
      (htasks : s.tasks = l ++ t :: r) (hown : ∀ x ∈ own, x.id = t.accepted.id) :
      Transition s e { s with
          requests := s.requests.erase t.accepted.id
          tasks := l ++ r
          reports := s.reports ++ own }

variable {s : LoopState} {e : Event}

theorem quiet_of_ne (h : ∀ memory delivery, e ≠ .pollHost memory delivery) (id : UInt64)
    (status : MigrationResult) : ¬ReportsRejection b s e id status := by
  intro ⟨memory, delivery, he, _⟩
  exact h memory delivery he

theorem Transition.stay
    (hquiet : ∀ id status, ¬ReportsRejection b s e id status) : Transition b s e s :=
  .turn s.phase hquiet (.inr (.inl rfl))

theorem Delivery.eq_of_mem_issued {delivery : Delivery} {r x : Report}
    (h : x ∈ delivery.issued r) : x = r := by
  cases delivery with
  | unsent => cases h
  | refused => exact List.mem_singleton.mp h
  | sent => exact List.mem_singleton.mp h

theorem pollHost_transition (s : LoopState) (memory : Octets) (delivery : Delivery) :
    Transition b s (.pollHost memory delivery)
      (step b readMigInfo s (.pollHost memory delivery)) := by
  by_cases hphase : s.phase = .waiting
  · rw [step, if_pos hphase]
    have hquiet (hno : ∀ id status, ¬Rejects b memory id status) (id : UInt64)
        (status : MigrationResult) :
        ¬ReportsRejection b s (.pollHost memory delivery) id status := by
      intro ⟨_, _, he, _, _, hr⟩
      cases he
      exact hno id status hr
    obtain ⟨r, hfresh, hno, heq⟩ | ⟨hno, heq | ⟨status, heq⟩⟩ | ⟨id, status, hr, heq⟩ :=
      pollRequest_cases b readMigInfo memory s.requests
    · rw [heq]
      exact .accept r (hquiet hno) hphase hfresh
    · rw [heq]
      exact .stay b (hquiet hno)
    · rw [heq]
      exact .turn .gate (hquiet hno) (.inl rfl)
    · rw [heq]
      cases delivery with
      | unsent =>
        have hsilent : ∀ id status, ¬ReportsRejection b s (.pollHost memory .unsent) id status := by
          intro id status ⟨_, _, he, hne, _⟩
          cases he
          exact hne rfl
        simpa [Delivery.issued] using Transition.turn .gate hsilent (.inl rfl)
      | refused =>
        exact .reject id status .gate ⟨memory, _, rfl, nofun, hphase, hr⟩ nofun
      | sent =>
        exact .reject id status .reporting ⟨memory, _, rfl, nofun, hphase, hr⟩ nofun
  · rw [step, if_neg hphase]
    refine .stay b ?_
    intro id status ⟨_, _, _, _, h, _⟩
    exact hphase h

variable {t : Task} {l r : List Task}

theorem split_at {i : Nat} (h : l[i]? = some t) :
    l = l.take i ++ t :: l.drop (i + 1) ∧ l.eraseIdx i = l.take i ++ l.drop (i + 1) ∧
      ∀ u, l.set i u = l.take i ++ u :: l.drop (i + 1) := by
  obtain ⟨hi, rfl⟩ := List.getElem?_eq_some_iff.mp h
  refine ⟨?_, List.eraseIdx_eq_take_drop_succ l i, ?_⟩
  · rw [List.getElem_cons_drop, List.take_append_drop]
  · intro u
    rw [List.set_eq_take_append_cons_drop, if_pos hi]

theorem remove_transition {i : Nat}
    (own : List Report) (hquiet : ∀ id status, ¬ReportsRejection b s e id status)
    (ht : s.tasks[i]? = some t) (hown : ∀ x ∈ own, x.id = t.accepted.id) :
    Transition b s e
      (({ s with reports := s.reports ++ own } : LoopState).remove i t.accepted.id) := by
  obtain ⟨hsplit, herase, _⟩ := split_at ht
  rw [LoopState.remove]
  dsimp only
  rw [herase]
  exact .finish _ _ t own hquiet hsplit hown

private theorem finish_transition (s : LoopState) (i : Nat) (status : MigrationResult)
    (delivery : Delivery) :
    Transition b s (.finish i status delivery)
      (step b readMigInfo s (.finish i status delivery)) := by
  have hquiet := quiet_of_ne b (s := s) (e := .finish i status delivery) nofun
  rw [step]
  split
  · rename_i a ht
    split
    · rename_i hsent
      rw [hsent.2, (split_at ht).2.2]
      rw [hsent.2] at hquiet
      exact .report _ _ a status hquiet (split_at ht).1
    · exact remove_transition b _ hquiet ht fun x hx => by rw [Delivery.eq_of_mem_issued hx]
  · exact .stay b hquiet

theorem step_transition (s : LoopState) (e : Event) :
    Transition b s e (step b readMigInfo s e) := by
  cases e with
  | pollHost memory delivery => exact pollHost_transition b readMigInfo s memory delivery
  | finish i status delivery => exact finish_transition b readMigInfo s i status delivery
  | pollGate =>
    have hquiet := quiet_of_ne b (s := s) (e := .pollGate) nofun
    rw [step]
    split
    · rename_i h
      exact .turn .waiting hquiet (.inr (.inr h.2))
    · exact .stay b hquiet
  | waitFails =>
    have hquiet := quiet_of_ne b (s := s) (e := .waitFails) nofun
    rw [step]
    split
    · exact .turn .gate hquiet (.inl rfl)
    · exact .stay b hquiet
  | confirmError =>
    have hquiet := quiet_of_ne b (s := s) (e := .confirmError) nofun
    rw [step]
    split
    · exact .turn .gate hquiet (.inl rfl)
    · exact .stay b hquiet
  | spawn =>
    rw [step]
    split
    · rename_i a ha
      exact .spawn a rfl ha
    · exact .stay b (quiet_of_ne b nofun)
  | confirm i =>
    have hquiet := quiet_of_ne b (s := s) (e := .confirm i) nofun
    rw [step]
    split
    · rename_i a report ht
      have h := remove_transition b [] hquiet ht nofun
      rwa [List.append_nil] at h
    · exact .stay b hquiet

/-- The table holds exactly the ids of the outstanding requests, each of them once. -/
structure Booked (s : LoopState) : Prop where
  limit : s.requests.card ≤ MAX_CONCURRENCY_REQUESTS
  once : s.ids.Nodup
  table : s.requests = s.ids.toFinset
  slot_free : s.phase ≠ .gate → s.pending = none
  room : s.phase = .waiting → s.requests.card < MAX_CONCURRENCY_REQUESTS

theorem init_booked : Booked .init where
  limit := Nat.zero_le _
  once := List.nodup_nil
  table := rfl
  slot_free := fun _ => rfl
  room := nofun

variable {b} {s s' : LoopState} {e : Event}

theorem Booked.free_of_waiting (h : Booked s) (hphase : s.phase = .waiting) : s.pending = none := by
  apply h.slot_free
  rw [hphase]
  nofun

theorem ids_split (h : s.tasks = l ++ t :: r) :
    s.ids.Perm (t.accepted.id :: ({ s with tasks := l ++ r } : LoopState).ids) := by
  simp only [LoopState.ids, LoopState.outstanding, h, List.map_append, List.map_cons,
    ← List.append_assoc]
  exact List.perm_middle

theorem Booked.transition (h : Booked s) (ht : Transition b s e s') : Booked s' := by
  cases ht with
  | turn p _ hp =>
    refine ⟨h.limit, h.once, h.table, ?_, ?_⟩
    · intro hne
      rcases hp with rfl | rfl | ⟨hnone, _⟩
      · exact absurd rfl hne
      · exact h.slot_free hne
      · exact hnone
    · intro hw
      rcases hp with rfl | rfl | ⟨_, hroom⟩
      · cases hw
      · exact h.room hw
      · exact hroom
  | accept r _ hphase hfresh =>
    -- The slot is free while the accepting task waits: all ids so far belong to tasks.
    have hnone : s.pending = none := h.free_of_waiting hphase
    have hids : s.ids = (s.tasks.map Task.accepted).map Accepted.id := by
      rw [LoopState.ids, LoopState.outstanding, hnone]
      rfl
    refine ⟨?_, ?_, ?_, fun hne => absurd rfl hne, nofun⟩
    · rw [Finset.card_insert_of_notMem hfresh]
      exact h.room hphase
    · refine List.nodup_cons.mpr ⟨?_, hids ▸ h.once⟩
      rw [h.table, List.mem_toFinset, hids] at hfresh
      exact hfresh
    · rw [h.table, hids]
      exact List.toFinset_cons.symm
  | reject id status p hreject hp =>
    obtain ⟨_, _, _, _, hphase, _⟩ := hreject
    have hnone : s.pending = none := h.free_of_waiting hphase
    exact ⟨h.limit, h.once, h.table, fun _ => hnone, fun hw => absurd hw hp⟩
  | spawn a _ hpending =>
    have hperm : s.ids.Perm
        ({ s with pending := none, tasks := s.tasks ++ [⟨a, none⟩] } : LoopState).ids := by
      simp only [LoopState.ids, LoopState.outstanding, hpending, Option.toList_some,
        Option.toList_none, List.map_append, List.map_cons, List.map_nil, List.nil_append]
      exact List.perm_append_comm
    refine ⟨h.limit, hperm.nodup_iff.mp h.once, ?_, fun _ => rfl, h.room⟩
    rw [h.table]
    exact List.toFinset_eq_of_perm _ _ hperm
  | report l r a status _ htasks =>
    have hids : ({ s with
        tasks := l ++ ⟨a, some ⟨a.id, status⟩⟩ :: r
        reports := s.reports ++ [⟨a.id, status⟩] } : LoopState).ids = s.ids := by
      simp only [LoopState.ids, LoopState.outstanding, htasks, List.map_append, List.map_cons]
    exact ⟨h.limit, hids ▸ h.once, hids ▸ h.table, h.slot_free, h.room⟩
  | finish l r t own _ htasks _ =>
    have hperm := ids_split htasks
    obtain ⟨hout, hnodup⟩ := List.nodup_cons.mp (hperm.nodup_iff.mp h.once)
    have hle : (s.requests.erase t.accepted.id).card ≤ s.requests.card := Finset.card_erase_le
    refine ⟨hle.trans h.limit, hnodup, ?_, h.slot_free, fun hw => hle.trans_lt (h.room hw)⟩
    rw [h.table, List.toFinset_eq_of_perm _ _ hperm, List.toFinset_cons, Finset.erase_insert]
    · rfl
    · rwa [List.mem_toFinset]

variable {a : Accepted}

theorem Booked.slot_kept (h : Booked s) (ht : Transition b s e s') (hpending : s.pending = some a) :
    s'.pending = some a ∨ e = .spawn ∧ s'.pending = none ∧ s'.tasks = s.tasks ++ [⟨a, none⟩] := by
  cases ht with
  | accept r _ hphase _ =>
    rw [h.free_of_waiting hphase] at hpending
    cases hpending
  | spawn a' hspawn ha =>
    rw [hpending] at ha
    cases ha
    exact .inr ⟨hspawn, rfl, rfl⟩
  | turn => exact .inl hpending
  | reject => exact .inl hpending
  | report => exact .inl hpending
  | finish => exact .inl hpending

theorem Transition.leaves (ht : Transition b s e s') {id : UInt64} (hin : id ∈ s.requests)
    (hout : id ∉ s'.requests) :
    ∃ l t r, s.tasks = l ++ t :: r ∧ t.accepted.id = id ∧ s'.tasks = l ++ r := by
  cases ht with
  | finish l r t own _ htasks _ =>
    refine ⟨l, t, r, htasks, ?_, rfl⟩
    by_contra hne
    exact hout (Finset.mem_erase.mpr ⟨Ne.symm hne, hin⟩)
  | accept => exact absurd (Finset.mem_insert_of_mem hin) hout
  | turn => exact absurd hin hout
  | reject => exact absurd hin hout
  | spawn => exact absurd hin hout
  | report => exact absurd hin hout

theorem booked_run (events : List Event) : Booked (events.foldl (step b readMigInfo) .init) :=
  ((walk_trace _ events).always init_booked fun s e h =>
    h.transition (step_transition b readMigInfo s e)).1

/-- The books of the main loop after any sequence of events, and what any next event does. -/
theorem requests_booked (b : Build)
    (readMigInfo : Octets → Option MigtdMigrationInformation) (events : List Event) :
    let s := events.foldl (step b readMigInfo) .init
    s.requests.card ≤ MAX_CONCURRENCY_REQUESTS ∧
    (s.ids.Nodup ∧ ∀ id, id ∈ s.requests ↔ id ∈ s.ids) ∧
    ∀ e, let s' := step b readMigInfo s e
      (∀ a, s.pending = some a → s'.pending = some a ∨
        e = .spawn ∧ s'.pending = none ∧ s'.tasks = s.tasks ++ [⟨a, none⟩]) ∧
      ∀ id ∈ s.requests, id ∉ s'.requests →
        ∃ l t r, s.tasks = l ++ t :: r ∧ t.accepted.id = id ∧ s'.tasks = l ++ r := by
  intro s
  have h : Booked s := booked_run readMigInfo events
  refine ⟨h.limit, ⟨h.once, ?_⟩, ?_⟩
  · intro id
    rw [h.table, List.mem_toFinset]
  · intro e
    have ht := step_transition b readMigInfo s e
    exact ⟨fun a ha => h.slot_kept ht ha, fun id hin hout => ht.leaves hin hout⟩

/-- Every report for an outstanding request since its acceptance comes from its own task. -/
structure OwnReports (s : LoopState) : Prop where
  pending : ∀ a, s.pending = some a → s.reportsFor a = []
  tasks : ∀ t ∈ s.tasks, s.reportsFor t.accepted = t.report.toList

/-- The event reports the rejection of a buffer under the id of an outstanding request. -/
def Foreign (b : Build) (s : LoopState) (e : Event) : Prop :=
  ∃ id status, ReportsRejection b s e id status ∧ id ∈ s.requests

def Marked (s : LoopState) : Prop := ∀ a ∈ s.outstanding, a.mark ≤ s.reports.length

theorem ReportsRejection.id_eq {id id' : UInt64} {status status' : MigrationResult}
    (h : ReportsRejection b s e id status) (h' : ReportsRejection b s e id' status') :
    id = id' := by
  obtain ⟨memory, _, he, _, _, _, _, _, hid⟩ := h
  obtain ⟨memory', _, he', _, _, _, _, _, hid'⟩ := h'
  rw [he] at he'
  cases he'
  rw [hid] at hid'
  exact Option.some.inj hid'

theorem reportsFor_append (h : a.mark ≤ s.reports.length) (new : List Report) :
    ({ s with reports := s.reports ++ new } : LoopState).reportsFor a =
      s.reportsFor a ++ new.filter (·.id = a.id) := by
  simp only [LoopState.reportsFor, List.drop_append_of_le_length h, List.filter_append]

theorem reportsFor_others (h : a.mark ≤ s.reports.length)
    {new : List Report} (hne : ∀ x ∈ new, x.id ≠ a.id) :
    ({ s with reports := s.reports ++ new } : LoopState).reportsFor a = s.reportsFor a := by
  rw [reportsFor_append h, List.filter_eq_nil_iff.mpr ?_, List.append_nil]
  intro x hx
  simpa using hne x hx

theorem Booked.mem_requests (h : Booked s) (ha : a ∈ s.outstanding) : a.id ∈ s.requests := by
  rw [h.table, List.mem_toFinset]
  exact List.mem_map_of_mem ha

theorem pending_outstanding (h : s.pending = some a) : a ∈ s.outstanding := by
  rw [LoopState.outstanding, h]
  exact List.mem_append_left _ (List.mem_singleton_self a)

theorem task_outstanding (h : t ∈ s.tasks) : t.accepted ∈ s.outstanding :=
  List.mem_append_right _ (List.mem_map_of_mem h)

theorem Marked.transition (h : Marked s) (ht : Transition b s e s') : Marked s' := by
  have hgrow (new : List Report) {a : Accepted} (ha : a ∈ s.outstanding) :
      a.mark ≤ (s.reports ++ new).length := by
    rw [List.length_append]
    exact (h a ha).trans (Nat.le_add_right _ _)
  cases ht with
  | turn => exact h
  | accept r =>
    intro a ha
    rcases List.mem_cons.mp ha with rfl | ha
    · exact le_rfl
    · exact h a (List.mem_append_right _ ha)
  | reject => exact fun a ha => hgrow _ ha
  | spawn a _ hpending =>
    intro x hx
    simp only [LoopState.outstanding, Option.toList_none, List.map_append, List.map_cons,
      List.map_nil, List.nil_append, List.mem_append, List.mem_singleton] at hx
    rcases hx with hx | rfl
    · exact h x (List.mem_append_right _ hx)
    · exact h x (pending_outstanding hpending)
  | report l r a status _ htasks =>
    intro x hx
    refine hgrow _ ?_
    simpa only [LoopState.outstanding, htasks, List.map_append, List.map_cons] using hx
  | finish l r t own _ htasks _ =>
    intro x hx
    refine hgrow _ ?_
    simp only [LoopState.outstanding, htasks, List.map_append, List.map_cons, List.mem_append,
      List.mem_cons] at hx ⊢
    tauto

theorem Booked.others (h : Booked s) (htasks : s.tasks = l ++ t :: r)
    (ha : a ∈ ({ s with tasks := l ++ r } : LoopState).outstanding) :
    t.accepted.id ≠ a.id ∧ a ∈ s.outstanding := by
  obtain ⟨hout, _⟩ := List.nodup_cons.mp ((ids_split htasks).nodup_iff.mp h.once)
  refine ⟨?_, ?_⟩
  · intro heq
    exact hout (heq ▸ List.mem_map_of_mem ha)
  · simp only [LoopState.outstanding, htasks, List.map_append, List.map_cons, List.mem_append,
      List.mem_cons] at ha ⊢
    tauto

theorem OwnReports.others (h : OwnReports s) (hb : Booked s) (hm : Marked s)
    (htasks : s.tasks = l ++ t :: r) (own : List Report) (hids : ∀ x ∈ own, x.id = t.accepted.id) :
    (∀ a, s.pending = some a →
      ({ s with reports := s.reports ++ own } : LoopState).reportsFor a = []) ∧
    ∀ u ∈ l ++ r, ({ s with reports := s.reports ++ own } : LoopState).reportsFor u.accepted =
      u.report.toList := by
  have hkept : ∀ a ∈ ({ s with tasks := l ++ r } : LoopState).outstanding,
      ({ s with reports := s.reports ++ own } : LoopState).reportsFor a = s.reportsFor a := by
    intro a ha
    obtain ⟨hne, hout⟩ := hb.others htasks ha
    refine reportsFor_others (hm a hout) ?_
    intro x hx
    rw [hids x hx]
    exact hne
  constructor
  · intro a ha
    rw [hkept a (pending_outstanding ha), h.pending a ha]
  · intro u hu
    rw [hkept _ (task_outstanding hu), h.tasks u]
    rw [htasks, List.mem_append, List.mem_cons]
    rcases List.mem_append.mp hu with hl | hr
    · exact .inl hl
    · exact .inr (.inr hr)

theorem OwnReports.transition (h : OwnReports s) (hb : Booked s) (hm : Marked s)
    (ht : Transition b s e s') (hown : ¬Foreign b s e) : OwnReports s' := by
  cases ht with
  | turn => exact ⟨h.pending, h.tasks⟩
  | accept r =>
    refine ⟨?_, h.tasks⟩
    intro a ha
    cases ha
    simp only [LoopState.reportsFor, List.drop_length, List.filter_nil]
  | reject id status p hreject _ =>
    have hkept : ∀ a ∈ s.outstanding,
        ({ s with reports := s.reports ++ [⟨id, status⟩] } : LoopState).reportsFor a =
          s.reportsFor a := by
      intro a ha
      refine reportsFor_others (hm a ha) ?_
      intro x hx heq
      obtain rfl := List.mem_singleton.mp hx
      have hid : id = a.id := heq
      exact hown ⟨id, status, hreject, hid ▸ hb.mem_requests ha⟩
    exact ⟨fun a ha => (hkept a (pending_outstanding ha)).trans (h.pending a ha),
      fun t ht => (hkept _ (task_outstanding ht)).trans (h.tasks t ht)⟩
  | spawn a _ hpending =>
    refine ⟨nofun, ?_⟩
    intro t ht
    rcases List.mem_append.mp ht with ht | ht
    · exact h.tasks t ht
    · obtain rfl := List.mem_singleton.mp ht
      exact h.pending a hpending
  | report l r a status _ htasks =>
    obtain ⟨hpend, hrest⟩ := h.others hb hm htasks [⟨a.id, status⟩] (by simp)
    have hmem : (⟨a, none⟩ : Task) ∈ s.tasks := by simp [htasks]
    have hself : s.reportsFor a = [] := h.tasks _ hmem
    refine ⟨hpend, ?_⟩
    intro t ht
    rcases List.mem_append.mp ht with hl | hr
    · exact hrest t (List.mem_append_left r hl)
    · rcases List.mem_cons.mp hr with rfl | hr
      · refine (reportsFor_append (hm a (task_outstanding hmem)) [⟨a.id, status⟩]).trans ?_
        simp [hself]
      · exact hrest t (List.mem_append_right l hr)
  | finish l r t own _ htasks hids =>
    obtain ⟨hpend, hrest⟩ := h.others hb hm htasks own hids
    exact ⟨hpend, hrest⟩

theorem OwnReports.foreign_breaks (h : OwnReports s) (hb : Booked s) (hm : Marked s)
    (ht : Transition b s e s') (hforeign : Foreign b s e) : ¬OwnReports s' := by
  obtain ⟨id, status, hreject, hid⟩ := hforeign
  have hnone : s.pending = none := by
    obtain ⟨_, _, _, _, hphase, _⟩ := hreject
    exact hb.free_of_waiting hphase
  cases ht with
  | reject id' status' p hreject' _ =>
    obtain rfl := hreject.id_eq hreject'
    -- The slot is free, so the id is that of a task, and this task has made no new report.
    rw [hb.table, List.mem_toFinset, LoopState.ids, LoopState.outstanding, hnone,
      Option.toList_none, List.nil_append, List.map_map] at hid
    obtain ⟨t, ht, hid⟩ := List.mem_map.mp hid
    have hid : t.accepted.id = id := hid
    have hmore := reportsFor_append (hm _ (task_outstanding ht)) [⟨id, status'⟩]
    intro h'
    have hlen := congrArg List.length ((h'.tasks t ht).symm.trans hmore)
    rw [h.tasks t ht, List.length_append, List.filter_cons_of_pos (by simp [hid])] at hlen
    simp at hlen
  | turn _ hquiet => exact absurd hreject (hquiet id status)
  | accept _ hquiet => exact absurd hreject (hquiet id status)
  | spawn _ hspawn =>
    obtain ⟨_, _, he, _⟩ := hreject
    rw [hspawn] at he
    cases he
  | report _ _ _ _ hquiet => exact absurd hreject (hquiet id status)
  | finish _ _ _ _ hquiet => exact absurd hreject (hquiet id status)

theorem ownReports_run {events : List Event}
    (h : ∀ v ∈ trace (step b readMigInfo) .init events, ¬Foreign b v.before v.input) :
    Marked (events.foldl (step b readMigInfo) .init) ∧
      OwnReports (events.foldl (step b readMigInfo) .init) := by
  have hwalk : Walk (step b readMigInfo) .init (trace (step b readMigInfo) .init events) _ :=
    walk_trace _ events
  refine (hwalk.invariant (P := fun hist s => Booked s ∧
    ((∀ v ∈ hist, ¬Foreign b v.before v.input) → Marked s ∧ OwnReports s)) ?_ ?_).2 h
  · exact ⟨init_booked, fun _ => ⟨nofun, nofun, nofun⟩⟩
  · intro hist s e _ ⟨hb, ih⟩
    have ht := step_transition b readMigInfo s e
    refine ⟨hb.transition ht, ?_⟩
    intro hv
    obtain ⟨hm, hown⟩ := ih fun v hv' => hv v (List.mem_append_left _ hv')
    have he : ¬Foreign b s e := hv ⟨s, e, _⟩ (List.mem_append_right _ (List.mem_singleton_self _))
    exact ⟨hm.transition ht, hown.transition hb hm ht he⟩

/-- Without foreign reports only its own task reports for an outstanding request, and the next
event keeps it so just when it is no foreign report either. -/
theorem reports_own (b : Build) (readMigInfo : Octets → Option MigtdMigrationInformation)
    (events : List Event)
    (h : ∀ v ∈ trace (step b readMigInfo) .init events, ¬Foreign b v.before v.input) :
    let s := events.foldl (step b readMigInfo) .init
    OwnReports s ∧ ∀ e, OwnReports (step b readMigInfo s e) ↔ ¬Foreign b s e := by
  intro s
  obtain ⟨hm, hown⟩ : Marked s ∧ OwnReports s := ownReports_run readMigInfo h
  have hb : Booked s := booked_run readMigInfo events
  refine ⟨hown, ?_⟩
  intro e
  have ht := step_transition b readMigInfo s e
  constructor
  · intro h' hforeign
    exact hown.foreign_breaks hb hm ht hforeign h'
  · exact hown.transition hb hm ht

def logAreaRequest (id : UInt64) : Octets :=
  [1, 4, 0, 0, 0, 0, 0, 0] ++ [16, 0, 0, 0] ++ putU64 id ++ [3, 0, 0, 0, 0, 0, 0, 0]

/-- A buffer whose status byte is no success, with an id behind the header. -/
def failedBuffer (id : UInt64) : Octets :=
  [2, 0, 0, 0, 0, 0, 0, 0] ++ [8, 0, 0, 0] ++ putU64 id

/-- One request is running when the host writes a buffer that is rejected. -/
def rejectingRun (running rejected : UInt64) : List Event :=
  [.pollGate, .pollHost (logAreaRequest running) .sent, .spawn, .pollGate,
    .pollHost (failedBuffer rejected) .sent]

/-- The host is told that request 7 has failed while its task is running. -/
theorem running_request_failed :
    let s := (rejectingRun 7 7).foldl (step ⟨true, true⟩ fun _ => none) .init
    (7 ∈ s.requests ∧ s.tasks.map (·.report) = [none] ∧
      s.reports = [⟨7, .vmmInternalError⟩]) ∧ ¬OwnReports s := by
  refine ⟨by decide +kernel, ?_⟩
  intro h
  have hbad : ∃ t ∈ ((rejectingRun 7 7).foldl (step ⟨true, true⟩ fun _ => none) .init).tasks,
      ((rejectingRun 7 7).foldl (step ⟨true, true⟩ fun _ => none) .init).reportsFor t.accepted ≠
        t.report.toList := by decide +kernel
  obtain ⟨t, ht, hne⟩ := hbad
  exact hne (h.tasks t ht)

/-- The id behind the header of a polled buffer is not in the table. -/
def readsFresh (s : LoopState) : Event → Bool
  | .pollHost memory _ => (readRequestId memory).all (· ∉ s.requests)
  | _ => true

private theorem not_foreign_of_readsFresh (h : readsFresh s e = true) : ¬Foreign b s e := by
  intro ⟨id, status, ⟨memory, delivery, he, _, _, _, _, _, hid⟩, hmem⟩
  rw [he, readsFresh, hid] at h
  simp [hmem] at h

theorem reports_own_rejecting :
    OwnReports ((rejectingRun 7 9).foldl (step ⟨true, true⟩ fun _ => none) .init) := by
  have hfresh : ∀ v ∈ trace (step ⟨true, true⟩ fun _ => none) .init (rejectingRun 7 9),
      readsFresh v.before v.input = true := by decide +kernel
  exact (reports_own _ _ (rejectingRun 7 9) fun v hv => not_foreign_of_readsFresh (hfresh v hv)).1

end MigTd.Migration.MainLoop
