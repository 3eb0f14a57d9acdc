/- scope: executor.rs
   digest: The executor's task queue and its polling discipline over every run of calls. -/

import Mathlib.Data.List.Basic

set_option autoImplicit false

namespace MigTd.AsyncRuntime

variable {ω : Type}

/-- A future reads and changes the world its tasks share; `true` is `Poll::Pending`.
`ident` numbers the tasks in the order they were added. -/
structure Task (ω : Type) where
  ident : Nat
  future : ω → Bool × ω

/-- `polls` and `added` record every poll with its answer and the number of tasks added. -/
structure Executor (ω : Type) where
  tasks : Option (List (Task ω))
  world : ω
  polls : List (Nat × Bool)
  added : Nat

def Executor.start (world : ω) : Executor ω :=
  { tasks := none, world, polls := [], added := 0 }

def Executor.queue (e : Executor ω) : List (Task ω) := e.tasks.getD []

def addTask (future : ω → Bool × ω) (e : Executor ω) : Executor ω :=
  { e with tasks := some (e.queue ++ [⟨e.added, future⟩]), added := e.added + 1 }

def isPending (task : Task ω) (e : Executor ω) : Bool × Executor ω :=
  let (pending, world) := task.future e.world
  (pending, { e with world, polls := e.polls ++ [(task.ident, pending)] })

/-- The turns of the polling loop; the answer is `none` where `unwrap` would panic. The queue
is borrowed from the executor while the loop runs, so no poll can change it. -/
def pollLoop : Nat → List (Task ω) → Executor ω → Option (List (Task ω) × Executor ω)
  | 0, tasks, e => some (tasks, e)
  | _ + 1, [], _ => none
  | turns + 1, task :: rest, e =>
    let (pending, e) := isPending task e
    pollLoop turns (if pending then rest ++ [task] else rest) e

def pollTasks (e : Executor ω) : Option (Nat × Executor ω) := do
  let (tasks, e) ← pollLoop e.queue.length e.queue e
  return (tasks.length, { e with tasks := some tasks })

/-- The answers of the listed tasks, each polled once and in order, and the world after them. -/
def answers : List (Task ω) → ω → List (Task ω × Bool) × ω
  | [], world => ([], world)
  | task :: rest, world =>
    let later := answers rest (task.future world).2
    ((task, (task.future world).1) :: later.1, later.2)

theorem answers_tasks (tasks : List (Task ω)) (world : ω) :
    (answers tasks world).1.map Prod.fst = tasks := by
  induction tasks generalizing world with
  | nil => rfl
  | cons task rest ih => rw [answers, List.map_cons, ih]

def logged (given : List (Task ω × Bool)) : List (Nat × Bool) :=
  given.map fun a => (a.1.ident, a.2)

def pending (given : List (Task ω × Bool)) : List (Task ω) :=
  (given.filter Prod.snd).map Prod.fst

private theorem pollLoop_rotates (todo kept : List (Task ω)) (e : Executor ω) :
    pollLoop todo.length (todo ++ kept) e = some (kept ++ pending (answers todo e.world).1,
        { e with world := (answers todo e.world).2
                 polls := e.polls ++ logged (answers todo e.world).1 }) := by
  induction todo generalizing kept e with
  | nil => simp [pollLoop, answers, pending, logged]
  | cons task rest ih =>
    rw [List.length_cons, List.cons_append, pollLoop]
    cases answer : (task.future e.world).1 with
    | false =>
      simp only [isPending, answer, Bool.false_eq_true, if_false, ih]
      simp [answers, pending, logged, answer]
    | true =>
      simp only [isPending, answer, if_true, List.append_assoc, ih]
      simp [answers, pending, logged, answer]

theorem pollTasks_spec (e : Executor ω) : pollTasks e =
      some ((pending (answers e.queue e.world).1).length,
        { e with tasks := some (pending (answers e.queue e.world).1)
                 world := (answers e.queue e.world).2
                 polls := e.polls ++ logged (answers e.queue e.world).1 }) := by
  have rotated := pollLoop_rotates e.queue [] e
  rw [List.append_nil] at rotated
  simp [pollTasks, rotated]

abbrev Finished (e : Executor ω) (ident : Nat) : Prop := (ident, false) ∈ e.polls

/-- The queue holds the tasks added and not finished, oldest first, and no poll follows the
one in which its task finished. -/
structure Disciplined (e : Executor ω) : Prop where
  unfinished : e.queue.map Task.ident = (List.range e.added).filter fun ident => ¬ Finished e ident
  issued : ∀ poll ∈ e.polls, poll.1 < e.added
  last : e.polls.Pairwise fun earlier later => earlier.2 = false → later.1 ≠ earlier.1

theorem disciplined_start (world : ω) : Disciplined (Executor.start world) where
  unfinished := rfl
  issued := by simp [Executor.start]
  last := .nil

variable {e : Executor ω}

theorem disciplined_addTask (h : Disciplined e) (future : ω → Bool × ω) :
    Disciplined (addTask future e) where
  unfinished := by
    have fresh : ¬ Finished e e.added := fun done => absurd (h.issued _ done) (Nat.lt_irrefl _)
    show (e.queue ++ [Task.mk e.added future]).map Task.ident =
      (List.range (e.added + 1)).filter fun ident => ¬ Finished e ident
    rw [List.map_append, h.unfinished, List.range_succ, List.filter_append]
    simp [fresh]
  issued := fun poll made => Nat.lt_succ_of_lt (h.issued poll made)
  last := h.last

theorem pending_idents (given : List (Task ω × Bool))
    (distinct : (given.map fun a => a.1.ident).Nodup) :
    (pending given).map Task.ident =
      (given.map fun a => a.1.ident).filter fun ident => (ident, false) ∉ logged given := by
  induction given with
  | nil => rfl
  | cons a rest ih =>
    obtain ⟨task, answer⟩ := a
    obtain ⟨new, distinct⟩ := List.nodup_cons.mp distinct
    have others : ∀ ident ∈ rest.map fun a => a.1.ident, ident ≠ task.ident := by
      rintro ident found rfl
      exact new found
    have absent : (task.ident, false) ∉ logged rest := by
      intro found
      obtain ⟨b, inside, same⟩ := List.mem_map.mp found
      exact new (List.mem_map.mpr ⟨b, inside, congrArg Prod.fst same⟩)
    have later : ((rest.map fun a => a.1.ident).filter fun ident =>
        (ident, false) ∉ logged ((task, answer) :: rest)) =
        (rest.map fun a => a.1.ident).filter fun ident => (ident, false) ∉ logged rest := by
      apply List.filter_congr
      intro ident found
      have apart := others ident found
      rw [decide_eq_decide]
      simp [logged, apart]
    rw [List.map_cons, List.filter_cons, later, ← ih distinct]
    cases answer with
    | false =>
      have done : (task.ident, false) ∈ logged ((task, false) :: rest) := by simp [logged]
      simp [pending, done]
    | true =>
      have waiting : (task.ident, false) ∉ logged ((task, true) :: rest) := by
        simpa [logged] using absent
      simp [pending, waiting]

theorem disciplined_pollTasks {e e' : Executor ω} {left : Nat} (h : Disciplined e)
    (polled : pollTasks e = some (left, e')) : Disciplined e' := by
  rw [pollTasks_spec] at polled
  obtain ⟨-, rfl⟩ := Prod.mk.inj (Option.some.inj polled)
  have idents : (answers e.queue e.world).1.map (fun a => a.1.ident) =
      e.queue.map Task.ident := by
    conv_rhs => rw [← answers_tasks e.queue e.world, List.map_map]
    rfl
  have members : ∀ poll ∈ logged (answers e.queue e.world).1,
      poll.1 < e.added ∧ ¬ Finished e poll.1 := by
    intro poll made
    have inside : poll.1 ∈ e.queue.map Task.ident := by
      rw [← idents]
      obtain ⟨a, found, rfl⟩ := List.mem_map.mp made
      exact List.mem_map_of_mem found
    simpa [h.unfinished] using inside
  have distinct : ((answers e.queue e.world).1.map fun a => a.1.ident).Nodup := by
    rw [idents, h.unfinished]
    exact List.nodup_range.filter _
  refine ⟨?_, ?_, ?_⟩
  · show (pending (answers e.queue e.world).1).map Task.ident = _
    rw [pending_idents _ distinct, idents, h.unfinished, List.filter_filter]
    apply List.filter_congr
    intro ident _
    rw [← Bool.decide_and, decide_eq_decide, ← not_or]
    simp only [Finished, List.mem_append, or_comm]
  · intro poll made
    rcases List.mem_append.mp made with before | now
    · exact h.issued poll before
    · exact (members poll now).1
  · refine List.pairwise_append.mpr ⟨h.last, ?_, ?_⟩
    · refine List.Pairwise.imp (R := fun earlier later => earlier.1 ≠ later.1)
        (fun apart _ same => apart same.symm) ?_
      rw [logged, List.pairwise_map]
      exact List.pairwise_map.mp distinct
    · rintro ⟨ident, answer⟩ before poll now rfl same
      exact (members poll now).2 (same ▸ before)

inductive Call (ω : Type)
  | addTask (future : ω → Bool × ω)
  | pollTasks

def Call.step (e : Executor ω) : Call ω → Option (Executor ω)
  | .addTask future => some (AsyncRuntime.addTask future e)
  | .pollTasks => (AsyncRuntime.pollTasks e).map Prod.snd

private theorem disciplined_step (h : Disciplined e) (call : Call ω) :
    ∃ e', call.step e = some e' ∧ Disciplined e' := by
  cases call with
  | addTask future => exact ⟨_, rfl, disciplined_addTask h future⟩
  | pollTasks =>
    have polled := pollTasks_spec e
    exact ⟨_, by rw [Call.step, polled]; rfl, disciplined_pollTasks h polled⟩

private theorem disciplined_run (h : Disciplined e) (calls : List (Call ω)) :
    ∃ e', calls.foldlM Call.step e = some e' ∧ Disciplined e' := by
  induction calls generalizing e with
  | nil => exact ⟨e, rfl, h⟩
  | cons call rest ih =>
    obtain ⟨middle, stepped, good⟩ := disciplined_step h call
    obtain ⟨e', ran, good'⟩ := ih good
    exact ⟨e', by rw [List.foldlM_cons, stepped]; exact ran, good'⟩

/-- After any calls, for any tasks, no poll has followed the one in which its task finished;
the next `poll_tasks` polls every task of the queue exactly once and in order, each future in the
world that the one before has left, keeps those whose futures answered pending in their order, and
returns how many of all the tasks added have not finished. -/
theorem polling_discipline (world : ω) (calls : List (Call ω)) :
    ∃ e, calls.foldlM Call.step (.start world) = some e ∧
      e.polls.Pairwise (fun earlier later => earlier.2 = false → later.1 ≠ earlier.1) ∧
      (e.queue.map Task.ident).Nodup ∧
      (answers e.queue e.world).1.map Prod.fst = e.queue ∧
      ∃ left e', pollTasks e = some (left, e') ∧
        e'.world = (answers e.queue e.world).2 ∧
        e'.polls = e.polls ++ logged (answers e.queue e.world).1 ∧
        e'.queue = pending (answers e.queue e.world).1 ∧
        left = ((List.range e.added).filter fun ident => ¬ Finished e' ident).length := by
  obtain ⟨e, ran, good⟩ := disciplined_run (disciplined_start world) calls
  have polled := pollTasks_spec e
  have next := disciplined_pollTasks good polled
  refine ⟨e, ran, good.last, ?_, answers_tasks _ _, _, _, polled, rfl, rfl, rfl, ?_⟩
  · rw [good.unfinished]
    exact List.nodup_range.filter _
  · rw [← List.length_map Task.ident, ← next.unfinished]
    rfl

end MigTd.AsyncRuntime
