/- source: vmcall_raw/src/transport/vmcall.rs, vmcall_raw/src/stream.rs
   digest: Operations of many requests that wait for the VMM, with one interrupt for all of them. -/

import MigTd.Crypto.TlsConnection
import MigTd.Migration.Requests

set_option autoImplicit false

namespace MigTd.VmcallRaw.Completion

open Lib.ByteCodec Crypto.TlsConnection Migration.Requests

def TDX_VMCALL_VMM_SUCCESS : UInt8 := 0x01
def TDX_VMCALL_STATUS_NOT_COMPLETED : UInt8 := 0x02
def TDX_VMCALL_STATUS_VMM_CANCEL : UInt8 := 0x03
def VMCALL_RAW_GHCI_HEADER_LEN : Nat := 12

abbrev Memory := Nat → UInt8

/-- A shared buffer with room for a header and a payload of this size. -/
def bufferOf (memory : Memory) (payloadSize : Nat) : Octets :=
  (List.range (VMCALL_RAW_GHCI_HEADER_LEN + payloadSize)).map memory

variable {memory : Memory}

theorem bufferOf_take {k : Nat} (payloadSize : Nat) (hk : k ≤ VMCALL_RAW_GHCI_HEADER_LEN) :
    (bufferOf memory payloadSize).take k = (List.range k).map memory := by
  rw [bufferOf, ← List.map_take, List.take_range]
  congr 2
  omega

/-- What `process_buffer` finds behind and in the header. -/
structure Processed where
  payload : Octets
  dataStatus : UInt64
  dataLength : UInt32

def processBuffer (buffer : Octets) : Processed where
  payload := buffer.drop VMCALL_RAW_GHCI_HEADER_LEN
  dataStatus := UInt64.ofNat (leValue (buffer.take 8))
  dataLength := UInt32.ofNat (leValue ((buffer.drop 8).take 4))

def Processed.statusByte (p : Processed) (i : Nat) : UInt8 := (putU64 p.dataStatus).getD i 0

/-- `poll_vmcall_completion`: the answer, and the flag of the request afterwards. A flag that is
set is consumed before the buffer is looked at. -/
def pollVmcallCompletion (flag : Option Bool) (buffer : Octets) :
    Poll (Except VmcallRawError (Octets × UInt32)) × Option Bool :=
  match flag with
  | none => (.ready (.error .illegal), none)
  | some false => (.pending, some false)
  | some true =>
    let p := processBuffer buffer
    if p.statusByte 0 = TDX_VMCALL_STATUS_NOT_COMPLETED ∧
        p.statusByte 1 = TDX_VMCALL_STATUS_VMM_CANCEL then
      (.ready (.error .vmmCanceled), some false)
    else if p.statusByte 0 ≠ TDX_VMCALL_VMM_SUCCESS then (.pending, some false)
    else (.ready (.ok (p.payload, p.dataLength)), some false)

inductive Service where
  | send
  | receive
  deriving DecidableEq, Repr

/-- What a completed operation returns: nothing for a send, the declared bytes for a receive. -/
def Service.answer : Service → Octets × UInt32 → Except VmcallRawError Octets
  | send, _ => .ok []
  | receive, (payload, dataLength) =>
    if dataLength = 0 then .error .malformed
    else if dataLength.toNat ≤ payload.length then .ok (payload.take dataLength.toNat)
    else .error .tdVmcallErr

/-- The closure that `vmcall_service_migtd_send` and `vmcall_service_migtd_receive` poll. -/
def Service.poll (service : Service) (flag : Option Bool) (buffer : Octets) :
    Poll (Except VmcallRawError Octets) × Option Bool :=
  match pollVmcallCompletion flag buffer with
  | (.pending, flag) => (.pending, flag)
  | (.ready (.error e), flag) => (.ready (.error e), flag)
  | (.ready (.ok completion), flag) => (.ready (service.answer completion), flag)

/-- The VMM has written a status that ends the operation: success or its cancellation. -/
def Completed (buffer : Octets) : Prop :=
  (processBuffer buffer).statusByte 0 = TDX_VMCALL_VMM_SUCCESS ∨
    (processBuffer buffer).statusByte 0 = TDX_VMCALL_STATUS_NOT_COMPLETED ∧
      (processBuffer buffer).statusByte 1 = TDX_VMCALL_STATUS_VMM_CANCEL
  deriving Decidable

/-- The flag is set, or the request has none, in which case a poll ends the operation as well. -/
def Signalled (flag : Option Bool) : Prop := flag ≠ some false

theorem poll_ready (service : Service) {flag : Option Bool} {buffer : Octets}
    (hflag : Signalled flag) (hstatus : Completed buffer) :
    ∃ r, (service.poll flag buffer).1 = .ready r := by
  cases flag with
  | none => exact ⟨_, rfl⟩
  | some set =>
    cases set with
    | false => exact absurd rfl hflag
    | true =>
      unfold Service.poll pollVmcallCompletion
      by_cases hcancel : (processBuffer buffer).statusByte 0 = TDX_VMCALL_STATUS_NOT_COMPLETED ∧
          (processBuffer buffer).statusByte 1 = TDX_VMCALL_STATUS_VMM_CANCEL
      · simp only [hcancel, and_self, ↓reduceIte]
        exact ⟨_, rfl⟩
      · have hsuccess : (processBuffer buffer).statusByte 0 = TDX_VMCALL_VMM_SUCCESS :=
          hstatus.resolve_right hcancel
        simp only [↓reduceIte, hsuccess, ne_eq, not_true_eq_false]
        exact ⟨_, rfl⟩

/-- An operation in flight. The number tells it from every other operation. -/
structure Operation where
  serial : Nat
  service : Service
  payloadSize : Nat
  memory : Memory

def Operation.buffer (o : Operation) : Octets := bufferOf o.memory o.payloadSize

structure State where
  /-- `VMCALL_MIG_CONTEXT_FLAGS` -/
  flags : UInt64 → Option Bool
  /-- The operation that the task of a request waits for. -/
  operations : UInt64 → Option Operation
  started : Nat
  /-- The VMM has raised an interrupt that was not served yet. -/
  raised : Bool

def State.initial : State := ⟨fun _ => none, fun _ => none, 0, false⟩

/-- What can happen next. A task does nothing else for its request while it waits, except that it
can be dropped. -/
inductive Event where
  | connect (id : UInt64)
  | reset (id : UInt64)
  | start (id : UInt64) (service : Service) (payloadSize : Nat) (memory : Memory)
  | poll (id : UInt64)
  | drop (id : UInt64)
  /-- The VMM writes to the buffer of the operation of a request. -/
  | vmmWrite (id : UInt64) (memory : Memory)
  | raise
  /-- The processor halts with interrupts enabled. -/
  | halt

def State.answer (s : State) (id : UInt64) : Option (Poll (Except VmcallRawError Octets)) :=
  (s.operations id).map fun o => (o.service.poll (s.flags id) o.buffer).1

def intrNotification (flags : UInt64 → Option Bool) : UInt64 → Option Bool :=
  fun id => (flags id).map fun _ => true

def pollOperation (s : State) (id : UInt64) (o : Operation) : State :=
  let out := o.service.poll (s.flags id) o.buffer
  { s with
    flags := Function.update s.flags id out.2
    operations := match out.1 with
      | .ready _ => Function.update s.operations id none
      | .pending => s.operations }

/-- A task that waits for no operation changes the entry of its request. -/
def setEntry (s : State) (id : UInt64) (entry : Option Bool) : State :=
  match s.operations id with
  | some _ => s
  | none => { s with flags := Function.update s.flags id entry }

def step (s : State) : Event → State
  | .connect id => setEntry s id (some false)
  | .reset id => setEntry s id none
  | .start id service payloadSize memory => match s.operations id with
    | some _ => s
    | none =>
      { s with
        operations := Function.update s.operations id
          (some ⟨s.started, service, payloadSize, memory⟩)
        started := s.started + 1 }
  | .poll id => match s.operations id with
    | some o => pollOperation s id o
    | none => s
  | .drop id => { s with operations := Function.update s.operations id none }
  | .vmmWrite id memory => match s.operations id with
    | some o =>
      { s with operations := Function.update s.operations id (some { o with memory := memory }) }
    | none => s
  | .raise => { s with raised := true }
  | .halt => if s.raised then { s with flags := intrNotification s.flags, raised := false } else s

def run (s : State) (events : List Event) : State := events.foldl step s

/-- The status that this memory holds ends an operation. -/
def Completes (memory : Memory) : Prop := Completed (bufferOf memory 0)
  deriving Decidable

theorem completed_bufferOf {payloadSize : Nat} :
    Completed (bufferOf memory payloadSize) ↔ Completes memory := by
  unfold Completes Completed processBuffer Processed.statusByte
  rw [bufferOf_take payloadSize (by decide), bufferOf_take 0 (by decide)]

theorem setEntry_frame (s : State) (id other : UInt64) (entry : Option Bool) :
    (setEntry s other entry).operations = s.operations ∧
      (setEntry s other entry).started = s.started ∧
      ((s.operations id).isSome = true → (setEntry s other entry).flags id = s.flags id) := by
  unfold setEntry
  cases hop : s.operations other with
  | some o => exact ⟨rfl, rfl, fun _ => rfl⟩
  | none =>
    refine ⟨rfl, rfl, fun hsome => Function.update_of_ne ?_ _ _⟩
    rintro rfl
    rw [hop] at hsome
    cases hsome

theorem poll_frame (s : State) {id other : UInt64} (h : id ≠ other) :
    (step s (.poll other)).flags id = s.flags id ∧
      (step s (.poll other)).operations id = s.operations id := by
  rw [step]
  cases hop : s.operations other with
  | none => exact ⟨rfl, rfl⟩
  | some o =>
    refine ⟨Function.update_of_ne h _ _, ?_⟩
    change (match (o.service.poll (s.flags other) o.buffer).1 with
      | .ready _ => Function.update s.operations other none
      | .pending => s.operations) id = _
    cases (o.service.poll (s.flags other) o.buffer).1 with
    | ready r => exact Function.update_of_ne h _ _
    | pending => rfl

theorem halt_signalled {s : State} (hraised : s.raised = true) (id : UInt64) :
    Signalled ((step s .halt).flags id) := by
  rw [step, if_pos hraised]
  change (s.flags id).map (fun _ => true) ≠ some false
  cases s.flags id with
  | none => exact nofun
  | some b => exact nofun

theorem halt_frame (s : State) : (step s .halt).operations = s.operations ∧
    ∀ id, Signalled (s.flags id) → Signalled ((step s .halt).flags id) := by
  cases hraised : s.raised with
  | true =>
    refine ⟨?_, fun id _ => halt_signalled hraised id⟩
    rw [step, if_pos hraised]
  | false =>
    have hstay : step s .halt = s := by
      rw [step, hraised]
      rfl
    rw [hstay]
    exact ⟨rfl, fun _ hset => hset⟩

theorem vmmWrite_memory {s : State} {id : UInt64} {o : Operation}
    (h : (step s (.vmmWrite id memory)).operations id = some o) : o.memory = memory := by
  cases hop : s.operations id with
  | none =>
    simp only [step, hop] at h
    cases h
  | some o' =>
    simp only [step, hop, Function.update_self] at h
    cases h
    rfl

section

variable {s : State} {e : Event} {id : UInt64} {o : Operation}

/-- This operation was in flight before the event. Only the VMM has written to its buffer, and its
flag is still set unless it was polled. -/
structure Continues (s : State) (e : Event) (id : UInt64) (o : Operation) : Prop where
  before : ∃ o', s.operations id = some o' ∧ o'.serial = o.serial ∧
    (o'.memory = o.memory ∨ e = .vmmWrite id o.memory)
  flag : e ≠ .poll id → Signalled (s.flags id) → Signalled ((step s e).flags id)

theorem continues_of_same (hop : s.operations id = some o)
    (hflag : (step s e).flags id = s.flags id) : Continues s e id o :=
  ⟨⟨o, hop, rfl, .inl rfl⟩, fun _ h => hflag ▸ h⟩

theorem continues_poll (h : (step s (.poll id)).operations id = some o) :
    Continues s (.poll id) id o := by
  refine ⟨⟨o, ?_, rfl, .inl rfl⟩, fun hne => absurd rfl hne⟩
  cases hop : s.operations id with
  | none =>
    simp only [step, hop] at h
    cases h
  | some o' =>
    simp only [step, hop, pollOperation] at h
    cases hpoll : (o'.service.poll (s.flags id) o'.buffer).1 with
    | ready r =>
      simp only [hpoll, Function.update_self] at h
      cases h
    | pending =>
      simp only [hpoll] at h
      rw [← hop, h]

theorem step_operation (h : (step s e).operations id = some o) :
    Continues s e id o ∨ o.serial = s.started ∧ s.started < (step s e).started := by
  cases e with
  | connect other =>
    have hframe := setEntry_frame s id other (some false)
    have hop : s.operations id = some o := hframe.1 ▸ h
    exact .inl (continues_of_same hop (hframe.2.2 (by rw [hop]; rfl)))
  | reset other =>
    have hframe := setEntry_frame s id other none
    have hop : s.operations id = some o := hframe.1 ▸ h
    exact .inl (continues_of_same hop (hframe.2.2 (by rw [hop]; rfl)))
  | start other service payloadSize memory =>
    cases hop : s.operations other with
    | some o' =>
      simp only [step, hop] at h
      exact .inl (continues_of_same h (by rw [step, hop]))
    | none =>
      simp only [step, hop] at h
      by_cases hid : id = other
      · subst hid
        rw [Function.update_self] at h
        cases h
        refine .inr ⟨rfl, ?_⟩
        simp only [step, hop, Nat.lt_add_one]
      · rw [Function.update_of_ne hid] at h
        exact .inl (continues_of_same h (by rw [step, hop]))
  | poll other =>
    by_cases hid : id = other
    · subst hid
      exact .inl (continues_poll h)
    · have hframe := poll_frame s hid
      exact .inl (continues_of_same (hframe.2 ▸ h) hframe.1)
  | drop other =>
    simp only [step] at h
    by_cases hid : id = other
    · subst hid
      rw [Function.update_self] at h
      cases h
    · rw [Function.update_of_ne hid] at h
      exact .inl (continues_of_same h rfl)
  | vmmWrite other memory =>
    cases hop : s.operations other with
    | none =>
      simp only [step, hop] at h
      exact .inl (continues_of_same h (by rw [step, hop]))
    | some o' =>
      simp only [step, hop] at h
      have hflags : (step s (.vmmWrite other memory)).flags = s.flags := by
        rw [step, hop]
      by_cases hid : id = other
      · subst hid
        rw [Function.update_self] at h
        cases h
        exact .inl ⟨⟨o', hop, rfl, .inr rfl⟩, fun _ hset => hflags ▸ hset⟩
      · rw [Function.update_of_ne hid] at h
        exact .inl (continues_of_same h (by rw [hflags]))
  | raise => exact .inl (continues_of_same h rfl)
  | halt =>
    have hframe := halt_frame s
    rw [hframe.1] at h
    exact .inl ⟨⟨o, h, rfl, .inl rfl⟩, fun _ => hframe.2 id⟩

end

theorem step_counts (s : State) (e : Event) : s.started ≤ (step s e).started ∧
    (e ≠ .halt → s.raised = true → (step s e).raised = true) := by
  have hentry (id : UInt64) (entry : Option Bool) : (setEntry s id entry).raised = s.raised := by
    unfold setEntry
    split <;> rfl
  cases e with
  | connect id =>
    refine ⟨(setEntry_frame s id id (some false)).2.1.ge, fun _ h => ?_⟩
    rw [step, hentry, h]
  | reset id =>
    refine ⟨(setEntry_frame s id id none).2.1.ge, fun _ h => ?_⟩
    rw [step, hentry, h]
  | start id service payloadSize memory =>
    rw [step]
    split
    · exact ⟨Nat.le_refl _, fun _ h => h⟩
    · exact ⟨Nat.le_succ _, fun _ h => h⟩
  | poll id =>
    rw [step]
    split <;> exact ⟨Nat.le_refl _, fun _ h => h⟩
  | drop id => exact ⟨Nat.le_refl _, fun _ h => h⟩
  | vmmWrite id memory =>
    rw [step]
    split <;> exact ⟨Nat.le_refl _, fun _ h => h⟩
  | raise => exact ⟨Nat.le_refl _, fun _ _ => rfl⟩
  | halt =>
    refine ⟨?_, fun hne => absurd rfl hne⟩
    rw [step]
    split <;> exact Nat.le_refl _

section

variable {s : State} {id : UInt64} {k : Nat} {events : List Event}

/-- As long as this operation of the request is in flight, this holds of it. -/
def Throughout (P : State → Operation → Prop) (id : UInt64) (k : Nat) (s : State) : Prop :=
  k < s.started ∧ ∀ o, s.operations id = some o → o.serial = k → P s o

theorem throughout_run {P : State → Operation → Prop}
    (hkeeps : ∀ s e o o', e ∈ events → s.operations id = some o' →
      (o'.memory = o.memory ∨ e = .vmmWrite id o.memory) → Continues s e id o → P s o' →
      P (step s e) o)
    (h : Throughout P id k s) : Throughout P id k (run s events) := by
  induction events generalizing s with
  | nil => exact h
  | cons e events ih =>
    refine ih (fun s e o o' he => hkeeps s e o o' (List.mem_cons_of_mem _ he)) ?_
    refine ⟨h.1.trans_le (step_counts s e).1, fun o hop hserial => ?_⟩
    rcases step_operation hop with hcont | hfresh
    · obtain ⟨o', hop', hserial', hmemory⟩ := hcont.before
      exact hkeeps s e o o' (List.mem_cons_self ..) hop' hmemory hcont
        (h.2 o' hop' (hserial'.trans hserial))
    · exact absurd (hfresh.1.symm.trans hserial) h.1.ne'

theorem written_run (hkept : ∀ memory, .vmmWrite id memory ∈ events → Completes memory)
    (h : Throughout (fun _ o => Completes o.memory) id k s) :
    Throughout (fun _ o => Completes o.memory) id k (run s events) := by
  refine throughout_run (fun s e o o' he hop hmemory _ hP => ?_) h
  rcases hmemory with hsame | hwrite
  · exact hsame ▸ hP
  · exact hkept o.memory (hwrite ▸ he)

theorem signalled_run (hnext : .poll id ∉ events)
    (h : Throughout (fun s _ => Signalled (s.flags id)) id k s) :
    Throughout (fun s _ => Signalled (s.flags id)) id k (run s events) := by
  refine throughout_run (fun s e o o' he hop _ hcont hP => ?_) h
  exact hcont.flag (fun hpoll => hnext (hpoll ▸ he)) hP

theorem raised_run (hunserved : .halt ∉ events) (h : s.raised = true) :
    (run s events).raised = true := by
  induction events generalizing s with
  | nil => exact h
  | cons e events ih =>
    refine ih (fun hmem => hunserved (List.mem_cons_of_mem _ hmem)) ?_
    refine (step_counts s e).2 ?_ h
    rintro rfl
    exact hunserved (List.mem_cons_self ..)

theorem started_run (events : List Event) (s : State) : s.started ≤ (run s events).started := by
  induction events generalizing s with
  | nil => exact Nat.le_refl _
  | cons e events ih => exact (step_counts s e).1.trans (ih (step s e))

theorem serial_lt_run (hstart : ∀ o, s.operations id = some o → o.serial < s.started)
    (events : List Event) :
    ∀ o, (run s events).operations id = some o → o.serial < (run s events).started := by
  induction events generalizing s with
  | nil => exact hstart
  | cons e events ih =>
    refine ih fun o hop => ?_
    rcases step_operation hop with hcont | ⟨hfresh, hlt⟩
    · obtain ⟨o', hop', hserial, -⟩ := hcont.before
      exact hserial ▸ (hstart o' hop').trans_le (step_counts s e).1
    · exact hfresh ▸ hlt

theorem run_append (s : State) (first last : List Event) :
    run s (first ++ last) = run (run s first) last := List.foldl_append

end

/-- A completion that the VMM announces by an interrupt is seen by the next poll: for every
interleaving of any number of requests, if the VMM writes a status that ends an operation and does
not withdraw it, then raises an interrupt, and the processor halts and serves it, the next poll of
that operation is ready. Polling one request clears no flag of another. -/
theorem no_lost_completion :
    (∀ (before between unserved served : List Event) (id : UInt64) (memory : Memory)
        (o o' : Operation),
      let written := run .initial (before ++ [.vmmWrite id memory])
      let polled := run written (between ++ [.raise] ++ unserved ++ [.halt] ++ served)
      written.operations id = some o → Completes memory →
      (∀ later, .vmmWrite id later ∈ between ++ unserved ++ served → Completes later) →
      .halt ∉ unserved → .poll id ∉ served →
      polled.operations id = some o' → o'.serial = o.serial →
      ∃ r, polled.answer id = some (.ready r)) ∧
    ∀ (s : State) (id other : UInt64), id ≠ other →
      (step s (.poll other)).flags id = s.flags id := by
  refine ⟨?_, fun s id other h => (poll_frame s h).1⟩
  intro before between unserved served id memory o o' written polled hop hmemory hkept hunserved
    hnext hop' hserial
  have hcount : o.serial < written.started :=
    serial_lt_run (fun _ h => by cases h) (before ++ [.vmmWrite id memory]) o hop
  -- the status stays until the poll
  have hstatus : Throughout (fun _ o => Completes o.memory) id o.serial polled := by
    refine written_run ?_ ⟨hcount, fun o₂ hop₂ _ => ?_⟩
    · intro later hmem
      refine hkept later ?_
      simpa using hmem
    · rw [hop] at hop₂
      cases hop₂
      have hlast : (step (run .initial before) (.vmmWrite id memory)).operations id = some o := by
        rw [← hop]
        simp only [written, run_append]
        rfl
      exact vmmWrite_memory hlast ▸ hmemory
  -- the flag is set from the halt on
  have hflag : Throughout (fun s _ => Signalled (s.flags id)) id o.serial polled := by
    let halted := run written (between ++ [.raise] ++ unserved)
    have hraised : halted.raised = true := by
      simp only [halted, run_append]
      exact raised_run hunserved rfl
    have hserved : polled = run (step halted .halt) served := by
      simp only [polled, halted, run_append]
      rfl
    rw [hserved]
    refine signalled_run hnext ⟨?_, fun _ _ _ => halt_signalled hraised id⟩
    exact (hcount.trans_le (started_run _ written)).trans_le (step_counts halted .halt).1
  have hcompleted : Completed o'.buffer :=
    completed_bufferOf.mpr (hstatus.2 o' hop' hserial)
  obtain ⟨r, hr⟩ := poll_ready o'.service (hflag.2 o' hop' hserial) hcompleted
  refine ⟨r, ?_⟩
  rw [State.answer, hop', Option.map_some]
  exact congrArg some hr

def oneByte : Memory := fun i => if i = 0 ∨ i = 8 then 1 else if i = 12 then 7 else 0

/-- Two requests wait. The first one is polled too early and again after the interrupt. -/
theorem no_lost_completion_two :
    ∃ r, (run (run .initial ([.connect 1, .connect 2, .start 1 .receive 4 (fun _ => 0),
        .start 2 .send 4 (fun _ => 0)] ++ [.vmmWrite 1 oneByte]))
      ([.poll 2] ++ [.raise] ++ [.poll 1] ++ [.halt] ++ [.poll 2])).answer 1 = some (.ready r) :=
  no_lost_completion.1
    [.connect 1, .connect 2, .start 1 .receive 4 (fun _ => 0), .start 2 .send 4 (fun _ => 0)]
    [.poll 2] [.poll 1] [.poll 2] 1 oneByte ⟨0, .receive, 4, oneByte⟩ ⟨0, .receive, 4, oneByte⟩
    rfl (by decide) (by simp) (by simp) (by simp) rfl rfl

end MigTd.VmcallRaw.Completion
