/- source: port.rs, virtio_serial/src/lib.rs (ports)
   digest: Handles of the console's ports, and what one handle does to a port another one holds. -/

import MigTd.Lib.ByteCodec
import MigTd.Virtio.Queue
import Mathlib.Data.Finset.Erase
import Mathlib.Data.Finset.Insert

set_option autoImplicit false

namespace MigTd.Serial.Ports

open Lib.ByteCodec Lib.StateProgram

def MAX_PORT_SUPPORTED : Nat := 2

inductive VirtioSerialError where
  | initialization
  | virtio (e : Virtio.Queue.VirtioError)
  | invalidParameter
  | outOfResource
  | device
  | timeout
  | portNotAvailable (id : UInt32)
  | portAlreadyUsed (id : UInt32)
  | interrupt
  | notReady
  deriving DecidableEq, Repr

inductive ControlEvent where
  | deviceReady
  | deviceAdd
  | deviceRemove
  | portReady
  | consolePort
  | resize
  | portOpen
  | portName
  | unknown
  deriving DecidableEq, Repr

def ControlEvent.from (value : UInt16) : ControlEvent :=
  match value.toNat with
  | 0 => deviceReady
  | 1 => deviceAdd
  | 2 => deviceRemove
  | 3 => portReady
  | 4 => consolePort
  | 5 => resize
  | 6 => portOpen
  | 7 => portName
  | _ => unknown

inductive Halt where
  | failed (e : VirtioSerialError)
  | waiting
  | panicked
  deriving DecidableEq, Repr

/-- What a look at a ring comes to: whether it can be popped, the used bytes of the buffers that it
hands back, and the failure that ends the work on it or on its DMA memory. -/
structure Ring where
  canPop : Bool
  buffers : List Octets
  failure : Option Halt

structure VirtioSerial where
  maxNrPorts : UInt32
  connectedPorts : Finset UInt32
  allocatedPorts : Finset UInt32

structure World where
  device : VirtioSerial
  receiveQueues : UInt32 → Option (List Octets)
  /-- The rings at the looks that are still to come. -/
  rings : List Ring

abbrev SerialProgram (α : Type) : Type := Program World Halt α

def setDevice (f : VirtioSerial → VirtioSerial) (w : World) : World := { w with device := f w.device }

def nextRing : SerialProgram Ring := do
  let w ← observe id
  match w.rings with
  | [] => raise .waiting
  | ring :: later => do
    update fun w => { w with rings := later }
    return ring

def Ring.finish (ring : Ring) : SerialProgram Unit :=
  match ring.failure with
  | some halt => raise halt
  | none => return ()

/-- Work on the rings that reads and writes no port: a chain is posted, or sent and waited for. -/
def ringWork : SerialProgram Unit := do
  let ring ← nextRing
  ring.finish

def canPop : SerialProgram Bool := do
  let ring ← nextRing
  ring.finish
  return ring.canPop

def setReceiveQueue (portId : UInt32) (queue : Option (List Octets)) (w : World) : World :=
  { w with receiveQueues := Function.update w.receiveQueues portId queue }

/-- The number behind the last port passes the check. -/
def portQueueCreate (portId : UInt32) : SerialProgram Unit := do
  ensure (portId.toNat ≤ MAX_PORT_SUPPORTED) (.failed .invalidParameter)
  update (setReceiveQueue portId (some []))

def portQueueDelete (portId : UInt32) : SerialProgram Unit := do
  ensure (portId.toNat ≤ MAX_PORT_SUPPORTED) (.failed .invalidParameter)
  update (setReceiveQueue portId none)

def portQueuePush (portId : UInt32) (buf : Octets) : SerialProgram Unit := do
  if buf = [] then return ()
  else do
    let w ← observe id
    let queue ← lift (orElse (w.receiveQueues portId) (.failed .invalidParameter))
    update (setReceiveQueue portId (some (queue ++ [buf])))

def portQueuePop (portId : UInt32) : SerialProgram (Option Octets) := do
  let w ← observe id
  match w.receiveQueues portId with
  | some (front :: queue) => do
    update (setReceiveQueue portId (some queue))
    return some front
  | _ => return none

def allocatePort (portId : UInt32) : SerialProgram Unit := do
  portQueueCreate portId
  let w ← observe id
  ensure (portId ∈ w.device.connectedPorts) (.failed (.portNotAvailable portId))
  ensure (portId ∉ w.device.allocatedPorts) (.failed (.portAlreadyUsed portId))
  update (setDevice fun d => { d with allocatedPorts := insert portId d.allocatedPorts })

def freePort (portId : UInt32) : SerialProgram Unit := do
  portQueueDelete portId
  let w ← observe id
  ensure (portId ∈ w.device.connectedPorts) (.failed (.portNotAvailable portId))
  update (setDevice fun d => { d with allocatedPorts := d.allocatedPorts.erase portId })

def handleControlMsg (controlMsg : Octets) : SerialProgram Unit := do
  ensure (8 ≤ controlMsg.length) (.failed .invalidParameter)
  let portId : UInt32 := .ofNat (leValue (controlMsg.take 4))
  let event := ControlEvent.from (.ofNat (leValue ((controlMsg.drop 4).take 2)))
  let val : UInt16 := .ofNat (leValue ((controlMsg.drop 6).take 2))
  let w ← observe id
  ensure (¬(w.device.maxNrPorts ≤ portId ∨ MAX_PORT_SUPPORTED ≤ portId.toNat))
    (.failed .invalidParameter)
  match event with
  | .deviceAdd => do
    ringWork
    ringWork
  | .deviceRemove =>
    update (setDevice fun d => { d with connectedPorts := d.connectedPorts.erase portId })
  | .portOpen =>
    if val = 1 then do
      update (setDevice fun d => { d with connectedPorts := insert portId d.connectedPorts })
      ringWork
    else return ()
  | .consolePort => return ()
  | .resize => return ()
  | .portName => return ()
  | .deviceReady => raise (.failed .invalidParameter)
  | .portReady => raise (.failed .invalidParameter)
  | .unknown => raise (.failed .invalidParameter)

def forEachBuf (f : Octets → SerialProgram Unit) : List Octets → SerialProgram Unit
  | [] => pure ()
  | buf :: rest => do
    f buf
    forEachBuf f rest

/-- The loop of `recv_control_nonblock`. Each turn looks at a ring. -/
def drainControl : Nat → SerialProgram Unit
  | 0 => raise .waiting
  | turns + 1 => do
    let ring ← nextRing
    if ring.canPop then do
      forEachBuf handleControlMsg ring.buffers
      ring.finish
      drainControl turns
    else return ()

def recvControlNonblock : SerialProgram Unit := do
  if ← canPop then do
    let w ← observe id
    drainControl (w.rings.length + 1)
  else return ()

def enqueue (data : Octets) (portId : UInt32) : SerialProgram Nat := do
  ensure (data ≠ [] ∧ data.length ≤ 2 ^ 32 - 1) (.failed .invalidParameter)
  ensure (portId.toNat < MAX_PORT_SUPPORTED) (.failed .invalidParameter)
  ringWork
  return data.length

/-- `receive_data`, and the failures before and behind it. -/
def popUsedRx (portId : UInt32) : SerialProgram Unit := do
  let ring ← nextRing
  forEachBuf (portQueuePush portId) ring.buffers
  ring.finish

def dequeue (portId : UInt32) : SerialProgram Octets := do
  match ← portQueuePop portId with
  | some data => return data
  | none => do
    if ← canPop then do
      popUsedRx portId
      match ← portQueuePop portId with
      | some data => return data
      | none => raise (.failed .notReady)
    else raise (.failed .notReady)

def canRecv (portId : UInt32) : SerialProgram Bool := do
  let w ← observe id
  match w.receiveQueues portId with
  | some (_ :: _) => return true
  | _ => canPop

structure VirtioSerialPort where
  portId : UInt32
  cache : List Octets

/-- A call on a handle works on the device and on the handle's own cache. -/
abbrev PortProgram (α : Type) := Program (World × List Octets) Halt α

def onDevice {α : Type} (m : SerialProgram α) : PortProgram α :=
  embed Prod.fst (fun s w => (w, s.2)) id m

/-- The loop of `recv` that moves all messages into the cache. -/
def fetch (portId : UInt32) : Nat → PortProgram Unit
  | 0 => raise .waiting
  | turns + 1 => do
    let recvBytes ← onDevice (dequeue portId)
    update fun s => (s.1, s.2 ++ [recvBytes])
    if ← onDevice (canRecv portId) then fetch portId turns else return ()

/-- The messages in the queue of a port and in the rings, which bound the turns of the loop. -/
def messages (portId : UInt32) (w : World) : Nat :=
  ((w.receiveQueues portId).getD [] ++ w.rings.flatMap Ring.buffers).length

/-- The bytes that fill a buffer of this size, and what stays in the cache. -/
def takeFront : Nat → List Octets → Octets × List Octets
  | _, [] => ([], [])
  | room, front :: rest =>
    if room = 0 then ([], front :: rest)
    else if front.length ≤ room then
      let later := takeFront (room - front.length) rest
      (front ++ later.1, later.2)
    else (front.take room, front.drop room :: rest)

def recv (portId : UInt32) (size : Nat) : PortProgram Octets := do
  let s ← observe id
  if s.2 = [] then fetch portId (messages portId s.1 + 1)
  let data ← observe fun s => takeFront size s.2
  update fun s => (s.1, data.2)
  return data.1

inductive Call
  | opening
  | closing
  | dropping
  | sending (data : Octets)
  | receiving (size : Nat)
  /-- `try_poll_control`, which belongs to no handle. -/
  | polling

def perform (portId : UInt32) : Call → PortProgram Octets
  | .opening => do
    onDevice (allocatePort portId)
    return []
  | .closing => do
    onDevice (freePort portId)
    return []
  -- The result of `close` is ignored, and the handle is gone.
  | .dropping => fun s => (.ok [], ((freePort portId s.1).2, []))
  | .sending data => do
    let _ ← onDevice (enqueue data portId)
    return []
  | .receiving size => recv portId size
  | .polling => do
    onDevice recvControlNonblock
    return []

/-- Where a handle stands: it holds its port from an open that succeeds until it closes the port
or is dropped, and it is refused when an open fails that it made without holding the port. -/
inductive Status
  | idle
  | holding
  | refused
  deriving DecidableEq

def Call.status : Call → Status → Bool → Status
  | .opening, _, true => .holding
  | .opening, .holding, false => .holding
  | .opening, _, false => .refused
  | .closing, _, true => .idle
  | .dropping, _, _ => .idle
  | _, status, _ => status

structure Session where
  world : World
  ports : Nat → VirtioSerialPort
  status : Nat → Status

def Session.start (world : World) (portIds : Nat → UInt32) : Session where
  world := world
  ports := fun i => ⟨portIds i, []⟩
  status := fun _ => .idle

/-- A call on a handle, with what it finds at the rings. -/
structure Event where
  handle : Nat
  call : Call
  rings : List Ring

def Event.arrive (e : Event) (w : World) : World := { w with rings := e.rings }

def step (s : Session) (e : Event) : Except Halt Octets × Session :=
  let port := s.ports e.handle
  let out := perform port.portId e.call (e.arrive s.world, port.cache)
  (out.1,
    { world := out.2.1
      ports := Function.update s.ports e.handle { port with cache := out.2.2 }
      status := Function.update s.status e.handle
        (e.call.status (s.status e.handle) out.1.isOk) })

def run (s : Session) (events : List Event) : Session := events.foldl (fun s e => (step s e).2) s

variable {p q : UInt32} {w w' : World}

theorem allocatePort_run (p : UInt32) (w : World) : allocatePort p w =
    if p.toNat ≤ MAX_PORT_SUPPORTED then
      let w' := setReceiveQueue p (some []) w
      if p ∈ w.device.connectedPorts then
        if p ∈ w.device.allocatedPorts then (.error (.failed (.portAlreadyUsed p)), w')
        else (.ok (),
          setDevice (fun d => { d with allocatedPorts := insert p d.allocatedPorts }) w')
      else (.error (.failed (.portNotAvailable p)), w')
    else (.error (.failed .invalidParameter), w) := by
  by_cases supported : p.toNat ≤ MAX_PORT_SUPPORTED
  · by_cases connected : p ∈ w.device.connectedPorts <;>
      by_cases allocated : p ∈ w.device.allocatedPorts <;>
      simp [allocatePort, portQueueCreate, ensure, supported, connected, allocated, observe,
        update, bind, pure, raise, setReceiveQueue]
  · simp [allocatePort, portQueueCreate, ensure, supported, bind, raise]

theorem freePort_run (p : UInt32) (w : World) : freePort p w =
    if p.toNat ≤ MAX_PORT_SUPPORTED then
      let w' := setReceiveQueue p none w
      if p ∈ w.device.connectedPorts then
        (.ok (), setDevice (fun d => { d with allocatedPorts := d.allocatedPorts.erase p }) w')
      else (.error (.failed (.portNotAvailable p)), w')
    else (.error (.failed .invalidParameter), w) := by
  by_cases supported : p.toNat ≤ MAX_PORT_SUPPORTED
  · by_cases connected : p ∈ w.device.connectedPorts <;>
      simp [freePort, portQueueDelete, ensure, supported, connected, observe, update, bind, pure,
        raise, setReceiveQueue]
  · simp [freePort, portQueueDelete, ensure, supported, bind, raise]

/-- Allocation and queued data of a port are as before. -/
def Untouched (p : UInt32) (w w' : World) : Prop :=
  (p ∈ w'.device.allocatedPorts ↔ p ∈ w.device.allocatedPorts) ∧
    w'.receiveQueues p = w.receiveQueues p

def Free (p : UInt32) (w : World) : Prop :=
  p ∉ w.device.allocatedPorts ∧ ∃ w', allocatePort p w = (.ok (), w')

/-- The port has, before the call, the queue and the allocation that the call leaves it with. -/
def Harmless (w : World) (p : UInt32) : Call → Prop
  | .opening => MAX_PORT_SUPPORTED < p.toNat ∨ w.receiveQueues p = some []
  | .closing => MAX_PORT_SUPPORTED < p.toNat ∨ w.receiveQueues p = none
  | .dropping => MAX_PORT_SUPPORTED < p.toNat ∨ w.receiveQueues p = none ∧
      (p ∈ w.device.connectedPorts → p ∉ w.device.allocatedPorts)
  | _ => True

theorem untouched_setReceiveQueue {queue : Option (List Octets)} :
    Untouched q w (setReceiveQueue p queue w) ↔ q ≠ p ∨ w.receiveQueues p = queue := by
  by_cases same : q = p
  · simp [Untouched, setReceiveQueue, same, eq_comm]
  · simp [Untouched, setReceiveQueue, same]

theorem allocatePort_untouched (h : (allocatePort p w).1.isOk = false) :
    Untouched q w (allocatePort p w).2 ↔ q ≠ p ∨ Harmless w p .opening := by
  rw [allocatePort_run] at h ⊢
  split_ifs at h ⊢ with supported
  · simpa [Harmless, Nat.not_lt.mpr supported] using untouched_setReceiveQueue
  · cases h
  · simpa [Harmless, Nat.not_lt.mpr supported] using untouched_setReceiveQueue
  · simp [Untouched, Harmless, Nat.lt_of_not_le supported]

theorem freePort_untouched (h : (freePort p w).1.isOk = false) :
    Untouched q w (freePort p w).2 ↔ q ≠ p ∨ Harmless w p .closing := by
  rw [freePort_run] at h ⊢
  split_ifs at h ⊢ with supported
  · cases h
  · simpa [Harmless, Nat.not_lt.mpr supported] using untouched_setReceiveQueue
  · simp [Untouched, Harmless, Nat.lt_of_not_le supported]

theorem drop_untouched :
    Untouched q w (freePort p w).2 ↔ q ≠ p ∨ Harmless w p .dropping := by
  rw [freePort_run]
  split_ifs with supported connected
  · by_cases same : q = p
    · simp [Untouched, setReceiveQueue, setDevice, same, Harmless, Nat.not_lt.mpr supported,
        connected, eq_comm, and_comm]
    · simp [Untouched, setReceiveQueue, setDevice, same]
  · simpa [Harmless, Nat.not_lt.mpr supported, connected] using untouched_setReceiveQueue
  · simp [Untouched, Harmless, Nat.lt_of_not_le supported]

theorem free_of_close (h : (freePort p w).1.isOk = true) : Free p (freePort p w).2 := by
  rw [freePort_run] at h ⊢
  split_ifs at h ⊢ with supported connected
  · refine ⟨Finset.notMem_erase p _, ?_⟩
    rw [allocatePort_run, if_pos supported]
    simp [setDevice, setReceiveQueue, connected]
  · cases h
  · cases h

theorem free_of_drop (supported : p.toNat ≤ MAX_PORT_SUPPORTED) :
    Free p (freePort p w).2 ↔ p ∈ w.device.connectedPorts := by
  constructor
  · rintro ⟨-, w', opened⟩
    by_contra apart
    rw [freePort_run, if_pos supported, if_neg apart, allocatePort_run, if_pos supported] at opened
    simp [setReceiveQueue, apart] at opened
  · intro connected
    apply free_of_close
    rw [freePort_run, if_pos supported, if_pos connected]
    rfl

variable {s : Session} {e : Event}

/-- A holder's port is one that `open` accepts. -/
def Sound (s : Session) : Prop :=
  ∀ i, s.status i = .holding → (s.ports i).portId.toNat ≤ MAX_PORT_SUPPORTED

theorem onDevice_run (m : SerialProgram Unit) (u : World × List Octets) :
    ((onDevice m >>= fun _ => pure ([] : Octets)) u).1.isOk = (m u.1).1.isOk ∧
      ((onDevice m >>= fun _ => pure ([] : Octets)) u).2.1 = (m u.1).2 := by
  rcases ran : m u.1 with ⟨_ | _, w⟩ <;> simp [onDevice, embed, bind, pure, ran, Except.isOk,
    Except.toBool]

theorem step_opening (h : e.call = .opening) :
    (step s e).1.isOk = (allocatePort (s.ports e.handle).portId (e.arrive s.world)).1.isOk ∧
      (step s e).2.world = (allocatePort (s.ports e.handle).portId (e.arrive s.world)).2 := by
  rw [step, h]
  exact onDevice_run _ _

theorem step_closing (h : e.call = .closing) :
    (step s e).1.isOk = (freePort (s.ports e.handle).portId (e.arrive s.world)).1.isOk ∧
      (step s e).2.world = (freePort (s.ports e.handle).portId (e.arrive s.world)).2 := by
  rw [step, h]
  exact onDevice_run _ _

theorem step_dropping (h : e.call = .dropping) :
    (step s e).2.world = (freePort (s.ports e.handle).portId (e.arrive s.world)).2 := by
  rw [step, h]
  rfl

private theorem status_holding {call : Call} {status : Status} {ok : Bool}
    (h : call.status status ok = .holding) : call = .opening ∧ ok = true ∨ status = .holding := by
  unfold Call.status at h
  split at h <;> simp_all

private theorem step_sound (h : Sound s) (e : Event) : Sound (step s e).2 := by
  intro i holding
  by_cases here : i = e.handle
  · subst here
    have supported : (s.ports e.handle).portId.toNat ≤ MAX_PORT_SUPPORTED := by
      simp only [step, Function.update_self] at holding
      obtain ⟨opening, ok⟩ | held := status_holding holding
      · have opened : (step s e).1.isOk = true := ok
        rw [(step_opening opening).1, allocatePort_run] at opened
        split_ifs at opened with supported
        all_goals first | exact supported | cases opened
      · exact h e.handle held
    simpa [step] using supported
  · simp only [step, Function.update_of_ne here] at holding ⊢
    exact h i holding

theorem run_sound (events : List Event) (h : Sound s) : Sound (run s events) := by
  induction events generalizing s with
  | nil => exact h
  | cons e events ih => exact ih (step_sound h e)

/-- An open or a close that fails, or the drop of a handle whose open failed. -/
def Meddles (s : Session) (e : Event) : Prop :=
  (e.call = .opening ∨ e.call = .closing) ∧ (step s e).1.isOk = false ∨
    e.call = .dropping ∧ s.status e.handle = .refused

/-- After any calls on any handles: a failing call, or the drop of a refused handle, leaves the
port of another holder as it is exactly when it names another port or finds the port in the state
it brings about; a port is free after its holder has closed it, and after its holder was dropped
exactly when it was connected. -/
theorem port_ownership_iff (w : World) (portIds : Nat → UInt32) (events : List Event) (e : Event)
    (s : Session) (hs : s = run (.start w portIds) events) :
    (Meddles s e → ∀ j ≠ e.handle, s.status j = .holding →
      (Untouched (s.ports j).portId s.world (step s e).2.world ↔
        (s.ports j).portId ≠ (s.ports e.handle).portId ∨
          Harmless s.world (s.ports e.handle).portId e.call)) ∧
    (s.status e.handle = .holding →
      (e.call = .closing → (step s e).1.isOk = true →
        Free (s.ports e.handle).portId (step s e).2.world) ∧
      (e.call = .dropping → (Free (s.ports e.handle).portId (step s e).2.world ↔
        (s.ports e.handle).portId ∈ s.world.device.connectedPorts))) := by
  have sound : Sound s := hs ▸ run_sound events fun _ h => nomatch h
  refine ⟨?_, fun holding => ⟨fun closing ok => ?_, fun dropping => ?_⟩⟩
  · rintro (⟨opening | closing, failed⟩ | ⟨dropping, -⟩) j - -
    · obtain ⟨ok, world⟩ := step_opening (s := s) opening
      rw [world, opening]
      exact allocatePort_untouched (w := e.arrive s.world) (ok ▸ failed)
    · obtain ⟨ok, world⟩ := step_closing (s := s) closing
      rw [world, closing]
      exact freePort_untouched (w := e.arrive s.world) (ok ▸ failed)
    · rw [step_dropping dropping, dropping]
      exact drop_untouched (w := e.arrive s.world)
  · obtain ⟨ok', world⟩ := step_closing (s := s) closing
    rw [world]
    exact free_of_close (ok' ▸ ok)
  · rw [step_dropping dropping]
    exact free_of_drop (w := e.arrive s.world) (sound _ holding)

def onePort : World where
  device := ⟨1, {0}, ∅⟩
  receiveQueues := fun _ => none
  rings := []

def calls (sequence : List (Nat × Call)) : List Event :=
  sequence.map fun c => ⟨c.1, c.2, []⟩

def bothNamed : Session := run (.start onePort fun _ => 0) (calls [(0, .opening)])

theorem port_ownership_second :
    (bothNamed.status 0 = .holding ∧ Meddles bothNamed ⟨1, .opening, []⟩) ∧
      (Untouched 0 bothNamed.world (step bothNamed ⟨1, .opening, []⟩).2.world ↔
        (0 : UInt32) ≠ 0 ∨ Harmless bothNamed.world 0 .opening) := by
  have held : bothNamed.status 0 = .holding := by decide +kernel
  have meddles : Meddles bothNamed ⟨1, .opening, []⟩ :=
    .inl ⟨.inl rfl, by decide +kernel⟩
  exact ⟨⟨held, meddles⟩,
    (port_ownership_iff onePort (fun _ => 0) _ _ bothNamed rfl).1 meddles 0 (by decide) held⟩

/-- The second handle's open fails; its drop takes the port away from the first one. -/
theorem port_ownership_lost :
    (run (.start onePort fun _ => 0) (calls [(0, .opening), (1, .opening)])).status 0 = .holding ∧
      (run (.start onePort fun _ => 0) (calls [(0, .opening), (1, .opening)])).status 1 = .refused ∧
      (0 : UInt32) ∈ (run (.start onePort fun _ => 0)
        (calls [(0, .opening), (1, .opening)])).world.device.allocatedPorts ∧
      (0 : UInt32) ∉ (run (.start onePort fun _ => 0)
        (calls [(0, .opening), (1, .opening), (1, .dropping)])).world.device.allocatedPorts := by
  decide +kernel

end MigTd.Serial.Ports
