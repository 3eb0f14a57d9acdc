/- source: vsock/src/transport/vmcall.rs, transport/virtio_pci.rs, vsock/src/stream.rs
   digest: The packet queues hold headers without payload, over both transports and all runs. -/

import MigTd.Lib.Maintained
import MigTd.Vsock.StreamMoves
import MigTd.Vsock.Transports

-- The frame of a call is one search over all of its steps.
set_option synthInstance.maxSize 2000

set_option autoImplicit false

namespace MigTd.Vsock.Alignment

open Lib.Maintained Lib.StateProgram Protocol Vsock.Stream StreamMoves Transports Virtio.Queue

/-- A header on its own that passes the check, so that it announces no payload. -/
def Bare (buffer : Octets) : Prop :=
  buffer.length = HEADER_LEN ∧ Packet.check buffer = .ok ()

variable {buf : Octets}

theorem Bare.dataLen {buffer : Octets} (h : Bare buffer) : Packet.dataLen buffer = 0 :=
  dataLen_of_check h.1 h.2

/-- Every entry of every queue is such a header. -/
structure Aligned {τ : Type} (net : Net τ) : Prop where
  connections : ∀ addrs, ∀ queue ∈ net.connectionPktQueues addrs, ∀ b ∈ queue, Bare b
  bindings : ∀ addr, ∀ queue ∈ net.bindingPktQueues addr, ∀ b ∈ queue, Bare b

variable {α : Type} {addr : VsockAddr}

section

variable {τ : Type}

theorem bare_update {κ : Type} [DecidableEq κ]
    {queues : κ → Option (List Octets)} (key : κ) {new : Option (List Octets)}
    (h : ∀ k, ∀ queue ∈ queues k, ∀ b ∈ queue, Bare b)
    (hnew : ∀ queue ∈ new, ∀ b ∈ queue, Bare b) :
    ∀ k, ∀ queue ∈ Function.update queues key new k, ∀ b ∈ queue, Bare b := by
  rw [Function.forall_update_iff queues fun _ stored => ∀ queue ∈ stored, ∀ b ∈ queue, Bare b]
  exact ⟨hnew, fun k _ => h k⟩

theorem bare_some {new : List Octets} (hnew : ∀ b ∈ new, Bare b) :
    ∀ queue ∈ some new, ∀ b ∈ queue, Bare b := by
  intro queue hqueue
  cases hqueue
  exact hnew

theorem bare_snoc {queue : List Octets}
    (h : ∀ b ∈ queue, Bare b) (hbuf : Bare buf) : ∀ b ∈ queue ++ [buf], Bare b := by
  intro b hb
  rcases List.mem_append.mp hb with hb | hb
  · exact h b hb
  · rw [List.mem_singleton.mp hb]
    exact hbuf

variable {net : Net τ}

theorem aligned_push {addrs : VsockAddrPair} (h : Aligned net)
    (hbuf : buf = [] ∨ Bare buf) : Aligned (pushStreamQueues addrs buf net) := by
  unfold pushStreamQueues
  by_cases hempty : buf = []
  · rw [if_pos hempty]
    exact h
  rw [if_neg hempty]
  have hbare : Bare buf := hbuf.resolve_left hempty
  cases hconnection : net.connectionPktQueues addrs with
  | some queue =>
    exact ⟨bare_update addrs h.connections
      (bare_some (bare_snoc (h.connections addrs queue hconnection) hbare)), h.bindings⟩
  | none =>
    cases hbinding : net.bindingPktQueues addrs.localAddr with
    | some queue =>
      exact ⟨h.connections, bare_update addrs.localAddr h.bindings
        (bare_some (bare_snoc (h.bindings addrs.localAddr queue hbinding) hbare))⟩
    | none => exact h

theorem aligned_addConnection {addr : VsockAddrPair} (h : Aligned net) :
    Aligned (addConnection addr net) :=
  ⟨bare_update addr h.connections (bare_some fun b hb => by cases hb), h.bindings⟩

theorem aligned_removeConnection {addr : VsockAddrPair} (h : Aligned net) :
    Aligned (removeConnection addr net) :=
  ⟨bare_update addr h.connections (fun queue hqueue => by cases hqueue), h.bindings⟩

theorem aligned_addBinding (h : Aligned net) : Aligned (addBinding addr net) :=
  ⟨h.connections, bare_update addr h.bindings (bare_some fun b hb => by cases hb)⟩

theorem aligned_removeBinding (h : Aligned net) : Aligned (removeBinding addr net) :=
  ⟨h.connections, bare_update addr h.bindings fun queue hqueue => by cases hqueue⟩

theorem maintains_pop (addrs : VsockAddrPair) : Maintains Aligned (fun front => ∀ b ∈ front, Bare b)
      (popStreamQueues addrs : NetProgram τ _) := by
  intro net h
  have hnone : ∀ b ∈ (none : Option Octets), Bare b := by simp
  unfold popStreamQueues
  rw [post_bind, post_observe]
  simp only [id_eq]
  rcases hconnection : net.connectionPktQueues addrs with - | - | ⟨front, queue⟩
  · rcases hbinding : net.bindingPktQueues addrs.localAddr with - | - | ⟨front, queue⟩
    · exact maintains_pure hnone net h
    · exact maintains_pure hnone net h
    · have hall := h.bindings _ _ hbinding
      rw [post_bind, post_update]
      refine ⟨⟨h.connections, bare_update _ h.bindings
        (bare_some fun b hb => hall b (by simp [hb]))⟩, ?_⟩
      rintro a ⟨⟩ b ⟨⟩
      exact hall front (by simp)
  · exact maintains_pure hnone net h
  · have hall := h.connections _ _ hconnection
    rw [post_bind, post_update]
    refine ⟨⟨bare_update _ h.connections (bare_some fun b hb => hall b (by simp [hb])),
      h.bindings⟩, ?_⟩
    rintro a ⟨⟩ b ⟨⟩
    exact hall front (by simp)

/-- What every step of a transport keeps, and what holds of all that it takes out of a queue. Only
bare headers are queued. -/
structure Stable (I : Net τ → Prop) (P : Octets → Prop) : Prop where
  host : ∀ net host, I net → I { net with host := host }
  arrive : ∀ header data net, I net → I (arrive header data net)
  push : ∀ addrs buf net, Bare buf → I net → I (pushStreamQueues addrs buf net)
  pop : ∀ addrs, Maintains I (fun front => ∀ b ∈ front, P b) (popStreamQueues addrs)

theorem aligned_stable : Stable (Aligned (τ := τ)) Bare where
  host _ _ h := ⟨h.connections, h.bindings⟩
  arrive _ _ _ h := ⟨h.connections, h.bindings⟩
  push _ _ _ hbuf h := aligned_push h (.inr hbuf)
  pop := maintains_pop

end

/-- The transport queues bare headers only, and hands out only what is queued. -/
structure HeadersOnly {τ : Type} (T : Transport τ) : Prop where
  enqueue : ∀ context hdr buf, Maintains Aligned (fun _ => True) (T.enqueue context hdr buf)
  dequeue : ∀ addrs context, Maintains Aligned Bare (T.dequeue addrs context)

section

variable {τ : Type} {I : Net τ → Prop} {P : Octets → Prop}

theorem maintains_headerChecked (header : Octets) :
    Maintains I (fun _ => Packet.check header = .ok ())
      (headerChecked header : NetProgram τ Unit) := by
  refine maintains_lift ?_
  intro a ha
  exact mapError_ok.mp ha

theorem Stable.maintains_push (hI : Stable I P) (addrs : VsockAddrPair)
    (hbuf : buf = [] ∨ Bare buf) :
    Maintains I (fun _ => True) (update (pushStreamQueues addrs buf) : NetProgram τ Unit) := by
  refine maintains_update fun net h => ?_
  rcases hbuf with rfl | hbuf
  · exact h
  · exact hI.push addrs buf net hbuf h

end

section

open Transports.Vmcall

variable {I : Net (List ServiceCall) → Prop} {P : Octets → Prop}

theorem Stable.service (hI : Stable I P) (command : UInt8) (mid : UInt64) :
    Maintains I (fun _ => True) (service command mid) := by
  intro net h
  unfold Vmcall.service
  rw [post_bind, post_observe]
  simp only [id_eq]
  cases net.host with
  | nil => exact ⟨h, fun _ _ => trivial⟩
  | cons call later =>
    refine (maintains_update fun net => hI.host net later).bind (fun _ _ => ?_) net h
    refine (maintains_ensure _ _).bind fun _ _ => ?_
    refine (maintains_ensure _ _).bind fun _ _ => ?_
    exact maintains_lift fun _ _ => trivial

theorem Stable.recvPacket (hI : Stable I P) (pkt : Octets) :
    Maintains I (fun _ => True) (recvPacket pkt) := by
  refine (maintains_update (hI.arrive _ _)).bind fun _ _ => ?_
  refine (maintains_ensure _ _).bind fun _ hlength => ?_
  refine (maintains_headerChecked _).bind fun _ hcheck => ?_
  have hbare : Bare (pkt.take HEADER_LEN) := ⟨by simpa using hlength, hcheck⟩
  refine (maintains_ensure _ _).bind fun _ _ => ?_
  refine (hI.maintains_push _ (.inr hbare)).bind fun _ _ => ?_
  exact hI.maintains_push _ (.inl (by simp [hbare.dataLen]))

theorem Stable.vmcall_enqueue (hI : Stable I P) (context : UInt64) (hdr buf : Octets) :
    Maintains I (fun _ => True) (vmcall.enqueue context hdr buf) := by
  refine (maintains_ensure _ _).bind fun _ _ => ?_
  refine (hI.service _ _).bind fun _ _ => ?_
  exact maintains_pure trivial

theorem Stable.vmcall_dequeue (hI : Stable I P) (addrs : VsockAddrPair) (context : UInt64) :
    Maintains I P (vmcall.dequeue addrs context) := by
  refine (hI.pop addrs).bind fun front hfront => ?_
  cases front with
  | some data => exact maintains_pure (hfront data rfl)
  | none =>
    refine (hI.service _ _).bind fun _ _ => ?_
    refine (hI.recvPacket _).bind fun _ _ => ?_
    refine (hI.pop addrs).bind fun front hfront => ?_
    cases front with
    | some data => exact maintains_pure (hfront data rfl)
    | none => exact maintains_raise _

theorem vmcall_headersOnly : HeadersOnly vmcall :=
  ⟨aligned_stable.vmcall_enqueue, aligned_stable.vmcall_dequeue⟩

end

section

open Transports.Virtio

variable {I : Net Host → Prop} {P : Octets → Prop}

theorem Stable.onHost (hI : Stable I P) {Q : α → Prop} {m : HostProgram α}
    (hm : Maintains (fun _ => True) Q m) : Maintains I Q (onHost m) :=
  maintains_embed hm (fun _ _ => trivial) fun net host h _ => hI.host net host h

theorem always {σ ε : Type} (m : Program σ ε α) : Maintains (fun _ => True) (fun _ => True) m :=
  fun _ _ => ⟨trivial, fun _ _ => trivial⟩

private theorem maintains_readHeader (buf : VirtqueueBuf) :
    Maintains (fun _ => True) (fun header => header = [] ∨ header.length = HEADER_LEN)
      (readHeader buf) := by
  unfold readHeader
  refine (always _).bind fun device _ => ?_
  refine (always _).bind fun host _ => ?_
  refine maintains_ite (fun _ => ?_) fun _ => maintains_pure (.inl rfl)
  refine (maintains_ensure _ _).bind fun _ hlength => ?_
  refine (always _).bind fun _ _ => ?_
  exact maintains_pure (.inr (by simpa [readDma] using hlength))

private theorem maintains_readData (buf : VirtqueueBuf) :
    Maintains (fun _ => True) (fun data => data = []) (readData 0 buf) := by
  unfold readData
  refine (always _).bind fun device _ => ?_
  refine (always _).bind fun host _ => ?_
  exact maintains_pure rfl

theorem Stable.recvPkt (hI : Stable I P) (first second : VirtqueueBuf) :
    Maintains I (fun _ => True) (recvPkt first second) := by
  refine (maintains_update fun net => hI.arrive _ _ net).bind fun _ _ => ?_
  refine (hI.onHost (maintains_readHeader first)).bind fun header hheader => ?_
  refine (maintains_headerChecked header).bind fun _ hcheck => ?_
  -- The empty buffer fails the check.
  have hbare : Bare header := by
    rcases hheader with rfl | hlength
    · cases hcheck
    · exact ⟨hlength, hcheck⟩
  rw [hbare.dataLen]
  refine (hI.onHost (maintains_readData second)).bind fun data hdata => ?_
  refine (hI.onHost (always _)).bind fun _ _ => ?_
  refine (hI.maintains_push _ (.inr hbare)).bind fun _ _ => ?_
  exact hI.maintains_push _ (.inl hdata)

theorem Stable.receiveUsed (hI : Stable I P) (overflowChecks : Bool) :
    Maintains I (fun _ => True) (receiveUsed overflowChecks) := by
  refine (hI.onHost (always _)).bind fun device _ => ?_
  refine maintains_ite (fun _ => ?_) fun _ => maintains_pure trivial
  refine (hI.onHost (always _)).bind fun bufs _ => ?_
  split
  · refine (hI.onHost (always _)).bind fun _ _ => ?_
    refine (hI.recvPkt _ _).bind fun _ _ => ?_
    exact hI.onHost (always _)
  · refine (hI.onHost (always _)).bind fun _ _ => ?_
    exact maintains_raise _

theorem Stable.applyMove (hI : Stable I P) (move : HostMove) (later : List HostMove) :
    Maintains I (fun _ => True) (update (applyMove move later) : NetProgram Host Unit) :=
  maintains_update fun net => hI.host net _

theorem Stable.freeAll (hI : Stable I P) (bufs : List VirtqueueBuf) :
    Maintains I (fun _ => True) (freeAll bufs) := by
  induction bufs with
  | nil => exact maintains_pure trivial
  | cons buf rest ih => exact (hI.onHost (always _)).bind fun _ _ => ih

theorem Stable.pollTx (hI : Stable I P) (moves : List HostMove) :
    Maintains I (fun _ => True) (pollTx moves) := by
  induction moves with
  | nil => exact maintains_raise _
  | cons move later ih =>
    unfold Virtio.pollTx
    refine (hI.applyMove _ _).bind fun _ _ => ?_
    refine (hI.onHost (always _)).bind fun device _ => ?_
    refine maintains_ite (fun _ => ?_) fun _ => ih
    exact (hI.onHost (always _)).bind fun bufs _ => hI.freeAll _

theorem Stable.pollRx (hI : Stable I P) (overflowChecks : Bool) (addrs : VsockAddrPair)
    (moves : List HostMove) : Maintains I P (pollRx overflowChecks addrs moves) := by
  induction moves with
  | nil => exact maintains_raise _
  | cons move later ih =>
    unfold Virtio.pollRx
    refine (hI.applyMove _ _).bind fun _ _ => ?_
    refine (hI.receiveUsed _).bind fun _ _ => ?_
    refine (hI.pop addrs).bind fun front hfront => ?_
    cases front with
    | some data => exact maintains_pure (hfront data rfl)
    | none => exact ih

theorem Stable.virtio_enqueue (hI : Stable I P) (overflowChecks : Bool) (context : UInt64)
    (hdr buf : Octets) :
    Maintains I (fun _ => True) ((virtio overflowChecks).enqueue context hdr buf) := by
  refine (maintains_ensure _ _).bind fun _ _ => ?_
  refine (hI.onHost (always _)).bind fun _ _ => ?_
  refine (hI.onHost (always _)).bind fun _ _ => ?_
  refine (hI.onHost (always _)).bind fun _ _ => ?_
  refine maintains_observe_bind fun _ => ?_
  exact (hI.pollTx _).bind fun _ _ => maintains_pure trivial

theorem Stable.virtio_dequeue (hI : Stable I P) (overflowChecks : Bool) (addrs : VsockAddrPair)
    (context : UInt64) : Maintains I P ((virtio overflowChecks).dequeue addrs context) := by
  refine (hI.pop addrs).bind fun front hfront => ?_
  cases front with
  | some data => exact maintains_pure (hfront data rfl)
  | none => exact maintains_observe_bind fun _ => hI.pollRx _ _ _

theorem virtio_headersOnly (overflowChecks : Bool) : HeadersOnly (virtio overflowChecks) :=
  ⟨aligned_stable.virtio_enqueue _, aligned_stable.virtio_dequeue _⟩

end

/-- Nothing but bare headers is queued, and the stream holds no data and never did. -/
structure Quiet {τ : Type} (s : Socket τ) : Prop where
  aligned : Aligned s.net
  noData : s.stream.dataQueue = []
  nothing : ∀ dataLen buffer answered, .arrived dataLen buffer answered ∉ s.log

section

variable {τ : Type}

abbrev StaysQuiet : Socket τ → Socket τ → Prop := Preserved Quiet

variable {f : VsockStream → VsockStream}

theorem quiet_withStream (hf : ∀ s, s.dataQueue = [] → (f s).dataQueue = []) :
    Keeps StaysQuiet (update (withStream f) : StreamProgram τ Unit) :=
  keeps_update fun _ h => ⟨h.aligned, hf _ h.noData, h.nothing⟩

theorem quiet_recorded {e : StreamEvent} {s : Socket τ}
    (hs : Quiet s) (hf : (f s.stream).dataQueue = [])
    (he : ∀ dataLen buffer answered, e ≠ .arrived dataLen buffer answered) :
    Quiet (recorded e f s) := by
  refine ⟨hs.aligned, hf, ?_⟩
  intro dataLen buffer answered hmem
  rcases List.mem_append.mp hmem with hold | hlast
  · exact hs.nothing dataLen buffer answered hold
  · exact he dataLen buffer answered (List.mem_singleton.mp hlast).symm

instance (state : State) : Keeps StaysQuiet
    (update (withStream fun s => { s with state := state }) : StreamProgram τ Unit) :=
  quiet_withStream fun _ h => h

instance (bufAlloc fwdCnt : UInt32) :
    Keeps StaysQuiet (update (establish bufAlloc fwdCnt) : StreamProgram τ Unit) :=
  keeps_update fun _ h => quiet_recorded h h.noData nofun

instance (bufAlloc fwdCnt : UInt32) :
    Keeps StaysQuiet (update (storeCredit bufAlloc fwdCnt) : StreamProgram τ Unit) :=
  keeps_update fun _ h => quiet_recorded h h.noData nofun

instance (packet : Octets) :
    Keeps StaysQuiet (update (recordReceived packet) : StreamProgram τ Unit) :=
  keeps_update fun _ h => quiet_recorded h h.noData nofun

variable {turns : Nat}

instance (n : Nat) : Keeps StaysQuiet (update (recordSent n) : StreamProgram τ Unit) :=
  keeps_update fun _ h => quiet_recorded h h.noData nofun

instance (port : UInt32) : Keeps StaysQuiet (update (bindPort port) : StreamProgram τ Unit) :=
  keeps_update fun _ h => ⟨⟨h.aligned.connections, h.aligned.bindings⟩, h.noData, h.nothing⟩

instance (backlog : UInt32) :
    Keeps StaysQuiet (update (startListening backlog) : StreamProgram τ Unit) :=
  keeps_update fun _ h => ⟨aligned_addBinding h.aligned, h.noData, h.nothing⟩

instance : Keeps StaysQuiet (update stopListening : StreamProgram τ Unit) :=
  keeps_update fun _ h => ⟨aligned_removeBinding h.aligned, h.noData, h.nothing⟩

instance : Keeps StaysQuiet (update (startConnection addr) : StreamProgram τ Unit) :=
  keeps_update fun _ h => ⟨aligned_addConnection h.aligned, h.noData, h.nothing⟩

instance (pair : VsockAddrPair) : Keeps StaysQuiet
    (update fun s => { s with net := addConnection pair s.net } : StreamProgram τ Unit) :=
  keeps_update fun _ h => ⟨aligned_addConnection h.aligned, h.noData, h.nothing⟩

instance : Keeps StaysQuiet (update closeConnection : StreamProgram τ Unit) :=
  keeps_update fun _ h => ⟨aligned_removeConnection h.aligned, h.noData, h.nothing⟩

theorem quiet_transport {P : α → Prop} {m : NetProgram τ α}
    (hm : Maintains Aligned P m) : Maintains Quiet P (transport m) :=
  maintains_embed hm (fun _ h => h.aligned) fun _ _ h hnet => ⟨hnet, h.noData, h.nothing⟩

variable (T : Transport τ) [hT : Fact (HeadersOnly T)]

theorem quiet_dequeue : Maintains Quiet Bare (vsockTransportDequeue T) :=
  maintains_observe_bind fun _ => quiet_transport (hT.out.dequeue _ _)

instance : Keeps StaysQuiet (vsockTransportDequeue T) := ⟨fun _ => (quiet_dequeue T).state⟩

instance (header : Header) (data : Octets) : Keeps StaysQuiet (sendVsockPkt T header data) := by
  have hcount : Keeps StaysQuiet (update (withStream fun s => { s with lastFwdCnt := s.rxCnt }) :
      StreamProgram τ Unit) := quiet_withStream fun _ h => h
  have hpost : Keeps StaysQuiet (update (recordPosted T header data) : StreamProgram τ Unit) :=
    keeps_update fun _ h => quiet_recorded h h.noData nofun
  have henqueue (context : UInt64) : Keeps StaysQuiet
      (transport (T.enqueue context header.bytes data)) :=
    ⟨fun _ => (quiet_transport (hT.out.enqueue context header.bytes data)).state⟩
  unfold sendVsockPkt
  infer_instance

instance : Keeps StaysQuiet (accept T) := by
  unfold accept
  infer_instance

instance : Keeps StaysQuiet (connect T addr) := by
  unfold connect
  infer_instance

instance : Keeps StaysQuiet (reset T) := by
  unfold reset
  infer_instance

instance : Keeps StaysQuiet (shutdown T) := by
  unfold shutdown
  infer_instance

instance : Keeps StaysQuiet (sendCreditUpdate T) := by
  unfold sendCreditUpdate
  infer_instance

/-- The branch for a payload is never taken. -/
instance : Keeps StaysQuiet (recvPacketConnected T) := by
  constructor
  intro s hs
  refine (Maintains.bind (Q := fun _ => True) (quiet_dequeue T) fun packet hbare => ?_).state hs
  have hnone : Keeps StaysQuiet (if 0 < Packet.dataLen packet then
      recvPayload T (Packet.dataLen packet) else pure () : StreamProgram τ Unit) := by
    rw [hbare.dataLen]
    exact keeps_pure ()
  exact fun t ht => ⟨Keeps.rel (R := StaysQuiet) t ht, fun _ _ => trivial⟩

instance : Keeps StaysQuiet (awaitCredit T turns) := by
  induction turns with
  | zero => exact keeps_raise _
  | succ turns ih =>
    unfold awaitCredit
    infer_instance

instance : Keeps StaysQuiet (awaitData T turns) := by
  induction turns with
  | zero => exact keeps_raise _
  | succ turns ih =>
    unfold awaitData
    infer_instance

instance (overflowChecks : Bool) (bytesSent : Nat) :
    Keeps StaysQuiet (sendLoop T overflowChecks buf turns bytesSent) := by
  induction turns generalizing bytesSent with
  | zero => exact keeps_raise _
  | succ turns ih =>
    unfold sendLoop sendChunk countSent
    infer_instance

/-- There is nothing to drain. -/
instance (room : Nat) : Keeps StaysQuiet (update (drainInto room) : StreamProgram τ Unit) := by
  refine keeps_update fun s h => ?_
  unfold drainInto
  refine quiet_recorded h ?_ nofun
  rw [h.noData]
  rfl

theorem quiet_invoke (overflowChecks : Bool) (c : Call) {s : Socket τ} (h : Quiet s) :
    Quiet (invoke T overflowChecks c s).1 := by
  have hkeeps {α : Type} (m : StreamProgram τ α) [hm : Keeps StaysQuiet m] : Quiet (m s).2 :=
    hm.rel s h
  cases c with
  | bind addr =>
    refine @hkeeps _ (Stream.bind addr) ?_
    unfold Stream.bind
    infer_instance
  | listen backlog =>
    refine @hkeeps _ (Stream.listen backlog) ?_
    unfold Stream.listen
    infer_instance
  | accept => exact hkeeps (accept T)
  | connect addr => exact hkeeps (connect T addr)
  | send turns buf =>
    refine @hkeeps _ (send T overflowChecks turns buf) ?_
    unfold send
    infer_instance
  | recv turns room =>
    refine @hkeeps _ (recv T turns room) ?_
    unfold recv
    infer_instance
  | shutdown => exact hkeeps (shutdown T)

end

structure Idle (e : Endpoint) : Prop where
  noData : e.stream.dataQueue = []
  nothing : ∀ dataLen buffer answered, .arrived dataLen buffer answered ∉ e.log

structure Calm {τ : Type} (w : World τ) : Prop where
  aligned : Aligned w.net
  idle : ∀ e ∈ w.ends, Idle e

section

variable {τ : Type} {T : Transport τ}

theorem calm_newWithCid {w : World τ} (h : Calm w) (overflowChecks : Bool) (cid context : UInt64) :
    Calm (step T overflowChecks w (.newWithCid cid context)) := by
  simp only [step]
  rcases newWithCid_cases cid context w.net with ⟨_, heq⟩ | ⟨port, -, heq⟩
  · rw [heq]
    exact h
  · rw [heq]
    refine ⟨⟨h.aligned.connections, h.aligned.bindings⟩, ?_⟩
    intro e he
    rcases List.mem_append.mp he with hold | hfresh
    · exact h.idle e hold
    · rw [List.mem_singleton.mp hfresh]
      exact ⟨rfl, fun _ _ _ => List.not_mem_nil⟩

theorem calm_call [Fact (HeadersOnly T)] {w : World τ} (h : Calm w) (overflowChecks : Bool) (i : Nat)
    (c : Call) : Calm (step T overflowChecks w (.call i c)) := by
  simp only [step]
  cases hend : w.ends[i]? with
  | none => exact h
  | some old =>
    have hidle := h.idle old (List.mem_of_getElem? hend)
    have hquiet := quiet_invoke T overflowChecks c (s := ⟨old.stream, old.log, w.net⟩)
      ⟨h.aligned, hidle.noData, hidle.nothing⟩
    refine ⟨hquiet.aligned, ?_⟩
    intro e he
    rcases List.mem_append.mp he with hset | hmade
    · rcases List.mem_or_eq_of_mem_set hset with hold | rfl
      · exact h.idle e hold
      · exact ⟨hquiet.noData, hquiet.nothing⟩
    · rw [Option.mem_toList, Option.map_eq_some_iff] at hmade
      obtain ⟨stream, hstream, rfl⟩ := hmade
      obtain ⟨addr, bufAlloc, fwdCnt, rfl⟩ := invoke_stream hstream
      refine ⟨rfl, ?_⟩
      intro dataLen buffer answered harrived
      cases List.mem_singleton.mp harrived

theorem run_calm (hT : HeadersOnly T) (overflowChecks : Bool) (host : τ) (ops : List Op) :
    Calm (run T overflowChecks (.initial host) ops) := by
  apply run_invariant (I := Calm)
  · have hnone : Aligned (World.initial host).net :=
      ⟨fun _ _ h => (by cases h), fun _ _ h => (by cases h)⟩
    exact ⟨hnone, fun e he => (by cases he)⟩
  · intro w op _ hw
    cases op with
    | newWithCid cid context => exact calm_newWithCid hw overflowChecks cid context
    | call i c =>
      have hheaders : Fact (HeadersOnly T) := ⟨hT⟩
      exact calm_call hw overflowChecks i c

end

end MigTd.Vsock.Alignment
