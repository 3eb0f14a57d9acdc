/- source: vsock/src/stream.rs
   digest: Everything that a call on a vsock stream can do, as a sequence of moves. -/

import MigTd.Vsock.Stream

-- The moves of a call are one search over all of its steps.
set_option synthInstance.maxSize 2000

set_option autoImplicit false

namespace MigTd.Vsock.StreamMoves

open Lib.StateProgram Protocol Vsock.Stream

variable {τ : Type}

/-- A packet that the transport takes is taken as a whole. -/
def Whole (T : Transport τ) : Prop :=
  ∀ context hdr buf net n net', T.enqueue context hdr buf net = (.ok n, net') → n = buf.length

def afterEnqueue (T : Transport τ) (header : Header) (data : Octets) (s : Socket τ) :
    Socket τ where
  stream := { s.stream with lastFwdCnt := s.stream.rxCnt }
  log := s.log ++ [.posted header (takes T s header data)]
  net := (T.enqueue s.stream.transportContext header.bytes data s.net).2

def afterDequeue (T : Transport τ) (s : Socket τ) : Socket τ :=
  { s with net := (T.dequeue s.stream.addr s.stream.transportContext s.net).2 }

/-- The transport hands out this well-formed packet for the stream. -/
def Answers (T : Transport τ) (s : Socket τ) (answer : Octets) : Prop :=
  (T.dequeue s.stream.addr s.stream.transportContext s.net).1 = .ok answer ∧
    Packet.check answer = .ok ()
  deriving Decidable

def request (addr : VsockAddr) (s : Socket τ) : Header :=
  (startConnection addr s).stream.header OP_REQUEST 0 0 0

/-- The state behind the request of `connect`, whether it was sent or not. -/
def afterRequest (T : Transport τ) (addr : VsockAddr) (s : Socket τ) : Socket τ :=
  afterEnqueue T (request addr s) [] (startConnection addr s)

def setState (state : State) : Socket τ → Socket τ :=
  withStream fun s => { s with state := state }

def VsockStream.shutdownHeader (s : VsockStream) : Header :=
  s.header OP_SHUTDOWN 0 (FLAG_SHUTDOWN_READ ||| FLAG_SHUTDOWN_WRITE) s.rxCnt

/-- The state behind the packet of `shutdown`. -/
def afterShutdown (T : Transport τ) (s : Socket τ) : Socket τ :=
  afterEnqueue T (VsockStream.shutdownHeader s.stream) [] s

def afterReset (T : Transport τ) (s : Socket τ) : Socket τ :=
  afterEnqueue T (s.stream.header OP_RST 0 0 s.stream.rxCnt) [] s

/-- The state in which the credit of the stream is looked at, when a payload has arrived. -/
def counted (T : Transport τ) (dataLen : UInt32) (buffer : Octets) (s : Socket τ) : Socket τ :=
  countReceived dataLen (recordArrived T dataLen buffer s)

inductive PayloadOutcome (T : Transport τ) (dataLen : UInt32) (buffer : Octets)
    (s : Socket τ) : Except (Halt VsockError) Unit → Socket τ → Prop where
  | short (small : buffer.length < dataLen.toNat) :
      PayloadOutcome T dataLen buffer s (.error (.failed .illegal))
        (recordArrived T dataLen buffer s)
  | uncredited (whole : dataLen.toNat ≤ buffer.length)
      (low : Low T (counted T dataLen buffer s).stream)
      (refused : takes T (counted T dataLen buffer s)
        (counted T dataLen buffer s).stream.creditUpdate [] = false) (e : Halt VsockError) :
      PayloadOutcome T dataLen buffer s (.error e) (afterEnqueue T
        (counted T dataLen buffer s).stream.creditUpdate [] (counted T dataLen buffer s))
  | credited (whole : dataLen.toNat ≤ buffer.length)
      (low : Low T (counted T dataLen buffer s).stream)
      (taken : takes T (counted T dataLen buffer s)
        (counted T dataLen buffer s).stream.creditUpdate [] = true) :
      PayloadOutcome T dataLen buffer s (.ok ()) (queuePayload (buffer.take dataLen.toNat)
        (afterEnqueue T (counted T dataLen buffer s).stream.creditUpdate []
          (counted T dataLen buffer s)))
  | queued (whole : dataLen.toNat ≤ buffer.length)
      (high : ¬Low T (counted T dataLen buffer s).stream) :
      PayloadOutcome T dataLen buffer s (.ok ()) (queuePayload (buffer.take dataLen.toNat)
        (counted T dataLen buffer s))

theorem PayloadOutcome.preserves {T : Transport τ} {dataLen : UInt32} {buffer : Octets}
    {s t : Socket τ} {r : Except (Halt VsockError) Unit} {I : Socket τ → Prop}
    (h : PayloadOutcome T dataLen buffer s r t) (harrived : I (recordArrived T dataLen buffer s))
    (hcounted : ∀ u, I u → I (countReceived dataLen u))
    (hposted : ∀ u : Socket τ, I u → I (afterEnqueue T u.stream.creditUpdate [] u))
    (hqueued : ∀ u, I u → I (queuePayload (buffer.take dataLen.toNat) u)) : I t := by
  cases h with
  | short => exact harrived
  | uncredited => exact hposted _ (hcounted _ harrived)
  | credited => exact hqueued _ (hposted _ (hcounted _ harrived))
  | queued => exact hqueued _ (hcounted _ harrived)

/-- One move of a stream. Only a `full` one makes, listens for or requests a connection. -/
inductive Move (T : Transport τ) (full : Bool) : Socket τ → Socket τ → Prop where
  | bound (s : Socket τ) (port : UInt32) (allowed : full = true) (unused : port ∉ s.net.usedPort) :
      Move T full s (bindPort port s)
  | listening (s : Socket τ) (backlog : UInt32) (allowed : full = true)
      (state : s.stream.state = .closed) : Move T full s (startListening backlog s)
  | accepted (s : Socket τ) (remote : VsockAddr) (allowed : full = true) :
      Move T full s { s with net := addConnection ⟨s.stream.addr.localAddr, remote⟩ s.net }
  /-- The request of `connect` could not be sent. -/
  | requestFailed (s : Socket τ) (addr : VsockAddr) (allowed : full = true)
      (state : s.stream.state = .closed) : Move T full s (afterRequest T addr s)
  /-- The request of `connect` was sent. -/
  | requested (s : Socket τ) (addr : VsockAddr) (allowed : full = true)
      (state : s.stream.state = .closed) :
      Move T full s (setState .requestSend (afterRequest T addr s))
  | unlistened (s : Socket τ) (state : s.stream.state = .listening) : Move T full s (stopListening s)
  | enqueue (s : Socket τ) (header : Header) (data : Octets)
      (size : header.bufAlloc = VSOCK_BUF_ALLOC)
      (counter : header.fwdCnt = s.stream.rxCnt ∨ header.fwdCnt = 0) :
      Move T full s (afterEnqueue T header data s)
  | dequeue (s : Socket τ) : Move T full s (afterDequeue T s)
  | connected (s : Socket τ) (bufAlloc fwdCnt : UInt32) (state : s.stream.state = .requestSend) :
      Move T full s (establish bufAlloc fwdCnt s)
  | closing (s : Socket τ) (state : s.stream.state = .established) :
      Move T full s (setState .closing (afterShutdown T s))
  | closed (s : Socket τ) (state : s.stream.state = .closing) :
      Move T full s (closeConnection (afterReset T s))
  | credit (s : Socket τ) (bufAlloc fwdCnt : UInt32) : Move T full s (storeCredit bufAlloc fwdCnt s)
  | received (s : Socket τ) (packet : Octets) : Move T full s (recordReceived packet s)
  | payload (s t : Socket τ) (dataLen : UInt32) (buffer : Octets)
      (r : Except (Halt VsockError) Unit) (outcome : PayloadOutcome T dataLen buffer s r t) :
      Move T full s t
  | sent (s : Socket τ) (n : Nat) (space : Whole T → n ≤ s.stream.peerFreeSpace.toNat) :
      Move T full s (recordSent n s)
  | drained (s : Socket τ) (room : Nat) : Move T full s (drainInto room s)

abbrev Moves (T : Transport τ) (full : Bool) : Socket τ → Socket τ → Prop :=
  Relation.ReflTransGen (Move T full)

instance (T : Transport τ) (full : Bool) : Std.Refl (Moves T full) := ⟨fun _ => .refl⟩

instance (T : Transport τ) (full : Bool) : IsTrans (Socket τ) (Moves T full) :=
  ⟨fun _ _ _ h h' => h.trans h'⟩

section

variable {T : Transport τ} {β : Type} {s : Socket τ} {buffer : Octets}
  {Q : Except (Halt VsockError) β → Socket τ → Prop}

theorem newChecked_ok (h : Packet.check buffer = .ok ()) : newChecked buffer s = (.ok (), s) :=
  lift_ok.mpr ⟨mapError_ok.mpr h, rfl⟩

theorem post_newChecked {f : Unit → StreamProgram τ β}
    (hok : Packet.check buffer = .ok () → Post (f ()) s Q)
    (herr : ∀ e, Packet.check buffer ≠ .ok () → Q (.error e) s) :
    Post (newChecked buffer >>= f) s Q := by
  refine post_bind_lift.mpr ⟨fun _ h => hok (mapError_ok.mp h), ?_⟩
  intro e h
  refine herr e fun hcheck => ?_
  rw [hcheck] at h
  cases h

theorem post_answer {f : Octets → StreamProgram τ β}
    (hok : ∀ recv, Answers T s recv → Post (f recv) (afterDequeue T s) Q)
    (herr : ∀ e, (∀ recv, ¬Answers T s recv) → Q (.error e) (afterDequeue T s)) :
    Post (vsockTransportDequeue T >>= fun recv => newChecked recv >>= fun _ => f recv) s Q := by
  have hpost : Post (vsockTransportDequeue T) s fun r t => t = afterDequeue T s ∧
      ∀ recv, r = .ok recv ↔
        (T.dequeue s.stream.addr s.stream.transportContext s.net).1 = .ok recv := by
    refine ⟨embed_state, fun recv => ?_⟩
    change (transport (T.dequeue s.stream.addr s.stream.transportContext) s).1 = _ ↔ _
    unfold transport embed
    rcases T.dequeue s.stream.addr s.stream.transportContext s.net with ⟨_ | _, _⟩ <;> simp
  refine post_bind_of hpost ?_ ?_
  · rintro recv _ ⟨rfl, hrecv⟩
    have hdequeue := (hrecv recv).mp rfl
    refine post_newChecked (fun hcheck => hok recv ⟨hdequeue, hcheck⟩) fun e hcheck => ?_
    refine herr e ?_
    rintro other ⟨hother, hchecked⟩
    cases hdequeue.symm.trans hother
    exact hcheck hchecked
  · rintro e _ ⟨rfl, hrecv⟩
    refine herr e ?_
    rintro recv ⟨hdequeue, -⟩
    cases (hrecv recv).mpr hdequeue

theorem post_sendVsockPkt (header : Header) (data : Octets) :
    Post (sendVsockPkt T header data) s fun r t => t = afterEnqueue T header data s ∧
      takes T s header data = r.isOk ∧ ∀ n, r = .ok n → Whole T → n = data.length := by
  refine ⟨embed_state, ?_⟩
  have hrun : sendVsockPkt T header data s =
      transport (T.enqueue s.stream.transportContext header.bytes data)
        (recordPosted T header data (withStream (fun s => { s with lastFwdCnt := s.rxCnt }) s)) :=
    rfl
  rcases hsend : sendVsockPkt T header data s with ⟨e | n, t⟩
  · obtain ⟨_, _, henqueue, -⟩ := embed_error.mp (hrun.symm.trans hsend)
    exact ⟨congrArg (fun out => out.1.isOk) henqueue, nofun⟩
  · obtain ⟨_, henqueue, -⟩ := embed_ok.mp (hrun.symm.trans hsend)
    refine ⟨congrArg (fun out => out.1.isOk) henqueue, ?_⟩
    rintro _ ⟨⟩ hwhole
    exact hwhole _ _ _ _ _ _ henqueue

theorem post_enqueue {header : Header} {data : Octets} {f : Nat → StreamProgram τ β}
    (hok : ∀ n, takes T s header data = true → (Whole T → n = data.length) →
      Post (f n) (afterEnqueue T header data s) Q)
    (herr : ∀ e, takes T s header data = false → Q (.error e) (afterEnqueue T header data s)) :
    Post (sendVsockPkt T header data >>= f) s Q := by
  refine post_bind_of (post_sendVsockPkt header data) ?_ ?_
  · rintro n _ ⟨rfl, htaken, hn⟩
    exact hok n htaken (hn n rfl)
  · rintro e _ ⟨rfl, hrefused, -⟩
    exact herr e hrefused

end

variable {overflowChecks : Bool}

section

variable (T : Transport τ) (full : Bool) {s : Socket τ}

theorem keeps_of_post {α : Type} {m : StreamProgram τ α}
    (h : ∀ s, Post m s fun _ t => Moves T full s t) : Keeps (Moves T full) m :=
  ⟨h⟩

theorem keeps_move {f : Socket τ → Socket τ} (h : ∀ s, Move T full s (f s)) :
    Keeps (Moves T full) (update f : StreamProgram τ Unit) :=
  keeps_update fun s => .single (h s)

instance keeps_dequeue : Keeps (Moves T full) (vsockTransportDequeue T) := by
  refine keeps_of_post T full fun s => ?_
  have hstate : (vsockTransportDequeue T s).2 = afterDequeue T s := embed_state
  unfold Post
  rw [hstate]
  exact .single (.dequeue s)

theorem post_told (s : Socket τ) (op : UInt16) (dataLen flags : UInt32) (data : Octets) :
    Moves T full s (afterEnqueue T (s.stream.header op dataLen flags s.stream.rxCnt) data s) :=
  .single (.enqueue s _ _ rfl (.inl rfl))

instance keeps_sendCreditUpdate : Keeps (Moves T full) (sendCreditUpdate T) := by
  refine keeps_of_post T full fun s => ?_
  unfold sendCreditUpdate
  rw [post_bind_observe]
  exact post_enqueue (fun _ _ _ => post_told T full s _ _ _ _)
    fun _ _ => post_told T full s _ _ _ _

instance keeps_bind (addr : VsockAddr) : Keeps (Moves T true) (Stream.bind addr) := by
  refine keeps_of_post T true fun s => ?_
  unfold Stream.bind
  rw [post_bind_observe, post_bind_ensure]
  constructor
  · intro hunused
    exact .single (.bound s _ rfl hunused)
  · intro _
    exact .refl

instance keeps_listen (backlog : UInt32) : Keeps (Moves T true) (listen backlog) := by
  refine keeps_of_post T true fun s => ?_
  unfold Stream.listen
  rw [post_bind_observe, post_bind_ensure]
  constructor
  · intro hstate
    exact .single (.listening s backlog rfl hstate)
  · intro _
    exact .refl

def acceptedStream (addr : VsockAddrPair) (bufAlloc fwdCnt : UInt32) : VsockStream :=
  { VsockStream.unconnected addr 0 with
    state := .established
    peerFwdCnt := fwdCnt
    peerBufAlloc := bufAlloc }

theorem accept_post (s : Socket τ) : Post (accept T) s fun r t => Moves T true s t ∧
    ∀ stream, r = .ok stream →
      ∃ addr bufAlloc fwdCnt, stream = acceptedStream addr bufAlloc fwdCnt := by
  have herror : ∀ e : Halt VsockError, ∀ stream,
      (Except.error e : Except (Halt VsockError) VsockStream) = .ok stream →
        ∃ addr bufAlloc fwdCnt, stream = acceptedStream addr bufAlloc fwdCnt := by
    intro e stream h
    cases h
  unfold accept
  rw [post_bind_observe, post_bind_ensure]
  refine ⟨fun _ => ?_, fun _ => ⟨.refl, herror _⟩⟩
  have hdequeue : Moves T true s (afterDequeue T s) := .single (.dequeue s)
  refine post_answer (fun recv _ => ?_) fun _ _ => ⟨hdequeue, herror _⟩
  rw [post_bind_ensure]
  refine ⟨fun _ => ?_, fun _ => ⟨hdequeue, herror _⟩⟩
  refine post_newChecked (fun _ => ?_) fun _ _ => ⟨hdequeue, herror _⟩
  have hresponse := hdequeue.tail (.enqueue _ (response s.stream (recv.take HEADER_LEN)) [] rfl
    (.inr rfl))
  refine post_enqueue (fun _ _ _ => ?_) fun _ _ => ⟨hresponse, herror _⟩
  refine ⟨hresponse.tail (.accepted _ _ rfl), ?_⟩
  intro stream hstream
  cases hstream
  exact ⟨_, _, _, rfl⟩

inductive ConnectOutcome (addr : VsockAddr) (s : Socket τ) :
    Except (Halt VsockError) Unit → Socket τ → Prop where
  | refusedHere (state : s.stream.state ≠ .closed) :
      ConnectOutcome addr s (.error (.failed .illegal)) s
  | unsent (state : s.stream.state = .closed)
      (refused : takes T (startConnection addr s) (request addr s) [] = false)
      (e : Halt VsockError) : ConnectOutcome addr s (.error e) (afterRequest T addr s)
  | unanswered (state : s.stream.state = .closed)
      (taken : takes T (startConnection addr s) (request addr s) [] = true)
      (noResponse : ∀ answer, Answers T (afterRequest T addr s) answer →
        ¬Accepts (startConnection addr s).stream answer) (e : Halt VsockError) :
      ConnectOutcome addr s (.error e)
        (afterDequeue T (setState .requestSend (afterRequest T addr s)))
  | established (state : s.stream.state = .closed)
      (taken : takes T (startConnection addr s) (request addr s) [] = true)
      (answer : Octets) (answers : Answers T (afterRequest T addr s) answer)
      (accepts : Accepts (startConnection addr s).stream answer) :
      ConnectOutcome addr s (.ok ()) (establish (Packet.bufAlloc answer) (Packet.fwdCnt answer)
        (afterDequeue T (setState .requestSend (afterRequest T addr s))))

theorem Answers.unique {answer other : Octets} (h : Answers T s answer)
    (h' : Answers T s other) : answer = other :=
  Except.ok.inj (h.1.symm.trans h'.1)

theorem connect_post (addr : VsockAddr) (s : Socket τ) :
    Post (connect T addr) s (ConnectOutcome T addr s) := by
  unfold connect
  rw [post_bind_observe, post_bind_ensure]
  refine ⟨fun hstate => ?_, fun hstate => .refusedHere hstate⟩
  rw [post_bind_update, post_bind_observe]
  refine post_enqueue (fun _ htaken _ => ?_) fun e hrefused => .unsent hstate hrefused e
  rw [post_bind_update]
  change Post _ (setState .requestSend (afterRequest T addr s)) _
  refine post_answer (fun recv hrecv => ?_) fun e hnone =>
    .unanswered hstate htaken (fun answer hanswer => absurd hanswer (hnone answer)) e
  rw [post_bind_ensure]
  refine ⟨fun haccepts => .established hstate htaken recv hrecv haccepts, fun hother => ?_⟩
  refine .unanswered hstate htaken (fun answer hanswer => ?_) _
  rw [Answers.unique T hanswer hrecv]
  exact hother

instance keeps_connect (addr : VsockAddr) : Keeps (Moves T true) (connect T addr) := by
  refine keeps_of_post T true fun s => (connect_post T addr s).mono ?_
  intro r t houtcome
  have hrequest : s.stream.state = .closed →
      Moves T true s (afterDequeue T (setState .requestSend (afterRequest T addr s))) :=
    fun hstate => (Relation.ReflTransGen.single (.requested s addr rfl hstate)).tail (.dequeue _)
  cases houtcome with
  | refusedHere _ => exact .refl
  | unsent hstate _ _ => exact .single (.requestFailed s addr rfl hstate)
  | unanswered hstate _ _ _ => exact hrequest hstate
  | established hstate _ _ _ _ => exact (hrequest hstate).tail (.connected _ _ _ rfl)

/-- What becomes of a `reset` in the state `closing`. -/
inductive ResetOutcome (s : Socket τ) : Except (Halt VsockError) Unit → Socket τ → Prop where
  | unanswered (none : ∀ answer, ¬Answers T s answer) (e : Halt VsockError) :
      ResetOutcome s (.error e) (afterDequeue T s)
  | stays (answer : Octets) (answers : Answers T s answer)
      (other : Packet.op answer ≠ OP_RST) : ResetOutcome s (.ok ()) (afterDequeue T s)
  | unclosed (answer : Octets) (answers : Answers T s answer)
      (rst : Packet.op answer = OP_RST) (e : Halt VsockError) :
      ResetOutcome s (.error e) (afterReset T (afterDequeue T s))
  | closed (answer : Octets) (answers : Answers T s answer)
      (rst : Packet.op answer = OP_RST) :
      ResetOutcome s (.ok ()) (closeConnection (afterReset T (afterDequeue T s)))

theorem reset_post (hstate : s.stream.state = .closing) : Post (reset T) s (ResetOutcome T s) := by
  unfold reset
  rw [post_bind_observe, post_bind_ensure]
  refine ⟨fun _ => ?_, fun hother => absurd hstate hother⟩
  refine post_answer (fun recv hrecv => ?_) fun e hnone => .unanswered hnone e
  by_cases hrst : Packet.op recv = OP_RST
  · rw [if_pos hrst]
    exact post_enqueue (fun _ _ _ => .closed recv hrecv hrst)
      fun e _ => .unclosed recv hrecv hrst e
  · -- The state is set to what it is.
    have hsame : setState .closing (afterDequeue T s) = afterDequeue T s := by
      unfold setState withStream afterDequeue
      rw [← hstate]
    rw [if_neg hrst]
    change ResetOutcome T s (.ok ()) (setState .closing (afterDequeue T s))
    rw [hsame]
    exact .stays recv hrecv hrst

instance keeps_reset : Keeps (Moves T full) (reset T) := by
  refine keeps_of_post T full fun s => ?_
  by_cases hstate : s.stream.state = .closing
  · have hdequeue : Moves T full s (afterDequeue T s) := .single (.dequeue s)
    refine (reset_post T hstate).mono fun r t houtcome => ?_
    cases houtcome with
    | unanswered => exact hdequeue
    | stays => exact hdequeue
    | unclosed => exact hdequeue.trans (post_told T full _ _ _ _ _)
    | closed => exact hdequeue.tail (.closed _ hstate)
  · unfold reset
    rw [post_bind_observe, post_bind_ensure]
    exact ⟨fun hclosing => absurd hclosing hstate, fun _ => .refl⟩

instance keeps_shutdown : Keeps (Moves T full) (shutdown T) := by
  refine keeps_of_post T full fun s => ?_
  unfold shutdown
  rw [post_bind_observe]
  by_cases hlistening : s.stream.state = .listening
  · rw [if_pos hlistening]
    exact .single (.unlistened s hlistening)
  by_cases hestablished : s.stream.state = .established
  · rw [if_neg hlistening, if_pos hestablished]
    refine post_enqueue (fun _ _ _ => ?_) fun _ _ => post_told T full s _ _ _ _
    rw [post_bind_update]
    exact .head (.closing s hestablished) ((keeps_reset T full).rel _)
  · rw [if_neg hlistening, if_neg hestablished]
    exact .refl

theorem storePayload_post (dataLen : UInt32) (buffer : Octets) (s : Socket τ) :
    Post (storePayload T dataLen buffer) s (PayloadOutcome T dataLen buffer s) := by
  unfold storePayload
  rw [post_bind_update, post_bind_ensure]
  refine ⟨fun hwhole => ?_, fun hsmall => .short (Nat.lt_of_not_le hsmall)⟩
  rw [post_bind_update]
  change Post (updateLowCredit T >>= _) (counted T dataLen buffer s) _
  unfold updateLowCredit
  rw [program_bind_assoc, post_bind_observe]
  by_cases hlow : Low T (counted T dataLen buffer s).stream
  · rw [if_pos hlow]
    unfold sendCreditUpdate
    rw [program_bind_assoc, post_bind_observe, program_bind_assoc]
    refine post_bind_of (post_sendVsockPkt _ _) ?_ ?_
    · rintro n _ ⟨rfl, htaken, -⟩
      exact .credited hwhole hlow htaken
    · rintro e _ ⟨rfl, hrefused, -⟩
      exact .uncredited hwhole hlow hrefused e
  · rw [if_neg hlow]
    exact .queued hwhole hlow

instance keeps_storePayload (dataLen : UInt32) (buffer : Octets) :
    Keeps (Moves T full) (storePayload T dataLen buffer) := by
  refine keeps_of_post T full fun s => (storePayload_post T dataLen buffer s).mono ?_
  intro r t houtcome
  exact .single (.payload s t _ _ r houtcome)

instance keeps_recvPayload (dataLen : UInt32) : Keeps (Moves T full) (recvPayload T dataLen) := by
  unfold recvPayload
  infer_instance

instance keeps_recordReceived (packet : Octets) :
    Keeps (Moves T full) (update (recordReceived packet) : StreamProgram τ Unit) :=
  keeps_move T full fun s => .received s packet

instance keeps_storeCredit (bufAlloc fwdCnt : UInt32) :
    Keeps (Moves T full) (update (storeCredit bufAlloc fwdCnt) : StreamProgram τ Unit) :=
  keeps_move T full fun s => .credit s bufAlloc fwdCnt

instance keeps_recvPacketConnected : Keeps (Moves T full) (recvPacketConnected T) := by
  unfold recvPacketConnected
  infer_instance

instance keeps_awaitCredit (turns : Nat) : Keeps (Moves T full) (awaitCredit T turns) := by
  induction turns with
  | zero => exact keeps_raise _
  | succ turns ih =>
    unfold awaitCredit
    infer_instance

instance keeps_awaitData (turns : Nat) : Keeps (Moves T full) (awaitData T turns) := by
  induction turns with
  | zero => exact keeps_raise _
  | succ turns ih =>
    unfold awaitData
    infer_instance

private theorem countSent_moves {n : Nat} (hspace : Whole T → n ≤ s.stream.peerFreeSpace.toNat) :
    Post (countSent overflowChecks n) s fun _ t => Moves T full s t := by
  unfold countSent
  rw [post_bind_observe, post_bind_ensure]
  constructor
  · intro _
    exact .single (.sent s n hspace)
  · intro _
    exact .refl

/-- A chunk is not larger than the free space that was computed for it. -/
instance keeps_sendChunk (overflowChecks : Bool) (buf : Octets) (bytesSent : Nat) :
    Keeps (Moves T full) (sendChunk T overflowChecks buf bytesSent) := by
  refine keeps_of_post T full fun s => ?_
  unfold sendChunk
  rw [post_bind_observe]
  refine post_enqueue (fun n _ hn => ?_) fun _ _ => post_told T full s _ _ _ _
  refine post_bind_of (countSent_moves T full fun hwhole => ?_) ?_ ?_
  · have hlength := hn hwhole
    rw [List.length_take] at hlength
    change n ≤ s.stream.peerFreeSpace.toNat
    omega
  · intro _ t hmoves
    exact (post_told T full s _ _ _ _).trans hmoves
  · intro _ t hmoves
    exact (post_told T full s _ _ _ _).trans hmoves

instance keeps_sendLoop (overflowChecks : Bool) (buf : Octets) (turns bytesSent : Nat) :
    Keeps (Moves T full) (sendLoop T overflowChecks buf turns bytesSent) := by
  induction turns generalizing bytesSent with
  | zero => exact keeps_raise _
  | succ turns ih =>
    unfold sendLoop
    infer_instance

instance keeps_send (overflowChecks : Bool) (turns : Nat) (buf : Octets) :
    Keeps (Moves T full) (send T overflowChecks turns buf) := by
  unfold send
  infer_instance

instance keeps_recv (turns room : Nat) : Keeps (Moves T full) (recv T turns room) := by
  refine keeps_of_post T full fun s => ?_
  unfold recv
  rw [post_bind_observe, post_bind_ensure]
  refine ⟨fun _ => ?_, fun _ => .refl⟩
  refine post_bind_keeps (keeps_awaitData T full turns) ?_ ?_
  · intro _ t _ hmoves
    exact hmoves.tail (.drained t room)
  · intro _ t _ hmoves
    exact hmoves

theorem invoke_moves (overflowChecks : Bool) (c : Call) (s : Socket τ) :
    Moves T true s (invoke T overflowChecks c s).1 := by
  cases c with
  | bind addr => exact (keeps_bind T addr).rel s
  | listen backlog => exact (keeps_listen T backlog).rel s
  | accept => exact (accept_post T s).1
  | connect addr => exact (keeps_connect T addr).rel s
  | send turns buf => exact (keeps_send T true overflowChecks turns buf).rel s
  | recv turns room => exact (keeps_recv T true turns room).rel s
  | shutdown => exact (keeps_shutdown T true).rel s

end

section

variable {T : Transport τ} {P : Endpoint → Prop}

theorem moves_endpoint (hmove : ∀ s t, Move T true s t → P ⟨s.stream, s.log⟩ → P ⟨t.stream, t.log⟩)
    {s t : Socket τ} (h : Moves T true s t) (hs : P ⟨s.stream, s.log⟩) : P ⟨t.stream, t.log⟩ := by
  induction h with
  | refl => exact hs
  | tail _ hlast ih => exact hmove _ _ hlast ih

theorem invoke_stream {c : Call} {s : Socket τ} {stream : VsockStream}
    (h : (invoke T overflowChecks c s).2 = some stream) :
    ∃ addr bufAlloc fwdCnt, stream = acceptedStream addr bufAlloc fwdCnt := by
  cases c with
  | accept =>
    refine (accept_post T s).2 stream ?_
    change (accept T s).1.toOption = some stream at h
    cases hresult : (accept T s).1 with
    | ok _ =>
      rw [hresult] at h
      exact congrArg Except.ok (Option.some.inj h)
    | error _ =>
      rw [hresult] at h
      cases h
  | bind => cases h
  | listen => cases h
  | connect => cases h
  | send => cases h
  | recv => cases h
  | shutdown => cases h

theorem newWithCid_cases (cid context : UInt64) (net : Net τ) :
    (∃ e, newWithCid cid context net = (.error e, net)) ∨
    ∃ port, getUnusedPort net.usedPort net.unusedPortCounter = some port ∧
      newWithCid cid context net = (.ok (.unconnected ⟨⟨cid, port⟩, .default⟩ context),
        { net with usedPort := port :: net.usedPort, unusedPortCounter := port }) := by
  unfold newWithCid
  rw [observe_bind]
  cases hport : getUnusedPort net.usedPort net.unusedPortCounter with
  | none =>
    refine .inl ⟨.failed .noAvailablePort, run_bind_error ?_⟩
    simp only [id_eq, hport]
    rfl
  | some port =>
    refine .inr ⟨port, rfl, ?_⟩
    simp only [id_eq, hport]
    rfl

theorem run_snoc (ops : List Op) (op : Op) (w : World τ) :
    run T overflowChecks w (ops ++ [op]) = step T overflowChecks (run T overflowChecks w ops) op := by
  unfold run
  rw [List.foldl_append]
  rfl

theorem run_invariant {I : World τ → Prop} {ops : List Op} {w : World τ}
    (hw : I w) (hstep : ∀ w, ∀ op ∈ ops, I w → I (step T overflowChecks w op)) :
    I (run T overflowChecks w ops) := by
  induction ops generalizing w with
  | nil => exact hw
  | cons op rest ih =>
    refine ih (hstep w op (by simp) hw) ?_
    intro w op hop
    exact hstep w op (by simp [hop])

theorem run_endpoints (hnew : ∀ addr context, P ⟨.unconnected addr context, []⟩)
    (haccepted : ∀ addr bufAlloc fwdCnt, P (.accepted (acceptedStream addr bufAlloc fwdCnt)))
    (hmove : ∀ s t, Move T true s t → P ⟨s.stream, s.log⟩ → P ⟨t.stream, t.log⟩)
    (overflowChecks : Bool) (host : τ) (ops : List Op) :
    ∀ e ∈ (run T overflowChecks (.initial host) ops).ends, P e := by
  refine run_invariant (I := fun w => ∀ e ∈ w.ends, P e) (fun e he => by cases he) ?_
  intro w op _ hw
  cases op with
  | newWithCid cid context =>
    simp only [step]
    rcases newWithCid_cases cid context w.net with ⟨_, heq⟩ | ⟨port, -, heq⟩
    · rw [heq]
      exact hw
    · rw [heq]
      intro e he
      rcases List.mem_append.mp he with hold | hfresh
      · exact hw e hold
      · rw [List.mem_singleton.mp hfresh]
        exact hnew _ _
  | call i c =>
    simp only [step]
    cases hend : w.ends[i]? with
    | none => exact hw
    | some old =>
      intro e he
      rcases List.mem_append.mp he with hset | hmade
      · rcases List.mem_or_eq_of_mem_set hset with hold | rfl
        · exact hw e hold
        · exact moves_endpoint hmove (invoke_moves T overflowChecks c _)
            (hw old (List.mem_of_getElem? hend))
      · rw [Option.mem_toList, Option.map_eq_some_iff] at hmade
        obtain ⟨stream, hstream, rfl⟩ := hmade
        obtain ⟨addr, bufAlloc, fwdCnt, rfl⟩ := invoke_stream hstream
        exact haccepted addr bufAlloc fwdCnt

end

end MigTd.Vsock.StreamMoves
