/- source: vsock/src/stream.rs
   digest: Vsock streams over a transport, and runs of any number of them. -/

import MigTd.Vsock.Protocol

set_option autoImplicit false

namespace MigTd.Vsock.Stream

open Lib.StateProgram Protocol

inductive Halt (ε : Type) where
  | failed (e : ε)
  /-- It has not returned when its caller stops polling it. -/
  | pending
  /-- An arithmetic overflow, in a build that checks for it. -/
  | panicked
  deriving DecidableEq, Repr

def Halt.map {ε ε' : Type} (h : ε → ε') : Halt ε → Halt ε'
  | failed e => failed (h e)
  | pending => pending
  | panicked => panicked

/-- A packet that the transport took from the host, cut behind its header. -/
structure Arrival where
  header : Octets
  data : Octets
  /-- There was a connection with the addresses of the packet. -/
  connected : Bool
  deriving DecidableEq, Repr

structure Net (τ : Type) where
  connectionPktQueues : VsockAddrPair → Option (List Octets)
  bindingPktQueues : VsockAddr → Option (List Octets)
  usedPort : List UInt32
  unusedPortCounter : UInt32
  /-- The packets so far, oldest first. No function reads them. -/
  arrived : List Arrival
  /-- The device and the behaviour of the host. -/
  host : τ

abbrev NetProgram (τ α : Type) : Type := Program (Net τ) (Halt VsockTransportError) α

/-- The part of a transport that streams use. Of a stream it reads the addresses and the
transport context. -/
structure Transport (τ : Type) where
  MAX_VSOCK_PKT_DATA_LEN : Nat
  enqueue : UInt64 → Octets → Octets → NetProgram τ Nat
  dequeue : VsockAddrPair → UInt64 → NetProgram τ Octets

inductive State where
  | closed
  | listening
  | requestSend
  | established
  | closing
  deriving DecidableEq, Repr

structure VsockStream where
  state : State
  transportContext : UInt64
  listenBacklog : UInt32
  addr : VsockAddrPair
  dataQueue : List Octets
  rxCnt : UInt32
  txCnt : UInt32
  lastFwdCnt : UInt32
  peerFwdCnt : UInt32
  peerBufAlloc : UInt32
  deriving DecidableEq, Repr

/-- What happened at a stream. No function reads it. -/
inductive StreamEvent where
  /-- A connection began, with the credit that the peer gave. -/
  | opened (bufAlloc fwdCnt : UInt32)
  /-- A later packet of the peer told its credit. -/
  | credit (bufAlloc fwdCnt : UInt32)
  /-- A packet was given to the transport, which took it or did not. -/
  | posted (header : Header) (taken : Bool)
  | sent (n : Nat)
  /-- A packet came in while the stream was in this state. -/
  | received (state : State) (packet : Octets)
  /-- The transport handed out the buffer with the payload of a packet. The last field is the answer
  of the transport to the credit update that is then due, and true if none is due. -/
  | arrived (dataLen : UInt32) (buffer : Octets) (answered : Bool)
  | returned (bytes : Octets)
  deriving DecidableEq, Repr

structure Endpoint where
  stream : VsockStream
  log : List StreamEvent
  deriving DecidableEq, Repr

/-- One stream and what it shares with the others. -/
structure Socket (τ : Type) where
  stream : VsockStream
  log : List StreamEvent
  net : Net τ

abbrev StreamProgram (τ α : Type) : Type := Program (Socket τ) (Halt VsockError) α

section

variable {τ : Type}

def withStream (f : VsockStream → VsockStream) (s : Socket τ) : Socket τ :=
  { s with stream := f s.stream }

def recorded (e : StreamEvent) (f : VsockStream → VsockStream) (s : Socket τ) : Socket τ :=
  ⟨f s.stream, s.log ++ [e], s.net⟩

abbrev fail {α : Type} (e : VsockError) : StreamProgram τ α := raise (.failed e)

abbrev newChecked (buffer : Octets) : StreamProgram τ Unit :=
  lift ((Packet.check buffer).mapError .failed)

def transport {α : Type} (m : NetProgram τ α) : StreamProgram τ α :=
  embed Socket.net (fun s net => { s with net := net }) (Halt.map VsockError.from) m

def addConnection (addr : VsockAddrPair) (net : Net τ) : Net τ :=
  { net with connectionPktQueues := Function.update net.connectionPktQueues addr (some []) }

def removeConnection (addr : VsockAddrPair) (net : Net τ) : Net τ :=
  { net with connectionPktQueues := Function.update net.connectionPktQueues addr none }

def addBinding (addr : VsockAddr) (net : Net τ) : Net τ :=
  { net with bindingPktQueues := Function.update net.bindingPktQueues addr (some []) }

def removeBinding (addr : VsockAddr) (net : Net τ) : Net τ :=
  { net with bindingPktQueues := Function.update net.bindingPktQueues addr none }

end

/-- The loop of `get_unused_port`. It ends at the first free port or at the largest number. -/
def skipUsed (used : List UInt32) : Nat → UInt32 → Option UInt32
  | 0, _ => none
  | turns + 1, port =>
    if port ∈ used then
      if port.toNat + 1 < 2 ^ 32 then skipUsed used turns (port + 1) else none
    else some port

/-- Each turn raises the port, so that `2 ^ 32` turns are enough. -/
def getUnusedPort (used : List UInt32) (counter : UInt32) : Option UInt32 :=
  if counter.toNat + 1 < 2 ^ 32 then skipUsed used (2 ^ 32) (counter + 1) else none

def VsockStream.unconnected (addr : VsockAddrPair) (transportContext : UInt64) : VsockStream where
  state := .closed
  transportContext := transportContext
  listenBacklog := 0
  addr := addr
  dataQueue := []
  rxCnt := 0
  txCnt := 0
  lastFwdCnt := 0
  peerFwdCnt := 0
  peerBufAlloc := 0

def newWithCid {τ : Type} (cid transportContext : UInt64) :
    Program (Net τ) (Halt VsockError) VsockStream := do
  let net ← observe id
  let port ← lift (orElse (getUnusedPort net.usedPort net.unusedPortCounter)
    (.failed .noAvailablePort))
  update fun net => { net with usedPort := port :: net.usedPort, unusedPortCounter := port }
  return .unconnected ⟨⟨cid, port⟩, .default⟩ transportContext

def saturatingSub (a b : UInt32) : UInt32 := if b ≤ a then a - b else 0

def VsockStream.peerFreeSpace (s : VsockStream) : UInt32 :=
  saturatingSub s.peerBufAlloc (saturatingSub s.txCnt s.peerFwdCnt)

def VsockStream.freeSpace (s : VsockStream) : UInt32 :=
  saturatingSub VSOCK_BUF_ALLOC (saturatingSub s.rxCnt s.lastFwdCnt)

def VsockStream.header (s : VsockStream) (op : UInt16) (dataLen flags fwdCnt : UInt32) : Header where
  srcCid := s.addr.localAddr.lowCid
  dstCid := s.addr.remoteAddr.lowCid
  srcPort := s.addr.localAddr.port
  dstPort := s.addr.remoteAddr.port
  dataLen := dataLen
  type := TYPE_STREAM
  op := op
  flags := flags
  bufAlloc := VSOCK_BUF_ALLOC
  fwdCnt := fwdCnt

section

variable {τ : Type} (T : Transport τ)

def bindPort (port : UInt32) (s : Socket τ) : Socket τ :=
  { s with
    stream := { s.stream with addr :=
      { s.stream.addr with localAddr := { s.stream.addr.localAddr with port := port } } }
    net := { s.net with usedPort := port :: s.net.usedPort } }

def bind (addr : VsockAddr) : StreamProgram τ Unit := do
  let used ← observe fun s => s.net.usedPort
  ensure (addr.port ∉ used) (.failed .addressAlreadyUsed)
  update (bindPort addr.port)

def startListening (backlog : UInt32) (s : Socket τ) : Socket τ :=
  { s with
    stream := { s.stream with listenBacklog := backlog, state := .listening }
    net := addBinding s.stream.addr.localAddr s.net }

def listen (backlog : UInt32) : StreamProgram τ Unit := do
  let s ← observe Socket.stream
  ensure (s.state = .closed) (.failed .illegal)
  update (startListening backlog)

def vsockTransportDequeue : StreamProgram τ Octets := do
  let s ← observe Socket.stream
  transport (T.dequeue s.addr s.transportContext)

def takes (s : Socket τ) (header : Header) (data : Octets) : Bool :=
  (T.enqueue s.stream.transportContext header.bytes data s.net).1.isOk

def recordPosted (header : Header) (data : Octets) (s : Socket τ) : Socket τ :=
  recorded (.posted header (takes T s header data)) id s

def sendVsockPkt (header : Header) (data : Octets) : StreamProgram τ Nat := do
  update (withStream fun s => { s with lastFwdCnt := s.rxCnt })
  update (recordPosted T header data)
  let s ← observe Socket.stream
  transport (T.enqueue s.transportContext header.bytes data)

/-- The answer to a request goes to the addresses in its header. -/
def response (s : VsockStream) (request : Octets) : Header where
  srcCid := s.addr.localAddr.lowCid
  dstCid := Packet.srcCid request
  srcPort := s.addr.localAddr.port
  dstPort := Packet.srcPort request
  dataLen := 0
  type := TYPE_STREAM
  op := OP_RESPONSE
  flags := 0
  bufAlloc := VSOCK_BUF_ALLOC
  fwdCnt := 0

def accept : StreamProgram τ VsockStream := do
  let s ← observe Socket.stream
  ensure (s.state = .listening) (.failed .illegal)
  let recv ← vsockTransportDequeue T
  newChecked recv
  ensure (Packet.op recv = OP_REQUEST) (.failed .illegal)
  let request := recv.take HEADER_LEN
  newChecked request
  let _ ← sendVsockPkt T (response s request) []
  let addr : VsockAddrPair :=
    ⟨s.addr.localAddr, .new (Packet.srcCid request).toUInt32 (Packet.srcPort request)⟩
  let stream := { VsockStream.unconnected addr 0 with
    state := .established
    peerFwdCnt := Packet.fwdCnt request
    peerBufAlloc := Packet.bufAlloc request }
  update fun s => { s with net := addConnection addr s.net }
  return stream

def Accepts (s : VsockStream) (packet : Octets) : Prop :=
  Packet.type packet = TYPE_STREAM ∧ Packet.dstCid packet = s.addr.localAddr.lowCid ∧
    Packet.dstPort packet = s.addr.localAddr.port ∧ Packet.op packet = OP_RESPONSE ∧
    Packet.srcPort packet = s.addr.remoteAddr.port ∧
    Packet.srcCid packet = s.addr.remoteAddr.lowCid
  deriving Decidable

/-- The new remote address, and its entry in the connection map. -/
def startConnection (addr : VsockAddr) (s : Socket τ) : Socket τ :=
  let pair : VsockAddrPair := { s.stream.addr with remoteAddr := addr }
  { s with stream := { s.stream with addr := pair }, net := addConnection pair s.net }

def establish (bufAlloc fwdCnt : UInt32) : Socket τ → Socket τ :=
  recorded (.opened bufAlloc fwdCnt) fun s =>
    { s with state := .established, peerBufAlloc := bufAlloc, peerFwdCnt := fwdCnt }

def connect (addr : VsockAddr) : StreamProgram τ Unit := do
  let s ← observe Socket.stream
  ensure (s.state = .closed) (.failed .illegal)
  update (startConnection addr)
  let s ← observe Socket.stream
  let _ ← sendVsockPkt T (s.header OP_REQUEST 0 0 0) []
  update (withStream fun s => { s with state := .requestSend })
  let recv ← vsockTransportDequeue T
  newChecked recv
  ensure (Accepts s recv) (.failed .refused)
  update (establish (Packet.bufAlloc recv) (Packet.fwdCnt recv))

def closeConnection (s : Socket τ) : Socket τ :=
  { s with
    stream := { s.stream with state := .closed }
    net := removeConnection s.stream.addr s.net }

def reset : StreamProgram τ Unit := do
  let s ← observe Socket.stream
  ensure (s.state = .closing) (.failed .illegal)
  let recv ← vsockTransportDequeue T
  newChecked recv
  if Packet.op recv = OP_RST then do
    let _ ← sendVsockPkt T (s.header OP_RST 0 0 s.rxCnt) []
    update closeConnection
  else update (withStream fun s => { s with state := .closing })

def stopListening (s : Socket τ) : Socket τ :=
  { s with
    stream := { s.stream with state := .closed }
    net := removeBinding s.stream.addr.localAddr s.net }

def shutdown : StreamProgram τ Unit := do
  let s ← observe Socket.stream
  if s.state = .listening then update stopListening
  else if s.state = .established then do
    let flags := FLAG_SHUTDOWN_READ ||| FLAG_SHUTDOWN_WRITE
    let _ ← sendVsockPkt T (s.header OP_SHUTDOWN 0 flags s.rxCnt) []
    update (withStream fun s => { s with state := .closing })
    reset T
  else fail .illegal

def VsockStream.creditUpdate (s : VsockStream) : Header := s.header OP_CREDIT_UPDATE 0 0 s.rxCnt

def sendCreditUpdate : StreamProgram τ Unit := do
  let s ← observe Socket.stream
  let _ ← sendVsockPkt T s.creditUpdate []

/-- The free space is less than a packet of the largest size. -/
def Low (s : VsockStream) : Prop := s.freeSpace < T.MAX_VSOCK_PKT_DATA_LEN.toUInt32
  deriving Decidable

abbrev updateLowCredit : StreamProgram τ Unit := do
  let s ← observe Socket.stream
  if Low T s then sendCreditUpdate T else pure ()

def countReceived (dataLen : UInt32) : Socket τ → Socket τ :=
  withStream fun s => { s with rxCnt := s.rxCnt + dataLen }

def recordArrived (dataLen : UInt32) (buffer : Octets) (s : Socket τ) : Socket τ :=
  let t := countReceived dataLen s
  recorded (.arrived dataLen buffer (!Low T t.stream || takes T t t.stream.creditUpdate [])) id s

def queuePayload (payload : Octets) : Socket τ → Socket τ :=
  withStream fun s => { s with dataQueue := s.dataQueue ++ [payload] }

/-- The payload is queued after the credit update has been sent. -/
def storePayload (dataLen : UInt32) (recv : Octets) : StreamProgram τ Unit := do
  update (recordArrived T dataLen recv)
  ensure (dataLen.toNat ≤ recv.length) (.failed .illegal)
  update (countReceived dataLen)
  updateLowCredit T
  update (queuePayload (recv.take dataLen.toNat))

/-- The body of the branch for a payload of this length. -/
def recvPayload (dataLen : UInt32) : StreamProgram τ Unit := do
  let recv ← vsockTransportDequeue T
  storePayload T dataLen recv

def storeCredit (bufAlloc fwdCnt : UInt32) : Socket τ → Socket τ :=
  recorded (.credit bufAlloc fwdCnt) fun s =>
    { s with peerBufAlloc := bufAlloc, peerFwdCnt := fwdCnt }

def recordReceived (packet : Octets) (s : Socket τ) : Socket τ :=
  recorded (.received s.stream.state packet) id s

def recvPacketConnected : StreamProgram τ Unit := do
  let packet ← vsockTransportDequeue T
  newChecked packet
  update (storeCredit (Packet.bufAlloc packet) (Packet.fwdCnt packet))
  update (recordReceived packet)
  if Packet.op packet = OP_SHUTDOWN then shutdown T
  else if Packet.op packet = OP_RST then do
    reset T
    fail .illegal
  else if Packet.op packet = OP_RW then
    if 0 < Packet.dataLen packet then recvPayload T (Packet.dataLen packet) else pure ()
  else if Packet.op packet = OP_CREDIT_UPDATE then
    update (storeCredit (Packet.bufAlloc packet) (Packet.fwdCnt packet))
  else if Packet.op packet = OP_CREDIT_REQUEST then sendCreditUpdate T
  else fail .illegal

/-- Wait for space at the peer, for at most this many packets. -/
def awaitCredit : Nat → StreamProgram τ Unit
  | 0 => raise .pending
  | turns + 1 => do
    let s ← observe Socket.stream
    if s.peerFreeSpace = 0 then do
      recvPacketConnected T
      awaitCredit turns
    else pure ()

def recordSent (n : Nat) : Socket τ → Socket τ :=
  recorded (.sent n) fun s => { s with txCnt := s.txCnt + n.toUInt32 }

/-- `self.tx_cnt += n as u32`. -/
def countSent (overflowChecks : Bool) (n : Nat) : StreamProgram τ Unit := do
  let s ← observe Socket.stream
  ensure (¬(overflowChecks = true ∧ 2 ^ 32 ≤ s.txCnt.toNat + n % 2 ^ 32)) .panicked
  update (recordSent n)

/-- One packet of `send`: the part behind the wait for space. -/
def sendChunk (overflowChecks : Bool) (buf : Octets) (bytesSent : Nat) : StreamProgram τ Nat := do
  let s ← observe Socket.stream
  let chunkSize := min (min (buf.length - bytesSent) T.MAX_VSOCK_PKT_DATA_LEN) s.peerFreeSpace.toNat
  let n ← sendVsockPkt T (s.header OP_RW chunkSize.toUInt32 0 s.rxCnt)
    ((buf.drop bytesSent).take chunkSize)
  countSent overflowChecks n
  return n

def sendLoop (overflowChecks : Bool) (buf : Octets) : Nat → Nat → StreamProgram τ Unit
  | 0, _ => raise .pending
  | turns + 1, bytesSent =>
    if bytesSent < buf.length then do
      awaitCredit T turns
      let n ← sendChunk T overflowChecks buf bytesSent
      sendLoop overflowChecks buf turns (bytesSent + n)
    else pure ()

def send (overflowChecks : Bool) (turns : Nat) (buf : Octets) : StreamProgram τ Nat := do
  let s ← observe Socket.stream
  ensure (s.state = .established) (.failed .illegal)
  sendLoop T overflowChecks buf turns 0
  return buf.length

def awaitData : Nat → StreamProgram τ Unit
  | 0 => raise .pending
  | turns + 1 => do
    let s ← observe Socket.stream
    if s.dataQueue = [] then do
      recvPacketConnected T
      awaitData turns
    else pure ()

/-- The copying loop of `recv`: what it puts into this much room, and what stays queued. -/
def drain : List Octets → Nat → Octets × List Octets
  | [], _ => ([], [])
  | head :: rest, room =>
    if room = 0 then ([], head :: rest)
    else if head.length ≤ room then
      let later := drain rest (room - head.length)
      (head ++ later.1, later.2)
    else (head.take room, head.drop room :: rest)

def drainInto (room : Nat) (s : Socket τ) : Socket τ :=
  let out := drain s.stream.dataQueue room
  recorded (.returned out.1) (fun stream => { stream with dataQueue := out.2 }) s

/-- The bytes that `recv` copies into a buffer of this length. -/
def recv (turns room : Nat) : StreamProgram τ Octets := do
  let s ← observe Socket.stream
  ensure (s.state = .established) (.failed .illegal)
  awaitData T turns
  let s ← observe Socket.stream
  update (drainInto room)
  return (drain s.dataQueue room).1

end

structure World (τ : Type) where
  ends : List Endpoint
  net : Net τ

/-- A call on a stream. The number of turns bounds the waiting of its loops. -/
inductive Call where
  | bind (addr : VsockAddr)
  | listen (backlog : UInt32)
  | accept
  | connect (addr : VsockAddr)
  | send (turns : Nat) (buf : Octets)
  | recv (turns room : Nat)
  | shutdown

inductive Op where
  | newWithCid (cid transportContext : UInt64)
  | call (i : Nat) (c : Call)

section

variable {τ : Type} (T : Transport τ) (overflowChecks : Bool)

/-- The state behind a call, and the stream that it made. -/
def invoke : Call → Socket τ → Socket τ × Option VsockStream
  | .bind addr, s => ((bind addr s).2, none)
  | .listen backlog, s => ((listen backlog s).2, none)
  | .accept, s => ((accept T s).2, (accept T s).1.toOption)
  | .connect addr, s => ((connect T addr s).2, none)
  | .send turns buf, s => ((send T overflowChecks turns buf s).2, none)
  | .recv turns room, s => ((recv T turns room s).2, none)
  | .shutdown, s => ((shutdown T s).2, none)

def Endpoint.accepted (s : VsockStream) : Endpoint := ⟨s, [.opened s.peerBufAlloc s.peerFwdCnt]⟩

def step (w : World τ) : Op → World τ
  | .newWithCid cid transportContext =>
    match newWithCid cid transportContext w.net with
    | (.ok stream, net) => ⟨w.ends ++ [⟨stream, []⟩], net⟩
    | (.error _, net) => ⟨w.ends, net⟩
  | .call i c =>
    match w.ends[i]? with
    | none => w
    | some e =>
      let out := invoke T overflowChecks c ⟨e.stream, e.log, w.net⟩
      ⟨w.ends.set i ⟨out.1.stream, out.1.log⟩ ++ (out.2.map Endpoint.accepted).toList, out.1.net⟩

def run (w : World τ) (ops : List Op) : World τ := ops.foldl (step T overflowChecks) w

def World.initial (host : τ) : World τ :=
  ⟨[], ⟨fun _ => none, fun _ => none, [], 40000, [], host⟩⟩

end

end MigTd.Vsock.Stream
