/- source: vsock/src/transport/vmcall.rs, transport/virtio_pci.rs
   digest: The two transports of the vsock device against a host that answers as it likes. -/

import MigTd.Vsock.Stream

set_option autoImplicit false

namespace MigTd.Vsock.Transports

open Lib.ByteCodec Lib.StateProgram Protocol Vsock.Stream
open Virtio.Queue (SharedMemory VirtQueue VirtioError VirtqueueBuf add popUsed)

/-! Packet queues. Both transports have these two functions. -/

section

variable {τ : Type}

/-- An empty buffer is not queued. A packet that no connection and no listener wants is dropped. -/
def pushStreamQueues (addrs : VsockAddrPair) (buf : Octets) (net : Net τ) : Net τ :=
  if buf = [] then net
  else match net.connectionPktQueues addrs with
    | some queue =>
      { net with
        connectionPktQueues :=
          Function.update net.connectionPktQueues addrs (some (queue ++ [buf])) }
    | none => match net.bindingPktQueues addrs.localAddr with
      | some queue =>
        { net with
          bindingPktQueues :=
            Function.update net.bindingPktQueues addrs.localAddr (some (queue ++ [buf])) }
      | none => net

def popStreamQueues (addrs : VsockAddrPair) : NetProgram τ (Option Octets) := do
  let net ← observe id
  match net.connectionPktQueues addrs with
  | some [] => return none
  | some (front :: queue) => do
    update fun net =>
      { net with connectionPktQueues := Function.update net.connectionPktQueues addrs (some queue) }
    return some front
  | none => match net.bindingPktQueues addrs.localAddr with
    | none => return none
    | some [] => return none
    | some (front :: queue) => do
      update fun net =>
        { net with
          bindingPktQueues := Function.update net.bindingPktQueues addrs.localAddr (some queue) }
      return some front

def failTransport {α : Type} (e : VsockTransportError) : NetProgram τ α := raise (.failed e)

/-- `Packet::new_checked` with the error of the transport. -/
def headerChecked (header : Octets) : NetProgram τ Unit :=
  lift ((Packet.check header).mapError fun _ => .failed .invalidVsockPacket)

def arrival (header data : Octets) (net : Net τ) : Arrival :=
  ⟨header, data, (net.connectionPktQueues (Packet.key header)).isSome⟩

def arrive (header data : Octets) (net : Net τ) : Net τ :=
  { net with arrived := net.arrived ++ [arrival header data net] }

end

namespace Vmcall

def CURRENT_VERSION : UInt8 := 0
def COMMAND_SEND : UInt8 := 3
def COMMAND_RECV : UInt8 := 4
def MAX_VSOCK_MTU : Nat := 0x1000 * 16
def VMCALL_COMMON_HEADER_LEN : Nat := 36
def VMCALL_STATUS_RESERVED : Nat := 0xffffffff
def VMCALL_REPLY_DATA_HEADER_LEN : Nat := 12
def MAX_VSOCK_PKT_DATA_LEN : Nat := MAX_VSOCK_MTU - VMCALL_COMMON_HEADER_LEN - HEADER_LEN
def RESPONSE_HDR_LEN : Nat := 24

def VMCALL_SERVICE_MIGTD_GUID : Octets :=
  [0x30, 0x63, 0x0e, 0xe6, 0x09, 0x1e, 0x87, 0x43, 0xa4, 0x44, 0x8f, 0x32, 0xb8, 0xd6, 0x11, 0xe5]

/-- What the environment does in one call of the service: whether the pages could be allocated and
the call was taken, and the response page at each poll. -/
structure ServiceCall where
  allocated : Bool
  taken : Bool
  polls : List Octets

/-- `Response::new`: the part of the page that its length field covers. -/
def responseNew (response : Octets) : Option Octets :=
  if response.length < RESPONSE_HDR_LEN then none
  else
    let length := fieldAt response 16 20
    if length < RESPONSE_HDR_LEN ∨ response.length < length then none
    else some (response.take length)

def responseData (reply : Octets) : Octets := reply.drop RESPONSE_HDR_LEN

/-- The sanity check on a reply to this command. -/
def Sane (command : UInt8) (mid : UInt64) (reply : Octets) : Prop :=
  VMCALL_REPLY_DATA_HEADER_LEN ≤ (responseData reply).length ∧
    reply.take 16 = VMCALL_SERVICE_MIGTD_GUID ∧ fieldAt reply 20 24 = 0 ∧
    (responseData reply).getD 0 0 = CURRENT_VERSION ∧ (responseData reply).getD 1 0 = command ∧
    fieldAt (responseData reply) 4 VMCALL_REPLY_DATA_HEADER_LEN = mid.toNat
  deriving Decidable

/-- Poll until the status is set; the data of the reply. -/
def pollReply (command : UInt8) (mid : UInt64) :
    List Octets → Except (Halt VsockTransportError) Octets
  | [] => .error .pending
  | page :: later =>
    match responseNew page with
    | none => .error (.failed .invalidParameter)
    | some reply =>
      if fieldAt reply 20 24 = VMCALL_STATUS_RESERVED then pollReply command mid later
      else if Sane command mid reply then .ok (responseData reply)
      else .error (.failed .invalidParameter)

/-- The common part of `vmcall_service_migtd_send` and `vmcall_service_migtd_receive`, with the
allocation of their pages. -/
def service (command : UInt8) (mid : UInt64) : NetProgram (List ServiceCall) Octets := do
  let net ← observe id
  match net.host with
  | [] => raise .pending
  | call :: later => do
    update fun net => { net with host := later }
    ensure (call.allocated = true) (.failed .dmaAllocation)
    ensure (call.taken = true) (.failed .vmcall)
    lift (pollReply command mid call.polls)

/-- The check sees the header without the data behind it. -/
def recvPacket {τ : Type} (pkt : Octets) : NetProgram τ Unit := do
  update (arrive (pkt.take HEADER_LEN) (pkt.drop HEADER_LEN))
  ensure (HEADER_LEN ≤ pkt.length) (.failed .invalidVsockPacket)
  let header := pkt.take HEADER_LEN
  headerChecked header
  let dataLen := (Packet.dataLen header).toNat
  ensure (dataLen = 0 ∨ dataLen ≤ pkt.length - HEADER_LEN) (.failed .invalidParameter)
  let data := (pkt.drop HEADER_LEN).take dataLen
  update (pushStreamQueues (Packet.key header) header)
  update (pushStreamQueues (Packet.key header) data)

def vsockTransportEnqueue (context : UInt64) (hdr buf : Octets) :
    NetProgram (List ServiceCall) Nat := do
  ensure (hdr.length = HEADER_LEN ∧ buf.length ≤ MAX_VSOCK_PKT_DATA_LEN) (.failed .invalidParameter)
  let _ ← service COMMAND_SEND context
  return buf.length

def vsockTransportDequeue (addrs : VsockAddrPair) (context : UInt64) :
    NetProgram (List ServiceCall) Octets := do
  match ← popStreamQueues addrs with
  | some data => return data
  | none => do
    let reply ← service COMMAND_RECV context
    recvPacket (reply.drop VMCALL_REPLY_DATA_HEADER_LEN)
    match ← popStreamQueues addrs with
    | some data => return data
    | none => failTransport .invalidVsockPacket

end Vmcall

def vmcall : Transport (List Vmcall.ServiceCall) where
  MAX_VSOCK_PKT_DATA_LEN := Vmcall.MAX_VSOCK_PKT_DATA_LEN
  enqueue := Vmcall.vsockTransportEnqueue
  dequeue := Vmcall.vsockTransportDequeue

namespace Virtio

def RX_QUEUE_PREFILL_NUM : Nat := 16
def VSOCK_DEFAULT_BUF_SIZE : Nat := PAGE_SIZE
def MAX_VSOCK_PKT_DATA_LEN : Nat := 0x1000 * 16

structure DmaRecord where
  dmaAddr : UInt64
  dmaSize : Nat
  deriving DecidableEq, Repr

structure VirtioVsock where
  rx : VirtQueue
  tx : VirtQueue
  dmaRecord : UInt64 → Option DmaRecord
  queueDmaPages : UInt64
  rxBufNum : Nat

/-- What the host has written when the driver polls: both rings and the DMA memory. -/
structure HostMove where
  rx : SharedMemory
  tx : SharedMemory
  memory : UInt64 → UInt8

structure Host where
  device : Option VirtioVsock
  memory : UInt64 → UInt8
  moves : List HostMove
  pages : List (Option UInt64)
  /-- The outcomes of the calls that notify a queue. -/
  kicks : List (Except VirtioError Unit)
  /-- The pages that were given back, oldest first. No function reads them. -/
  freed : List DmaRecord

abbrev HostProgram (α : Type) : Type := Program Host (Halt VsockTransportError) α

def readDma (memory : UInt64 → UInt8) (addr : UInt64) (len : Nat) : Octets :=
  (List.range len).map fun i => memory (addr + i.toUInt64)

def getDevice : HostProgram VirtioVsock := do
  let host ← observe id
  lift (orElse host.device (.failed .initilization))

def setDevice (device : VirtioVsock) (host : Host) : Host := { host with device := some device }

def allocateDmaMemory (size : Nat) : HostProgram DmaRecord := do
  let device ← getDevice
  let host ← observe id
  update fun host => { host with pages := host.pages.tail }
  let dmaAddr ← lift (orElse (host.pages.headD none) (.failed .dmaAllocation))
  let record : DmaRecord := ⟨dmaAddr, alignUp size⟩
  update (setDevice { device with
    dmaRecord := Function.update device.dmaRecord dmaAddr (some record) })
  return record

/-- The pages of the rings are never freed here. -/
def freeDmaMemory (dmaAddr : UInt64) : HostProgram Unit := do
  let device ← getDevice
  ensure (dmaAddr ≠ device.queueDmaPages) (.failed .dmaAllocation)
  let record ← lift (orElse (device.dmaRecord dmaAddr) (.failed .dmaAllocation))
  update fun host => { host with freed := host.freed ++ [record] }
  update (setDevice { device with dmaRecord := Function.update device.dmaRecord dmaAddr none })

/-- `kick_queue`: selecting and notifying a queue can each fail. -/
def kickQueue : HostProgram Unit := do
  let host ← observe id
  update fun host => { host with kicks := host.kicks.drop 2 }
  lift ((host.kicks.headD (.ok ())).mapError fun e => .failed (.virtio e))
  lift ((host.kicks.tail.headD (.ok ())).mapError fun e => .failed (.virtio e))

/-- `self.rx_buf_num -= n` on a machine word. -/
def lowerRxBufNum (overflowChecks : Bool) (n : Nat) : HostProgram Unit := do
  let device ← getDevice
  ensure (n ≤ device.rxBufNum ∨ overflowChecks = false) .panicked
  update (setDevice { device with rxBufNum := (device.rxBufNum + 2 ^ 64 - n) % 2 ^ 64 })

/-- `add` on one of the queues. -/
def addTo (get : VirtioVsock → VirtQueue) (put : VirtioVsock → VirtQueue → VirtioVsock)
    (g2h h2g : List VirtqueueBuf) : HostProgram Nat := do
  let device ← getDevice
  let out := add g2h h2g (get device)
  update (setDevice (put device out.2))
  lift (out.1.mapError fun e => .failed (.virtio e))

/-- `pop_used` on one of the queues; the buffers that it hands back. -/
def popUsedFrom (get : VirtioVsock → VirtQueue) (put : VirtioVsock → VirtQueue → VirtioVsock) :
    HostProgram (List VirtqueueBuf × List VirtqueueBuf) := do
  let device ← getDevice
  let out := popUsed ⟨get device, [], []⟩
  update (setDevice (put device out.2.queue))
  let _ ← lift (out.1.mapError fun e => .failed (.virtio e))
  return (out.2.g2h, out.2.h2g)

def setRx (device : VirtioVsock) (queue : VirtQueue) : VirtioVsock := { device with rx := queue }

def setTx (device : VirtioVsock) (queue : VirtQueue) : VirtioVsock := { device with tx := queue }

/-- The filling loop. Each turn adds two buffers. -/
def fillLoop : Nat → HostProgram Unit
  | 0 => pure ()
  | turns + 1 => do
    let device ← getDevice
    if device.rxBufNum < RX_QUEUE_PREFILL_NUM then do
      let header ← allocateDmaMemory HEADER_LEN
      let data ← allocateDmaMemory VSOCK_DEFAULT_BUF_SIZE
      let _ ← addTo VirtioVsock.rx setRx []
        [⟨header.dmaAddr, HEADER_LEN.toUInt32⟩, ⟨data.dmaAddr, VSOCK_DEFAULT_BUF_SIZE.toUInt32⟩]
      let device ← getDevice
      update (setDevice { device with rxBufNum := device.rxBufNum + 2 })
      fillLoop turns
    else pure ()

def rxQueueFill : HostProgram Unit := do
  let device ← getDevice
  if RX_QUEUE_PREFILL_NUM / 2 < device.rxBufNum then pure ()
  else do
    fillLoop RX_QUEUE_PREFILL_NUM
    kickQueue

def onHost {α : Type} (m : HostProgram α) : NetProgram Host α :=
  embed Net.host (fun net host => { net with host := host }) id m

theorem getDevice_run {host : Host} {device : VirtioVsock} (h : host.device = some device) :
    getDevice host = (.ok device, host) := by
  refine bind_ok.mpr ⟨host, host, rfl, ?_⟩
  rw [h]
  rfl

theorem onHost_ok {α : Type} {m : HostProgram α} {a : α} {host : Host} (net : Net Host)
    (h : m net.host = (.ok a, host)) : onHost m net = (.ok a, { net with host := host }) :=
  embed_ok.mpr ⟨host, h, rfl⟩

/-- The header of a packet, copied out of its DMA buffer. A buffer that is not on record is taken
as empty. -/
def readHeader (buf : VirtqueueBuf) : HostProgram Octets := do
  let device ← getDevice
  let host ← observe id
  if (device.dmaRecord buf.addr).isSome then do
    ensure (buf.len.toNat = HEADER_LEN) (.failed .invalidVsockPacket)
    freeDmaMemory buf.addr
    return readDma host.memory buf.addr buf.len.toNat
  else return []

/-- The data of a packet: the whole buffer, whatever the length in the header is. -/
def readData (dataLen : UInt32) (buf : VirtqueueBuf) : HostProgram Octets := do
  let device ← getDevice
  let host ← observe id
  if dataLen = 0 then return []
  else do
    ensure (dataLen ≤ buf.len) (.failed .invalidVsockPacket)
    match device.dmaRecord buf.addr with
    | some record => return readDma host.memory buf.addr (min buf.len.toNat record.dmaSize)
    | none => return []

def recvPkt (first second : VirtqueueBuf) : NetProgram Host Unit := do
  update fun net => arrive (readDma net.host.memory first.addr first.len.toNat)
    (readDma net.host.memory second.addr second.len.toNat) net
  let header ← onHost (readHeader first)
  headerChecked header
  let data ← onHost (readData (Packet.dataLen header) second)
  onHost (freeDmaMemory second.addr)
  update (pushStreamQueues (Packet.key header) header)
  update (pushStreamQueues (Packet.key header) data)

def popUsedRx (overflowChecks : Bool) : NetProgram Host Unit := do
  let bufs ← onHost (popUsedFrom VirtioVsock.rx setRx)
  match bufs.2 with
  | [first, second] => do
    onHost (lowerRxBufNum overflowChecks 2)
    recvPkt first second
    onHost rxQueueFill
  | h2g => do
    onHost (lowerRxBufNum overflowChecks h2g.length)
    failTransport .invalidVsockPacket

/-- The host writes the rings and the DMA memory before a poll. -/
def applyMove (move : HostMove) (later : List HostMove) (net : Net Host) : Net Host :=
  { net with host := { net.host with
      device := net.host.device.map fun device =>
        { device with
          rx := { device.rx with shared := move.rx }
          tx := { device.tx with shared := move.tx } }
      memory := move.memory
      moves := later } }

def freeAll : List VirtqueueBuf → NetProgram Host Unit
  | [] => pure ()
  | buf :: rest => do
    onHost (freeDmaMemory buf.addr)
    freeAll rest

/-- Poll the transmit queue until a buffer is used, and free the buffers of its chain. -/
def pollTx : List HostMove → NetProgram Host Unit
  | [] => raise .pending
  | move :: later => do
    update (applyMove move later)
    let device ← onHost getDevice
    if device.tx.CanPop then do
      let bufs ← onHost (popUsedFrom VirtioVsock.tx setTx)
      freeAll bufs.1
    else pollTx later

def dmaBuffer (content : Octets) : HostProgram VirtqueueBuf := do
  let dma ← allocateDmaMemory content.length
  return ⟨dma.dmaAddr, content.length.toUInt32⟩

/-- The chain of a packet to send; without a payload it is the header alone. -/
def sendChain (hdr buf : Octets) : HostProgram (List VirtqueueBuf) := do
  let first ← dmaBuffer hdr
  if buf = [] then return [first]
  else do
    let second ← dmaBuffer buf
    return [first, second]

def vsockTransportEnqueue (_context : UInt64) (hdr buf : Octets) : NetProgram Host Nat := do
  ensure (hdr.length = HEADER_LEN ∧ buf.length ≤ MAX_VSOCK_PKT_DATA_LEN) (.failed .invalidParameter)
  let g2h ← onHost (sendChain hdr buf)
  let _ ← onHost (addTo VirtioVsock.tx setTx g2h [])
  onHost kickQueue
  let net ← observe id
  pollTx net.host.moves
  return buf.length

/-- Take a packet out of the receive queue if there is one. -/
def receiveUsed (overflowChecks : Bool) : NetProgram Host Unit := do
  let device ← onHost getDevice
  if device.rx.CanPop then popUsedRx overflowChecks else pure ()

/-- Poll the receive queue until the queue of the connection has an entry. -/
def pollRx (overflowChecks : Bool) (addrs : VsockAddrPair) :
    List HostMove → NetProgram Host Octets
  | [] => raise .pending
  | move :: later => do
    update (applyMove move later)
    receiveUsed overflowChecks
    match ← popStreamQueues addrs with
    | some data => return data
    | none => pollRx overflowChecks addrs later

def vsockTransportDequeue (overflowChecks : Bool) (addrs : VsockAddrPair) (_context : UInt64) :
    NetProgram Host Octets := do
  match ← popStreamQueues addrs with
  | some data => return data
  | none => do
    let net ← observe id
    pollRx overflowChecks addrs net.host.moves

end Virtio

def virtio (overflowChecks : Bool) : Transport Virtio.Host where
  MAX_VSOCK_PKT_DATA_LEN := Virtio.MAX_VSOCK_PKT_DATA_LEN
  enqueue := Virtio.vsockTransportEnqueue
  dequeue := Virtio.vsockTransportDequeue overflowChecks

end MigTd.Vsock.Transports
