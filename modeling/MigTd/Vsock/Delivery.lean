/- source: vsock/src/transport/vmcall.rs, transport/virtio_pci.rs, vsock/src/stream.rs
   digest: What becomes of a packet at its transport, and what reaches the streams. -/

import MigTd.Vsock.Alignment
import MigTd.Vsock.ByteStream

set_option autoImplicit false

namespace MigTd.Vsock.Delivery

open Lib.ByteCodec Lib.StateProgram Vsock.Alignment ByteStream Protocol Vsock.Stream Transports
  Virtio.Queue

/-- What becomes of a packet with this header for a connection: without a payload it is appended
to the queue of its connection and to no other, and with one it is refused. -/
structure Handled {τ : Type} (header : Octets) (net : Net τ)
    (out : Except (Halt VsockTransportError) Unit × Net τ) : Prop where
  bare : Packet.dataLen header = 0 → ∀ queue,
    net.connectionPktQueues (Packet.key header) = some queue →
    out.1 = .ok () ∧
      out.2.connectionPktQueues = Function.update net.connectionPktQueues (Packet.key header)
        (some (queue ++ [header])) ∧
      out.2.bindingPktQueues = net.bindingPktQueues
  refused : Packet.dataLen header ≠ 0 → out.1 = .error (.failed .invalidVsockPacket) ∧
      out.2.connectionPktQueues = net.connectionPktQueues ∧
      out.2.bindingPktQueues = net.bindingPktQueues

structure WellFormed (header : Octets) : Prop where
  length : header.length = HEADER_LEN
  type : Packet.type header = TYPE_STREAM
  op : ¬(Packet.op header = 0 ∨ 7 < Packet.op header)

theorem WellFormed.check_iff {header : Octets} (h : WellFormed header) :
    Packet.check header = .ok () ↔ Packet.dataLen header = 0 := by
  constructor
  · intro hcheck
    exact dataLen_of_check h.length hcheck
  · intro hzero
    rw [check_ok]
    refine ⟨h.length.ge, h.type, h.op, ?_⟩
    rw [hzero, h.length]
    exact le_rfl

section

variable {τ : Type} {header data : Octets} {addrs : VsockAddrPair} {queue : List Octets}

theorem headerChecked_bare (h : WellFormed header) (hzero : Packet.dataLen header = 0)
    (net : Net τ) : headerChecked header net = (.ok (), net) :=
  lift_ok.mpr ⟨mapError_ok.mpr (h.check_iff.mpr hzero), rfl⟩

theorem headerChecked_refused (h : WellFormed header) (hdata : Packet.dataLen header ≠ 0)
    (net : Net τ) : headerChecked header net = (.error (.failed .invalidVsockPacket), net) := by
  refine lift_error.mpr ⟨?_, rfl⟩
  cases hcheck : Packet.check header with
  | ok u => exact absurd (h.check_iff.mp hcheck) hdata
  | error e => rfl

private theorem push_connection {buf : Octets} {net : Net τ} (hbuf : buf ≠ [])
    (hqueue : net.connectionPktQueues addrs = some queue) :
    pushStreamQueues addrs buf net =
      { net with connectionPktQueues :=
          Function.update net.connectionPktQueues addrs (some (queue ++ [buf])) } := by
  unfold pushStreamQueues
  rw [if_neg hbuf, hqueue]

theorem queued_header {buf nothing : Octets} {net : Net τ}
    (hbuf : buf ≠ []) (hnothing : nothing = [])
    (hqueue : net.connectionPktQueues addrs = some queue) :
    let out := (update (pushStreamQueues addrs buf) >>= fun _ =>
      update (pushStreamQueues addrs nothing) : NetProgram τ Unit) net
    out.1 = .ok () ∧ out.2.connectionPktQueues = Function.update net.connectionPktQueues addrs
        (some (queue ++ [buf])) ∧
      out.2.bindingPktQueues = net.bindingPktQueues := by
  subst hnothing
  intro out
  have hout : out = (.ok (), pushStreamQueues addrs buf net) := rfl
  rw [hout, push_connection hbuf hqueue]
  exact ⟨rfl, rfl, rfl⟩

theorem WellFormed.ne_nil (h : WellFormed header) : header ≠ [] := by
  rintro rfl
  cases h.length

end

theorem recvPacket_handled {τ : Type} {header data : Octets} (h : WellFormed header)
    (net : Net τ) : Handled header net (Vmcall.recvPacket (header ++ data) net) := by
  have hheader : (header ++ data).take HEADER_LEN = header := List.take_left' h.length
  have hlength : HEADER_LEN ≤ (header ++ data).length := by
    rw [List.length_append, h.length]
    exact Nat.le_add_right _ _
  unfold Vmcall.recvPacket
  rw [update_bind, run_bind_ok (a := ()) (ensure_ok.mpr ⟨hlength, rfl⟩), hheader]
  constructor
  · intro hzero queue hqueue
    rw [run_bind_ok (headerChecked_bare h hzero _), hzero,
      run_bind_ok (a := ()) (ensure_ok.mpr ⟨.inl rfl, rfl⟩)]
    exact queued_header h.ne_nil (List.take_zero) hqueue
  · intro hpayload
    rw [run_bind_error (headerChecked_refused h hpayload _)]
    exact ⟨rfl, rfl, rfl⟩

section

open Transports.Virtio

/-- A packet of two buffers that the driver posted. -/
structure Posted (first second : VirtqueueBuf) (device : VirtioVsock) : Prop where
  headerLength : first.len.toNat = HEADER_LEN
  headerRecord : ∃ record, device.dmaRecord first.addr = some record
  dataRecord : ∃ record, device.dmaRecord second.addr = some record
  distinct : second.addr ≠ first.addr
  noRing : first.addr ≠ device.queueDmaPages ∧ second.addr ≠ device.queueDmaPages

variable {device : VirtioVsock} {host : Host} {record : DmaRecord}

theorem freeDmaMemory_record {addr : UInt64}
    (hdevice : host.device = some device) (hring : addr ≠ device.queueDmaPages)
    (hrecord : device.dmaRecord addr = some record) :
    ∃ host' device', freeDmaMemory addr host = (.ok (), host') ∧ host'.device = some device' ∧
      device'.queueDmaPages = device.queueDmaPages ∧
      ∀ other, other ≠ addr → device'.dmaRecord other = device.dmaRecord other := by
  refine ⟨{ host with
      freed := host.freed ++ [record]
      device := some { device with dmaRecord := Function.update device.dmaRecord addr none } },
    { device with dmaRecord := Function.update device.dmaRecord addr none }, ?_, rfl, rfl, ?_⟩
  · unfold freeDmaMemory
    rw [run_bind_ok (getDevice_run hdevice), run_bind_ok (a := ()) (ensure_ok.mpr ⟨hring, rfl⟩),
      hrecord]
    rfl
  · intro other hother
    exact Function.update_of_ne hother _ _

theorem readHeader_record {host' : Host} {buf : VirtqueueBuf} (hdevice : host.device = some device)
    (hlength : buf.len.toNat = HEADER_LEN) (hrecord : device.dmaRecord buf.addr = some record)
    (hfree : freeDmaMemory buf.addr host = (.ok (), host')) :
    readHeader buf host = (.ok (readDma host.memory buf.addr buf.len.toNat), host') := by
  unfold readHeader
  rw [run_bind_ok (getDevice_run hdevice), observe_bind, hrecord, Option.isSome_some,
    if_pos rfl, run_bind_ok (a := ()) (ensure_ok.mpr ⟨hlength, rfl⟩), run_bind_ok hfree]
  rfl

private theorem readData_zero (buf : VirtqueueBuf)
    (hdevice : host.device = some device) : readData 0 buf host = (.ok [], host) := by
  unfold readData
  rw [run_bind_ok (getDevice_run hdevice), observe_bind, if_pos rfl]
  rfl

theorem recvPkt_handled {first second : VirtqueueBuf} {net : Net Host}
    (hdevice : net.host.device = some device) (hposted : Posted first second device)
    (h : WellFormed (readDma net.host.memory first.addr first.len.toNat)) :
    Handled (readDma net.host.memory first.addr first.len.toNat) net
      (recvPkt first second net) := by
  obtain ⟨record, hrecord⟩ := hposted.headerRecord
  obtain ⟨dataRecord, hdataRecord⟩ := hposted.dataRecord
  obtain ⟨host, rest, hfree, hrest, hring, hothers⟩ :=
    freeDmaMemory_record hdevice hposted.noRing.1 hrecord
  have hread := readHeader_record hdevice hposted.headerLength hrecord hfree
  unfold recvPkt
  rw [update_bind, run_bind_ok (onHost_ok (arrive _ _ net) hread)]
  constructor
  · intro hzero queue hqueue
    have hdata := (hothers second.addr hposted.distinct).trans hdataRecord
    obtain ⟨_, _, hagain, -⟩ := freeDmaMemory_record hrest (hring ▸ hposted.noRing.2) hdata
    rw [run_bind_ok (headerChecked_bare h hzero _), hzero,
      run_bind_ok (onHost_ok _ (readData_zero second hrest)),
      run_bind_ok (onHost_ok _ hagain)]
    exact queued_header h.ne_nil rfl hqueue
  · intro hpayload
    rw [run_bind_error (headerChecked_refused h hpayload _)]
    exact ⟨rfl, rfl, rfl⟩

end

def payload (a : Arrival) : Octets := a.data.take (Packet.dataLen a.header).toNat

def DataFor (addr : VsockAddrPair) (a : Arrival) : Prop :=
  a.connected = true ∧ Packet.op a.header = OP_RW ∧ Packet.key a.header = addr
  deriving Decidable

/-- What the stream with these addresses should get. -/
def expected (arrived : List Arrival) (addr : VsockAddrPair) : Octets :=
  (arrived.filter fun a => DataFor addr a).flatMap payload

theorem expected_nil {arrived : List Arrival} {addr : VsockAddrPair} :
    expected arrived addr = [] ↔ ∀ a ∈ arrived, DataFor addr a → payload a = [] := by
  unfold expected
  rw [List.flatMap_eq_nil_iff]
  constructor
  · intro h a ha hdata
    exact h a (List.mem_filter.mpr ⟨ha, decide_eq_true hdata⟩)
  · intro h a ha
    obtain ⟨hmem, hdata⟩ := List.mem_filter.mp ha
    exact h a hmem (of_decide_eq_true hdata)

private theorem arrivedBytes_nil {log : List StreamEvent}
    (h : ∀ dataLen buffer answered, .arrived dataLen buffer answered ∉ log) :
    arrivedBytes log = [] := by
  unfold arrivedBytes
  rw [List.flatMap_eq_nil_iff]
  intro event hevent
  cases event with
  | arrived dataLen buffer answered => exact absurd hevent (h dataLen buffer answered)
  | _ => rfl

/-- Every queue is a sequence of headers, and a stream gets what was sent to it if that was
nothing. -/
structure Exchanged {τ : Type} (w : World τ) : Prop where
  aligned : Aligned w.net
  delivered : ∀ e ∈ w.ends, arrivedBytes e.log = []
  complete : ∀ e ∈ w.ends, arrivedBytes e.log = expected w.net.arrived e.stream.addr ↔
    ∀ a ∈ w.net.arrived, DataFor e.stream.addr a → payload a = []

theorem run_exchanged {τ : Type} {T : Transport τ} (hT : HeadersOnly T) (overflowChecks : Bool)
    (host : τ) (ops : List Op) : Exchanged (run T overflowChecks (.initial host) ops) := by
  have hcalm := run_calm hT overflowChecks host ops
  have hnothing : ∀ e ∈ (run T overflowChecks (.initial host) ops).ends, arrivedBytes e.log = [] :=
    fun e he => arrivedBytes_nil (hcalm.idle e he).nothing
  refine ⟨hcalm.aligned, hnothing, ?_⟩
  intro e he
  rw [hnothing e he, ← expected_nil]
  exact eq_comm

/-- Both transports check a header without its payload. So headers are never mixed up with data,
and the data of a well-formed packet is delivered exactly if there is none. -/
theorem vsock_delivery_iff (overflowChecks : Bool) :
    (∀ (header data : Octets) (net : Net (List Vmcall.ServiceCall)), WellFormed header →
      Handled header net (Vmcall.recvPacket (header ++ data) net)) ∧
    (∀ (first second : VirtqueueBuf) (net : Net Virtio.Host) (device : Virtio.VirtioVsock),
      net.host.device = some device → Posted first second device →
      WellFormed (Virtio.readDma net.host.memory first.addr first.len.toNat) →
      Handled (Virtio.readDma net.host.memory first.addr first.len.toNat) net
        (Virtio.recvPkt first second net)) ∧
    (∀ host ops, Exchanged (run vmcall overflowChecks (.initial host) ops)) ∧
    (∀ host ops, Exchanged (run (virtio overflowChecks) overflowChecks (.initial host) ops)) := by
  refine ⟨?_, ?_, ?_, ?_⟩
  · intro header data net h
    exact recvPacket_handled h net
  · intro first second net device hdevice hposted h
    exact recvPkt_handled hdevice hposted h
  · exact run_exchanged vmcall_headersOnly overflowChecks
  · exact run_exchanged (virtio_headersOnly overflowChecks) overflowChecks

def idleQueue : VirtQueue where
  shared := ⟨fun _ => .default, ⟨0, fun _ => 0, 0⟩, ⟨0, fun _ => ⟨0, 0⟩⟩⟩
  queueIdx := 0
  queueSize := 16
  numUsed := 0
  freeHead := 0
  availIdx := 0
  lastUsedIdx := 0
  descShadow _ := .default
  inUse := 0
  isHead := 0

def twoBuffers : Virtio.VirtioVsock where
  rx := idleQueue
  tx := idleQueue
  dmaRecord := Function.update (Function.update (fun _ => none) 0x1000 (some ⟨0x1000, 0x1000⟩))
    0x2000 (some ⟨0x2000, 0x1000⟩)
  queueDmaPages := 0x8000
  rxBufNum := 2

def creditUpdate : Octets := fromPeer OP_CREDIT_UPDATE 0 64 0

def updateArrived : Virtio.Host :=
  ⟨some twoBuffers, fun addr => creditUpdate.getD (addr - 0x1000).toNat 0, [], [], [], []⟩

def oneConnection {τ : Type} (host : τ) : Net τ where
  connectionPktQueues := Function.update (fun _ => none) (Packet.key creditUpdate) (some [])
  bindingPktQueues _ := none
  usedPort := [40001]
  unusedPortCounter := 40001
  arrived := []
  host := host

theorem vsock_delivery_iff_credit :
    WellFormed creditUpdate ∧ Posted ⟨0x1000, 44⟩ ⟨0x2000, 0x1000⟩ twoBuffers ∧
    Handled creditUpdate (oneConnection ([] : List Vmcall.ServiceCall))
      (Vmcall.recvPacket (creditUpdate ++ []) (oneConnection [])) ∧
    Handled creditUpdate (oneConnection updateArrived)
      (Virtio.recvPkt ⟨0x1000, 44⟩ ⟨0x2000, 0x1000⟩ (oneConnection updateArrived)) := by
  have hheader : WellFormed creditUpdate := ⟨Header.length_bytes _, type_bytes _, by decide⟩
  have hposted : Posted ⟨0x1000, 44⟩ ⟨0x2000, 0x1000⟩ twoBuffers :=
    ⟨rfl, ⟨_, rfl⟩, ⟨_, rfl⟩, by decide, by decide⟩
  have hread : Virtio.readDma updateArrived.memory 0x1000 44 = creditUpdate := by
    decide +kernel
  obtain ⟨hvmcall, hvirtio, -⟩ := vsock_delivery_iff false
  refine ⟨hheader, hposted, hvmcall _ _ _ hheader, ?_⟩
  have hhandled := hvirtio ⟨0x1000, 44⟩ ⟨0x2000, 0x1000⟩ (oneConnection updateArrived) twoBuffers rfl
    hposted (hread ▸ hheader)
  rw [← hread]
  exact hhandled

/-- The page with the reply to a command, around a packet. -/
def replyPage (command : UInt8) (mid : UInt64) (packet : Octets) : Octets :=
  Vmcall.VMCALL_SERVICE_MIGTD_GUID ++ leBytes 4 (36 + packet.length) ++ [0, 0, 0, 0] ++
    [Vmcall.CURRENT_VERSION, command, 0, 0] ++ putU64 mid ++ packet

def served (command : UInt8) (packet : Octets) : Vmcall.ServiceCall :=
  ⟨true, true, [replyPage command 7 packet]⟩

def oneRead : List Op :=
  [.newWithCid 33 7, .call 0 (.connect ⟨2, 1234⟩), .call 0 (.recv 1 64)]

def greeting : List Vmcall.ServiceCall :=
  [served Vmcall.COMMAND_SEND [], served Vmcall.COMMAND_RECV (fromPeer OP_RESPONSE 0 64 0),
    served Vmcall.COMMAND_RECV (fromPeer OP_RW 6 64 0 ++ hello)]

/-- The six bytes are for the established stream, and it does not get them. -/
theorem vsock_delivery_refused :
    let w := run vmcall false (.initial greeting) oneRead
    WellFormed (fromPeer OP_RW 6 64 0) ∧
    w.net.arrived.map payload = [[], hello] ∧
    w.ends.map (fun e => (e.stream.state, e.stream.addr)) =
      [(.established, ⟨⟨33, 40001⟩, ⟨2, 1234⟩⟩)] ∧
    expected w.net.arrived ⟨⟨33, 40001⟩, ⟨2, 1234⟩⟩ = hello ∧
    w.ends.map (fun e => arrivedBytes e.log) = [[]] := by
  refine ⟨?_, ?_⟩
  · exact ⟨Header.length_bytes _, type_bytes _, by decide⟩
  · decide +kernel

end MigTd.Vsock.Delivery
