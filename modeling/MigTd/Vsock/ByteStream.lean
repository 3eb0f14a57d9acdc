/- source: vsock/src/stream.rs
   digest: The bytes that `recv` returns against the payloads that the transport handed out. -/

import MigTd.Vsock.StreamMoves

set_option autoImplicit false

namespace MigTd.Vsock.ByteStream

open Lib.StateProgram Protocol Vsock.Stream StreamMoves

def returnedBytes (log : List StreamEvent) : Octets :=
  log.flatMap fun
    | .returned bytes => bytes
    | _ => []

def payloadOf : StreamEvent → Octets
  | .arrived dataLen buffer _ => buffer.take dataLen.toNat
  | _ => []

def arrivedBytes (log : List StreamEvent) : Octets := log.flatMap payloadOf

/-- The buffer is shorter than the header says, or the credit update that is due is not taken. -/
def lost : StreamEvent → Bool
  | .arrived dataLen buffer answered => decide (buffer.length < dataLen.toNat) || !answered
  | _ => false

def keptBytes (log : List StreamEvent) : Octets :=
  log.flatMap fun event => if lost event then [] else payloadOf event

theorem keptBytes_cons (event : StreamEvent) (log : List StreamEvent) :
    keptBytes (event :: log) = (if lost event then [] else payloadOf event) ++ keptBytes log := rfl

theorem arrivedBytes_cons (event : StreamEvent) (log : List StreamEvent) :
    arrivedBytes (event :: log) = payloadOf event ++ arrivedBytes log := rfl

theorem kept_sublist (log : List StreamEvent) : (keptBytes log).Sublist (arrivedBytes log) := by
  induction log with
  | nil => exact List.Sublist.refl _
  | cons event log ih =>
    rw [keptBytes_cons, arrivedBytes_cons]
    refine List.Sublist.append ?_ ih
    split
    · exact List.nil_sublist _
    · exact List.Sublist.refl _

theorem kept_eq_arrived_iff (log : List StreamEvent) :
    keptBytes log = arrivedBytes log ↔
      ∀ event ∈ log, lost event = true → payloadOf event = [] := by
  induction log with
  | nil => simp [keptBytes, arrivedBytes]
  | cons event log ih =>
    rw [keptBytes_cons, arrivedBytes_cons, List.forall_mem_cons, ← ih]
    by_cases hlost : lost event = true
    · rw [if_pos hlost, List.nil_append]
      constructor
      · intro h
        have hlength := congrArg List.length h
        have hless := (kept_sublist log).length_le
        rw [List.length_append] at hlength
        have hnil : payloadOf event = [] := List.eq_nil_of_length_eq_zero (by omega)
        rw [hnil, List.nil_append] at h
        exact ⟨fun _ => hnil, h⟩
      · rintro ⟨hnil, h⟩
        rw [hnil hlost, List.nil_append, h]
    · rw [if_neg hlost, List.append_cancel_left_eq]
      simp [hlost]

theorem drain_eq (queue : List Octets) (room : Nat) :
    (drain queue room).1 = queue.flatten.take room ∧
      (drain queue room).2.flatten = queue.flatten.drop room := by
  induction queue generalizing room with
  | nil => simp [drain]
  | cons head rest ih =>
    unfold drain
    by_cases hroom : room = 0
    · rw [if_pos hroom]
      simp [hroom]
    by_cases hfits : head.length ≤ room
    · rw [if_neg hroom, if_pos hfits]
      obtain ⟨htake, hdrop⟩ := ih (room - head.length)
      have hwhole : head.take room = head := List.take_of_length_le hfits
      have hnone : head.drop room = [] := List.drop_eq_nil_of_le hfits
      constructor
      · simp only [htake, List.flatten_cons, List.take_append, hwhole]
      · simp only [hdrop, List.flatten_cons, List.drop_append, hnone, List.nil_append]
    · rw [if_neg hroom, if_neg hfits]
      have hlt : room ≤ head.length := by omega
      constructor
      · simp only [List.flatten_cons, List.take_append_of_le_length hlt]
      · simp only [List.flatten_cons, List.drop_append_of_le_length hlt]

/-- What was returned and what is still queued make up what was kept. -/
def Conserved (e : Endpoint) : Prop :=
  returnedBytes e.log ++ e.stream.dataQueue.flatten = keptBytes e.log

section

variable {τ : Type} {T : Transport τ}

theorem keptBytes_snoc (log : List StreamEvent) (event : StreamEvent) :
    keptBytes (log ++ [event]) = keptBytes log ++ if lost event then [] else payloadOf event := by
  simp [keptBytes]

theorem returnedBytes_snoc (log : List StreamEvent) (event : StreamEvent) :
    returnedBytes (log ++ [event]) = returnedBytes log ++ returnedBytes [event] := by
  simp [returnedBytes]

variable {stream stream' : VsockStream} {log : List StreamEvent} {dataLen : UInt32}

theorem conserved_other {event : StreamEvent} (h : Conserved ⟨stream, log⟩)
    (hqueue : stream'.dataQueue = stream.dataQueue) (hreturned : returnedBytes [event] = [])
    (hkept : (if lost event then [] else payloadOf event) = []) :
    Conserved ⟨stream', log ++ [event]⟩ := by
  unfold Conserved at h ⊢
  rw [returnedBytes_snoc, keptBytes_snoc, hreturned, hkept, hqueue, List.append_nil, List.append_nil]
  exact h

private theorem conserved_kept {buffer : Octets} (h : Conserved ⟨stream, log⟩)
    (hwhole : dataLen.toNat ≤ buffer.length)
    (hqueue : stream'.dataQueue = stream.dataQueue ++ [buffer.take dataLen.toNat]) :
    Conserved ⟨stream', log ++ [.arrived dataLen buffer true]⟩ := by
  have hkept : lost (.arrived dataLen buffer true) = false := by
    simp [lost, hwhole]
  unfold Conserved at h ⊢
  rw [keptBytes_snoc, returnedBytes_snoc, hkept, hqueue, List.flatten_append, ← h]
  simp [returnedBytes, payloadOf]

theorem conserved_payload {buffer : Octets} {s t : Socket τ}
    {r : Except (Halt VsockError) Unit} (outcome : PayloadOutcome T dataLen buffer s r t)
    (h : Conserved ⟨s.stream, s.log⟩) : Conserved ⟨t.stream, t.log⟩ := by
  have hlog : ∀ answered, (!decide (Low T (counted T dataLen buffer s).stream) ||
      takes T (counted T dataLen buffer s) (counted T dataLen buffer s).stream.creditUpdate []) =
        answered → (counted T dataLen buffer s).log = s.log ++ [.arrived dataLen buffer answered] :=
    fun _ hanswered => congrArg (fun b => s.log ++ [.arrived dataLen buffer b]) hanswered
  have hkept (hwhole : dataLen.toNat ≤ buffer.length)
      (htrue : (counted T dataLen buffer s).log = s.log ++ [.arrived dataLen buffer true]) :
      Conserved ⟨(queuePayload (buffer.take dataLen.toNat) (counted T dataLen buffer s)).stream,
        (counted T dataLen buffer s).log⟩ := by
    rw [htrue]
    exact conserved_kept h hwhole rfl
  cases outcome with
  | short hsmall =>
    refine conserved_other h rfl rfl ?_
    simp [lost, hsmall]
  | uncredited _ hlow hrefused =>
    have hcounted : Conserved ⟨(counted T dataLen buffer s).stream,
        (counted T dataLen buffer s).log⟩ := by
      rw [hlog false (by simp [hlow, hrefused])]
      exact conserved_other h rfl rfl (by simp [lost])
    exact conserved_other hcounted rfl rfl rfl
  | credited hwhole hlow htaken =>
    exact conserved_other (hkept hwhole (hlog true (by simp [htaken]))) rfl rfl rfl
  | queued hwhole hhigh => exact hkept hwhole (hlog true (by simp [hhigh]))

theorem conserved_move (s t : Socket τ) (hmove : Move T true s t)
    (h : Conserved ⟨s.stream, s.log⟩) : Conserved ⟨t.stream, t.log⟩ := by
  cases hmove with
  | bound => exact h
  | listening => exact h
  | accepted => exact h
  | requestFailed => exact conserved_other h rfl rfl rfl
  | requested => exact conserved_other h rfl rfl rfl
  | unlistened => exact h
  | enqueue => exact conserved_other h rfl rfl rfl
  | dequeue => exact h
  | connected => exact conserved_other h rfl rfl rfl
  | closing => exact conserved_other h rfl rfl rfl
  | closed => exact conserved_other h rfl rfl rfl
  | credit => exact conserved_other h rfl rfl rfl
  | received => exact conserved_other h rfl rfl rfl
  | payload _ _ _ _ outcome => exact conserved_payload outcome h
  | sent => exact conserved_other h rfl rfl rfl
  | drained room =>
    obtain ⟨htake, hdrop⟩ := drain_eq s.stream.dataQueue room
    unfold Conserved at h ⊢
    simp only [drainInto, recorded]
    rw [keptBytes_snoc, returnedBytes_snoc, ← h, htake, hdrop]
    simp [returnedBytes, lost, payloadOf]

theorem run_conserved (T : Transport τ) (overflowChecks : Bool) (host : τ) (ops : List Op) :
    ∀ e ∈ (run T overflowChecks (.initial host) ops).ends, Conserved e :=
  run_endpoints (fun _ _ => rfl) (fun _ _ _ => rfl) conserved_move overflowChecks host ops

end

section

variable {τ : Type} {T : Transport τ}

theorem awaitData_ok {turns : Nat} {s t : Socket τ} (h : awaitData T turns s = (.ok (), t)) :
    t.stream.dataQueue ≠ [] ∧ (s.stream.dataQueue ≠ [] → t = s) := by
  induction turns generalizing s with
  | zero => cases h
  | succ turns ih =>
    unfold awaitData at h
    rw [observe_bind] at h
    by_cases hempty : s.stream.dataQueue = []
    · rw [if_pos hempty] at h
      obtain ⟨_, u, -, hrest⟩ := bind_ok.mp h
      exact ⟨(ih hrest).1, fun hdata => absurd hempty hdata⟩
    · rw [if_neg hempty] at h
      obtain ⟨-, rfl⟩ := pure_ok.mp h
      exact ⟨hempty, fun _ => rfl⟩

/-- The call took these bytes from the front of the queue that it found or waited for. -/
structure Took (room : Nat) (s t : Socket τ) (bytes : Octets) (u : Socket τ) : Prop where
  data : u.stream.dataQueue ≠ []
  found : s.stream.dataQueue ≠ [] → u = s
  taken : bytes = u.stream.dataQueue.flatten.take room
  left : t.stream.dataQueue.flatten = u.stream.dataQueue.flatten.drop room
  logged : t.log = u.log ++ [.returned bytes]

theorem recv_ok {turns room : Nat} {s t : Socket τ} {bytes : Octets}
    (h : recv T turns room s = (.ok bytes, t)) : ∃ u, Took room s t bytes u := by
  unfold recv at h
  rw [observe_bind] at h
  obtain ⟨_, _, hstate, hrest⟩ := bind_ok.mp h
  obtain ⟨-, rfl⟩ := ensure_ok.mp hstate
  obtain ⟨_, u, hwait, hrest⟩ := bind_ok.mp hrest
  rw [observe_bind, update_bind] at hrest
  obtain ⟨hbytes, rfl⟩ := pure_ok.mp hrest
  obtain ⟨htake, hdrop⟩ := drain_eq u.stream.dataQueue room
  obtain ⟨hdata, hfound⟩ := awaitData_ok hwait
  refine ⟨u, hdata, hfound, hbytes.symm.trans htake, hdrop, ?_⟩
  rw [← hbytes]
  rfl

end

/-- Over every transport and in every run, what the calls of `recv` returned and what is still
queued is made of the payloads in the order of their arrival, and is all of them exactly if none is
lost. A call returns the front of the queue, as much of it as fits into its buffer. -/
theorem recv_is_byte_stream_iff {τ : Type} (T : Transport τ) (overflowChecks : Bool) (host : τ)
    (ops : List Op) :
    (∀ e ∈ (run T overflowChecks (.initial host) ops).ends,
      (returnedBytes e.log ++ e.stream.dataQueue.flatten).Sublist (arrivedBytes e.log) ∧
      (returnedBytes e.log ++ e.stream.dataQueue.flatten = arrivedBytes e.log ↔
        ∀ event ∈ e.log, lost event = true → payloadOf event = [])) ∧
    ∀ (turns room : Nat) (s t : Socket τ) (bytes : Octets),
      recv T turns room s = (.ok bytes, t) → bytes.length ≤ room ∧ ∃ u, Took room s t bytes u := by
  constructor
  · intro e he
    rw [run_conserved T overflowChecks host ops e he]
    exact ⟨kept_sublist e.log, kept_eq_arrived_iff e.log⟩
  · intro turns room s t bytes hrecv
    obtain ⟨u, htook⟩ := recv_ok hrecv
    refine ⟨?_, u, htook⟩
    rw [htook.taken, List.length_take]
    omega

/-- A transport that hands out the buffers of a list, and may refuse credit updates. -/
def scripted (refuses : Bool) (buffers : List Octets) : Transport Nat where
  MAX_VSOCK_PKT_DATA_LEN := 0x10000
  enqueue _ hdr buf :=
    if refuses = true ∧ Packet.op hdr = OP_CREDIT_UPDATE then raise (.failed .timeout)
    else pure buf.length
  dequeue _ _ := fun net =>
    match buffers[net.host]? with
    | none => (.error .pending, net)
    | some buffer => (.ok buffer, { net with host := net.host + 1 })

def fromPeer (op : UInt16) (dataLen bufAlloc fwdCnt : UInt32) : Octets :=
  Header.bytes ⟨2, 33, 1234, 40001, dataLen, TYPE_STREAM, op, 0, bufAlloc, fwdCnt⟩

def connecting : List Op := [.newWithCid 33 7, .call 0 (.connect ⟨2, 1234⟩)]

def hello : Octets := [0x68, 0x65, 0x6c, 0x6c, 0x6f, 0x0a]

/-- The response to a request, and a payload of six bytes. -/
def greeting : List Octets :=
  [fromPeer OP_RESPONSE 0 64 0, fromPeer OP_RW 6 64 0 ++ hello, hello]

def twoReads : List Op := connecting ++ [.call 0 (.recv 2 4), .call 0 (.recv 2 4)]

def waiting : Socket Nat where
  stream := { acceptedStream ⟨⟨33, 40001⟩, ⟨2, 1234⟩⟩ 64 0 with dataQueue := [hello] }
  log := []
  net := (World.initial 0).net

theorem recv_is_byte_stream_hello :
    let w := run (scripted false greeting) false (.initial 0) twoReads
    w.ends.map (fun e => (returnedBytes e.log, arrivedBytes e.log)) = [(hello, hello)] ∧
      (∀ e ∈ w.ends, returnedBytes e.log ++ e.stream.dataQueue.flatten = arrivedBytes e.log) ∧
      (hello.take 4).length ≤ 4 ∧
      ∃ u, Took 4 waiting (recv (scripted false greeting) 1 4 waiting).2 (hello.take 4) u := by
  intro w
  have hruns : w.ends.map (fun e => (returnedBytes e.log, arrivedBytes e.log)) = [(hello, hello)] ∧
      (∀ e ∈ w.ends, ∀ event ∈ e.log, lost event = true → payloadOf event = []) ∧
      (recv (scripted false greeting) 1 4 waiting).1 = .ok (hello.take 4) := by
    decide +kernel
  obtain ⟨hstream, hcalls⟩ := recv_is_byte_stream_iff (scripted false greeting) false 0 twoReads
  refine ⟨hruns.1, ?_, hcalls 1 4 waiting _ _ (Prod.ext hruns.2.2 rfl)⟩
  intro e he
  exact (hstream e he).2.mpr (hruns.2.1 e he)

/-! A peer that fills most of the window with one packet, so that a credit update is due. -/

-- The value is looked at by the kernel only.
@[irreducible] def BLOCK : UInt32 := 0x30001

def block : Octets := List.replicate BLOCK.toNat 0

def blockHeader : Header := ⟨2, 33, 1234, 40001, BLOCK, TYPE_STREAM, OP_RW, 0, 0, 0⟩

/-- The packet and its data have been taken from the transport. -/
def announced (s : Socket Nat) : Socket Nat :=
  recordReceived (blockHeader.bytes ++ block)
    (storeCredit 0 0 { s with net := { s.net with host := s.net.host + 2 } })

section

variable (refuses : Bool) (buffers : List Octets) (s : Socket Nat)

def measured : Socket Nat := counted (scripted refuses buffers) BLOCK block (announced s)

def updated : Socket Nat :=
  afterEnqueue (scripted refuses buffers) (measured refuses buffers s).stream.creditUpdate []
    (measured refuses buffers s)

end

theorem length_block : block.length = BLOCK.toNat := List.length_replicate

theorem check_block : Packet.check (blockHeader.bytes ++ block) = .ok () := by
  have hop : Packet.op (blockHeader.bytes ++ block) = OP_RW := op_packet _ _
  rw [check_ok, List.length_append, Header.length_bytes, length_block, type_packet, hop,
    dataLen_packet]
  exact ⟨Nat.le_add_right _ _, rfl, by decide, le_rfl⟩

section

variable {refuses : Bool} {buffers : List Octets} {s : Socket Nat}

theorem dequeue_scripted {buffer : Octets} (h : buffers[s.net.host]? = some buffer) :
    vsockTransportDequeue (scripted refuses buffers) s =
      (.ok buffer, { s with net := { s.net with host := s.net.host + 1 } }) := by
  unfold vsockTransportDequeue
  rw [observe_bind]
  simp only [transport, embed, scripted, h]

theorem takes_creditUpdate (s : Socket Nat) :
    takes (scripted refuses buffers) s s.stream.creditUpdate [] = !refuses := by
  have hop : Packet.op s.stream.creditUpdate.bytes = OP_CREDIT_UPDATE := op_bytes _
  unfold takes scripted
  cases refuses
  · rfl
  · simp only [hop]
    rfl

variable (hpacket : buffers[s.net.host]? = some (blockHeader.bytes ++ block))
  (hdata : buffers[s.net.host + 1]? = some block)

include hpacket hdata

private theorem recvPacketConnected_block : recvPacketConnected (scripted refuses buffers) s =
    storePayload (scripted refuses buffers) BLOCK block (announced s) := by
  have hop : Packet.op (blockHeader.bytes ++ block) = OP_RW := op_packet _ _
  have hlength : Packet.dataLen (blockHeader.bytes ++ block) = BLOCK := dataLen_packet _ _
  unfold recvPacketConnected
  rw [run_bind_ok (dequeue_scripted hpacket), run_bind_ok (newChecked_ok check_block), update_bind,
    update_bind, bufAlloc_packet, fwdCnt_packet, hop, hlength, if_neg (by decide),
    if_neg (by decide), if_pos rfl, if_pos (by decide +kernel)]
  exact run_bind_ok (dequeue_scripted hdata)

/-- The update is sent before the block is queued. -/
theorem block_outcome (hlow : Low (scripted refuses buffers) (measured refuses buffers s).stream) :
    if refuses then ∃ e, recvPacketConnected (scripted refuses buffers) s =
      (.error e, updated refuses buffers s)
    else recvPacketConnected (scripted refuses buffers) s =
      (.ok (), queuePayload block (updated refuses buffers s)) := by
  have houtcome := storePayload_post (scripted refuses buffers) BLOCK block (announced s)
  have htakes : takes (scripted refuses buffers) (measured refuses buffers s)
      (measured refuses buffers s).stream.creditUpdate [] = !refuses := takes_creditUpdate _
  have hwhole : block.take BLOCK.toNat = block := List.take_of_length_le length_block.le
  rw [recvPacketConnected_block hpacket hdata]
  unfold Post at houtcome
  generalize hrun : storePayload (scripted refuses buffers) BLOCK block (announced s) = out
    at houtcome ⊢
  obtain ⟨r, t⟩ := out
  cases houtcome with
  | short hsmall => exact absurd hsmall length_block.not_lt
  | uncredited _ _ hrefused e =>
    have hrefuses : refuses = true := by simpa using htakes.symm.trans hrefused
    rw [if_pos hrefuses]
    exact ⟨e, rfl⟩
  | credited _ _ htaken =>
    have haccepts : refuses = false := by simpa using htakes.symm.trans htaken
    rw [if_neg (by simp [haccepts])]
    exact congrArg (fun data => (_, queuePayload data _)) hwhole
  | queued _ hhigh => exact absurd hlow hhigh

end

theorem step_call {τ : Type} {T : Transport τ} (overflowChecks : Bool) {c : Call} {w : World τ}
    {e : Endpoint} {t : Socket τ} (hends : w.ends = [e])
    (hcall : invoke T overflowChecks c ⟨e.stream, e.log, w.net⟩ = (t, none)) :
    step T overflowChecks w (.call 0 c) = ⟨[⟨t.stream, t.log⟩], t.net⟩ := by
  simp only [step, hends, List.getElem?_cons_zero, hcall, List.set_cons_zero, Option.map_none,
    Option.toList_none, List.append_nil]

theorem recv_fails {τ : Type} {T : Transport τ} {s t : Socket τ} {turns room : Nat}
    {e : Halt VsockError} (hstate : s.stream.state = .established)
    (hempty : s.stream.dataQueue = []) (hpacket : recvPacketConnected T s = (.error e, t)) :
    (recv T (turns + 1) room s).2 = t := by
  have hwait : awaitData T (turns + 1) s = (.error e, t) := by
    unfold awaitData
    rw [observe_bind, if_pos hempty, run_bind_error hpacket]
  unfold recv
  rw [observe_bind, run_bind_ok (a := ()) (ensure_ok.mpr ⟨hstate, rfl⟩), run_bind_error hwait]

def connectedEnd : Endpoint where
  stream := { acceptedStream ⟨⟨33, 40001⟩, ⟨2, 1234⟩⟩ 0 0 with transportContext := 7 }
  log := [.posted ⟨33, 2, 40001, 1234, 0, TYPE_STREAM, OP_REQUEST, 0, VSOCK_BUF_ALLOC, 0⟩ true,
    .opened 0 0]

def connectedSocket (T : Transport Nat) : Socket Nat :=
  ⟨connectedEnd.stream, connectedEnd.log, (run T false (.initial 0) connecting).net⟩

def blockThenHello : List Octets :=
  [fromPeer OP_RESPONSE 0 0 0, blockHeader.bytes ++ block, block, fromPeer OP_RW 6 64 0 ++ hello,
    hello]

def beforeBlock : Socket Nat := connectedSocket (scripted true blockThenHello)

/-- The credit update has been refused. -/
def afterBlock : Socket Nat := updated true blockThenHello beforeBlock

private theorem recv_loses_block :
    (recv (scripted true blockThenHello) 2 64 beforeBlock).2 = afterBlock := by
  have hstart : beforeBlock.net.host = 1 ∧
      Low (scripted true blockThenHello) (measured true blockThenHello beforeBlock).stream := by
    decide +kernel
  obtain ⟨e, hpacket⟩ := block_outcome (by rw [hstart.1]; rfl) (by rw [hstart.1]; rfl) hstart.2
  exact recv_fails rfl rfl hpacket

/-- The credit update after the block is refused, and the block is gone: the next call returns what
comes behind it. -/
theorem recv_skips_payload :
    ∃ e ∈ (run (scripted true blockThenHello) false (.initial 0)
        (connecting ++ [.call 0 (.recv 2 64)] ++ [.call 0 (.recv 2 64)])).ends,
      returnedBytes e.log = hello ∧ (arrivedBytes e.log).head? = some 0 ∧
      ¬returnedBytes e.log <+: arrivedBytes e.log := by
  have hends : (run (scripted true blockThenHello) false (.initial 0) connecting).ends =
      [connectedEnd] := by
    decide +kernel
  have hfirst := step_call false (c := .recv 2 64) hends (congrArg (·, none) recv_loses_block)
  have hsecond : ∃ e ∈ (step (scripted true blockThenHello) false
      ⟨[⟨afterBlock.stream, afterBlock.log⟩], afterBlock.net⟩ (.call 0 (.recv 2 64))).ends,
      returnedBytes e.log = hello ∧ (arrivedBytes e.log).head? = some 0 := by
    decide +kernel
  rw [run_snoc, run_snoc, hfirst]
  obtain ⟨e, hmem, hreturned, harrived⟩ := hsecond
  refine ⟨e, hmem, hreturned, harrived, ?_⟩
  rintro ⟨rest, hrest⟩
  rw [← hrest, hreturned] at harrived
  simp [hello] at harrived

end MigTd.Vsock.ByteStream
