/- source: vmcall_raw/src/stream.rs, vmcall_raw/src/transport/vmcall.rs
   digest: The raw VMCALL transport as a byte stream over calls of the VMM's services. -/

import MigTd.Lib.ByteLink
import MigTd.VmcallRaw.Completion
import MigTd.Vsock.ByteStream

set_option autoImplicit false

namespace MigTd.VmcallRaw.Stream

open Lib.ByteCodec Lib.StateProgram Completion Crypto.TlsConnection Lib.ByteLink Vsock.ByteStream
open Vsock.Stream (drain)

def MAX_VMCALL_RAW_STREAM_MTU : Nat := 0x1000 * 16
def VMCALL_RAW_SEND_PAYLOAD_MTU : Nat := MAX_VMCALL_RAW_STREAM_MTU - VMCALL_RAW_GHCI_HEADER_LEN

/-- What the environment does in one call of a service: whether the shared pages could be allocated
and the call was taken, and the flag and the memory at each poll. -/
structure ServiceCall where
  allocated : Bool
  taken : Bool
  polls : List (Option Bool × Memory)

/-- `VmcallRaw`, with its environment and the calls made so far. -/
structure RawStream where
  dataQueue : List Octets
  calls : List ServiceCall
  sends : List Octets
  receives : List ServiceCall

abbrev StreamProgram := Program RawStream (Halt VmcallRawError)

def nextCall : StreamProgram ServiceCall := fun s =>
  match s.calls with
  | [] => (.error .waiting, s)
  | call :: later => (.ok call, { s with calls := later })

def pollService (service : Service) (payloadSize : Nat) :
    List (Option Bool × Memory) → Except (Halt VmcallRawError) Octets
  | [] => .error .waiting
  | (flag, memory) :: later =>
    match (service.poll flag (bufferOf memory payloadSize)).1 with
    | .pending => pollService service payloadSize later
    | .ready (.ok bytes) => .ok bytes
    | .ready (.error e) => .error (.failed e)

/-- The status is zero while the buffer belongs to the VMM. -/
def sendBuffer (buf : Octets) : Octets :=
  putU64 0 ++ putU32 buf.length.toUInt32 ++ buf

/-- `vmcall_raw_transport_enqueue`. A length that fits 32 bits passes the other checks of sizes. -/
def transportEnqueue (buf : Octets) : StreamProgram Nat := do
  let call ← nextCall
  ensure (buf.length < 2 ^ 32) (.failed .illegal)
  ensure (call.allocated = true) (.failed .illegal)
  update fun s => { s with sends := s.sends ++ [sendBuffer buf] }
  ensure (call.taken = true) (.failed .tdVmcallErr)
  let _ ← lift (pollService .send buf.length call.polls)
  return 0

def transportDequeue : StreamProgram Octets := do
  let call ← nextCall
  update fun s => { s with receives := s.receives ++ [call] }
  ensure (call.allocated = true) (.failed .illegal)
  ensure (call.taken = true) (.failed .tdVmcallErr)
  lift (pollService .receive VMCALL_RAW_SEND_PAYLOAD_MTU call.polls)

/-- The loop of `send`, from the first byte that was not sent yet. -/
def sendFrom (buf : Octets) : StreamProgram Unit :=
  if _h : buf = [] then pure ()
  else do
    let _ ← transportEnqueue (buf.take VMCALL_RAW_SEND_PAYLOAD_MTU)
    sendFrom (buf.drop VMCALL_RAW_SEND_PAYLOAD_MTU)
termination_by buf.length
decreasing_by
  have hpos := List.length_pos_iff.mpr _h
  rw [List.length_drop]
  exact Nat.sub_lt hpos (by decide)

def send (buf : Octets) : StreamProgram Nat := do
  sendFrom buf
  return buf.length

def recvPacketConnected : StreamProgram Unit := do
  let recv ← transportDequeue
  if recv ≠ [] then update fun s => { s with dataQueue := s.dataQueue ++ [recv] }
  else pure ()

/-- The first loop of `recv`. No second packet is asked for, as `vmcall_raw_transport_can_recv`
always denies. -/
def awaitData : StreamProgram Unit := do
  let s ← observe id
  if s.dataQueue = [] then recvPacketConnected else pure ()

/-- The bytes that `recv` copies into a buffer of this length. -/
def recv (room : Nat) : StreamProgram Octets := do
  awaitData
  let s ← observe id
  update fun s => { s with dataQueue := (drain s.dataQueue room).2 }
  return (drain s.dataQueue room).1

def Succeeded (memory : Memory) : Prop :=
  (processBuffer (bufferOf memory 0)).statusByte 0 = TDX_VMCALL_VMM_SUCCESS
  deriving Decidable

def declaredLength (memory : Memory) : Nat := (processBuffer (bufferOf memory 0)).dataLength.toNat

def declaredPayload (memory : Memory) : Octets :=
  (List.range (declaredLength memory)).map fun i => memory (VMCALL_RAW_GHCI_HEADER_LEN + i)

/-- The poll that ends an operation: the first one that is signalled and sees a final status, or
that finds no flag. -/
def lastPoll (polls : List (Option Bool × Memory)) : Option (Option Bool × Memory) :=
  polls.find? fun p => p.1 = none ∨ p.1 = some true ∧ Completes p.2

def CompletedWith (call : ServiceCall) (memory : Memory) : Prop :=
  call.allocated = true ∧ call.taken = true ∧ lastPoll call.polls = some (some true, memory)

/-- The payload of a successful receive: success, and a length between one and what the buffer
holds. -/
def receivedPayload (call : ServiceCall) : Octets :=
  if call.allocated ∧ call.taken then
    match lastPoll call.polls with
    | some (some true, memory) =>
      if Succeeded memory ∧ 0 < declaredLength memory ∧
          declaredLength memory ≤ VMCALL_RAW_SEND_PAYLOAD_MTU then declaredPayload memory
      else []
    | _ => []
  else []

section

variable {memory : Memory} {flag : Option Bool} {payloadSize : Nat}

theorem processBuffer_bufferOf : (processBuffer (bufferOf memory payloadSize)).dataStatus =
        (processBuffer (bufferOf memory 0)).dataStatus ∧
      (processBuffer (bufferOf memory payloadSize)).dataLength =
        (processBuffer (bufferOf memory 0)).dataLength := by
  have hlength (n : Nat) : ((bufferOf memory n).drop 8).take 4 =
      ((List.range 12).map memory).drop 8 := by
    rw [List.take_drop, bufferOf_take n (by decide)]
  refine ⟨?_, ?_⟩
  · simp only [processBuffer, bufferOf_take payloadSize (by decide : 8 ≤ _),
      bufferOf_take 0 (by decide : 8 ≤ _)]
  · simp only [processBuffer, hlength]

theorem processBuffer_payload : (processBuffer (bufferOf memory payloadSize)).payload =
      (List.range payloadSize).map fun i => memory (VMCALL_RAW_GHCI_HEADER_LEN + i) := by
  rw [processBuffer, bufferOf, List.range_add, List.map_append, List.map_map,
    List.drop_left' (by simp)]
  rfl

/-- What a signalled poll that sees a final status returns. -/
def verdict (memory : Memory) : Except VmcallRawError Octets :=
  if ¬Succeeded memory then .error .vmmCanceled
  else if declaredLength memory = 0 then .error .malformed
  else if declaredLength memory ≤ VMCALL_RAW_SEND_PAYLOAD_MTU then .ok (declaredPayload memory)
  else .error .tdVmcallErr

/-- How a receive ends, by the poll that ends it. -/
def outcome : Option (Option Bool × Memory) → Except (Halt VmcallRawError) Octets
  | none => .error .waiting
  | some (some true, memory) => (verdict memory).mapError .failed
  | some _ => .error (.failed .illegal)

theorem poll_pending (service : Service) (h : ¬Completes memory) :
    (service.poll (some true) (bufferOf memory payloadSize)).1 = .pending := by
  have hopen : ¬Completed (bufferOf memory payloadSize) := fun hc => h (completed_bufferOf.mp hc)
  obtain ⟨hsuccess, hcancel⟩ := not_or.mp hopen
  unfold Service.poll pollVmcallCompletion
  simp only [hsuccess, hcancel, ne_eq, not_false_eq_true, ↓reduceIte]

theorem answer_receive : Service.receive.answer
        ((processBuffer (bufferOf memory VMCALL_RAW_SEND_PAYLOAD_MTU)).payload,
          (processBuffer (bufferOf memory VMCALL_RAW_SEND_PAYLOAD_MTU)).dataLength) =
      if declaredLength memory = 0 then .error .malformed
      else if declaredLength memory ≤ VMCALL_RAW_SEND_PAYLOAD_MTU then .ok (declaredPayload memory)
      else .error .tdVmcallErr := by
  have hzero : (processBuffer (bufferOf memory 0)).dataLength = 0 ↔ declaredLength memory = 0 := by
    rw [declaredLength, ← UInt32.toNat_inj]
    rfl
  have hroom : ((List.range VMCALL_RAW_SEND_PAYLOAD_MTU).map
      fun i => memory (VMCALL_RAW_GHCI_HEADER_LEN + i)).length = VMCALL_RAW_SEND_PAYLOAD_MTU := by
    rw [List.length_map, List.length_range]
  rw [processBuffer_payload, processBuffer_bufferOf.2, Service.answer, hroom]
  by_cases hlength : declaredLength memory = 0
  · rw [if_pos hlength, if_pos (hzero.mpr hlength)]
  · rw [if_neg hlength, if_neg (fun h => hlength (hzero.mp h))]
    by_cases hfits : declaredLength memory ≤ VMCALL_RAW_SEND_PAYLOAD_MTU
    · have hbytes : ((List.range VMCALL_RAW_SEND_PAYLOAD_MTU).map
          fun i => memory (VMCALL_RAW_GHCI_HEADER_LEN + i)).take (declaredLength memory) =
            declaredPayload memory := by
        rw [← List.map_take, List.take_range, Nat.min_eq_left hfits, declaredPayload]
      rw [if_pos hfits, ← hbytes]
      exact if_pos hfits
    · rw [if_neg hfits]
      exact if_neg hfits

theorem poll_receive (h : Completes memory) :
    (Service.receive.poll (some true) (bufferOf memory VMCALL_RAW_SEND_PAYLOAD_MTU)).1 =
      .ready (verdict memory) := by
  have hstatus (i : Nat) :
      (processBuffer (bufferOf memory VMCALL_RAW_SEND_PAYLOAD_MTU)).statusByte i =
        (processBuffer (bufferOf memory 0)).statusByte i := by
    rw [Processed.statusByte, processBuffer_bufferOf.1]
    rfl
  by_cases hsuccess : Succeeded memory
  · have hone : (processBuffer (bufferOf memory 0)).statusByte 0 = TDX_VMCALL_VMM_SUCCESS :=
      hsuccess
    have hnot : ¬TDX_VMCALL_VMM_SUCCESS = TDX_VMCALL_STATUS_NOT_COMPLETED := by decide
    unfold Service.poll pollVmcallCompletion
    simp only [hstatus, hone, hnot, false_and, ne_eq, not_true_eq_false, ↓reduceIte]
    rw [answer_receive, verdict, if_neg (not_not_intro hsuccess)]
  · have hcancel := h.resolve_left hsuccess
    unfold Service.poll pollVmcallCompletion
    simp only [hstatus, hcancel, and_self, ↓reduceIte]
    rw [verdict, if_pos hsuccess]

theorem pollService_receive (polls : List (Option Bool × Memory)) :
    pollService .receive VMCALL_RAW_SEND_PAYLOAD_MTU polls = outcome (lastPoll polls) := by
  induction polls with
  | nil => rfl
  | cons p polls ih =>
    obtain ⟨flag, memory⟩ := p
    cases flag with
    | none => rfl
    | some set =>
      cases set with
      | false => exact ih
      | true =>
        by_cases hfinal : Completes memory
        · have hlast : lastPoll ((some true, memory) :: polls) = some (some true, memory) :=
            List.find?_cons_of_pos (by simp [hfinal])
          rw [pollService, poll_receive hfinal, hlast, outcome]
          cases verdict memory <;> rfl
        · have hlast : lastPoll ((some true, memory) :: polls) = lastPoll polls :=
            List.find?_cons_of_neg (by simp [hfinal])
          rw [pollService, poll_pending _ hfinal, hlast]
          exact ih

end

def returned {ε : Type} (r : Except ε Octets) : Octets := r.toOption.getD []

theorem returned_verdict (memory : Memory) : returned ((verdict memory).mapError (Halt.failed)) =
      if Succeeded memory ∧ 0 < declaredLength memory ∧
          declaredLength memory ≤ VMCALL_RAW_SEND_PAYLOAD_MTU then declaredPayload memory
      else [] := by
  unfold verdict
  by_cases hsuccess : Succeeded memory
  · by_cases hzero : declaredLength memory = 0
    · rw [if_neg (not_not_intro hsuccess), if_pos hzero, if_neg (by omega)]
      rfl
    · by_cases hfits : declaredLength memory ≤ VMCALL_RAW_SEND_PAYLOAD_MTU
      · rw [if_neg (not_not_intro hsuccess), if_neg hzero, if_pos hfits,
          if_pos ⟨hsuccess, Nat.pos_of_ne_zero hzero, hfits⟩]
        rfl
      · rw [if_neg (not_not_intro hsuccess), if_neg hzero, if_neg hfits,
          if_neg (fun h => hfits h.2.2)]
        rfl
  · rw [if_pos hsuccess, if_neg (fun h => hsuccess h.1)]
    rfl

variable {call : ServiceCall}

theorem returned_outcome (hallocated : call.allocated = true) (htaken : call.taken = true) :
    returned (outcome (lastPoll call.polls)) = receivedPayload call := by
  unfold receivedPayload
  rw [if_pos ⟨hallocated, htaken⟩]
  cases lastPoll call.polls with
  | none => rfl
  | some p =>
    obtain ⟨flag, memory⟩ := p
    cases flag with
    | none => rfl
    | some set =>
      cases set with
      | false => rfl
      | true => exact returned_verdict memory

/-- The streams differ by these bytes that were returned, and by receives whose payloads account
for them and for what is still queued. -/
def Delivers (s : RawStream) (bytes : Octets) (t : RawStream) : Prop :=
  ∃ new, t.receives = s.receives ++ new ∧
    bytes ++ t.dataQueue.flatten = s.dataQueue.flatten ++ new.flatMap receivedPayload

variable {s t u : RawStream}

theorem Delivers.same (hqueue : t.dataQueue = s.dataQueue)
    (hreceives : t.receives = s.receives) : Delivers s [] t := by
  refine ⟨[], ?_, ?_⟩
  · rw [hreceives, List.append_nil]
  · rw [hqueue, List.flatMap_nil, List.append_nil, List.nil_append]

theorem Delivers.trans {first last : Octets} (h : Delivers s first t)
    (h' : Delivers t last u) : Delivers s (first ++ last) u := by
  obtain ⟨new, hnew, hbytes⟩ := h
  obtain ⟨new', hnew', hbytes'⟩ := h'
  refine ⟨new ++ new', ?_, ?_⟩
  · rw [hnew', hnew, List.append_assoc]
  · rw [List.append_assoc, hbytes', ← List.append_assoc, hbytes, List.flatMap_append,
      List.append_assoc]

theorem transportDequeue_post (s : RawStream) :
    Post transportDequeue s fun r t => t.dataQueue = s.dataQueue ∧ t.sends = s.sends ∧
      ∃ new, t.receives = s.receives ++ new ∧ new.flatMap receivedPayload = returned r := by
  unfold transportDequeue
  cases hcalls : s.calls with
  | nil =>
    refine post_bind_stop (e := .waiting) (t := s) ?_ ⟨rfl, rfl, [], (List.append_nil _).symm, rfl⟩
    rw [nextCall, hcalls]
  | cons call later =>
    refine post_bind_run (a := call) (t := { s with calls := later }) ?_ ?_
    · rw [nextCall, hcalls]
    refine post_bind_update.mpr ?_
    have hnone (h : ¬(call.allocated = true ∧ call.taken = true)) :
        [call].flatMap receivedPayload = [] := by
      rw [List.flatMap_singleton, receivedPayload, if_neg h]
    refine post_bind_ensure.mpr ⟨fun hallocated => ?_, fun hno => ?_⟩
    · refine post_bind_ensure.mpr ⟨fun htaken => ?_, fun hno => ?_⟩
      · refine post_lift.mpr ⟨rfl, rfl, [call], rfl, ?_⟩
        rw [List.flatMap_singleton, pollService_receive, returned_outcome hallocated htaken]
      · exact ⟨rfl, rfl, [call], rfl, hnone fun h => hno h.2⟩
    · exact ⟨rfl, rfl, [call], rfl, hnone fun h => hno h.1⟩

theorem awaitData_post (s : RawStream) :
    Post awaitData s fun _ t => t.sends = s.sends ∧ Delivers s [] t := by
  refine post_bind_observe.mpr ?_
  by_cases hempty : s.dataQueue = []
  · change Post (if s.dataQueue = [] then recvPacketConnected else pure ()) s _
    rw [if_pos hempty]
    refine post_bind_of (transportDequeue_post s) ?_ ?_
    · rintro bytes t ⟨hqueue, hsends, new, hnew, hbytes⟩
      have hreturned : new.flatMap receivedPayload = bytes := hbytes
      by_cases hbytes : bytes = []
      · rw [if_neg (not_not_intro hbytes)]
        refine post_pure.mpr ⟨hsends, new, hnew, ?_⟩
        rw [hqueue, hreturned, hbytes, List.nil_append, List.append_nil]
      · rw [if_pos hbytes]
        refine post_update.mpr ⟨hsends, new, hnew, ?_⟩
        rw [hreturned, List.flatten_append, hqueue, List.flatten_singleton, List.nil_append]
    · rintro e t ⟨hqueue, hsends, new, hnew, hbytes⟩
      refine ⟨hsends, new, hnew, ?_⟩
      rw [hqueue, hbytes, List.nil_append]
      exact (List.append_nil _).symm
  · change Post (if s.dataQueue = [] then recvPacketConnected else pure ()) s _
    rw [if_neg hempty]
    exact ⟨rfl, .same rfl rfl⟩

theorem recv_post (room : Nat) (s : RawStream) :
    Post (recv room) s fun r t => t.sends = s.sends ∧ Delivers s (returned r) t := by
  refine post_bind_of (awaitData_post s) ?_ ?_
  · rintro _ t ⟨hsends, hdelivers⟩
    refine post_bind_observe.mpr (post_bind_update.mpr ⟨hsends, ?_⟩)
    have hdrain := drain_eq t.dataQueue room
    have hcopy : Delivers t (drain t.dataQueue room).1
        { t with dataQueue := (drain t.dataQueue room).2 } := by
      refine ⟨[], (List.append_nil _).symm, ?_⟩
      rw [hdrain.1, hdrain.2, List.take_append_drop, List.flatMap_nil, List.append_nil]
    exact hdelivers.trans hcopy
  · rintro e t h
    exact h

structure HandsOver (s : RawStream) (chunks : List Octets) (t : RawStream) : Prop where
  sends : t.sends = s.sends ++ chunks.map sendBuffer
  sized : ∀ chunk ∈ chunks, chunk ≠ [] ∧ chunk.length ≤ VMCALL_RAW_SEND_PAYLOAD_MTU

theorem HandsOver.none (h : t.sends = s.sends) : HandsOver s [] t := by
  refine ⟨?_, nofun⟩
  rw [h, List.map_nil, List.append_nil]

theorem HandsOver.append {first last : List Octets}
    (h : HandsOver s first t) (h' : HandsOver t last u) : HandsOver s (first ++ last) u := by
  refine ⟨?_, fun chunk hmem => ?_⟩
  · rw [h'.sends, h.sends, List.map_append, List.append_assoc]
  · rcases List.mem_append.mp hmem with hmem | hmem
    · exact h.sized chunk hmem
    · exact h'.sized chunk hmem

theorem transportEnqueue_post {chunk : Octets} (s : RawStream) (hne : chunk ≠ [])
    (hlen : chunk.length ≤ VMCALL_RAW_SEND_PAYLOAD_MTU) :
    Post (transportEnqueue chunk) s fun r t => Delivers s [] t ∧
      ((HandsOver s [] t ∧ ∃ e, r = .error e) ∨ HandsOver s [chunk] t) := by
  unfold transportEnqueue
  cases hcalls : s.calls with
  | nil =>
    refine post_bind_stop (e := .waiting) (t := s) ?_ ⟨.same rfl rfl, .inl ⟨.none rfl, _, rfl⟩⟩
    rw [nextCall, hcalls]
  | cons call later =>
    refine post_bind_run (a := call) (t := { s with calls := later }) ?_ ?_
    · rw [nextCall, hcalls]
    refine post_bind_ensure.mpr ⟨fun _ => ?_, fun _ => ⟨.same rfl rfl, .inl ⟨.none rfl, _, rfl⟩⟩⟩
    refine post_bind_ensure.mpr ⟨fun _ => ?_, fun _ => ⟨.same rfl rfl, .inl ⟨.none rfl, _, rfl⟩⟩⟩
    refine post_bind_update.mpr ?_
    have hhanded : HandsOver s [chunk]
        { s with calls := later, sends := s.sends ++ [sendBuffer chunk] } := by
      refine ⟨rfl, fun c hc => ?_⟩
      rw [List.mem_singleton.mp hc]
      exact ⟨hne, hlen⟩
    refine post_bind_ensure.mpr ⟨fun _ => ?_, fun _ => ⟨.same rfl rfl, .inr hhanded⟩⟩
    exact post_bind_lift.mpr ⟨fun _ _ => ⟨.same rfl rfl, .inr hhanded⟩,
      fun _ _ => ⟨.same rfl rfl, .inr hhanded⟩⟩

theorem sendFrom_post (buf : Octets) (s : RawStream) :
    Post (sendFrom buf) s fun r t => Delivers s [] t ∧
      ∃ chunks, HandsOver s chunks t ∧ chunks.flatten <+: buf ∧ (r = .ok () → chunks.flatten = buf) := by
  -- strong induction on the bytes that are left
  induction hn : buf.length using Nat.strong_induction_on generalizing buf s with
  | h n ih =>
    subst hn
    rw [sendFrom]
    by_cases hempty : buf = []
    · rw [dif_pos hempty]
      refine post_pure.mpr ⟨.same rfl rfl, [], .none rfl, List.nil_prefix, fun _ => ?_⟩
      rw [hempty, List.flatten_nil]
    · rw [dif_neg hempty]
      have hpos := List.length_pos_iff.mpr hempty
      have hmtu : 0 < VMCALL_RAW_SEND_PAYLOAD_MTU := by decide
      have hne : buf.take VMCALL_RAW_SEND_PAYLOAD_MTU ≠ [] := by
        rw [← List.length_pos_iff, List.length_take]
        omega
      have hlen : (buf.take VMCALL_RAW_SEND_PAYLOAD_MTU).length ≤ VMCALL_RAW_SEND_PAYLOAD_MTU := by
        rw [List.length_take]
        omega
      have hless : (buf.drop VMCALL_RAW_SEND_PAYLOAD_MTU).length < buf.length := by
        rw [List.length_drop]
        omega
      refine post_bind_of (transportEnqueue_post s hne hlen) ?_ ?_
      · rintro _ t ⟨hfirst, ⟨-, e, he⟩ | hchunk⟩
        · cases he
        refine (ih _ hless (buf.drop VMCALL_RAW_SEND_PAYLOAD_MTU) t rfl).mono ?_
        rintro r u ⟨hlater, chunks, hchunks, hlead, hall⟩
        refine ⟨hfirst.trans hlater, _, hchunk.append hchunks, ?_, fun hr => ?_⟩
        · rw [List.flatten_append, List.flatten_singleton]
          conv_rhs => rw [← List.take_append_drop VMCALL_RAW_SEND_PAYLOAD_MTU buf]
          exact (List.prefix_append_right_inj _).mpr hlead
        · rw [List.flatten_append, List.flatten_singleton, hall hr, List.take_append_drop]
      · rintro e t ⟨hfirst, ⟨hnone, -⟩ | hchunk⟩
        · exact ⟨hfirst, [], hnone, List.nil_prefix, fun h => by cases h⟩
        · refine ⟨hfirst, [_], hchunk, ?_, fun h => by cases h⟩
          rw [List.flatten_singleton]
          exact List.take_prefix _ _

/-- The header in front of a chunk: a zero status, and the length of the chunk. -/
structure Headed (chunk buffer : Octets) : Prop where
  status : leValue (buffer.take 8) = 0
  length : leValue ((buffer.drop 8).take 4) = chunk.length
  payload : buffer.drop VMCALL_RAW_GHCI_HEADER_LEN = chunk

theorem headed_sendBuffer {chunk : Octets}
    (h : chunk.length ≤ VMCALL_RAW_SEND_PAYLOAD_MTU) : Headed chunk (sendBuffer chunk) := by
  have h8 : (putU64 0).length = 8 := leBytes_length 8 _
  have h4 : (putU32 chunk.length.toUInt32).length = 4 := leBytes_length 4 _
  have hmtu : VMCALL_RAW_SEND_PAYLOAD_MTU < 2 ^ 32 := by decide
  have hvalue : chunk.length.toUInt32.toNat = chunk.length := by
    rw [Nat.toUInt32_eq, UInt32.toNat_ofNat', Nat.mod_eq_of_lt (h.trans_lt hmtu)]
  refine ⟨?_, ?_, ?_⟩
  · rw [sendBuffer, List.append_assoc, List.take_left' h8]
    decide
  · rw [sendBuffer, List.append_assoc, List.drop_left' h8, List.take_left' h4, putU32,
      leValue_leBytes 4 _ (UInt32.toNat_lt _), hvalue]
  · rw [sendBuffer, List.drop_left']
    rw [List.length_append, h8, h4]
    rfl

inductive Op where
  | send (buf : Octets)
  | recv (room : Nat)

def perform : Op → RawStream → Octets × RawStream
  | .send buf, s => ([], (send buf s).2)
  | .recv room, s => (returned (recv room s).1, (recv room s).2)

def performAll : List Op → RawStream → Octets × RawStream
  | [], s => ([], s)
  | op :: ops, s =>
    ((perform op s).1 ++ (performAll ops (perform op s).2).1, (performAll ops (perform op s).2).2)

/-- `new_with_mid`, with an environment. -/
def new (calls : List ServiceCall) : RawStream := ⟨[], calls, [], []⟩

theorem send_post (buf : Octets) (s : RawStream) :
    Post (send buf) s fun r t => Delivers s [] t ∧
      ∃ chunks, HandsOver s chunks t ∧ chunks.flatten <+: buf ∧
        ∀ n, r = .ok n → n = buf.length ∧ chunks.flatten = buf := by
  refine post_bind_of (sendFrom_post buf s) ?_ ?_
  · rintro _ t ⟨hdelivers, chunks, hchunks, hlead, hall⟩
    refine post_pure.mpr ⟨hdelivers, chunks, hchunks, hlead, fun n hn => ?_⟩
    cases hn
    exact ⟨rfl, hall rfl⟩
  · rintro e t ⟨hdelivers, chunks, hchunks, hlead, -⟩
    exact ⟨hdelivers, chunks, hchunks, hlead, fun n hn => by cases hn⟩

theorem delivers_performAll (ops : List Op) (s : RawStream) :
    Delivers s (performAll ops s).1 (performAll ops s).2 := by
  induction ops generalizing s with
  | nil => exact .same rfl rfl
  | cons op ops ih =>
    refine Delivers.trans ?_ (ih (perform op s).2)
    cases op with
    | send buf => exact (send_post buf s).1
    | recv room => exact (recv_post room s).2

variable {later : List ServiceCall}

theorem transportDequeue_run (hcalls : s.calls = call :: later) (hallocated : call.allocated = true)
    (htaken : call.taken = true) :
    transportDequeue s = (outcome (lastPoll call.polls),
      { s with calls := later, receives := s.receives ++ [call] }) := by
  have hnext : nextCall s = (.ok call, { s with calls := later }) := by
    rw [nextCall, hcalls]
  unfold transportDequeue
  rw [run_bind_ok hnext, update_bind, run_bind_ok (a := ()) (ensure_ok.mpr ⟨hallocated, rfl⟩),
    run_bind_ok (a := ()) (ensure_ok.mpr ⟨htaken, rfl⟩), pollService_receive]
  rfl

theorem recv_malformed {memory : Memory} (room : Nat) (hempty : s.dataQueue = [])
    (hcalls : s.calls = call :: later) (hcompleted : CompletedWith call memory)
    (hsuccess : Succeeded memory)
    (hlength : declaredLength memory = 0 ∨ VMCALL_RAW_SEND_PAYLOAD_MTU < declaredLength memory) :
    ∃ e t, recv room s = (.error (.failed e), t) ∧ t.dataQueue = [] := by
  have hverdict : ∃ e, verdict memory = .error e := by
    rw [verdict, if_neg (not_not_intro hsuccess)]
    by_cases hzero : declaredLength memory = 0
    · exact ⟨_, if_pos hzero⟩
    · rw [if_neg hzero]
      exact ⟨_, if_neg (Nat.not_le_of_lt (hlength.resolve_left hzero))⟩
  obtain ⟨e, he⟩ := hverdict
  have hfails := transportDequeue_run hcalls hcompleted.1 hcompleted.2.1
  rw [hcompleted.2.2, outcome, he] at hfails
  have hawait : awaitData s = (.error (.failed e),
      { s with calls := later, receives := s.receives ++ [call] }) := by
    rw [awaitData, observe_bind]
    change (if s.dataQueue = [] then recvPacketConnected else pure ()) s = _
    rw [if_pos hempty]
    exact run_bind_error hfails
  exact ⟨e, _, run_bind_error hawait, hempty⟩

/-- Sending hands over non-empty chunks of at most the payload MTU, each behind a header with a
zero status and its length, that make up the buffer; what callers of `recv` get is a part, from the
start and without gaps, of the payloads that successful receives declared; and a success that
declares nothing, or more than the buffer holds, is an error that delivers nothing. -/
theorem vmcall_raw_byte_stream : (∀ (buf : Octets) (s : RawStream),
      Post (send buf) s fun r t => ∃ chunks, HandsOver s chunks t ∧
        (∀ chunk ∈ chunks, Headed chunk (sendBuffer chunk)) ∧ chunks.flatten <+: buf ∧
          ∀ n, r = .ok n → n = buf.length ∧ chunks.flatten = buf) ∧
    (∀ (ops : List Op) (calls : List ServiceCall), (performAll ops (new calls)).1 <+:
        (performAll ops (new calls)).2.receives.flatMap receivedPayload) ∧
    ∀ (room : Nat) (s : RawStream) (call : ServiceCall) (later : List ServiceCall)
      (memory : Memory), s.dataQueue = [] → s.calls = call :: later → CompletedWith call memory →
      Succeeded memory →
      declaredLength memory = 0 ∨ VMCALL_RAW_SEND_PAYLOAD_MTU < declaredLength memory →
      ∃ e t, recv room s = (.error (.failed e), t) ∧ t.dataQueue = [] := by
  refine ⟨?_, ?_, ?_⟩
  · intro buf s
    refine (send_post buf s).mono ?_
    rintro r t ⟨-, chunks, hchunks, hlead, hall⟩
    refine ⟨chunks, hchunks, fun chunk hmem => ?_, hlead, hall⟩
    exact headed_sendBuffer (hchunks.sized chunk hmem).2
  · intro ops calls
    obtain ⟨received, hreceives, hbytes⟩ := delivers_performAll ops (new calls)
    have hall : (performAll ops (new calls)).2.receives = received := hreceives
    rw [hall]
    exact ⟨_, hbytes⟩
  · intro room s call later memory hempty hcalls hcompleted hsuccess hlength
    exact recv_malformed room hempty hcalls hcompleted hsuccess hlength

def hollow : Memory := fun i => if i = 0 then 1 else 0

/-- A hollow completion fails the call that it answers. -/
theorem vmcall_raw_hollow :
    ∃ e t, recv 16 (new [⟨true, true, [(some false, hollow), (some true, hollow)]⟩]) =
      (.error (.failed e), t) ∧ t.dataQueue = [] :=
  vmcall_raw_byte_stream.2.2 16 _ ⟨true, true, [(some false, hollow), (some true, hollow)]⟩ []
    hollow rfl rfl ⟨rfl, rfl, rfl⟩ (by decide) (.inl (by decide))

end MigTd.VmcallRaw.Stream
