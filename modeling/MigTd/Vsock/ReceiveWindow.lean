/- source: vsock/src/stream.rs
   digest: The data queued in a stream against the credit that the stream gives to its peer. -/

import Mathlib.Data.List.Basic
import Mathlib.Data.List.Induction
import MigTd.Vsock.Credit

set_option autoImplicit false

namespace MigTd.Vsock.ReceiveWindow

open Lib.StateProgram ByteStream Credit Protocol Vsock.Stream StreamMoves

/-- The bytes that the headers of the peer announced. -/
def peerSent (log : List StreamEvent) : Nat :=
  log.foldl (fun total e => match e with
    | .arrived dataLen _ _ => total + dataLen.toNat
    | _ => total) 0

/-- The counter in the last packet that the transport took. -/
def advertised (log : List StreamEvent) : UInt32 :=
  log.foldl (fun last e => match e with
    | .posted header true => header.fwdCnt
    | _ => last) 0

/-- What the peer sent minus the counter it was told, on 32 bits. -/
def outstanding (log : List StreamEvent) : Nat :=
  (UInt32.ofNat (peerSent log) - advertised log).toNat

def acknowledged (log : List StreamEvent) : Nat := peerSent log - outstanding log

def announcedLength : StreamEvent → Option UInt32
  | .arrived dataLen _ _ => some dataLen
  | _ => none

/-- The announced lengths of the payloads, each with the events before it. -/
def arrivals (log : List StreamEvent) : List (List StreamEvent × UInt32) :=
  (List.range log.length).filterMap fun k => (log[k]?.bind announcedLength).map (log.take k, ·)

/-- The peer never sends more than the buffer size minus what is outstanding. -/
def WindowKept (log : List StreamEvent) : Prop :=
  ∀ a ∈ arrivals log, outstanding a.1 + a.2.toNat ≤ VSOCK_BUF_ALLOC.toNat
  deriving Decidable

/-- Of the bytes that were acknowledged when a payload arrived, all but this many had been read. -/
def ReadWithin (excess : Nat) (log : List StreamEvent) : Prop :=
  ∀ a ∈ arrivals log, acknowledged a.1 ≤ (returnedBytes a.1).length + excess
  deriving Decidable

/-- Every packet tells the size of the buffer and a count of bytes that had arrived. -/
def Told (log : List StreamEvent) : Prop :=
  ∀ before header taken after, log = before ++ .posted header taken :: after →
    header.bufAlloc = VSOCK_BUF_ALLOC ∧ ∃ n ≤ peerSent before, header.fwdCnt = UInt32.ofNat n

section

variable {log : List StreamEvent} {event : StreamEvent}

theorem peerSent_snoc (log : List StreamEvent) (event : StreamEvent) :
    peerSent (log ++ [event]) = match event with
      | .arrived dataLen _ _ => peerSent log + dataLen.toNat
      | _ => peerSent log := by
  unfold peerSent
  rw [List.foldl_append]
  rfl

theorem advertised_snoc (log : List StreamEvent) (event : StreamEvent) :
    advertised (log ++ [event]) = match event with
      | .posted header true => header.fwdCnt
      | _ => advertised log := by
  unfold advertised
  rw [List.foldl_append]
  rfl

theorem peerSent_mono (log : List StreamEvent) (event : StreamEvent) :
    peerSent log ≤ peerSent (log ++ [event]) := by
  rw [peerSent_snoc]
  split <;> omega

theorem arrivals_snoc (log : List StreamEvent) (event : StreamEvent) :
    arrivals (log ++ [event]) = arrivals log ++ ((announcedLength event).map (log, ·)).toList := by
  unfold arrivals
  rw [List.length_append, List.length_singleton, List.range_succ, List.filterMap_append]
  congr 1
  · refine List.filterMap_congr fun k hk => ?_
    have hk := List.mem_range.mp hk
    rw [List.getElem?_append_left hk, List.take_append_of_le_length hk.le]
  · cases hlength : announcedLength event <;> simp [hlength]

theorem Told.of_snoc (h : Told (log ++ [event])) : Told log := by
  intro before header taken after hsplit
  exact h before header taken (after ++ [event]) (by rw [hsplit]; simp)

theorem told_snoc (h : Told log) (hevent : ∀ header taken, event = .posted header taken →
      header.bufAlloc = VSOCK_BUF_ALLOC ∧ ∃ n ≤ peerSent log, header.fwdCnt = UInt32.ofNat n) :
    Told (log ++ [event]) := by
  intro before header taken after hsplit
  rcases split_snoc hsplit with ⟨after', hlog⟩ | ⟨rfl, hlast⟩
  · exact h before header taken after' hlog
  · exact hevent header taken hlast

theorem Told.advertised (h : Told log) : ∃ n ≤ peerSent log, advertised log = UInt32.ofNat n := by
  induction log using List.reverseRecOn with
  | nil => exact ⟨0, le_rfl, rfl⟩
  | append_singleton log event ih =>
    obtain ⟨n, hn, hlast⟩ := ih h.of_snoc
    have hold : ∃ n ≤ peerSent (log ++ [event]), ReceiveWindow.advertised log = UInt32.ofNat n :=
      ⟨n, hn.trans (peerSent_mono log event), hlast⟩
    rw [advertised_snoc]
    split
    · next header =>
      obtain ⟨-, m, hm, hfwd⟩ := h log header true [] rfl
      exact ⟨m, hm.trans (peerSent_mono log _), hfwd⟩
    · exact hold

theorem Told.outstanding_le (h : Told log) : outstanding log ≤ peerSent log := by
  obtain ⟨n, hn, hadvertised⟩ := h.advertised
  unfold outstanding
  rw [hadvertised, ← UInt32.ofNat_sub hn, UInt32.toNat_ofNat']
  exact (Nat.mod_le _ _).trans (Nat.sub_le _ _)

theorem keptBytes_le (log : List StreamEvent) : (keptBytes log).length ≤ peerSent log := by
  induction log using List.reverseRecOn with
  | nil => exact le_rfl
  | append_singleton log event ih =>
    rw [keptBytes_snoc, List.length_append, peerSent_snoc]
    cases event with
    | arrived dataLen buffer answered =>
      have hpayload : (payloadOf (.arrived dataLen buffer answered)).length ≤ dataLen.toNat :=
        List.length_take_le _ _
      dsimp only
      split
      · simp only [List.length_nil]
        omega
      · omega
    | _ => exact ih

theorem keptBytes_eq (h : ∀ event ∈ log, lost event = false) :
    (keptBytes log).length = peerSent log := by
  induction log using List.reverseRecOn with
  | nil => rfl
  | append_singleton log event ih =>
    have hearlier := ih fun e he => h e (List.mem_append_left _ he)
    have hlast := h event (by simp)
    rw [keptBytes_snoc, List.length_append, peerSent_snoc, hearlier, if_neg (by simp [hlast])]
    cases event with
    | arrived dataLen buffer answered =>
      have hwhole : dataLen.toNat ≤ buffer.length := by
        simp only [lost, Bool.or_eq_false_iff, decide_eq_false_iff_not] at hlast
        omega
      simp [payloadOf, hwhole]
    | _ => rfl

private theorem returnedBytes_mono (log : List StreamEvent) (event : StreamEvent) :
    (returnedBytes log).length ≤ (returnedBytes (log ++ [event])).length := by
  rw [returnedBytes_snoc, List.length_append]
  omega

theorem kept_within {excess : Nat} (htold : Told log) (hwindow : WindowKept log)
    (hread : ReadWithin excess log) :
    (keptBytes log).length ≤ (returnedBytes log).length + (VSOCK_BUF_ALLOC.toNat + excess) := by
  induction log using List.reverseRecOn with
  | nil => exact Nat.zero_le _
  | append_singleton log event ih =>
    unfold WindowKept at hwindow
    unfold ReadWithin at hread
    rw [arrivals_snoc, List.forall_mem_append] at hwindow hread
    have hearlier := ih htold.of_snoc hwindow.1 hread.1
    have hreturned := returnedBytes_mono log event
    cases event with
    | arrived dataLen buffer answered =>
      have hroom := hwindow.2 (log, dataLen) (List.mem_singleton_self _)
      have hunread := hread.2 (log, dataLen) (List.mem_singleton_self _)
      have hkept := keptBytes_le (log ++ [.arrived dataLen buffer answered])
      have hbelow := htold.of_snoc.outstanding_le
      rw [peerSent_snoc] at hkept
      unfold acknowledged at hunread
      dsimp only at hkept hroom hunread
      omega
    | _ =>
      rw [keptBytes_snoc]
      simp only [lost, payloadOf, Bool.false_eq_true, if_false, List.append_nil]
      omega

end

structure Counters (e : Endpoint) : Prop where
  told : Told e.log
  rx : ∃ n ≤ peerSent e.log, e.stream.rxCnt = UInt32.ofNat n

section

variable {τ : Type} {T : Transport τ} {stream stream' : VsockStream} {log : List StreamEvent}
  {event : StreamEvent}

theorem counters_other (h : Counters ⟨stream, log⟩) (hrx : stream'.rxCnt = stream.rxCnt)
    (hevent : ∀ header taken, event ≠ .posted header taken) :
    Counters ⟨stream', log ++ [event]⟩ := by
  obtain ⟨n, hn, hcount⟩ := h.rx
  exact ⟨told_snoc h.told fun header taken he => absurd he (hevent header taken),
    n, hn.trans (peerSent_mono log event), hrx.trans hcount⟩

theorem counters_posted {header : Header} {taken : Bool} (h : Counters ⟨stream, log⟩)
    (hrx : stream'.rxCnt = stream.rxCnt) (hsize : header.bufAlloc = VSOCK_BUF_ALLOC)
    (hcounter : header.fwdCnt = stream.rxCnt ∨ header.fwdCnt = 0) :
    Counters ⟨stream', log ++ [.posted header taken]⟩ := by
  obtain ⟨n, hn, hcount⟩ := h.rx
  refine ⟨told_snoc h.told ?_, n, hn.trans (peerSent_mono log _), hrx.trans hcount⟩
  rintro _ _ ⟨⟩
  refine ⟨hsize, ?_⟩
  rcases hcounter with hown | hzero
  · exact ⟨n, hn, hown.trans hcount⟩
  · exact ⟨0, Nat.zero_le _, hzero⟩

private theorem counters_counted {dataLen : UInt32} {buffer : Octets} {answered : Bool}
    (h : Counters ⟨stream, log⟩) (hrx : stream'.rxCnt = stream.rxCnt + dataLen) :
    Counters ⟨stream', log ++ [.arrived dataLen buffer answered]⟩ := by
  obtain ⟨n, hn, hcount⟩ := h.rx
  refine ⟨told_snoc h.told fun _ _ => nofun, n + dataLen.toNat, ?_, ?_⟩
  · rw [peerSent_snoc]
    exact Nat.add_le_add_right hn _
  · rw [hrx, UInt32.ofNat_add, UInt32.ofNat_toNat]
    exact congrArg (· + dataLen) hcount

theorem counters_payload {dataLen : UInt32} {buffer : Octets} {s t : Socket τ}
    {r : Except (Halt VsockError) Unit} (outcome : PayloadOutcome T dataLen buffer s r t)
    (h : Counters ⟨s.stream, s.log⟩) : Counters ⟨t.stream, t.log⟩ := by
  have hcounted : Counters ⟨(counted T dataLen buffer s).stream, (counted T dataLen buffer s).log⟩ :=
    counters_counted h rfl
  cases outcome with
  | short => exact counters_other h rfl fun _ _ => nofun
  | uncredited => exact counters_posted hcounted rfl rfl (.inl rfl)
  | credited => exact counters_posted hcounted rfl rfl (.inl rfl)
  | queued => exact ⟨hcounted.told, hcounted.rx⟩

theorem counters_move (s t : Socket τ) (hmove : Move T true s t)
    (h : Counters ⟨s.stream, s.log⟩) : Counters ⟨t.stream, t.log⟩ := by
  cases hmove with
  | bound => exact ⟨h.told, h.rx⟩
  | listening => exact ⟨h.told, h.rx⟩
  | accepted => exact h
  | requestFailed => exact counters_posted h rfl rfl (.inr rfl)
  | requested => exact counters_posted h rfl rfl (.inr rfl)
  | unlistened => exact ⟨h.told, h.rx⟩
  | enqueue _ _ hsize hcounter => exact counters_posted h rfl hsize hcounter
  | dequeue => exact h
  | connected => exact counters_other h rfl fun _ _ => nofun
  | closing => exact counters_posted h rfl rfl (.inl rfl)
  | closed => exact counters_posted h rfl rfl (.inl rfl)
  | credit => exact counters_other h rfl fun _ _ => nofun
  | received => exact counters_other h rfl fun _ _ => nofun
  | payload _ _ _ _ outcome => exact counters_payload outcome h
  | sent => exact counters_other h rfl fun _ _ => nofun
  | drained => exact counters_other h rfl fun _ _ => nofun

end

theorem told_nil : Told [] := by
  intro before header taken after hsplit
  simp at hsplit

theorem run_counters {τ : Type} (T : Transport τ) (overflowChecks : Bool) (host : τ) (ops : List Op) :
    ∀ e ∈ (run T overflowChecks (.initial host) ops).ends, Counters e := by
  refine run_endpoints (P := Counters) (fun _ _ => ?_) (fun _ _ _ => ?_) counters_move
    overflowChecks host ops
  · exact ⟨told_nil, 0, le_rfl, rfl⟩
  · exact ⟨told_snoc told_nil fun _ _ => nofun, 0, le_rfl, rfl⟩

/-- A stream acknowledges the bytes that it has received and not those that were read. So with a
peer that keeps to the window it queues at most a buffer and what it acknowledged too early, and
without losses the credit that it has given fits into the rest of the buffer exactly if all that it
acknowledged was read. -/
theorem receive_window_iff {τ : Type} (T : Transport τ) (overflowChecks : Bool) (host : τ)
    (ops : List Op) : ∀ e ∈ (run T overflowChecks (.initial host) ops).ends,
      (∀ header taken, .posted header taken ∈ e.log → header.bufAlloc = VSOCK_BUF_ALLOC) ∧
      (∀ excess, WindowKept e.log → ReadWithin excess e.log →
        e.stream.dataQueue.flatten.length ≤ VSOCK_BUF_ALLOC.toNat + excess) ∧
      ((∀ event ∈ e.log, lost event = false) → outstanding e.log ≤ VSOCK_BUF_ALLOC.toNat →
        (e.stream.dataQueue.flatten.length + (VSOCK_BUF_ALLOC.toNat - outstanding e.log) ≤
            VSOCK_BUF_ALLOC.toNat ↔
          acknowledged e.log ≤ (returnedBytes e.log).length)) := by
  intro e he
  obtain ⟨htold, -⟩ := run_counters T overflowChecks host ops e he
  have hconserved := congrArg List.length (run_conserved T overflowChecks host ops e he)
  rw [List.length_append] at hconserved
  refine ⟨?_, ?_, ?_⟩
  · intro header taken hmem
    obtain ⟨before, after, hsplit⟩ := List.append_of_mem hmem
    exact (htold before header taken after hsplit).1
  · intro excess hwindow hread
    have hkept := kept_within htold hwindow hread
    omega
  · intro hkept hroom
    have hall := keptBytes_eq hkept
    have hbelow := htold.outstanding_le
    unfold acknowledged
    omega

/-- The stream has read four of the six bytes that it got. -/
def halfRead : Endpoint where
  stream := { acceptedStream ⟨⟨33, 40001⟩, ⟨2, 1234⟩⟩ 64 0 with
    transportContext := 7, rxCnt := 6, dataQueue := [hello.drop 4] }
  log := [.posted requestHeader true, .opened 64 0, .credit 64 0,
    .received .established (fromPeer OP_RW 6 64 0 ++ hello), .arrived 6 hello true,
    .returned (hello.take 4)]

theorem receive_window_hello :
    halfRead ∈ (run (scripted false greeting) false (.initial 0) (twoReads.take 3)).ends ∧
    WindowKept halfRead.log ∧ ReadWithin 0 halfRead.log ∧
    halfRead.stream.dataQueue.flatten.length = 2 ∧
    halfRead.stream.dataQueue.flatten.length ≤ VSOCK_BUF_ALLOC.toNat + 0 ∧
    (∀ event ∈ halfRead.log, lost event = false) ∧
    outstanding halfRead.log = 6 ∧
    (halfRead.stream.dataQueue.flatten.length + (VSOCK_BUF_ALLOC.toNat - outstanding halfRead.log) ≤
        VSOCK_BUF_ALLOC.toNat ↔ acknowledged halfRead.log ≤ (returnedBytes halfRead.log).length) := by
  have hfacts : halfRead ∈ (run (scripted false greeting) false (.initial 0) (twoReads.take 3)).ends ∧
      WindowKept halfRead.log ∧ ReadWithin 0 halfRead.log ∧
      (∀ event ∈ halfRead.log, lost event = false) ∧ outstanding halfRead.log = 6 := by
    decide +kernel
  obtain ⟨hmem, hwindow, hread, hkept, hsix⟩ := hfacts
  obtain ⟨-, hbound, hcredit⟩ := receive_window_iff _ false _ _ halfRead hmem
  exact ⟨hmem, hwindow, hread, rfl, hbound 0 hwindow hread, hkept, hsix,
    hcredit hkept (by rw [hsix]; decide)⟩

def twoBlocks : List Octets :=
  [fromPeer OP_RESPONSE 0 0 0, blockHeader.bytes ++ block, block, blockHeader.bytes ++ block, block]

/-- A block has been queued and acknowledged. -/
def filled (s : Socket Nat) : Socket Nat := queuePayload block (updated false twoBlocks s)

theorem awaitCredit_fills {s : Socket Nat} (turns : Nat) (hspace : s.stream.peerFreeSpace = 0)
    (hpacket : twoBlocks[s.net.host]? = some (blockHeader.bytes ++ block))
    (hdata : twoBlocks[s.net.host + 1]? = some block)
    (hlow : Low (scripted false twoBlocks) (measured false twoBlocks s).stream) :
    awaitCredit (scripted false twoBlocks) (turns + 1) s =
      awaitCredit (scripted false twoBlocks) turns (filled s) :=
  awaitCredit_wait turns hspace (block_outcome hpacket hdata hlow)

private theorem send_fails {τ : Type} {T : Transport τ} {overflowChecks : Bool} {turns : Nat}
    {buf : Octets} {s t : Socket τ} {e : Halt VsockError} (hbuf : 0 < buf.length)
    (hstate : s.stream.state = .established) (hawait : awaitCredit T turns s = (.error e, t)) :
    (send T overflowChecks (turns + 1) buf s).2 = t := by
  have hloop : sendLoop T overflowChecks buf (turns + 1) 0 s = (.error e, t) := by
    rw [sendLoop, if_pos hbuf, run_bind_error hawait]
  unfold send
  rw [observe_bind, run_bind_ok (a := ()) (ensure_ok.mpr ⟨hstate, rfl⟩), run_bind_error hloop]

def beforeBlocks : Socket Nat := connectedSocket (scripted false twoBlocks)

private theorem send_fills : (send (scripted false twoBlocks) false 3 [0] beforeBlocks).2 =
    filled (filled beforeBlocks) := by
  have hfirst : beforeBlocks.stream.peerFreeSpace = 0 ∧ beforeBlocks.net.host = 1 ∧
      Low (scripted false twoBlocks) (measured false twoBlocks beforeBlocks).stream := by
    decide +kernel
  have hsecond : (filled beforeBlocks).stream.peerFreeSpace = 0 ∧
      (filled beforeBlocks).net.host = 3 ∧
      Low (scripted false twoBlocks) (measured false twoBlocks (filled beforeBlocks)).stream := by
    decide +kernel
  refine send_fails (e := .pending) (by decide) rfl ?_
  rw [awaitCredit_fills 1 hfirst.1 (by rw [hfirst.2.1]; rfl) (by rw [hfirst.2.1]; rfl) hfirst.2.2,
    awaitCredit_fills 0 hsecond.1 (by rw [hsecond.2.1]; rfl) (by rw [hsecond.2.1]; rfl) hsecond.2.2]
  rfl

/-- The peer keeps to its window and the application reads nothing: the stream acknowledges the
first block at once, and the second one is more than its buffer. -/
theorem receive_window_overrun :
    ∃ e ∈ (run (scripted false twoBlocks) false (.initial 0)
        (connecting ++ [.call 0 (.send 3 [0])])).ends,
      WindowKept e.log ∧ returnedBytes e.log = [] ∧
      e.stream.dataQueue.flatten.length = 393218 ∧ VSOCK_BUF_ALLOC.toNat < 393218 := by
  have hends : (run (scripted false twoBlocks) false (.initial 0) connecting).ends =
      [connectedEnd] := by
    decide +kernel
  have hcall := step_call false (c := .send 3 [0]) hends (congrArg (·, none) send_fills)
  have hlog : WindowKept (filled (filled beforeBlocks)).log ∧
      returnedBytes (filled (filled beforeBlocks)).log = [] := by
    decide +kernel
  have hqueue : (filled (filled beforeBlocks)).stream.dataQueue = [block, block] := rfl
  rw [run_snoc, hcall]
  refine ⟨_, List.mem_singleton_self _, hlog.1, hlog.2, ?_, by decide⟩
  rw [hqueue]
  simp only [List.flatten_cons, List.flatten_nil, List.length_append, length_block]
  decide +kernel

end MigTd.Vsock.ReceiveWindow
