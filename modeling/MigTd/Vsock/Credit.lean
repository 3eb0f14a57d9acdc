/- source: vsock/src/stream.rs
   digest: Transmit credit of a stream against a peer with free-running 32-bit counters. -/

import MigTd.Vsock.ByteStream
import MigTd.Vsock.Transports

set_option autoImplicit false

namespace MigTd.Vsock.Credit

open Lib.StateProgram ByteStream Protocol Vsock.Stream StreamMoves Transports

def sentBytes (log : List StreamEvent) : Nat :=
  log.foldl (fun total e => match e with
    | .sent n => total + n
    | _ => total) 0

/-- The buffer size and the counter that the peer told last. -/
def lastCredit (log : List StreamEvent) : UInt32 × UInt32 :=
  log.foldl (fun last e => match e with
    | .opened bufAlloc fwdCnt => (bufAlloc, fwdCnt)
    | .credit bufAlloc fwdCnt => (bufAlloc, fwdCnt)
    | _ => last) (0, 0)

/-- The event tells nothing about sent bytes or credit. -/
def Silent : StreamEvent → Prop
  | .opened .. => False
  | .credit .. => False
  | .sent _ => False
  | _ => True

theorem sentBytes_snoc (log : List StreamEvent) (e : StreamEvent) :
    sentBytes (log ++ [e]) = match e with
      | .sent n => sentBytes log + n
      | _ => sentBytes log := by
  unfold sentBytes
  rw [List.foldl_append]
  rfl

theorem lastCredit_snoc (log : List StreamEvent) (event : StreamEvent) :
    lastCredit (log ++ [event]) = match event with
      | .opened bufAlloc fwdCnt => (bufAlloc, fwdCnt)
      | .credit bufAlloc fwdCnt => (bufAlloc, fwdCnt)
      | _ => lastCredit log := by
  unfold lastCredit
  rw [List.foldl_append]
  rfl

def computedFree (log : List StreamEvent) : Nat :=
  (saturatingSub (lastCredit log).1
    (saturatingSub (UInt32.ofNat (sentBytes log)) (lastCredit log).2)).toNat

/-- Every packet fits into the free space computed before it. -/
def Paced (log : List StreamEvent) : Prop :=
  ∀ before n after, log = before ++ .sent n :: after → n ≤ computedFree before

theorem toNat_saturatingSub (a b : UInt32) : (saturatingSub a b).toNat = a.toNat - b.toNat := by
  unfold saturatingSub
  by_cases h : b ≤ a
  · rw [if_pos h, UInt32.toNat_sub_of_le _ _ h]
  · rw [if_neg h]
    have hlt : a.toNat < b.toNat := by
      rw [UInt32.le_iff_toNat_le] at h
      omega
    rw [UInt32.toNat_zero]
    omega

theorem split_snoc {α : Type} {log : List α} {e x : α} {before after : List α}
    (h : log ++ [e] = before ++ x :: after) :
    (∃ after', log = before ++ x :: after') ∨ (log = before ∧ e = x) := by
  rcases List.eq_nil_or_concat after with rfl | ⟨after', last, rfl⟩
  · obtain ⟨hlog, hlast⟩ := List.append_inj' h rfl
    exact .inr ⟨hlog, (List.cons.inj hlast).1⟩
  · have hsplit : log ++ [e] = (before ++ x :: after') ++ [last] := by
      rw [h]
      simp
    exact .inl ⟨after', (List.append_inj' hsplit rfl).1⟩

variable {e : StreamEvent} {log : List StreamEvent} {event : StreamEvent}

theorem paced_snoc (h : Paced log)
    (he : ∀ n, e = .sent n → n ≤ computedFree log) : Paced (log ++ [e]) := by
  intro before n after hsplit
  rcases split_snoc hsplit with ⟨after', hlog⟩ | ⟨rfl, hlast⟩
  · exact h before n after' hlog
  · exact he n hlast

theorem Paced.of_snoc (h : Paced (log ++ [e])) : Paced log := by
  intro before n after hsplit
  exact h before n (after ++ [e]) (by rw [hsplit]; simp)

structure Counted {τ : Type} (T : Transport τ) (e : Endpoint) : Prop where
  tx : e.stream.txCnt = UInt32.ofNat (sentBytes e.log)
  bufAlloc : e.stream.peerBufAlloc = (lastCredit e.log).1
  fwdCnt : e.stream.peerFwdCnt = (lastCredit e.log).2
  paced : Whole T → Paced e.log

section

variable {τ : Type} {T : Transport τ}

theorem Counted.free {e : Endpoint} (h : Counted T e) :
    e.stream.peerFreeSpace.toNat = computedFree e.log := by
  unfold VsockStream.peerFreeSpace computedFree
  rw [h.tx, h.bufAlloc, h.fwdCnt]

variable {stream stream' : VsockStream}

theorem counted_credit (h : Counted T ⟨stream, log⟩) (htx : stream'.txCnt = stream.txCnt)
    (hcredit : (stream'.peerBufAlloc, stream'.peerFwdCnt) = lastCredit (log ++ [event]))
    (hevent : ∀ n, event ≠ .sent n) : Counted T ⟨stream', log ++ [event]⟩ where
  tx := by
    have hsame : sentBytes (log ++ [event]) = sentBytes log := by
      rw [sentBytes_snoc]
      cases event with
      | sent n => exact absurd rfl (hevent n)
      | _ => rfl
    rw [hsame]
    exact htx.trans h.tx
  bufAlloc := congrArg Prod.fst hcredit
  fwdCnt := congrArg Prod.snd hcredit
  paced hwhole := paced_snoc (h.paced hwhole) fun n hn => absurd hn (hevent n)

theorem credit_same {stream : VsockStream}
    (h : Counted T ⟨stream, log⟩) (hsame : lastCredit (log ++ [event]) = lastCredit log) :
    (stream.peerBufAlloc, stream.peerFwdCnt) = lastCredit (log ++ [event]) := by
  rw [hsame]
  exact Prod.ext h.bufAlloc h.fwdCnt

theorem lastCredit_silent (h : Silent event) : lastCredit (log ++ [event]) = lastCredit log := by
  rw [lastCredit_snoc]
  cases event <;> first | rfl | exact h.elim

theorem sentBytes_silent (h : Silent event) : sentBytes (log ++ [event]) = sentBytes log := by
  rw [sentBytes_snoc]
  cases event <;> first | rfl | exact h.elim

theorem counted_silent (h : Counted T ⟨stream, log⟩) (hevent : Silent event)
    (htx : stream'.txCnt = stream.txCnt) (halloc : stream'.peerBufAlloc = stream.peerBufAlloc)
    (hfwd : stream'.peerFwdCnt = stream.peerFwdCnt) : Counted T ⟨stream', log ++ [event]⟩ := by
  have hcredit := credit_same h (lastCredit_silent hevent)
  rw [← halloc, ← hfwd] at hcredit
  exact counted_credit h htx hcredit fun n hn => by cases hn; exact hevent

theorem counted_move (s t : Socket τ) (hmove : Move T true s t)
    (h : Counted T ⟨s.stream, s.log⟩) : Counted T ⟨t.stream, t.log⟩ := by
  have hsame : ∀ {stream : VsockStream}, stream.txCnt = s.stream.txCnt →
      stream.peerBufAlloc = s.stream.peerBufAlloc → stream.peerFwdCnt = s.stream.peerFwdCnt →
      Counted T ⟨stream, s.log⟩ := fun htx halloc hfwd =>
    ⟨htx.trans h.tx, halloc.trans h.bufAlloc, hfwd.trans h.fwdCnt, h.paced⟩
  cases hmove with
  | bound => exact hsame rfl rfl rfl
  | listening => exact hsame rfl rfl rfl
  | accepted => exact h
  | requestFailed => exact counted_silent h trivial rfl rfl rfl
  | requested => exact counted_silent h trivial rfl rfl rfl
  | unlistened => exact hsame rfl rfl rfl
  | enqueue => exact counted_silent h trivial rfl rfl rfl
  | dequeue => exact h
  | connected bufAlloc fwdCnt =>
    exact counted_credit h rfl (lastCredit_snoc s.log (.opened bufAlloc fwdCnt)).symm fun _ => nofun
  | closing => exact counted_silent h trivial rfl rfl rfl
  | closed => exact counted_silent h trivial rfl rfl rfl
  | credit bufAlloc fwdCnt =>
    exact counted_credit h rfl (lastCredit_snoc s.log (.credit bufAlloc fwdCnt)).symm fun _ => nofun
  | received => exact counted_silent h trivial rfl rfl rfl
  | payload _ dataLen buffer _ outcome =>
    refine outcome.preserves (I := fun u => Counted T ⟨u.stream, u.log⟩) ?_ ?_ ?_ ?_
    · exact counted_silent h trivial rfl rfl rfl
    · exact fun _ hu => ⟨hu.tx, hu.bufAlloc, hu.fwdCnt, hu.paced⟩
    · exact fun _ hu => counted_silent hu trivial rfl rfl rfl
    · exact fun _ hu => ⟨hu.tx, hu.bufAlloc, hu.fwdCnt, hu.paced⟩
  | drained room => exact counted_silent h trivial rfl rfl rfl
  | sent n hspace =>
    have hcredit := credit_same h (lastCredit_snoc s.log (.sent n))
    refine ⟨?_, congrArg Prod.fst hcredit, congrArg Prod.snd hcredit, fun hwhole => ?_⟩
    · change s.stream.txCnt + n.toUInt32 = UInt32.ofNat (sentBytes (s.log ++ [.sent n]))
      rw [sentBytes_snoc, UInt32.ofNat_add, ← h.tx]
    · refine paced_snoc (h.paced hwhole) ?_
      rintro m ⟨⟩
      rw [← h.free]
      exact hspace hwhole

theorem run_counted (overflowChecks : Bool) (host : τ) (ops : List Op) :
    ∀ e ∈ (run T overflowChecks (.initial host) ops).ends, Counted T e := by
  have hnil : Paced [] := by
    intro before n after h
    simp at h
  refine run_endpoints (P := Counted T) (fun addr context => ?_) (fun addr bufAlloc fwdCnt => ?_)
    counted_move overflowChecks host ops
  · exact ⟨rfl, rfl, rfl, fun _ => hnil⟩
  · exact ⟨rfl, rfl, rfl, fun _ => paced_snoc hnil fun n h => by cases h⟩

end

/-- A history of a connection with a peer that keeps to the rules: `S` bytes sent, `F` of them
forwarded and a buffer of `b` bytes now. The peer tells `F` modulo `2 ^ 32`; it forwards only what
was sent, and the end of its window never moves back. At every moment `Ok` holds. -/
inductive History (Ok : List StreamEvent → Nat → Nat → UInt32 → Prop) :
    List StreamEvent → Nat → Nat → UInt32 → Prop where
  | start (now : Ok [] 0 0 0) : History Ok [] 0 0 0
  | opened {log : List StreamEvent} {S F : Nat} {b : UInt32} (b' : UInt32)
      (earlier : History Ok log S F b) (now : Ok (log ++ [.opened b' 0]) 0 0 b') :
      History Ok (log ++ [.opened b' 0]) 0 0 b'
  | credit {log : List StreamEvent} {S F : Nat} {b : UInt32} (b' : UInt32) (F' : Nat)
      (earlier : History Ok log S F b) (monotone : F ≤ F') (known : F' ≤ S)
      (window : F + b.toNat ≤ F' + b'.toNat)
      (now : Ok (log ++ [.credit b' (UInt32.ofNat F')]) S F' b') :
      History Ok (log ++ [.credit b' (UInt32.ofNat F')]) S F' b'
  | sent {log : List StreamEvent} {S F : Nat} {b : UInt32} (n : Nat)
      (earlier : History Ok log S F b) (now : Ok (log ++ [.sent n]) (S + n) F b) :
      History Ok (log ++ [.sent n]) (S + n) F b
  | silent {log : List StreamEvent} {S F : Nat} {b : UInt32} (event : StreamEvent)
      (other : Silent event) (earlier : History Ok log S F b)
      (now : Ok (log ++ [event]) S F b) : History Ok (log ++ [event]) S F b

/-- The bytes in flight fit into the buffer of the peer, and the computed free space is the rest
of it. -/
def Exact (log : List StreamEvent) (S F : Nat) (b : UInt32) : Prop :=
  S - F ≤ b.toNat ∧ computedFree log = b.toNat - (S - F)

/-- Neither counter has wrapped around more often than the other one. -/
def SameEpoch (_ : List StreamEvent) (S F : Nat) (_ : UInt32) : Prop := S / 2 ^ 32 = F / 2 ^ 32

/-- Nothing was sent on an earlier connection of the stream. -/
def FirstConnection (log : List StreamEvent) : Prop :=
  ∀ before b f after, log = before ++ .opened b f :: after → sentBytes before = 0

theorem FirstConnection.of_snoc (h : FirstConnection (log ++ [e])) : FirstConnection log := by
  intro before b f after hsplit
  exact h before b f (after ++ [e]) (by rw [hsplit]; simp)

theorem firstConnection_snoc (h : FirstConnection log)
    (he : ∀ b f, e ≠ .opened b f) : FirstConnection (log ++ [e]) := by
  intro before b f after hsplit
  rcases split_snoc hsplit with ⟨after', hlog⟩ | ⟨-, hlast⟩
  · exact h before b f after' hlog
  · exact absurd hlast (he b f)

section

variable {Ok Ok' : List StreamEvent → Nat → Nat → UInt32 → Prop} {log : List StreamEvent}
  {S F : Nat} {b : UInt32}

theorem History.now (h : History Ok log S F b) : Ok log S F b := by
  cases h <;> assumption

theorem History.imp {K : List StreamEvent → Prop} (hK : ∀ log e, K (log ++ [e]) → K log)
    (himp : ∀ log S F b, K log → History Ok log S F b → Ok' log S F b)
    (h : History Ok log S F b) (hlog : K log) : History Ok' log S F b := by
  induction h with
  | start now => exact .start (himp _ _ _ _ hlog (.start now))
  | opened b' earlier now ih =>
    exact .opened b' (ih (hK _ _ hlog)) (himp _ _ _ _ hlog (.opened b' earlier now))
  | credit b' F' earlier monotone known window now ih =>
    exact .credit b' F' (ih (hK _ _ hlog)) monotone known window
      (himp _ _ _ _ hlog (.credit b' F' earlier monotone known window now))
  | sent n earlier now ih =>
    exact .sent n (ih (hK _ _ hlog)) (himp _ _ _ _ hlog (.sent n earlier now))
  | silent event other earlier now ih =>
    exact .silent event other (ih (hK _ _ hlog)) (himp _ _ _ _ hlog (.silent event other earlier now))

structure Known (log : List StreamEvent) (S F : Nat) (b : UInt32) : Prop where
  sent : sentBytes log = S
  credit : lastCredit log = (b, UInt32.ofNat F)
  forwarded : F ≤ S

theorem History.known (h : History Ok log S F b) (hfirst : FirstConnection log) :
    Known log S F b := by
  induction h with
  | start => exact ⟨rfl, rfl, le_rfl⟩
  | @opened log _ _ _ b' _ _ _ =>
    have hzero := hfirst log b' 0 [] rfl
    exact ⟨(sentBytes_snoc log _).trans hzero, lastCredit_snoc log _, le_rfl⟩
  | @credit log _ _ _ b' F' _ _ hknown _ _ ih =>
    exact ⟨(sentBytes_snoc log _).trans (ih hfirst.of_snoc).sent, lastCredit_snoc log _, hknown⟩
  | @sent log S _ _ n _ _ ih =>
    have hearlier := ih hfirst.of_snoc
    refine ⟨?_, (lastCredit_snoc log _).trans hearlier.credit, ?_⟩
    · exact (sentBytes_snoc log (.sent n)).trans (congrArg (· + n) hearlier.sent)
    · exact Nat.le_trans hearlier.forwarded (Nat.le_add_right _ _)
  | silent event other _ _ ih =>
    have hearlier := ih hfirst.of_snoc
    exact ⟨(sentBytes_silent other).trans hearlier.sent,
      (lastCredit_silent other).trans hearlier.credit, hearlier.forwarded⟩

theorem Known.computedFree_iff (h : Known log S F b) (hfits : S - F ≤ b.toNat) :
    computedFree log = b.toNat - (S - F) ↔ S / 2 ^ 32 = F / 2 ^ 32 := by
  have hb := b.toNat_lt
  have hforwarded := h.forwarded
  unfold computedFree
  rw [toNat_saturatingSub, toNat_saturatingSub, h.credit, h.sent, UInt32.toNat_ofNat',
    UInt32.toNat_ofNat']
  change b.toNat - (S % 2 ^ 32 - F % 2 ^ 32) = b.toNat - (S - F) ↔ _
  omega

theorem History.within (h : History SameEpoch log S F b) (hfirst : FirstConnection log)
    (hpaced : Paced log) : S ≤ F + b.toNat := by
  induction h with
  | start => exact le_rfl
  | opened => exact Nat.zero_le _
  | credit b' F' _ _ _ window _ ih => exact (ih hfirst.of_snoc hpaced.of_snoc).trans window
  | @sent log S F b n earlier _ ih =>
    have hwindow := ih hfirst.of_snoc hpaced.of_snoc
    have hknown := earlier.known hfirst.of_snoc
    have hfree := (hknown.computedFree_iff (by omega)).mpr earlier.now
    have hspace := hpaced log n [] rfl
    have hforwarded := hknown.forwarded
    omega
  | silent _ _ _ _ ih => exact ih hfirst.of_snoc hpaced.of_snoc

theorem sameEpoch_of_exact (h : History Exact log S F b) (hfirst : FirstConnection log) :
    History SameEpoch log S F b := by
  refine h.imp (K := FirstConnection) (fun _ _ => FirstConnection.of_snoc) ?_ hfirst
  intro log S F b hfirst h
  exact ((h.known hfirst).computedFree_iff h.now.1).mp h.now.2

theorem exact_of_sameEpoch (h : History SameEpoch log S F b) (hfirst : FirstConnection log)
    (hpaced : Paced log) : History Exact log S F b := by
  refine h.imp (K := fun log => FirstConnection log ∧ Paced log)
    (fun _ _ hlog => ⟨hlog.1.of_snoc, hlog.2.of_snoc⟩) ?_ ⟨hfirst, hpaced⟩
  intro log S F b hlog h
  have hwindow := h.within hlog.1 hlog.2
  have hfits : S - F ≤ b.toNat := by omega
  exact ⟨hfits, ((h.known hlog.1).computedFree_iff hfits).mpr h.now⟩

theorem sameEpoch_of_lt (h : History Ok log S F b) (hfirst : FirstConnection log)
    (hlt : sentBytes log < 2 ^ 32) : History SameEpoch log S F b := by
  refine h.imp (K := fun log => FirstConnection log ∧ sentBytes log < 2 ^ 32) ?_ ?_ ⟨hfirst, hlt⟩
  · intro log e hlog
    refine ⟨hlog.1.of_snoc, ?_⟩
    have hmono : sentBytes log ≤ sentBytes (log ++ [e]) := by
      rw [sentBytes_snoc]
      split <;> omega
    omega
  · intro log S F b hlog h
    have hknown := h.known hlog.1
    have hS : S < 2 ^ 32 := by
      rw [← hknown.sent]
      exact hlog.2
    have hF : F < 2 ^ 32 := lt_of_le_of_lt hknown.forwarded hS
    exact (Nat.div_eq_of_lt hS).trans (Nat.div_eq_of_lt hF).symm

end

private theorem vmcall_whole : Whole vmcall := by
  intro context hdr buf net n net' h
  obtain ⟨_, _, -, hrest⟩ := bind_ok.mp h
  obtain ⟨_, _, -, hrest⟩ := bind_ok.mp hrest
  exact (pure_ok.mp hrest).1.symm

private theorem virtio_whole (overflowChecks : Bool) : Whole (virtio overflowChecks) := by
  intro context hdr buf net n net' h
  iterate 6 obtain ⟨_, _, -, h⟩ := bind_ok.mp h
  exact (pure_ok.mp h).1.symm

/-- A peer that keeps to the rules finds its window respected and its credit computed exactly as
long as neither counter is an epoch of `2 ^ 32` bytes ahead of the other one, and no longer. -/
theorem transmit_credit_iff (overflowChecks : Bool) :
    (∀ (τ : Type) (T : Transport τ), Whole T → ∀ (host : τ) (ops : List Op),
      ∀ e ∈ (run T overflowChecks (.initial host) ops).ends,
        e.stream.peerFreeSpace.toNat = computedFree e.log ∧
        (FirstConnection e.log → ∀ (S F : Nat) (b : UInt32),
          (History Exact e.log S F b ↔ History SameEpoch e.log S F b) ∧
          (sentBytes e.log < 2 ^ 32 → History (fun _ _ _ _ => True) e.log S F b →
            History Exact e.log S F b))) ∧
    Whole vmcall ∧ Whole (virtio overflowChecks) := by
  refine ⟨?_, vmcall_whole, virtio_whole overflowChecks⟩
  intro τ T hwhole host ops e he
  have hcounted : Counted T e := run_counted overflowChecks host ops e he
  have hpaced := hcounted.paced hwhole
  refine ⟨hcounted.free, ?_⟩
  intro hfirst S F b
  constructor
  · constructor
    · intro h
      exact sameEpoch_of_exact h hfirst
    · intro h
      exact exact_of_sameEpoch h hfirst hpaced
  · intro hlt h
    exact exact_of_sameEpoch (sameEpoch_of_lt h hfirst hlt) hfirst hpaced

variable {n : Nat}

section

variable {τ : Type} {T : Transport τ} {overflowChecks : Bool} {s t u : Socket τ} {turns : Nat}

theorem awaitCredit_ready (turns : Nat) (h : s.stream.peerFreeSpace ≠ 0) :
    awaitCredit T (turns + 1) s = (.ok (), s) := by
  unfold awaitCredit
  rw [observe_bind, if_neg h]
  rfl

theorem awaitCredit_wait (turns : Nat) (h : s.stream.peerFreeSpace = 0)
    (hrecv : recvPacketConnected T s = (.ok (), t)) :
    awaitCredit T (turns + 1) s = awaitCredit T turns t := by
  rw [awaitCredit, observe_bind, if_pos h, run_bind_ok hrecv]

theorem sendLoop_next {buf : Octets} {bytesSent : Nat} (hmore : bytesSent < buf.length)
    (hawait : awaitCredit T turns s = (.ok (), t))
    (hchunk : sendChunk T overflowChecks buf bytesSent t = (.ok n, u)) :
    sendLoop T overflowChecks buf (turns + 1) bytesSent s =
      sendLoop T overflowChecks buf turns (bytesSent + n) u := by
  rw [sendLoop, if_pos hmore, run_bind_ok hawait, run_bind_ok hchunk]

theorem recvPacketConnected_credit {packet : Octets}
    (hdequeue : vsockTransportDequeue T s = (.ok packet, t)) (hcheck : Packet.check packet = .ok ())
    (hop : Packet.op packet = OP_CREDIT_UPDATE) :
    recvPacketConnected T s = (.ok (), storeCredit (Packet.bufAlloc packet) (Packet.fwdCnt packet)
        (recordReceived packet
          (storeCredit (Packet.bufAlloc packet) (Packet.fwdCnt packet) t))) := by
  unfold recvPacketConnected
  rw [run_bind_ok hdequeue, run_bind_ok (newChecked_ok hcheck), update_bind, update_bind, hop]
  rfl

end

/-! A peer with a buffer of 32 KiB that reads at once whatever it gets. -/

/-- Every packet of the peer tells that all bytes so far have been forwarded. -/
def eager : Transport Nat where
  MAX_VSOCK_PKT_DATA_LEN := 0x10000
  enqueue _ _ buf := fun net => (.ok buf.length, { net with host := net.host + buf.length })
  dequeue _ _ := fun net =>
    (.ok (fromPeer (if net.host = 0 then OP_RESPONSE else OP_CREDIT_UPDATE) 0 0x8000
      net.host.toUInt32), net)

theorem eager_whole : Whole eager := by
  intro context hdr buf net n net' h
  exact (Except.ok.inj (congrArg Prod.fst h)).symm

/-- A stream that has sent `k` buffers of the peer and knows that `f` of them were forwarded. -/
def streamAt (k f : Nat) : VsockStream :=
  { acceptedStream ⟨⟨33, 40001⟩, ⟨2, 1234⟩⟩ 0x8000 (UInt32.ofNat (f * 0x8000)) with
    transportContext := 7
    txCnt := UInt32.ofNat (k * 0x8000) }

def socketAt (net : Net Nat) (k f : Nat) (log : List StreamEvent) : Socket Nat :=
  ⟨streamAt k f, log, { net with host := k * 0x8000 }⟩

def requestHeader : Header := (streamAt 0 0).header OP_REQUEST 0 0 0

def chunkHeader : Header := (streamAt 0 0).header OP_RW (0x8000 : Nat).toUInt32 0 0

def chunkSent (log : List StreamEvent) : List StreamEvent :=
  log ++ [.posted chunkHeader true] ++ [.sent 0x8000]

/-- A credit update is stored twice. -/
def creditTold (forwarded : UInt32) (log : List StreamEvent) : List StreamEvent :=
  log ++ [.credit 0x8000 forwarded] ++
    [.received .established (fromPeer OP_CREDIT_UPDATE 0 0x8000 forwarded)] ++
    [.credit 0x8000 forwarded]

/-- The log behind `k` buffers: each but the first two is sent after a credit update. -/
def logAt : Nat → List StreamEvent
  | 0 => [.posted requestHeader true, .opened 0x8000 0]
  | 1 => chunkSent [.posted requestHeader true, .opened 0x8000 0]
  | k + 2 => chunkSent (creditTold (UInt32.ofNat ((k + 1) * 0x8000)) (logAt (k + 1)))

section

variable {net : Net Nat} {log : List StreamEvent} {buf : Octets} {k f turns : Nat}

theorem free_streamAt (k f : Nat) : (streamAt k f).peerFreeSpace.toNat =
    0x8000 - (k * 0x8000 % 2 ^ 32 - f * 0x8000 % 2 ^ 32) := by
  unfold VsockStream.peerFreeSpace
  rw [toNat_saturatingSub, toNat_saturatingSub]
  change 0x8000 - ((UInt32.ofNat (k * 0x8000)).toNat - (UInt32.ofNat (f * 0x8000)).toNat) = _
  rw [UInt32.toNat_ofNat', UInt32.toNat_ofNat']

theorem countSent_unchecked (n : Nat) (s : Socket Nat) :
    countSent false n s = (.ok (), recordSent n s) := by
  unfold countSent
  rw [observe_bind]
  refine run_bind_ok (a := ()) (ensure_ok.mpr ⟨?_, rfl⟩)
  simp

theorem sendChunk_eager (hfree : (streamAt k f).peerFreeSpace.toNat = 0x8000)
    (hleft : (k + 1) * 0x8000 ≤ buf.length) :
    sendChunk eager false buf (k * 0x8000) (socketAt net k f log) =
      (.ok 0x8000, socketAt net (k + 1) f (chunkSent log)) := by
  have hsize : min (min (buf.length - k * 0x8000) 0x10000) (streamAt k f).peerFreeSpace.toNat =
      0x8000 := by omega
  have hlength : ((buf.drop (k * 0x8000)).take 0x8000).length = 0x8000 := by
    rw [List.length_take, List.length_drop]
    omega
  have htotal : (k + 1) * 0x8000 = k * 0x8000 + 0x8000 := Nat.succ_mul k 0x8000
  have hheader : (streamAt k f).header OP_RW (0x8000 : Nat).toUInt32 0 0 = chunkHeader := by
    simp only [chunkHeader, VsockStream.header, streamAt, acceptedStream]
  have hsend : ∀ header data, sendVsockPkt eager header data (socketAt net k f log) =
      (.ok data.length, ⟨streamAt k f, log ++ [.posted header true],
        { net with host := k * 0x8000 + data.length }⟩) :=
    fun _ _ => rfl
  unfold sendChunk
  rw [observe_bind]
  change (sendVsockPkt eager ((streamAt k f).header OP_RW (min (min (buf.length - k * 0x8000)
    0x10000) (streamAt k f).peerFreeSpace.toNat).toUInt32 0 0) ((buf.drop (k * 0x8000)).take
    (min (min (buf.length - k * 0x8000) 0x10000) (streamAt k f).peerFreeSpace.toNat)) >>= _)
    (socketAt net k f log) = _
  rw [hsize, hheader, run_bind_ok (hsend _ _), hlength, run_bind_ok (countSent_unchecked _ _)]
  unfold socketAt streamAt
  rw [htotal, UInt32.ofNat_add]
  rfl

theorem space_socketAt (hfree : (streamAt k f).peerFreeSpace.toNat = 0x8000) :
    (socketAt net k f log).stream.peerFreeSpace ≠ 0 := by
  change (streamAt k f).peerFreeSpace ≠ 0
  intro hzero
  rw [hzero] at hfree
  cases hfree

theorem recvPacketConnected_eager (hk : 0 < k) : recvPacketConnected eager (socketAt net k f log) =
      (.ok (), socketAt net k k (creditTold (UInt32.ofNat (k * 0x8000)) log)) := by
  have hsent : k * 0x8000 ≠ 0 := by omega
  have hpacket : vsockTransportDequeue eager (socketAt net k f log) =
      (.ok (fromPeer OP_CREDIT_UPDATE 0 0x8000 (UInt32.ofNat (k * 0x8000))),
        socketAt net k f log) := by
    change (Except.ok (fromPeer (if k * 0x8000 = 0 then OP_RESPONSE else OP_CREDIT_UPDATE) 0 0x8000
      (UInt32.ofNat (k * 0x8000))), _) = _
    rw [if_neg hsent]
  have hcheck : Packet.check (fromPeer OP_CREDIT_UPDATE 0 0x8000 (UInt32.ofNat (k * 0x8000))) =
      .ok () := by
    rw [check_ok]
    unfold fromPeer
    rw [Header.length_bytes, type_bytes, op_bytes, dataLen_bytes]
    dsimp only
    decide
  rw [recvPacketConnected_credit hpacket hcheck (op_bytes _)]
  unfold fromPeer
  rw [bufAlloc_bytes, fwdCnt_bytes]
  rfl

theorem sendLoop_turn (hk : k + 1 < 0x20000) (hleft : (k + 1 + 1) * 0x8000 ≤ buf.length) :
    sendLoop eager false buf (turns + 3) ((k + 1) * 0x8000)
        (socketAt net (k + 1) k (logAt (k + 1))) =
      sendLoop eager false buf (turns + 2) ((k + 1 + 1) * 0x8000)
        (socketAt net (k + 1 + 1) (k + 1) (logAt (k + 1 + 1))) := by
  have hnone : (socketAt net (k + 1) k (logAt (k + 1))).stream.peerFreeSpace = 0 := by
    rw [← UInt32.toNat_inj]
    change (streamAt (k + 1) k).peerFreeSpace.toNat = 0
    rw [free_streamAt]
    omega
  have hsome : (streamAt (k + 1) (k + 1)).peerFreeSpace.toNat = 0x8000 := by
    rw [free_streamAt]
    omega
  have hmore : (k + 1) * 0x8000 < buf.length := by omega
  have hwait := awaitCredit_wait (turns + 1) hnone (recvPacketConnected_eager (Nat.succ_pos k))
  have hawait := hwait.trans (awaitCredit_ready turns (space_socketAt hsome))
  rw [sendLoop_next hmore hawait (sendChunk_eager hsome hleft), ← Nat.add_one_mul, logAt]

theorem sendLoop_free (hfree : (streamAt k f).peerFreeSpace.toNat = 0x8000)
    (hleft : (k + 1) * 0x8000 ≤ buf.length) :
    sendLoop eager false buf (turns + 2) (k * 0x8000) (socketAt net k f log) =
      sendLoop eager false buf (turns + 1) ((k + 1) * 0x8000)
        (socketAt net (k + 1) f (chunkSent log)) := by
  have hmore : k * 0x8000 < buf.length := by omega
  have hawait : awaitCredit eager (turns + 1) (socketAt net k f log) =
      (.ok (), socketAt net k f log) := awaitCredit_ready turns (space_socketAt hfree)
  rw [sendLoop_next hmore hawait (sendChunk_eager hfree hleft), ← Nat.add_one_mul]

theorem sendLoop_turns (n : Nat) (hn : k + 1 + n ≤ 0x20000)
    (hleft : (k + 1 + n) * 0x8000 ≤ buf.length) :
    sendLoop eager false buf (turns + 2 + n) ((k + 1) * 0x8000)
        (socketAt net (k + 1) k (logAt (k + 1))) =
      sendLoop eager false buf (turns + 2) ((k + 1 + n) * 0x8000)
        (socketAt net (k + 1 + n) (k + n) (logAt (k + 1 + n))) := by
  induction n generalizing k with
  | zero => rfl
  | succ n ih =>
    have hindex : k + 1 + (n + 1) = k + 1 + 1 + n := by omega
    have hnext : (k + 1 + 1) * 0x8000 ≤ buf.length :=
      (Nat.mul_le_mul_right _ (by omega)).trans hleft
    have hstep : sendLoop eager false buf (turns + n + 3) ((k + 1) * 0x8000)
        (socketAt net (k + 1) k (logAt (k + 1))) =
        sendLoop eager false buf (turns + n + 2) ((k + 1 + 1) * 0x8000)
          (socketAt net (k + 1 + 1) (k + 1) (logAt (k + 1 + 1))) := by
      apply sendLoop_turn
      · omega
      · exact hnext
    have hrest := ih (k := k + 1) (by omega) (hindex ▸ hleft)
    have hturns : turns + 2 + (n + 1) = turns + n + 3 := by omega
    have hknown : k + (n + 1) = k + 1 + n := by omega
    have hsame : turns + n + 2 = turns + 2 + n := by omega
    rw [hturns, hstep, hindex, hknown, hsame, ← hrest]

theorem send_wraps (hwrap : (n + 1) * 0x8000 = 2 ^ 32) (hlength : buf.length = (n + 2) * 0x8000) :
    send eager false (n + 4) buf (socketAt net 0 0 (logAt 0)) =
      (.ok buf.length, socketAt net (n + 2) n (chunkSent (logAt (n + 1)))) := by
  have hfirst : sendLoop eager false buf (n + 4) 0 (socketAt net 0 0 (logAt 0)) =
      sendLoop eager false buf (n + 3) (1 * 0x8000) (socketAt net 1 0 (logAt 1)) := by
    apply sendLoop_free (k := 0)
    · exact free_streamAt 0 0
    · omega
  have hturns : sendLoop eager false buf (1 + 2 + n) (1 * 0x8000) (socketAt net 1 0 (logAt 1)) =
      sendLoop eager false buf (1 + 2) ((0 + 1 + n) * 0x8000)
        (socketAt net (0 + 1 + n) (0 + n) (logAt (0 + 1 + n))) := by
    apply sendLoop_turns (k := 0)
    · omega
    · omega
  have hlast : sendLoop eager false buf (1 + 2) ((n + 1) * 0x8000)
        (socketAt net (n + 1) n (logAt (n + 1))) =
      sendLoop eager false buf (1 + 1) ((n + 2) * 0x8000)
        (socketAt net (n + 2) n (chunkSent (logAt (n + 1)))) := by
    apply sendLoop_free
    · rw [free_streamAt]
      omega
    · omega
  have hdone : ∀ s : Socket Nat, sendLoop eager false buf (1 + 1) ((n + 2) * 0x8000) s =
      (.ok (), s) := by
    intro s
    rw [sendLoop, if_neg (by omega)]
    rfl
  have hloop : sendLoop eager false buf (n + 4) 0 (socketAt net 0 0 (logAt 0)) =
      (.ok (), socketAt net (n + 2) n (chunkSent (logAt (n + 1)))) := by
    rw [hfirst, Nat.add_comm n 3, hturns, Nat.zero_add, Nat.zero_add, Nat.add_comm 1 n, hlast,
      hdone]
  unfold send
  rw [observe_bind]
  refine (run_bind_ok (a := ()) (ensure_ok.mpr ⟨rfl, rfl⟩)).trans ?_
  rw [run_bind_ok hloop]
  rfl

theorem history_connected (b : UInt32) :
    History (fun _ _ _ _ => True) [.posted requestHeader true, .opened b 0] 0 0 b := by
  have hstart : History (fun _ _ _ _ => True) [] 0 0 0 := .start trivial
  exact (hstart.silent (.posted requestHeader true) trivial trivial).opened b trivial

theorem history_chunkSent {S F : Nat} {b : UInt32} (h : History (fun _ _ _ _ => True) log S F b) :
    History (fun _ _ _ _ => True) (chunkSent log) (S + 0x8000) F b :=
  (h.silent (.posted chunkHeader true) trivial trivial).sent 0x8000 trivial

theorem history_logAt (k : Nat) :
    History (fun _ _ _ _ => True) (logAt (k + 1)) ((k + 1) * 0x8000) (k * 0x8000) 0x8000 := by
  induction k with
  | zero => exact history_chunkSent (history_connected 0x8000)
  | succ k ih =>
    have hmore : k * 0x8000 ≤ (k + 1) * 0x8000 := Nat.mul_le_mul_right _ (Nat.le_succ k)
    have hstored := ((ih.credit 0x8000 ((k + 1) * 0x8000) hmore le_rfl
      (Nat.add_le_add_right hmore _) trivial).silent
      (.received .established (fromPeer OP_CREDIT_UPDATE 0 0x8000 (UInt32.ofNat ((k + 1) * 0x8000))))
      trivial trivial).credit 0x8000 ((k + 1) * 0x8000) le_rfl le_rfl le_rfl trivial
    have hsent := history_chunkSent hstored
    rw [← Nat.succ_mul] at hsent
    exact hsent

theorem firstConnection_connected (b f : UInt32) :
    FirstConnection [.posted requestHeader true, .opened b f] := by
  intro before b' f' after hsplit
  rcases before with - | ⟨first, - | ⟨second, before⟩⟩
  · rfl
  · cases hsplit
    rfl
  · simp at hsplit

theorem firstConnection_chunkSent (h : FirstConnection log) : FirstConnection (chunkSent log) :=
  firstConnection_snoc (firstConnection_snoc h fun _ _ => nofun) fun _ _ => nofun

theorem firstConnection_logAt (k : Nat) : FirstConnection (logAt (k + 1)) := by
  induction k with
  | zero => exact firstConnection_chunkSent (firstConnection_connected _ _)
  | succ k ih =>
    refine firstConnection_chunkSent ?_
    exact firstConnection_snoc (firstConnection_snoc (firstConnection_snoc ih fun _ _ => nofun)
      fun _ _ => nofun) fun _ _ => nofun

end

def helloLog : List StreamEvent :=
  [.posted requestHeader true, .opened 0x8000 0,
    .posted ((streamAt 0 0).header OP_RW 6 0 0) true, .sent 6]

/-- The stream connects and sends six bytes. -/
theorem transmit_credit_iff_hello :
    ∃ e ∈ (run eager false (.initial 0) (connecting ++ [.call 0 (.send 3 hello)])).ends,
      Whole eager ∧ FirstConnection e.log ∧ sentBytes e.log < 2 ^ 32 ∧
      e.stream.peerFreeSpace.toNat = computedFree e.log ∧ History SameEpoch e.log 6 0 0x8000 ∧
      History Exact e.log 6 0 0x8000 := by
  have hends : (run eager false (.initial 0) (connecting ++ [.call 0 (.send 3 hello)])).ends =
      [⟨{ streamAt 0 0 with txCnt := 6 }, helloLog⟩] := by
    decide +kernel
  have hmem : (⟨{ streamAt 0 0 with txCnt := 6 }, helloLog⟩ : Endpoint) ∈
      (run eager false (.initial 0) (connecting ++ [.call 0 (.send 3 hello)])).ends := by
    rw [hends]
    exact List.mem_singleton_self _
  have hwhole : Whole eager := eager_whole
  have hfirst : FirstConnection helloLog :=
    firstConnection_snoc (firstConnection_snoc (firstConnection_connected _ _)
      (e := .posted ((streamAt 0 0).header OP_RW 6 0 0) true) fun _ _ => nofun) (e := .sent 6)
      fun _ _ => nofun
  have hhistory := ((history_connected 0x8000).silent
    (.posted ((streamAt 0 0).header OP_RW 6 0 0) true) trivial trivial).sent 6 trivial
  obtain ⟨hfree, hexact⟩ := (transmit_credit_iff false).1 Nat eager hwhole 0 _ _ hmem
  obtain ⟨hiff, hbelow⟩ := hexact hfirst 6 0 0x8000
  have hnow := hbelow (by decide) hhistory
  exact ⟨_, hmem, hwhole, hfirst, by decide, hfree, hiff.mp hnow, hnow⟩

private theorem run_connecting :
    (run eager false (.initial 0) connecting).ends = [⟨streamAt 0 0, logAt 0⟩] ∧
      (run eager false (.initial 0) connecting).net.host = 0 := by
  decide +kernel

theorem run_wraps {buf : Octets} (hwrap : (n + 1) * 0x8000 = 2 ^ 32)
    (hlength : buf.length = (n + 2) * 0x8000) :
    (run eager false (.initial 0) (connecting ++ [.call 0 (.send (n + 4) buf)])).ends =
      [⟨streamAt (n + 2) n, chunkSent (logAt (n + 1))⟩] := by
  obtain ⟨hends, hhost⟩ := run_connecting
  unfold run at hends hhost ⊢
  rw [List.foldl_append]
  generalize connecting.foldl (step eager false) (.initial 0) = w at hends hhost
  have hsocket : (⟨streamAt 0 0, logAt 0, w.net⟩ : Socket Nat) = socketAt w.net 0 0 (logAt 0) := by
    unfold socketAt
    rw [Nat.zero_mul, ← hhost]
  change (step eager false w (.call 0 (.send (n + 4) buf))).ends = _
  unfold step
  rw [hends]
  change [(⟨(send eager false (n + 4) buf ⟨streamAt 0 0, logAt 0, w.net⟩).2.stream,
    (send eager false (n + 4) buf ⟨streamAt 0 0, logAt 0, w.net⟩).2.log⟩ : Endpoint)] = _
  rw [hsocket, send_wraps hwrap hlength]
  rfl

private theorem history_wraps {buf : Octets} (hwrap : (n + 1) * 0x8000 = 2 ^ 32)
    (hlength : buf.length = (n + 2) * 0x8000) :
    ∃ e ∈ (run eager false (.initial 0) (connecting ++ [.call 0 (.send (n + 4) buf)])).ends,
      FirstConnection e.log ∧
      History (fun _ _ _ _ => True) e.log ((n + 1) * 0x8000 + 0x8000) (n * 0x8000) 0x8000 := by
  refine ⟨⟨streamAt (n + 2) n, chunkSent (logAt (n + 1))⟩, ?_, ?_, ?_⟩
  · rw [run_wraps hwrap hlength]
    exact List.mem_singleton_self _
  · exact firstConnection_chunkSent (firstConnection_logAt n)
  · exact history_chunkSent (history_logAt n)

/-- The window is overrun: when the counter of sent bytes becomes zero, the bytes in flight are
forgotten. -/
theorem transmit_credit_overrun : Whole eager ∧
    (∃ e ∈ (run eager false (.initial 0) [.newWithCid 33 7, .call 0 (.connect ⟨2, 1234⟩),
        .call 0 (.send 0x20003 (List.replicate (2 ^ 32 + 2 ^ 15) 0))]).ends,
      FirstConnection e.log ∧
      History (fun _ _ _ _ => True) e.log (2 ^ 32 + 2 ^ 15) (2 ^ 32 - 2 ^ 15) 0x8000) ∧
    (0x8000 : UInt32).toNat < (2 ^ 32 + 2 ^ 15) - (2 ^ 32 - 2 ^ 15) := by
  have hsize : 2 ^ 32 + 2 ^ 15 = (0x1FFFF + 2) * 0x8000 := by norm_num
  refine ⟨eager_whole, ?_, by decide⟩
  exact history_wraps (n := 0x1FFFF) (by norm_num) (List.length_replicate.trans hsize)

end MigTd.Vsock.Credit
