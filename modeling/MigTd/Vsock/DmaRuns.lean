/- source: transport/virtio_pci.rs
   digest: DMA buffers of the virtio transport along every exit of a call, over whole runs. -/

import MigTd.Vsock.DmaBuffers
import Mathlib.Tactic.IntervalCases

set_option autoImplicit false

namespace MigTd.Vsock.DmaRuns

open Lib.StateProgram Virtio.Postings DmaBuffers Protocol Vsock.Stream Transports Transports.Virtio
  Virtio.Loans Virtio.Queue Virtio.Returns

/-- The part of `vsock_transport_enqueue` in which it holds the lock. -/
def sendLocked (hdr buf : Octets) : NetProgram Host Unit := do
  ensure (hdr.length = HEADER_LEN ∧ buf.length ≤ MAX_VSOCK_PKT_DATA_LEN) (.failed .invalidParameter)
  let g2h ← onHost (sendChain hdr buf)
  let _ ← onHost (addTo VirtioVsock.tx setTx g2h [])
  onHost kickQueue

def chainLength (buf : Octets) : Nat := if buf = [] then 1 else 2

/-- A page for the header comes with the one for the payload, and with room in the queue. -/
def SendsAll (d : VirtioVsock) (pages : List (Option UInt64)) (hdr buf : Octets) : Prop :=
  hdr.length = HEADER_LEN ∧ buf.length ≤ MAX_VSOCK_PKT_DATA_LEN → (pages.headD none).isSome = true →
    (buf = [] ∨ (pages.tail.headD none).isSome = true) ∧
      chainLength buf + (posted d.tx).length ≤ QUEUE_SIZE

section

variable {supply : List (Option UInt64)} {lost : Multiset UInt64} {h : Host} {d : VirtioVsock}

theorem sendChain_books (b : Books supply lost 0 h d)
    (hnum : d.rxBufNum = (posted d.rx).length) (hdr buf : Octets) :
    Post (sendChain hdr buf) h fun r h' =>
      (∃ bufs d', r = .ok bufs ∧ (h.pages.headD none).isSome = true ∧
        (buf = [] ∨ (h.pages.tail.headD none).isSome = true) ∧ bufs.length = chainLength buf ∧
        Books supply lost (bufs.map VirtqueueBuf.addr : List UInt64) h' d' ∧ d'.tx = d.tx ∧
        d'.rxBufNum = (posted d'.rx).length) ∨
      ∃ e extra, r = .error e ∧ Settled supply (extra + lost) h' ∧
        (extra = 0 ↔ ¬((h.pages.headD none).isSome = true)) ∧
        ((h.pages.headD none).isSome = true →
          ¬(buf = [] ∨ (h.pages.tail.headD none).isSome = true)) := by
  rw [sendChain]
  cases hfirst : h.pages.headD none with
  | none =>
    obtain ⟨h₁, hrun, b₁⟩ := b.allocate_fails hdr.length hfirst
    refine post_bind_stop (bind_error.mpr (.inl hrun)) (.inr ⟨_, 0, rfl, ?_, ?_, ?_⟩)
    · rw [zero_add]
      exact ⟨d, b₁, hnum⟩
    · exact iff_of_true rfl (by simp)
    · intro hsome
      cases hsome
  | some x =>
    obtain ⟨h₁, hrun₁, hpages₁, b₁⟩ := b.allocate hdr.length hfirst
    refine post_bind_run (bind_ok.mpr ⟨_, _, hrun₁, rfl⟩) ?_
    by_cases hbuf : buf = []
    · rw [if_pos hbuf]
      refine post_pure.mpr (.inl ⟨_, _, rfl, rfl, .inl hbuf, ?_, b₁, rfl, hnum⟩)
      rw [chainLength, if_pos hbuf]
      rfl
    · rw [if_neg hbuf, ← hpages₁]
      cases hsecond : h₁.pages.headD none with
      | none =>
        obtain ⟨h₂, hrun₂, b₂⟩ := b₁.allocate_fails buf.length hsecond
        refine post_bind_stop (bind_error.mpr (.inl hrun₂)) (.inr ⟨_, {x}, rfl, ?_, ?_, ?_⟩)
        · exact ⟨_, b₂.lose, hnum⟩
        · exact iff_of_false (Multiset.singleton_ne_zero x) (by simp)
        · intro _ hor
          simp [hbuf] at hor
      | some y =>
        obtain ⟨h₂, hrun₂, hpages₂, b₂⟩ := b₁.allocate buf.length hsecond
        refine post_bind_run (bind_ok.mpr ⟨_, _, hrun₂, rfl⟩) (post_pure.mpr (.inl ?_))
        have hhand : (y ::ₘ x ::ₘ 0 : Multiset UInt64) = ([x, y] : List UInt64) :=
          Multiset.cons_swap y x 0
        rw [hhand] at b₂
        refine ⟨_, _, rfl, rfl, .inr rfl, ?_, b₂, rfl, hnum⟩
        rw [chainLength, if_neg hbuf]
        rfl

theorem sendLocked_settled {net : Net Host} (b : Books supply lost 0 net.host d)
    (hnum : d.rxBufNum = (posted d.rx).length) (hdr buf : Octets) :
    Post (sendLocked hdr buf) net fun _ net' =>
      SettledIf supply lost (SendsAll d net.host.pages hdr buf) net'.host := by
  rw [sendLocked]
  refine post_bind_ensure.mpr ⟨fun hsizes => ?_, fun hsizes => ?_⟩
  · have hiff : SendsAll d net.host.pages hdr buf ↔ ((net.host.pages.headD none).isSome = true →
        (buf = [] ∨ (net.host.pages.tail.headD none).isSome = true) ∧
          chainLength buf + (posted d.tx).length ≤ QUEUE_SIZE) := forall_prop_of_true hsizes
    rw [hiff]
    refine post_bind_onHost (sendChain_books b hnum hdr buf) ?_ ?_
    · rintro bufs h₁ (⟨bufs', d₁, hok, hfirst, hsecond, hlen, b₁, htx, hnum₁⟩ | ⟨_, _, hno, -⟩)
      · obtain rfl := Except.ok.inj hok
        rw [← add_zero ((bufs.map VirtqueueBuf.addr : List UInt64) : Multiset UInt64)] at b₁
        have hne : bufs ≠ [] := by
          rintro rfl
          rw [chainLength] at hlen
          split at hlen <;> cases hlen
        have hroom : Fits d₁.tx bufs [] ↔ chainLength buf + (posted d.tx).length ≤ QUEUE_SIZE := by
          rw [b₁.tx.fits_iff, htx, hlen]
          simp [hne]
        have hposts : (_ → _ ∧ chainLength buf + (posted d.tx).length ≤ QUEUE_SIZE) ↔
            Fits d₁.tx bufs [] :=
          (forall_prop_of_true hfirst).trans ((and_iff_right hsecond).trans hroom.symm)
        by_cases hfits : Fits d₁.tx bufs []
        · obtain ⟨token, h₂, q, hrun, b₂⟩ := b₁.addTx hfits
          refine post_bind_run (onHost_ok _ hrun) (post_onHost ?_)
          exact (kickQueue_settled ⟨_, b₂, hnum₁⟩).mono fun _ _ hs => hs.kept (hposts.mpr hfits)
        · obtain ⟨e, h₂, hrun, b₂⟩ := b₁.addTx_refused hfits
          refine post_bind_stop (onHost_error hrun) ⟨_, ⟨d₁, b₂.lose, hnum₁⟩, ?_⟩
          refine iff_of_false ?_ fun hall => hfits (hposts.mp hall)
          rw [add_zero]
          simpa using hne
      · cases hno
    · rintro e h₁ (⟨_, _, hno, -⟩ | ⟨_, extra, -, hs, hextra, hsecond⟩)
      · cases hno
      · refine ⟨extra, hs, hextra.trans ⟨fun hnone hsome => absurd hsome hnone, ?_⟩⟩
        exact fun hall hsome => hsecond hsome (hall hsome).1
  · exact Settled.kept ⟨d, b, hnum⟩ fun hok => absurd hok hsizes

end

section

variable {supply : List (Option UInt64)} {lost hand : Multiset UInt64} {net : Net Host} {h : Host}
  {d : VirtioVsock}

theorem freeAll_books (bufs : List VirtqueueBuf)
    (b : Books supply lost ((bufs.map VirtqueueBuf.addr : List UInt64) + hand) net.host d)
    (hnodup : (held d lost ((bufs.map VirtqueueBuf.addr : List UInt64) + hand)).Nodup) :
    Post (freeAll bufs) net fun _ net' => ∃ d', Books supply lost hand net'.host d' ∧
      d'.rx = d.rx ∧ d'.rxBufNum = d.rxBufNum := by
  induction bufs generalizing net d with
  | nil =>
    rw [List.map_nil, Multiset.coe_nil, zero_add] at b
    exact post_pure.mpr ⟨d, b, rfl, rfl⟩
  | cons buf rest ih =>
    rw [List.map_cons, ← Multiset.cons_coe, Multiset.cons_add] at b hnodup
    obtain ⟨h', d', hrun, b', hrx, htx, hnum, hring, -⟩ := b.free hnodup
    have hnodup' : (held d' lost ((rest.map VirtqueueBuf.addr : List UInt64) + hand)).Nodup := by
      refine Multiset.nodup_of_le ?_ hnodup
      rw [held, held, hrx, htx, hring, Multiset.add_cons, Multiset.cons_add, Multiset.cons_add]
      exact Multiset.cons_le_cons _ (Multiset.le_cons_self _ _)
    refine post_bind_run (onHost_ok _ hrun) ((ih b' hnodup').mono ?_)
    rintro _ _ ⟨d'', b'', hrx', hnum'⟩
    exact ⟨d'', b'', hrx'.trans hrx, hnum'.trans hnum⟩

theorem pollTx_settled (b : Books supply lost 0 net.host d)
    (hnum : d.rxBufNum = (posted d.rx).length) (hnodup : (held d lost 0).Nodup) (move : HostMove) :
    Post (pollTx [move]) net fun _ net' => Settled supply lost net'.host := by
  have bm := b.move move []
  rw [pollTx]
  refine post_bind_update.mpr (post_bind_run (onHost_ok _ (getDevice_run bm.device)) ?_)
  by_cases hcan : (moved move d).tx.CanPop
  · rw [if_pos hcan]
    by_cases hpop : Poppable (moved move d).tx
    · obtain ⟨bufs, h2g, h', q, hrun, b', hheld⟩ := bm.popTx hpop
      have hnodup' : (held (moved move d) lost 0).Nodup := hnodup
      rw [← hheld] at hnodup'
      refine post_bind_run (onHost_ok _ hrun) ((freeAll_books bufs b' hnodup').mono ?_)
      rintro _ _ ⟨d', b'', hrx, hnum'⟩
      refine ⟨d', b'', ?_⟩
      rw [hrx, hnum']
      exact hnum
    · obtain ⟨e, h', hrun, b'⟩ := bm.pop_refused VirtioVsock.tx setTx rfl bm.tx hpop
      exact post_bind_stop (onHost_error hrun) ⟨_, b', hnum⟩
  · rw [if_neg hcan, pollTx]
    exact post_raise.mpr ⟨_, bm, hnum⟩

def received (q : VirtQueue) : Option (VirtqueueBuf × VirtqueueBuf) :=
  match popUsed ⟨q, [], []⟩ with
  | (.ok _, s) => match s.h2g with
    | [first, second] => some (first, second)
    | _ => none
  | (.error _, _) => none

/-- The packet that arrives has a valid header, and filling up after it loses no page. -/
def ReceivesAll (d : VirtioVsock) (pages : List (Option UInt64)) (move : HostMove) : Prop :=
  ∀ first second, received (moved move d).rx = some (first, second) →
    Packet.check (readDma move.memory first.addr first.len.toNat) = .ok () ∧
      FillsUp (d.rxBufNum - 2) pages

theorem readHeader_books {x : UInt64} (b : Books supply lost (x ::ₘ hand) h d)
    (hnodup : (held d lost (x ::ₘ hand)).Nodup) :
    ∃ h' d', readHeader ⟨x, HEADER_LEN.toUInt32⟩ h =
        (.ok (readDma h.memory x HEADER_LEN), h') ∧ Books supply lost hand h' d' ∧
      d'.rx = d.rx ∧ d'.tx = d.tx ∧ d'.rxBufNum = d.rxBufNum ∧
      d'.queueDmaPages = d.queueDmaPages ∧ h'.pages = h.pages := by
  obtain ⟨h', d', hrun, b', hframe⟩ := b.free hnodup
  have hmem : x ∈ held d lost (x ::ₘ hand) := by simp [held]
  have hrecorded := (b.accounted.recorded x).mp hmem
  refine ⟨h', d', bind_ok.mpr ⟨d, _, getDevice_run b.device, bind_ok.mpr ⟨_, _, rfl, ?_⟩⟩, b',
    hframe⟩
  rw [if_pos hrecorded]
  refine bind_ok.mpr ⟨(), _, ensure_ok.mpr ⟨rfl, rfl⟩, bind_ok.mpr ⟨(), h', hrun, rfl⟩⟩

theorem pushStreamQueues_host (addrs : VsockAddrPair) (buf : Octets) (net : Net Host) :
    (pushStreamQueues addrs buf net).host = net.host := by
  unfold pushStreamQueues
  split
  · rfl
  · split
    · rfl
    · split <;> rfl

theorem recvPkt_books {x y : UInt64} (b : Books supply lost (x ::ₘ y ::ₘ 0) net.host d)
    (hnodup : (held d lost (x ::ₘ y ::ₘ 0)).Nodup) :
    Post (recvPkt ⟨x, HEADER_LEN.toUInt32⟩ ⟨y, VSOCK_DEFAULT_BUF_SIZE.toUInt32⟩) net
      fun r net' => ∃ d', d'.rx = d.rx ∧ d'.rxBufNum = d.rxBufNum ∧
        net'.host.pages = net.host.pages ∧
        (r = .ok () ∧ Packet.check (readDma net.host.memory x HEADER_LEN) = .ok () ∧
            Books supply lost 0 net'.host d' ∨
          (∃ e, r = .error e) ∧ Packet.check (readDma net.host.memory x HEADER_LEN) ≠ .ok () ∧
            Books supply lost {y} net'.host d') := by
  rw [recvPkt]
  refine post_bind_update.mpr ?_
  obtain ⟨h₁, d₁, hrun₁, b₁, hrx, htx, hnum, hring, hpages⟩ := readHeader_books b hnodup
  refine post_bind_run (onHost_ok _ hrun₁) ?_
  refine post_bind_lift.mpr ⟨fun _ hcheck => ?_, fun e hcheck => ?_⟩
  · have hcheck := mapError_ok.mp hcheck
    have hlen : (readDma net.host.memory x HEADER_LEN).length = HEADER_LEN := by simp [readDma]
    have hempty := dataLen_of_check hlen hcheck
    have hread : readData (Packet.dataLen (readDma net.host.memory x HEADER_LEN))
        ⟨y, VSOCK_DEFAULT_BUF_SIZE.toUInt32⟩ h₁ = (.ok [], h₁) := by
      refine bind_ok.mpr ⟨d₁, h₁, getDevice_run b₁.device, bind_ok.mpr ⟨h₁, h₁, rfl, ?_⟩⟩
      rw [if_pos hempty]
      rfl
    refine post_bind_run (onHost_ok _ hread) ?_
    have hnodup₁ : (held d₁ lost (y ::ₘ 0)).Nodup := by
      refine Multiset.nodup_of_le ?_ hnodup
      rw [held, held, hrx, htx, hring, Multiset.add_cons x, Multiset.cons_add, Multiset.cons_add]
      exact Multiset.cons_le_cons _ (Multiset.le_cons_self _ _)
    obtain ⟨h₂, d₂, hrun₂, b₂, hrx₂, -, hnum₂, -, hpages₂⟩ := b₁.free hnodup₁
    refine post_bind_run (onHost_ok _ hrun₂) (post_bind_update.mpr (post_update.mpr ?_))
    rw [pushStreamQueues_host, pushStreamQueues_host]
    exact ⟨d₂, hrx₂.trans hrx, hnum₂.trans hnum, hpages₂.trans hpages, .inl ⟨rfl, hcheck, b₂⟩⟩
  · obtain ⟨e', hcheck, -⟩ := mapError_error.mp hcheck
    refine ⟨d₁, hrx, hnum, hpages, .inr ⟨⟨e, rfl⟩, ?_, b₁⟩⟩
    rw [hcheck]
    intro hok
    cases hok

variable {s : MigTd.Virtio.Queue.PopState} {q : VirtQueue}

theorem received_eq {n : Nat}
    {first second : VirtqueueBuf} (hrun : popUsed ⟨q, [], []⟩ = (.ok n, s))
    (hbufs : s.h2g = [first, second]) : received q = some (first, second) := by
  simp only [received, hrun, hbufs]

theorem received_refused {e : MigTd.Virtio.Queue.VirtioError}
    (hrun : popUsed ⟨q, [], []⟩ = (.error e, s)) :
    received q = none := by
  simp only [received, hrun]

theorem lowerRxBufNum_books (b : Books supply lost hand h d) (overflowChecks : Bool)
    (htwo : 2 ≤ d.rxBufNum) (hfew : d.rxBufNum < 2 ^ 64) :
    ∃ h', lowerRxBufNum overflowChecks 2 h = (.ok (), h') ∧ h'.pages = h.pages ∧
      h'.memory = h.memory ∧ Books supply lost hand h' { d with rxBufNum := d.rxBufNum - 2 } := by
  have hcount : (d.rxBufNum + 2 ^ 64 - 2) % 2 ^ 64 = d.rxBufNum - 2 := by omega
  refine ⟨setDevice { d with rxBufNum := d.rxBufNum - 2 } h, ?_, rfl, rfl, b.count _⟩
  refine bind_ok.mpr ⟨d, h, getDevice_run b.device, ?_⟩
  refine bind_ok.mpr ⟨(), h, ensure_ok.mpr ⟨.inl htwo, rfl⟩, ?_⟩
  rw [hcount]
  rfl

theorem popUsedRx_settled (b : Books supply lost 0 net.host d)
    (hnum : d.rxBufNum = (posted d.rx).length) (hnodup : (held d lost 0).Nodup)
    (overflowChecks : Bool) :
    Post (popUsedRx overflowChecks) net fun _ net' => SettledIf supply lost
      (∀ first second, received d.rx = some (first, second) →
        Packet.check (readDma net.host.memory first.addr first.len.toNat) = .ok () ∧
          FillsUp (d.rxBufNum - 2) net.host.pages) net'.host := by
  rw [popUsedRx]
  by_cases hpop : Poppable d.rx
  · obtain ⟨x, y, n, s, h₁, hrun, hbufs, hpopped, b₁, hheld, hlen, hpages₁, hmemory₁⟩ :=
      b.popRx hpop
    refine post_bind_run (onHost_ok _ hpopped) ?_
    have hiff : (∀ first second, received d.rx = some (first, second) →
        Packet.check (readDma net.host.memory first.addr first.len.toNat) = .ok () ∧
          FillsUp (d.rxBufNum - 2) net.host.pages) ↔
        Packet.check (readDma net.host.memory x HEADER_LEN) = .ok () ∧
          FillsUp (d.rxBufNum - 2) net.host.pages := by
      rw [received_eq hrun hbufs]
      refine ⟨fun hall => hall _ _ rfl, fun hone first second heq => ?_⟩
      obtain ⟨rfl, rfl⟩ := Prod.mk.inj (Option.some.inj heq)
      exact hone
    rw [hiff]
    simp only [hbufs]
    have hle := b.rx.length_le
    unfold QUEUE_SIZE at hle
    obtain ⟨h₂, hrun₂, hpages₂, hmemory₂, b₂⟩ := lowerRxBufNum_books b₁ overflowChecks
      (show 2 ≤ d.rxBufNum by omega) (show d.rxBufNum < 2 ^ 64 by omega)
    refine post_bind_run (onHost_ok _ hrun₂) ?_
    have hnodup₂ : (held { d with rx := s.queue, rxBufNum := d.rxBufNum - 2 } lost
        (x ::ₘ y ::ₘ 0)).Nodup := by
      rw [← hheld] at hnodup
      exact hnodup
    have hcount : d.rxBufNum - 2 = (posted s.queue).length := by omega
    rw [← hmemory₁, ← hmemory₂, ← hpages₁, ← hpages₂]
    refine post_bind_of (recvPkt_books b₂ hnodup₂) ?_ ?_
    · rintro _ net₃ ⟨d₃, hrx, hnum₃, hpages₃, ⟨-, hcheck, b₃⟩ | ⟨⟨e, hno⟩, -⟩⟩
      · have hcount₃ : d₃.rxBufNum = (posted d₃.rx).length := by
          rw [hnum₃, hrx]
          exact hcount
        refine post_onHost ((rxQueueFill_settled b₃ hcount₃).mono ?_)
        rintro _ h₄ ⟨extra, hs, hextra⟩
        refine ⟨extra, hs, hextra.trans ?_⟩
        rw [hnum₃, hpages₃]
        exact (and_iff_right hcheck).symm
      · cases hno
    · rintro e net₃ ⟨d₃, hrx, hnum₃, -, ⟨hno, -⟩ | ⟨-, hcheck, b₃⟩⟩
      · cases hno
      · refine ⟨{y}, ⟨d₃, b₃.lose, ?_⟩, iff_of_false (Multiset.singleton_ne_zero y) ?_⟩
        · rw [hnum₃, hrx]
          exact hcount
        · exact fun hall => hcheck hall.1
  · obtain ⟨e, h', hrun, b'⟩ := b.pop_refused VirtioVsock.rx setRx rfl b.rx hpop
    obtain ⟨e', hrefused⟩ := b.rx.popUsed_refused hpop
    refine post_bind_stop (onHost_error hrun) (Settled.kept ⟨d, b', hnum⟩ ?_)
    rw [received_refused hrefused]
    exact nofun

instance keeps_host_popStreamQueues (addrs : VsockAddrPair) :
    Keeps (Same Net.host) (popStreamQueues addrs : NetProgram Host (Option Octets)) := by
  constructor
  intro net
  rw [popStreamQueues, observe_bind]
  cases hconnection : net.connectionPktQueues addrs with
  | some queue =>
    simp only [id, hconnection]
    cases queue <;> rfl
  | none =>
    simp only [id, hconnection]
    cases hbinding : net.bindingPktQueues addrs.localAddr with
    | some queue => cases queue <;> rfl
    | none => rfl

theorem pollRx_settled (b : Books supply lost 0 net.host d)
    (hnum : d.rxBufNum = (posted d.rx).length) (hnodup : (held d lost 0).Nodup)
    (overflowChecks : Bool) (addrs : VsockAddrPair) (move : HostMove) :
    Post (pollRx overflowChecks addrs [move]) net fun _ net' =>
      SettledIf supply lost (ReceivesAll d net.host.pages move) net'.host := by
  have bm := b.move move []
  rw [pollRx]
  refine post_bind_update.mpr ?_
  have hused : Post (receiveUsed overflowChecks) (applyMove move [] net) fun _ net' =>
      SettledIf supply lost (ReceivesAll d net.host.pages move) net'.host := by
    rw [receiveUsed]
    refine post_bind_run (onHost_ok _ (getDevice_run bm.device)) ?_
    by_cases hcan : (moved move d).rx.CanPop
    · rw [if_pos hcan]
      exact popUsedRx_settled bm hnum hnodup overflowChecks
    · rw [if_neg hcan]
      refine post_pure.mpr (Settled.kept ⟨_, bm, hnum⟩ ?_)
      obtain ⟨e, hrefused⟩ := bm.rx.popUsed_refused fun hpop => hcan hpop.1
      intro first second hreceived
      rw [received_refused hrefused] at hreceived
      cases hreceived
  refine post_bind_of hused (fun _ net₁ hs => ?_) fun _ _ hs => hs
  refine post_bind_keeps (keeps_host_popStreamQueues addrs) ?_ ?_
  · intro data net₂ _ hsame
    have hhost : net₁.host = net₂.host := hsame
    rw [hhost] at hs
    cases data with
    | some bytes => exact post_pure.mpr hs
    | none => exact post_raise.mpr hs
  · intro _ net₂ _ hsame
    have hhost : net₁.host = net₂.host := hsame
    rw [hhost] at hs
    exact hs

end

/-! Runs. The device is locked within a call and between the polls of a waiting one. -/

inductive Event where
  /-- `rx_queue_fill` when the transport is set up. -/
  | fill
  | send (hdr buf : Octets)
  | pollTx (move : HostMove)
  | pollRx (addrs : VsockAddrPair) (move : HostMove)

def Event.program (overflowChecks : Bool) : Event → NetProgram Host Unit
  | .fill => onHost rxQueueFill
  | .send hdr buf => sendLocked hdr buf
  | .pollTx move => Virtio.pollTx [move]
  | .pollRx addrs move => do
    let _ ← Virtio.pollRx overflowChecks addrs [move]

def step (overflowChecks : Bool) (net : Net Host) (e : Event) : Net Host :=
  (e.program overflowChecks net).2

def run (overflowChecks : Bool) (net : Net Host) (events : List Event) : Net Host :=
  events.foldl (step overflowChecks) net

/-- The call or poll ends without a buffer in hand. -/
def Lossless (h : Host) (e : Event) : Prop :=
  ∀ d, h.device = some d → match e with
    | .fill => FillsUp d.rxBufNum h.pages
    | .send hdr buf => SendsAll d h.pages hdr buf
    | .pollTx _ => True
    | .pollRx _ move => ReceivesAll d h.pages move

section

variable {supply : List (Option UInt64)} {lost : Multiset UInt64} {net : Net Host}

theorem step_settled (overflowChecks : Bool) (hs : Settled supply lost net.host)
    (hlaw : Lawful supply net.host) (e : Event) :
    SettledIf supply lost (Lossless net.host e) (step overflowChecks net e).host := by
  obtain ⟨d, b, hnum⟩ := hs
  have hnodup := b.nodup hlaw
  have hdevice {R : VirtioVsock → Prop} : (∀ d', net.host.device = some d' → R d') ↔ R d := by
    rw [b.device]
    exact ⟨fun hall => hall d rfl, fun hone d' heq => Option.some.inj heq ▸ hone⟩
  unfold Lossless
  rw [hdevice]
  change Post (e.program overflowChecks) net fun _ net' => SettledIf supply lost _ net'.host
  cases e with
  | fill => exact post_onHost (rxQueueFill_settled b hnum)
  | send hdr buf => exact sendLocked_settled b hnum hdr buf
  | pollTx move =>
    exact (pollTx_settled b hnum hnodup move).mono fun _ _ hs => hs.kept trivial
  | pollRx addrs move =>
    exact post_bind_of (pollRx_settled b hnum hnodup overflowChecks addrs move)
      (fun _ _ hs => post_pure.mpr hs) fun _ _ hs => hs

theorem run_settled (overflowChecks : Bool) (events : List Event)
    (hs : Settled supply lost net.host)
    (hlaw : ∀ k, Lawful supply (run overflowChecks net (events.take k)).host) :
    SettledIf supply lost (∀ k e, events[k]? = some e →
      Lossless (run overflowChecks net (events.take k)).host e)
      (run overflowChecks net events).host := by
  induction events generalizing net lost with
  | nil => exact hs.kept nofun
  | cons e rest ih =>
    obtain ⟨first, hfirst, hlossless⟩ := step_settled overflowChecks hs (hlaw 0) e
    obtain ⟨later, hlater, hrest⟩ := ih hfirst fun k => hlaw (k + 1)
    refine ⟨later + first, ?_, ?_⟩
    · rw [add_assoc]
      exact hlater
    · rw [add_eq_zero_iff_of_nonneg (Multiset.zero_le _) (Multiset.zero_le _), hlossless, hrest]
      constructor
      · rintro ⟨hall, hone⟩ k e' he
        cases k with
        | zero =>
          obtain rfl := Option.some.inj he
          exact hone
        | succ k => exact hall k e' he
      · intro hall
        exact ⟨fun k e' he => hall (k + 1) e' he, hall 0 e rfl⟩

end

/-- `VirtioVsock::new` has recorded the pages of the rings, and posted nothing yet. -/
structure Started (h : Host) (d : VirtioVsock) : Prop where
  device : h.device = some d
  rx : ∃ header idx addr memory, MigTd.Virtio.Queue.new header idx addr 16 memory = .ok d.rx
  tx : ∃ header idx addr memory, MigTd.Virtio.Queue.new header idx addr 16 memory = .ok d.tx
  dmaRecord : ∃ size, d.dmaRecord =
    Function.update (fun _ => none) d.queueDmaPages (some ⟨d.queueDmaPages, size⟩)
  rxBufNum : d.rxBufNum = 0
  noneFreed : h.freed = []

variable {h : Host}

theorem Started.settled {d : VirtioVsock} (hstart : Started h d) : Settled h.pages 0 h := by
  obtain ⟨_, _, _, _, hrx⟩ := hstart.rx
  obtain ⟨_, _, _, _, htx⟩ := hstart.tx
  obtain ⟨hrx, hrxNone⟩ := new_lending hrx RxLoan
  obtain ⟨htx, htxNone⟩ := new_lending htx TxLoan
  obtain ⟨size, hrecord⟩ := hstart.dmaRecord
  refine ⟨d, ⟨hstart.device, hrx, htx, List.suffix_rfl, ?_, ?_⟩, ?_⟩
  · intro a r hr
    rw [hrecord] at hr
    by_cases ha : a = d.queueDmaPages
    · rw [ha, Function.update_self] at hr
      rw [← Option.some.inj hr, ha]
    · rw [Function.update_of_ne ha] at hr
      cases hr
  · have hdrawn : drawn h.pages h.pages = [] := by simp [drawn]
    have hfreed : freed h = [] := by rw [freed, hstart.noneFreed, List.map_nil]
    have hheld : held d 0 0 = {d.queueDmaPages} := by
      rw [held, hrxNone, htxNone]
      rfl
    rw [hdrawn, hfreed, hheld, hrecord]
    refine ⟨rfl, fun a => ?_⟩
    by_cases ha : a = d.queueDmaPages
    · rw [ha, Function.update_self]
      exact iff_of_true (Multiset.mem_singleton_self _) rfl
    · rw [Function.update_of_ne ha, Multiset.mem_singleton]
      exact iff_of_false ha (by simp)
  · rw [hstart.rxBufNum, hrxNone]
    rfl

/-- Every page that was handed out has been given back, or is held by one descriptor in use. -/
def Conserved (supply : List (Option UInt64)) (h : Host) : Prop :=
  ∃ d, h.device = some d ∧ (drawn supply h.pages).Perm (freed h ++ (posted d.rx ++ posted d.tx))

variable {supply : List (Option UInt64)} {lost : Multiset UInt64}

theorem conserved_iff (hs : Settled supply lost h) : Conserved supply h ↔ lost = 0 := by
  obtain ⟨d, b, -⟩ := hs
  have hbalance : (drawn supply h.pages : Multiset UInt64) = lost +
      (freed h ++ (posted d.rx ++ posted d.tx) : List UInt64) := by
    have hring := b.accounted.balance
    rw [held, add_zero, Multiset.add_cons, Multiset.cons_inj_right] at hring
    rw [hring, ← Multiset.coe_add, ← Multiset.coe_add]
    ac_rfl
  constructor
  · rintro ⟨d', hd', hperm⟩
    rw [b.device] at hd'
    obtain rfl := Option.some.inj hd'
    rw [Multiset.coe_eq_coe.mpr hperm] at hbalance
    exact right_eq_add.mp hbalance
  · rintro rfl
    rw [zero_add] at hbalance
    exact ⟨d, b.device, Multiset.coe_eq_coe.mp hbalance⟩

/-- In every state, the counter tells what is posted for receiving, no page is in two descriptors,
and none was given back twice or while it is posted. -/
structure Counted (supply : List (Option UInt64)) (h : Host) (d : VirtioVsock) : Prop where
  device : h.device = some d
  rxBufNum : d.rxBufNum = (posted d.rx).length
  nodup : (posted d.rx ++ posted d.tx).Nodup
  subperm : (freed h ++ (posted d.rx ++ posted d.tx)).Subperm (drawn supply h.pages)

theorem counted_of_settled (hs : Settled supply lost h) (hlaw : Lawful supply h) :
    ∃ d, Counted supply h d := by
  obtain ⟨d, b, hnum⟩ := hs
  have hbalance := b.accounted.balance
  rw [held, add_zero, Multiset.add_cons, Multiset.cons_inj_right] at hbalance
  refine ⟨d, b.device, hnum, ?_, ?_⟩
  · rw [← Multiset.coe_nodup, ← Multiset.coe_add]
    refine Multiset.nodup_of_le ?_ (b.nodup hlaw)
    rw [held, add_zero, add_assoc]
    exact (Multiset.le_add_left _ _).trans (Multiset.le_cons_self _ _)
  · rw [← Multiset.coe_le, hbalance, ← Multiset.coe_add, ← Multiset.coe_add, add_assoc lost]
    exact add_le_add le_rfl (Multiset.le_add_left _ _)

/-- Along every run whose pages come from a lawful allocator, counter and descriptors agree, and no
buffer is held or freed twice. Every buffer is posted or freed at the end of the run exactly when
each of its steps ended without a buffer in hand. -/
theorem dma_conservation_iff (overflowChecks : Bool) (net : Net Host) (device : VirtioVsock)
    (hstart : Started net.host device) (events : List Event)
    (hlaw : ∀ k, Lawful net.host.pages (run overflowChecks net (events.take k)).host) :
    (∃ d, Counted net.host.pages (run overflowChecks net events).host d) ∧
      (Conserved net.host.pages (run overflowChecks net events).host ↔ ∀ k e, events[k]? = some e →
          Lossless (run overflowChecks net (events.take k)).host e) := by
  obtain ⟨extra, hs, hlossless⟩ := run_settled overflowChecks events hstart.settled hlaw
  have hend := hlaw events.length
  rw [List.take_length] at hend
  refine ⟨counted_of_settled hs hend, ?_⟩
  rw [conserved_iff hs, add_zero]
  exact hlossless

def freshQueue : VirtQueue where
  shared :=
    { sampleMemory ⟨0, 0⟩ with
      desc := fun i => if i < 15 then { Descriptor.default with next := i + 1 } else .default }
  queueIdx := 0
  queueSize := 16
  numUsed := 0
  freeHead := 0
  availIdx := 0
  lastUsedIdx := 0
  descShadow := linkedShadow 16
  inUse := 0
  isHead := 0

def sampleDevice : VirtioVsock where
  rx := freshQueue
  tx := freshQueue
  dmaRecord := Function.update (fun _ => none) 0x8000 (some ⟨0x8000, 0x10000⟩)
  queueDmaPages := 0x8000
  rxBufNum := 0

def sampleNet (pages : List (Option UInt64)) : Net Host where
  connectionPktQueues _ := none
  bindingPktQueues _ := none
  usedPort := []
  unusedPortCounter := 1024
  arrived := []
  host := ⟨some sampleDevice, fun _ => 0, [], pages, [], []⟩

theorem sampleNet_started (pages : List (Option UInt64)) :
    Started (sampleNet pages).host sampleDevice :=
  ⟨rfl, ⟨sampleTransport, 0, 0, sampleMemory ⟨0, 0⟩, rfl⟩,
    ⟨sampleTransport, 0, 0, sampleMemory ⟨0, 0⟩, rfl⟩, ⟨0x10000, rfl⟩, rfl, rfl⟩

/-- The host has used the first chain of both queues, and written these bytes at an address. -/
def usedFirst (addr : UInt64) (bytes : Octets) : HostMove :=
  ⟨sampleMemory ⟨0, 0⟩, sampleMemory ⟨0, 0⟩, fun a => bytes.getD (a - addr).toNat 0⟩

section

variable {supply : List (Option UInt64)} {h : Host}

theorem lawful_of_nodup (ring : UInt64) (hring : h.device.map VirtioVsock.queueDmaPages = some ring)
    (hnodup : (ring :: drawn supply h.pages).Nodup) : Lawful supply h := by
  intro d hd a
  rw [hd, Option.map_some] at hring
  rw [Option.some.inj hring]
  exact (List.nodup_iff_count_le_one.mp hnodup a).trans (Nat.le_add_left 1 _)

theorem conserved_of_posted {bufs : List UInt64}
    (hposted : (h.device.map fun d => posted d.rx ++ posted d.tx) = some bufs) :
    Conserved supply h ↔ (drawn supply h.pages).Perm (freed h ++ bufs) := by
  obtain ⟨d, hd, rfl⟩ := Option.map_eq_some_iff.mp hposted
  constructor
  · rintro ⟨d', hd', hperm⟩
    rw [hd] at hd'
    obtain rfl := Option.some.inj hd'
    exact hperm
  · exact fun hperm => ⟨d, hd, hperm⟩

theorem lawful_take {net : Net Host} {events : List Event}
    (hall : ∀ k ≤ events.length, Lawful supply (run false net (events.take k)).host) (k : Nat) :
    Lawful supply (run false net (events.take k)).host := by
  by_cases hk : k ≤ events.length
  · exact hall k hk
  · rw [List.take_of_length_le (Nat.le_of_not_le hk), ← List.take_length (l := events)]
    exact hall _ le_rfl

end

/-- Two buffers are posted for receiving, and a packet is sent and completed. -/
def sentPages : List (Option UInt64) :=
  [some 0x1000, some 0x2000, none, some 0x3000, some 0x4000]

def sentEvents : List Event :=
  [.fill, .send (List.replicate 44 0) [7], .pollTx (usedFirst 0 [])]

theorem dma_conservation_sent : Started (sampleNet sentPages).host sampleDevice ∧
      (∃ d, Counted sentPages (run false (sampleNet sentPages) sentEvents).host d) ∧
      ∀ k e, sentEvents[k]? = some e →
        Lossless (run false (sampleNet sentPages) (sentEvents.take k)).host e := by
  have hlaw : ∀ k ≤ sentEvents.length,
      Lawful sentPages (run false (sampleNet sentPages) (sentEvents.take k)).host := by
    intro k hk
    have hk : k ≤ 3 := hk
    interval_cases k <;> exact lawful_of_nodup 0x8000 (by decide +kernel) (by decide +kernel)
  obtain ⟨hcounted, hiff⟩ := dma_conservation_iff false (sampleNet sentPages) sampleDevice
    (sampleNet_started sentPages) sentEvents (lawful_take hlaw)
  refine ⟨sampleNet_started sentPages, hcounted, hiff.mp ?_⟩
  have hposted : ((run false (sampleNet sentPages) sentEvents).host.device.map fun d =>
      posted d.rx ++ posted d.tx) = some [0x1000, 0x2000] := by decide +kernel
  rw [conserved_of_posted hposted]
  decide +kernel

def payloadHeader : Octets :=
  Header.bytes ⟨2, 33, 1234, 40001, 6, TYPE_STREAM, OP_RW, 0, 64, 0⟩

def payloadEvents : List Event :=
  [.fill, .pollRx ⟨⟨33, 40001⟩, ⟨2, 1234⟩⟩ (usedFirst 0x1000 payloadHeader)]

/-- The buffer of a payload is lost when its packet arrives, and so is a header to send when there
is no page for its payload. -/
theorem dma_conservation_lost :
    let received := run false (sampleNet [some 0x1000, some 0x2000]) payloadEvents
    let sent := run false (sampleNet [some 0x1000]) [.send (List.replicate 44 0) [7]]
    (∀ k, Lawful [some 0x1000, some 0x2000]
      (run false (sampleNet [some 0x1000, some 0x2000]) (payloadEvents.take k)).host) ∧
    ¬Conserved [some 0x1000, some 0x2000] received.host ∧ ¬Conserved [some 0x1000] sent.host := by
  intro received sent
  have hlaw : ∀ k ≤ payloadEvents.length, Lawful [some 0x1000, some 0x2000]
      (run false (sampleNet [some 0x1000, some 0x2000]) (payloadEvents.take k)).host := by
    intro k hk
    have hk : k ≤ 2 := hk
    interval_cases k <;> exact lawful_of_nodup 0x8000 (by decide +kernel) (by decide +kernel)
  refine ⟨lawful_take hlaw, ?_, ?_⟩
  · have hposted : (received.host.device.map fun d => posted d.rx ++ posted d.tx) = some [] := by
      decide +kernel
    rw [conserved_of_posted hposted]
    decide +kernel
  · have hposted : (sent.host.device.map fun d => posted d.rx ++ posted d.tx) = some [] := by
      decide +kernel
    rw [conserved_of_posted hposted]
    decide +kernel

end MigTd.Vsock.DmaRuns
