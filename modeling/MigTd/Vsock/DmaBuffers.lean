/- source: transport/virtio_pci.rs
   digest: Where the DMA buffers of the virtio transport are, within and between its calls. -/

import MigTd.Lib.Custody
import MigTd.Virtio.Postings
import MigTd.Vsock.Transports
import Mathlib.Data.List.ReduceOption

set_option autoImplicit false

namespace MigTd.Vsock.DmaBuffers

open Lib.Custody Lib.StateProgram Virtio.Postings Protocol Vsock.Stream Transports Transports.Virtio
  Virtio.Loans Virtio.Returns
open Virtio.Queue (VirtQueue VirtqueueBuf add popUsed)

def QUEUE_SIZE : Nat := 16

/-- A header buffer and a data buffer for the device to write. -/
def RxLoan (l : Loan) : Prop :=
  l.g2h = [] ∧ ∃ header data, l.h2g =
    [⟨header, HEADER_LEN.toUInt32⟩, ⟨data, VSOCK_DEFAULT_BUF_SIZE.toUInt32⟩]

def TxLoan (l : Loan) : Prop := l.h2g = []

/-- The pages that the allocator has handed out, when these answers are still to come. -/
def drawn (supply rest : List (Option UInt64)) : List UInt64 :=
  (supply.take (supply.length - rest.length)).reduceOption

def freed (h : Host) : List UInt64 := h.freed.map DmaRecord.dmaAddr

/-- The pages of the rings, the buffers that nobody refers to any more, those in the hands of the
running call, and the buffers that are posted. -/
def held (d : VirtioVsock) (lost hand : Multiset UInt64) : Multiset UInt64 :=
  d.queueDmaPages ::ₘ
    (lost + hand + (posted d.rx : Multiset UInt64) + (posted d.tx : Multiset UInt64))

structure Books (supply : List (Option UInt64)) (lost hand : Multiset UInt64) (h : Host)
    (d : VirtioVsock) : Prop where
  device : h.device = some d
  rx : Lending QUEUE_SIZE RxLoan d.rx
  tx : Lending QUEUE_SIZE TxLoan d.tx
  pages : h.pages <:+ supply
  keyed : ∀ a r, d.dmaRecord a = some r → r.dmaAddr = a
  accounted : Accounted d.dmaRecord (d.queueDmaPages ::ₘ (drawn supply h.pages : Multiset UInt64))
    (freed h) (held d lost hand)

/-- No page was handed out while it was out. -/
def Lawful (supply : List (Option UInt64)) (h : Host) : Prop :=
  ∀ d, h.device = some d → ∀ a,
    (d.queueDmaPages :: drawn supply h.pages).count a ≤ (freed h).count a + 1

def moved (move : HostMove) (d : VirtioVsock) : VirtioVsock :=
  { d with
    rx := { d.rx with shared := move.rx }
    tx := { d.tx with shared := move.tx } }

theorem drawn_tail {supply pages : List (Option UInt64)} (h : pages <:+ supply) :
    (drawn supply pages.tail : Multiset UInt64) =
      ((pages.headD none).toList : List UInt64) + (drawn supply pages : Multiset UInt64) := by
  obtain ⟨used, rfl⟩ := h
  cases pages with
  | nil => rfl
  | cons page rest =>
    have hlen : (used ++ page :: rest).length - rest.length = used.length + 1 := by
      rw [List.length_append, List.length_cons]
      omega
    have hlen' : (used ++ page :: rest).length - (page :: rest).length = used.length := by
      rw [List.length_append]
      omega
    rw [drawn, drawn, List.tail_cons, List.headD_cons, hlen, hlen', List.take_left,
      List.take_length_add_append, List.take_succ_cons, List.take_zero, List.reduceOption_append,
      ← Multiset.coe_add, add_comm]
    cases page <;> rfl

section

variable {supply : List (Option UInt64)} {lost hand : Multiset UInt64} {h : Host}
  {d : VirtioVsock} {a : UInt64}

def recordPage (d : VirtioVsock) (r : DmaRecord) : VirtioVsock :=
  { d with dmaRecord := Function.update d.dmaRecord r.dmaAddr (some r) }

theorem Books.allocate_fails (b : Books supply lost hand h d) (size : Nat)
    (hpage : h.pages.headD none = none) :
    ∃ h', allocateDmaMemory size h = (.error (.failed .dmaAllocation), h') ∧
      Books supply lost hand h' d := by
  refine ⟨{ h with pages := h.pages.tail }, ?_, b.device, b.rx, b.tx,
    (List.tail_suffix _).trans b.pages, b.keyed, ?_⟩
  · refine bind_error.mpr (.inr ⟨d, h, getDevice_run b.device, ?_⟩)
    refine bind_error.mpr (.inr ⟨h, h, rfl, bind_error.mpr (.inr ⟨(), _, rfl, ?_⟩)⟩)
    refine bind_error.mpr (.inl ?_)
    rw [hpage]
    rfl
  · have hdrawn := drawn_tail b.pages
    rw [hpage, Option.toList_none, Multiset.coe_nil, zero_add] at hdrawn
    have haccounted := b.accounted
    rw [← hdrawn] at haccounted
    exact haccounted

theorem Books.allocate (b : Books supply lost hand h d) (size : Nat)
    (hpage : h.pages.headD none = some a) :
    ∃ h', allocateDmaMemory size h = (.ok ⟨a, alignUp size⟩, h') ∧ h'.pages = h.pages.tail ∧
      Books supply lost (a ::ₘ hand) h' (recordPage d ⟨a, alignUp size⟩) := by
  refine ⟨setDevice (recordPage d ⟨a, alignUp size⟩) { h with pages := h.pages.tail }, ?_, rfl, rfl,
    b.rx, b.tx, (List.tail_suffix _).trans b.pages, ?_, ?_⟩
  · refine bind_ok.mpr ⟨d, h, getDevice_run b.device, bind_ok.mpr ⟨h, h, rfl, ?_⟩⟩
    refine bind_ok.mpr ⟨(), _, rfl, bind_ok.mpr ⟨a, _, ?_, bind_ok.mpr ⟨(), _, rfl, rfl⟩⟩⟩
    rw [hpage]
    rfl
  · intro x r hx
    by_cases hxa : x = a
    · rw [hxa] at hx ⊢
      obtain rfl : (⟨a, alignUp size⟩ : DmaRecord) = r := by
        simpa [recordPage] using hx
      rfl
    · refine b.keyed x r ?_
      rw [← hx]
      exact (Function.update_of_ne hxa _ _).symm
  · have hdrawn := drawn_tail b.pages
    rw [hpage, Option.toList_some, Multiset.coe_singleton, Multiset.singleton_add] at hdrawn
    have htake := b.accounted.take a ⟨a, alignUp size⟩
    have hheld : held (recordPage d ⟨a, alignUp size⟩) lost (a ::ₘ hand) =
        a ::ₘ held d lost hand := by
      rw [held, held, Multiset.add_cons, Multiset.cons_add, Multiset.cons_add, Multiset.cons_swap]
      rfl
    rw [Multiset.cons_swap, ← hdrawn, ← hheld] at htake
    exact htake

theorem Books.free (b : Books supply lost (a ::ₘ hand) h d)
    (hnodup : (held d lost (a ::ₘ hand)).Nodup) :
    ∃ h' d', freeDmaMemory a h = (.ok (), h') ∧ Books supply lost hand h' d' ∧
      d'.rx = d.rx ∧ d'.tx = d.tx ∧ d'.rxBufNum = d.rxBufNum ∧ d'.queueDmaPages = d.queueDmaPages ∧
      h'.pages = h.pages := by
  have hheld : held d lost (a ::ₘ hand) = a ::ₘ held d lost hand := by
    rw [held, held, Multiset.add_cons, Multiset.cons_add, Multiset.cons_add, Multiset.cons_swap]
  have haccounted := b.accounted
  rw [hheld] at haccounted hnodup
  rw [Multiset.nodup_cons] at hnodup
  obtain ⟨r, hr⟩ := Option.isSome_iff_exists.mp
    ((haccounted.recorded a).mp (Multiset.mem_cons_self a _))
  have hring : a ≠ d.queueDmaPages := by
    rintro rfl
    exact hnodup.1 (Multiset.mem_cons_self _ _)
  let d' : VirtioVsock := { d with dmaRecord := Function.update d.dmaRecord a none }
  let h' : Host := setDevice d' { h with freed := h.freed ++ [r] }
  refine ⟨h', d', ?_, ⟨rfl, b.rx, b.tx, b.pages, ?_, ?_⟩, rfl, rfl, rfl, rfl, rfl⟩
  · refine bind_ok.mpr ⟨d, h, getDevice_run b.device, ?_⟩
    refine bind_ok.mpr ⟨(), h, ensure_ok.mpr ⟨hring, rfl⟩, bind_ok.mpr ⟨r, h, ?_, ?_⟩⟩
    · rw [hr]
      rfl
    · exact bind_ok.mpr ⟨(), { h with freed := h.freed ++ [r] }, rfl, rfl⟩
  · intro x record hx
    by_cases hxa : x = a
    · rw [hxa] at hx
      simp [d'] at hx
    · refine b.keyed x record ?_
      rw [← hx]
      exact (Function.update_of_ne hxa _ _).symm
  · have hgive := haccounted.give hnodup.1
    have hfreed : (freed h' : Multiset UInt64) = a ::ₘ (freed h : Multiset UInt64) := by
      change ((h.freed ++ [r]).map DmaRecord.dmaAddr : Multiset UInt64) = _
      rw [List.map_append, ← Multiset.coe_add, List.map_singleton, b.keyed a r hr,
        Multiset.coe_singleton, add_comm, Multiset.singleton_add]
      rfl
    rw [← hfreed] at hgive
    exact hgive

theorem Books.lose (b : Books supply lost hand h d) : Books supply (hand + lost) 0 h d := by
  have hheld : held d (hand + lost) 0 = held d lost hand := by
    rw [held, held, add_zero, add_comm hand lost]
  refine ⟨b.device, b.rx, b.tx, b.pages, b.keyed, ?_⟩
  rw [hheld]
  exact b.accounted

theorem Books.count (b : Books supply lost hand h d) (n : Nat) :
    Books supply lost hand (setDevice { d with rxBufNum := n } h) { d with rxBufNum := n } :=
  ⟨rfl, b.rx, b.tx, b.pages, b.keyed, b.accounted⟩

theorem Books.addRx {x y : UInt64} (b : Books supply lost (y ::ₘ x ::ₘ hand) h d)
    (hroom : 2 + (posted d.rx).length ≤ QUEUE_SIZE) :
    ∃ token h' q, addTo VirtioVsock.rx setRx []
        [⟨x, HEADER_LEN.toUInt32⟩, ⟨y, VSOCK_DEFAULT_BUF_SIZE.toUInt32⟩] h = (.ok token, h') ∧
      Books supply lost hand h' { d with rx := q } ∧
      (posted q).length = (posted d.rx).length + 2 ∧ h'.pages = h.pages := by
  obtain ⟨token, q, hadd, hlending, hposted⟩ := b.rx.add (fun _ => ⟨rfl, x, y, rfl⟩)
    (b.rx.fits_iff.mpr ⟨by simp, hroom⟩)
  refine ⟨token, setDevice { d with rx := q } h, q, ?_,
    ⟨rfl, hlending, b.tx, b.pages, b.keyed, ?_⟩, ?_, rfl⟩
  · refine bind_ok.mpr ⟨d, h, getDevice_run b.device, ?_⟩
    rw [hadd]
    exact bind_ok.mpr ⟨(), _, rfl, rfl⟩
  · have hheld : held { d with rx := q } lost hand = held d lost (y ::ₘ x ::ₘ hand) := by
      rw [held, held, hposted]
      simp only [List.nil_append, List.map_cons, List.map_nil, ← Multiset.cons_coe,
        Multiset.coe_nil, Multiset.cons_add, Multiset.add_cons, zero_add]
      rw [Multiset.cons_swap x y]
    rw [hheld]
    exact b.accounted
  · have hcard := congrArg Multiset.card hposted
    rw [Multiset.card_add, Multiset.coe_card, Multiset.coe_card, Multiset.coe_card] at hcard
    rw [hcard, Nat.add_comm]
    rfl

variable {bufs : List VirtqueueBuf}

theorem Books.addTx (b : Books supply lost ((bufs.map VirtqueueBuf.addr : List UInt64) + hand) h d)
    (hfits : Fits d.tx bufs []) :
    ∃ token h' q, addTo VirtioVsock.tx setTx bufs [] h = (.ok token, h') ∧
      Books supply lost hand h' { d with tx := q } := by
  obtain ⟨token, q, hadd, hlending, hposted⟩ := b.tx.add (fun _ => rfl) hfits
  refine ⟨token, setDevice { d with tx := q } h, q, ?_, rfl, b.rx, hlending, b.pages, b.keyed, ?_⟩
  · refine bind_ok.mpr ⟨d, h, getDevice_run b.device, ?_⟩
    rw [hadd]
    exact bind_ok.mpr ⟨(), _, rfl, rfl⟩
  · have hheld : held { d with tx := q } lost hand =
        held d lost ((bufs.map VirtqueueBuf.addr : List UInt64) + hand) := by
      rw [held, held, hposted, List.append_nil]
      congr 1
      ac_rfl
    rw [hheld]
    exact b.accounted

theorem Books.addTx_refused (b : Books supply lost hand h d) (hno : ¬Fits d.tx bufs []) :
    ∃ e h', addTo VirtioVsock.tx setTx bufs [] h = (.error e, h') ∧
      Books supply lost hand h' d := by
  obtain ⟨e, hadd⟩ := MigTd.Virtio.Loans.add_refused hno
  refine ⟨.failed (.virtio e), setDevice d h, ?_, rfl, b.rx, b.tx, b.pages, b.keyed, b.accounted⟩
  refine bind_error.mpr (.inr ⟨d, h, getDevice_run b.device, ?_⟩)
  rw [hadd]
  exact bind_error.mpr (.inr ⟨(), _, rfl, rfl⟩)

theorem Books.popRx (b : Books supply lost hand h d) (hpop : Poppable d.rx) :
    ∃ x y n s h', popUsed ⟨d.rx, [], []⟩ = (.ok n, s) ∧
      s.h2g = [⟨x, HEADER_LEN.toUInt32⟩, ⟨y, VSOCK_DEFAULT_BUF_SIZE.toUInt32⟩] ∧
      popUsedFrom VirtioVsock.rx setRx h = (.ok (s.g2h, s.h2g), h') ∧
      Books supply lost (x ::ₘ y ::ₘ hand) h' { d with rx := s.queue } ∧
      held { d with rx := s.queue } lost (x ::ₘ y ::ₘ hand) = held d lost hand ∧
      (posted d.rx).length = (posted s.queue).length + 2 ∧ h'.pages = h.pages ∧
      h'.memory = h.memory := by
  obtain ⟨loan, n, s, ⟨hg2h, x, y, hh2g⟩, hrun, hsg, hsh, hlending, hposted⟩ := b.rx.popUsed hpop
  have hheld : held { d with rx := s.queue } lost (x ::ₘ y ::ₘ hand) = held d lost hand := by
    rw [held, held, hposted, addresses, hg2h, hh2g]
    simp only [List.nil_append, List.map_cons, List.map_nil, ← Multiset.cons_coe,
      Multiset.coe_nil, Multiset.cons_add, Multiset.add_cons, zero_add]
  refine ⟨x, y, n, s, setDevice { d with rx := s.queue } h, hrun, hsh.trans hh2g, ?_,
    ⟨rfl, hlending, b.tx, b.pages, b.keyed, ?_⟩, hheld, ?_, rfl, rfl⟩
  · refine bind_ok.mpr ⟨d, h, getDevice_run b.device, ?_⟩
    rw [hrun]
    exact bind_ok.mpr ⟨(), _, rfl, bind_ok.mpr ⟨n, _, rfl, rfl⟩⟩
  · rw [hheld]
    exact b.accounted
  · have hcard := congrArg Multiset.card hposted
    rw [Multiset.card_add, Multiset.coe_card, Multiset.coe_card, Multiset.coe_card, addresses,
      hg2h, hh2g] at hcard
    rw [hcard, Nat.add_comm]
    rfl

theorem Books.popTx (b : Books supply lost hand h d) (hpop : Poppable d.tx) :
    ∃ bufs h2g h' q, popUsedFrom VirtioVsock.tx setTx h = (.ok (bufs, h2g), h') ∧
      Books supply lost ((bufs.map VirtqueueBuf.addr : List UInt64) + hand) h' { d with tx := q } ∧
      held { d with tx := q } lost ((bufs.map VirtqueueBuf.addr : List UInt64) + hand) =
        held d lost hand := by
  obtain ⟨loan, n, s, hloan, hrun, hsg, hsh, hlending, hposted⟩ := b.tx.popUsed hpop
  have hloan : loan.h2g = [] := hloan
  have hheld : held { d with tx := s.queue } lost
      ((s.g2h.map VirtqueueBuf.addr : List UInt64) + hand) = held d lost hand := by
    rw [held, held, hposted, addresses, hloan, List.append_nil, hsg]
    dsimp only
    congr 1
    ac_rfl
  refine ⟨s.g2h, s.h2g, setDevice { d with tx := s.queue } h, s.queue, ?_,
    ⟨rfl, b.rx, hlending, b.pages, b.keyed, ?_⟩, hheld⟩
  · refine bind_ok.mpr ⟨d, h, getDevice_run b.device, ?_⟩
    rw [hrun]
    exact bind_ok.mpr ⟨(), _, rfl, bind_ok.mpr ⟨n, _, rfl, rfl⟩⟩
  · rw [hheld]
    exact b.accounted

theorem Books.pop_refused (b : Books supply lost hand h d) (get : VirtioVsock → VirtQueue)
    (put : VirtioVsock → VirtQueue → VirtioVsock) (hput : put d (get d) = d) {P : Loan → Prop}
    (hlending : Lending QUEUE_SIZE P (get d)) (hno : ¬Poppable (get d)) :
    ∃ e h', popUsedFrom get put h = (.error e, h') ∧ Books supply lost hand h' d := by
  obtain ⟨e, hrun⟩ := hlending.popUsed_refused hno
  refine ⟨.failed (.virtio e), setDevice d h, ?_, rfl, b.rx, b.tx, b.pages, b.keyed, b.accounted⟩
  refine bind_error.mpr (.inr ⟨d, h, getDevice_run b.device, ?_⟩)
  rw [hrun, hput]
  exact bind_error.mpr (.inr ⟨(), _, rfl, bind_error.mpr (.inl rfl)⟩)

theorem Books.nodup (b : Books supply lost hand h d) (hlaw : Lawful supply h) :
    (held d lost hand).Nodup := by
  refine b.accounted.nodup fun a => ?_
  rw [Multiset.cons_coe, Multiset.coe_count, Multiset.coe_count]
  exact hlaw d b.device a

theorem Books.move {net : Net Host} (b : Books supply lost hand net.host d) (move : HostMove)
    (later : List HostMove) :
    Books supply lost hand (applyMove move later net).host (moved move d) := by
  refine ⟨?_, b.rx.device move.rx, b.tx.device move.tx, b.pages, b.keyed, b.accounted⟩
  change net.host.device.map _ = _
  rw [b.device]
  rfl

end

/-- Between two calls nothing is in hand, and the counter tells what is posted for receiving. -/
def Settled (supply : List (Option UInt64)) (lost : Multiset UInt64) (h : Host) : Prop :=
  ∃ d, Books supply lost 0 h d ∧ d.rxBufNum = (posted d.rx).length

/-- The same, with more buffers lost exactly unless the condition holds. -/
def SettledIf (supply : List (Option UInt64)) (lost : Multiset UInt64) (kept : Prop) (h : Host) :
    Prop :=
  ∃ extra, Settled supply (extra + lost) h ∧ (extra = 0 ↔ kept)

/-- In this many turns, no header page comes without a data page. -/
def pairedPages : Nat → List (Option UInt64) → Bool
  | 0, _ => true
  | turns + 1, pages => match pages.headD none, pages.tail.headD none with
    | none, _ => true
    | some _, none => false
    | some _, some _ => pairedPages turns pages.tail.tail

/-- Filling up from this number of posted buffers loses none. -/
def FillsUp (rxBufNum : Nat) (pages : List (Option UInt64)) : Prop :=
  rxBufNum ≤ RX_QUEUE_PREFILL_NUM / 2 →
    pairedPages ((RX_QUEUE_PREFILL_NUM - rxBufNum) / 2) pages = true
  deriving Decidable

section

variable {supply : List (Option UInt64)} {lost : Multiset UInt64} {h : Host} {d : VirtioVsock}

theorem Settled.kept {kept : Prop} (hs : Settled supply lost h) (hkept : kept) :
    SettledIf supply lost kept h :=
  ⟨0, (zero_add lost).symm ▸ hs, iff_of_true rfl hkept⟩

private theorem rxLoan_length (l : Loan) (hl : RxLoan l) : (addresses l).length = 2 := by
  obtain ⟨hg2h, x, y, hh2g⟩ := hl
  rw [addresses, hg2h, hh2g]
  rfl

theorem fillLoop_settled (turns : Nat) (b : Books supply lost 0 h d)
    (hnum : d.rxBufNum = (posted d.rx).length)
    (hturns : (RX_QUEUE_PREFILL_NUM - d.rxBufNum) / 2 ≤ turns) :
    Post (fillLoop turns) h fun _ h' => SettledIf supply lost
      (pairedPages ((RX_QUEUE_PREFILL_NUM - d.rxBufNum) / 2) h.pages = true) h' := by
  induction turns generalizing h d with
  | zero =>
    refine post_pure.mpr (Settled.kept ⟨d, b, hnum⟩ ?_)
    rw [Nat.le_zero.mp hturns]
    rfl
  | succ turns ih =>
    rw [fillLoop]
    refine post_bind_run (getDevice_run b.device) ?_
    by_cases hless : d.rxBufNum < RX_QUEUE_PREFILL_NUM
    · rw [if_pos hless]
      have heven : 2 ∣ d.rxBufNum := hnum ▸ b.rx.dvd rxLoan_length
      have hroom : 2 + (posted d.rx).length ≤ QUEUE_SIZE := by
        unfold RX_QUEUE_PREFILL_NUM at hless
        unfold QUEUE_SIZE
        omega
      have hleft : (RX_QUEUE_PREFILL_NUM - d.rxBufNum) / 2 =
          (RX_QUEUE_PREFILL_NUM - (d.rxBufNum + 2)) / 2 + 1 := by
        unfold RX_QUEUE_PREFILL_NUM at hless ⊢
        omega
      rw [hleft, pairedPages]
      cases hfirst : h.pages.headD none with
      | none =>
        obtain ⟨h₁, hrun, b₁⟩ := b.allocate_fails HEADER_LEN hfirst
        exact post_bind_stop hrun (Settled.kept ⟨d, b₁, hnum⟩ rfl)
      | some x =>
        obtain ⟨h₁, hrun₁, hpages₁, b₁⟩ := b.allocate HEADER_LEN hfirst
        refine post_bind_run hrun₁ ?_
        rw [← hpages₁]
        cases hsecond : h₁.pages.headD none with
        | none =>
          obtain ⟨h₂, hrun₂, b₂⟩ := b₁.allocate_fails VSOCK_DEFAULT_BUF_SIZE hsecond
          refine post_bind_stop hrun₂ ⟨{x}, ⟨_, b₂.lose, hnum⟩, iff_of_false ?_ ?_⟩
          · exact Multiset.singleton_ne_zero x
          · exact Bool.false_ne_true
        | some y =>
          obtain ⟨h₂, hrun₂, hpages₂, b₂⟩ := b₁.allocate VSOCK_DEFAULT_BUF_SIZE hsecond
          refine post_bind_run hrun₂ ?_
          obtain ⟨token, h₃, q, hrun₃, b₃, hlen, hpages₃⟩ := b₂.addRx hroom
          refine post_bind_run hrun₃ (post_bind_run (getDevice_run b₃.device) ?_)
          refine post_bind_update.mpr ?_
          have hnum' : d.rxBufNum + 2 = (posted q).length := by rw [hlen, hnum]; rfl
          rw [← hpages₂, ← hpages₃]
          refine ih (b₃.count (d.rxBufNum + 2)) hnum' ?_
          change (RX_QUEUE_PREFILL_NUM - (d.rxBufNum + 2)) / 2 ≤ turns
          omega
    · rw [if_neg hless]
      refine post_pure.mpr (Settled.kept ⟨d, b, hnum⟩ ?_)
      rw [Nat.sub_eq_zero_of_le (Nat.not_lt.mp hless)]
      rfl

theorem kickQueue_settled (hs : Settled supply lost h) :
    Post kickQueue h fun _ h' => Settled supply lost h' := by
  obtain ⟨d, b, hnum⟩ := hs
  have hkicked : Settled supply lost { h with kicks := h.kicks.drop 2 } :=
    ⟨d, ⟨b.device, b.rx, b.tx, b.pages, b.keyed, b.accounted⟩, hnum⟩
  refine post_bind_observe.mpr (post_bind_update.mpr (post_bind_lift.mpr ⟨fun _ _ => ?_, ?_⟩))
  · exact post_lift.mpr hkicked
  · exact fun _ _ => hkicked

theorem rxQueueFill_settled (b : Books supply lost 0 h d)
    (hnum : d.rxBufNum = (posted d.rx).length) :
    Post rxQueueFill h fun _ h' => SettledIf supply lost (FillsUp d.rxBufNum h.pages) h' := by
  rw [rxQueueFill]
  refine post_bind_run (getDevice_run b.device) ?_
  by_cases hmany : RX_QUEUE_PREFILL_NUM / 2 < d.rxBufNum
  · rw [if_pos hmany]
    exact post_pure.mpr (Settled.kept ⟨d, b, hnum⟩ fun hfew => absurd hmany (Nat.not_lt.mpr hfew))
  · rw [if_neg hmany]
    have hiff : FillsUp d.rxBufNum h.pages ↔
        pairedPages ((RX_QUEUE_PREFILL_NUM - d.rxBufNum) / 2) h.pages = true :=
      forall_prop_of_true (Nat.not_lt.mp hmany)
    have hturns : (RX_QUEUE_PREFILL_NUM - d.rxBufNum) / 2 ≤ RX_QUEUE_PREFILL_NUM := by omega
    refine post_bind_of (fillLoop_settled RX_QUEUE_PREFILL_NUM b hnum hturns) ?_ ?_
    · rintro _ t ⟨extra, hs, hextra⟩
      exact (kickQueue_settled hs).mono fun _ _ hs' => ⟨extra, hs', hextra.trans hiff.symm⟩
    · rintro _ t ⟨extra, hs, hextra⟩
      exact ⟨extra, hs, hextra.trans hiff.symm⟩

end

section

variable {α β : Type} {net : Net Host} {m : HostProgram α}

theorem onHost_error {e : Halt VsockTransportError} {h : Host}
    (hrun : m net.host = (.error e, h)) : onHost m net = (.error e, { net with host := h }) :=
  embed_error.mpr ⟨e, h, hrun, rfl, rfl⟩

theorem post_bind_onHost {f : α → NetProgram Host β}
    {H : Except (Halt VsockTransportError) α → Host → Prop}
    {Q : Except (Halt VsockTransportError) β → Net Host → Prop} (hm : Post m net.host H)
    (hok : ∀ a h, H (.ok a) h → Post (f a) { net with host := h } Q)
    (herr : ∀ e h, H (.error e) h → Q (.error e) { net with host := h }) :
    Post (onHost m >>= f) net Q := by
  refine post_bind_embed (fun a h hrun => hok a h ?_) (fun e h hrun => herr e h ?_)
  · rwa [Post, hrun] at hm
  · rwa [Post, hrun] at hm

theorem post_onHost {Q : Except (Halt VsockTransportError) α → Net Host → Prop}
    (hm : Post m net.host fun r h => Q r { net with host := h }) : Post (onHost m) net Q := by
  refine post_embed.mpr (hm.mono fun r h hq => ?_)
  cases r with
  | ok a => exact hq
  | error e => exact hq

end

end MigTd.Vsock.DmaBuffers
