/- source: spdm/mod.rs
   digest: Frames sent and received over a byte stream that splits and merges them as it likes. -/

import MigTd.Lib.ByteLink
import MigTd.Spdm.VmcallMessages

set_option autoImplicit false

namespace MigTd.Spdm.VmcallTransport

open Lib.ByteCodec Lib.ByteLink Lib.StateProgram VmcallMessages

/-- Read into the free part of the buffer until it holds the wanted number of bytes. Every read
may fill all of the free part. -/
def fillFrom (capacity target : Nat) :
    List (Option Nat) → Octets → Link → Except (Halt Unit) Octets × Link
  | [], buffer, s =>
    (if target ≤ buffer.length then .ok buffer else .error .waiting, { s with reads := [] })
  | answer :: reads, buffer, s =>
    if target ≤ buffer.length then (.ok buffer, { s with reads := answer :: reads })
    else match answer with
      | none => (.error (.failed ()), { s with reads := reads })
      | some n =>
        let chunk := s.incoming.take (min n (capacity - buffer.length))
        fillFrom capacity target reads (buffer ++ chunk) { s with
            incoming := s.incoming.drop chunk.length
            received := s.received ++ chunk }

def fill (capacity target : Nat) (buffer : Octets) : Program Link (Halt Unit) Octets :=
  fun s => fillFrom capacity target s.reads buffer s

def receive (capacity : Nat) : Program Link (Halt Unit) Octets := do
  ensure (VMCALL_SPDM_MESSAGE_HEADER_SIZE ≤ capacity) (.failed ())
  let buffer ← fill capacity VMCALL_SPDM_MESSAGE_HEADER_SIZE []
  let header ← lift (orElse (VmCallMessageHeader.read buffer) (.failed ()))
  ensure (header.1.length.toNat ≤ capacity - VMCALL_SPDM_MESSAGE_HEADER_SIZE) (.failed ())
  fill capacity header.1.frameSize buffer

def receives (capacity : Nat) : Nat → Program Link (Halt Unit) (List Octets)
  | 0 => pure []
  | n + 1 => do
    let frame ← receive capacity
    let frames ← receives capacity n
    return frame :: frames

structure Message where
  secured : Bool
  payload : Octets

def Message.header (m : Message) : VmCallMessageHeader := headerOf m.secured m.payload

def Message.frame (m : Message) : Octets := m.header.encode.flatten ++ m.payload

/-- A message is put in a frame, and `MigtdTransport::send` offers the frame until all of it is
taken. -/
def sendMessage (capacity : Nat) (m : Message) : Program Link (Halt TransportStatus) Unit := do
  let frame ← lift ((encap capacity m.payload m.secured).mapError .failed)
  send .sendFail frame

def sendMessages (capacity : Nat) : List Message → Program Link (Halt TransportStatus) Unit
  | [] => pure ()
  | m :: ms => do
    sendMessage capacity m
    sendMessages capacity ms

/-- How many bytes are there when a position is first reached, and the answers that are left: the
reads start behind `taken` bytes and `left` more can come. -/
def stopFrom (capacity target : Nat) :
    List (Option Nat) → Nat → Nat → Option (Nat × List (Option Nat))
  | [], taken, _ => if target ≤ taken then some (taken, []) else none
  | answer :: reads, taken, left =>
    if target ≤ taken then some (taken, answer :: reads)
    else match answer with
      | none => none
      | some n =>
        let count := min (min n (capacity - taken)) left
        stopFrom capacity target reads (taken + count) (left - count)

/-- The state after this many bytes have been taken with the answers in front of `reads`. -/
def pull (s : Link) (count : Nat) (reads : List (Option Nat)) : Link :=
  { s with
    reads := reads
    incoming := s.incoming.drop count
    received := s.received ++ s.incoming.take count }

variable {buffer out : Octets} {s t : Link} {first : Nat}

section

variable {capacity target taken left stop : Nat} {reads reads' : List (Option Nat)}

theorem stopFrom_reached (h : target ≤ taken) :
    stopFrom capacity target reads taken left = some (taken, reads) := by
  cases reads with
  | nil => exact if_pos h
  | cons answer reads => exact if_pos h

theorem stopFrom_read (n : Nat) (h : ¬target ≤ taken) :
    stopFrom capacity target (some n :: reads) taken left =
      stopFrom capacity target reads (taken + min (min n (capacity - taken)) left)
        (left - min (min n (capacity - taken)) left) := if_neg h

theorem stopFrom_some (h : stopFrom capacity target reads taken left = some (stop, reads')) :
    (target ≤ taken ∧ stop = taken ∧ reads' = reads) ∨
      (¬target ≤ taken ∧ ∃ n rest, reads = some n :: rest) := by
  by_cases hreached : target ≤ taken
  · rw [stopFrom_reached hreached] at h
    cases h
    exact .inl ⟨hreached, rfl, rfl⟩
  · refine .inr ⟨hreached, ?_⟩
    cases reads with
    | nil => exact absurd (h.symm.trans (if_neg hreached)) (by simp)
    | cons answer reads =>
      cases answer with
      | none => exact absurd (h.symm.trans (if_neg hreached)) (by simp)
      | some n => exact ⟨n, reads, rfl⟩

theorem stopFrom_bounds (h : stopFrom capacity target reads taken left = some (stop, reads')) :
    target ≤ stop ∧ taken ≤ stop ∧ stop ≤ taken + left ∧ (taken ≤ capacity → stop ≤ capacity) := by
  induction reads generalizing taken left with
  | nil =>
    rcases stopFrom_some h with ⟨hreached, rfl, -⟩ | ⟨-, n, rest, hreads⟩
    · omega
    · cases hreads
  | cons answer reads ih =>
    rcases stopFrom_some h with ⟨hreached, rfl, -⟩ | ⟨hmore, n, rest, hreads⟩
    · omega
    · cases hreads
      rw [stopFrom_read n hmore] at h
      have hnext := ih h
      omega

theorem stopFrom_later (hfirst : first ≤ target)
    (h : stopFrom capacity first reads taken left = some (stop, reads')) :
    stopFrom capacity target reads taken left =
      stopFrom capacity target reads' stop (left - (stop - taken)) := by
  induction reads generalizing taken left with
  | nil =>
    rcases stopFrom_some h with ⟨-, rfl, rfl⟩ | ⟨-, n, rest, hreads⟩
    · rw [Nat.sub_self, Nat.sub_zero]
    · cases hreads
  | cons answer reads ih =>
    rcases stopFrom_some h with ⟨-, rfl, rfl⟩ | ⟨hmore, n, rest, hreads⟩
    · rw [Nat.sub_self, Nat.sub_zero]
    · cases hreads
      have hmore' : ¬target ≤ taken := by omega
      rw [stopFrom_read n hmore] at h
      have hbounds := stopFrom_bounds h
      rw [stopFrom_read n hmore', ih h]
      congr 1
      omega

theorem stopFrom_earlier (hfirst : first ≤ target)
    (h : stopFrom capacity target reads taken left = some (stop, reads')) :
    ∃ stop' rest, stopFrom capacity first reads taken left = some (stop', rest) := by
  induction reads generalizing taken left with
  | nil =>
    rcases stopFrom_some h with ⟨hreached, -, -⟩ | ⟨-, n, rest, hreads⟩
    · exact ⟨_, _, stopFrom_reached (hfirst.trans hreached)⟩
    · cases hreads
  | cons answer reads ih =>
    by_cases hreached : first ≤ taken
    · exact ⟨_, _, stopFrom_reached hreached⟩
    · rcases stopFrom_some h with ⟨hall, -, -⟩ | ⟨hmore, n, rest, hreads⟩
      · omega
      · cases hreads
        rw [stopFrom_read n hmore] at h
        rw [stopFrom_read n hreached]
        exact ih h

theorem pull_zero (s : Link) : pull s 0 reads = { s with reads := reads } := by
  simp [pull]

theorem pull_pull (s : Link) (m n : Nat) (first last : List (Option Nat)) :
    pull (pull s m first) n last = pull s (m + n) last := by
  simp only [pull, List.drop_drop, List.append_assoc, List.take_add]

theorem fillFrom_reached (h : target ≤ buffer.length) :
    fillFrom capacity target reads buffer s = (.ok buffer, { s with reads := reads }) := by
  cases reads with
  | nil => rw [fillFrom, if_pos h]
  | cons answer reads => exact if_pos h

theorem fillFrom_read {count : Nat} (n : Nat) (hmore : ¬target ≤ buffer.length)
    (hcount : count = min (min n (capacity - buffer.length)) s.incoming.length) :
    fillFrom capacity target (some n :: reads) buffer s =
      fillFrom capacity target reads (buffer ++ s.incoming.take count) (pull s count s.reads) := by
  have htake : s.incoming.take (min n (capacity - buffer.length)) = s.incoming.take count := by
    rw [hcount, ← List.take_eq_take_min]
  have hlen : (s.incoming.take count).length = count := by
    rw [List.length_take]
    omega
  refine (if_neg hmore).trans ?_
  simp only [htake, hlen, pull]

theorem fillFrom_stop
    (h : stopFrom capacity target reads buffer.length s.incoming.length = some (stop, reads')) :
    fillFrom capacity target reads buffer s =
      (.ok (buffer ++ s.incoming.take (stop - buffer.length)),
        pull s (stop - buffer.length) reads') := by
  induction reads generalizing buffer s with
  | nil =>
    rcases stopFrom_some h with ⟨hreached, rfl, rfl⟩ | ⟨-, n, rest, hreads⟩
    · rw [fillFrom_reached hreached, Nat.sub_self, pull_zero, List.take_zero, List.append_nil]
    · cases hreads
  | cons answer reads ih =>
    rcases stopFrom_some h with ⟨hreached, rfl, rfl⟩ | ⟨hmore, n, rest, hreads⟩
    · rw [fillFrom_reached hreached, Nat.sub_self, pull_zero, List.take_zero, List.append_nil]
    · cases hreads
      rw [stopFrom_read n hmore] at h
      rw [fillFrom_read n hmore rfl]
      generalize hcount : min (min n (capacity - buffer.length)) s.incoming.length = count at h ⊢
      have hlen : (buffer ++ s.incoming.take count).length = buffer.length + count := by
        rw [List.length_append, List.length_take]
        omega
      have hleft : (pull s count s.reads).incoming.length = s.incoming.length - count := by
        rw [pull, List.length_drop]
      have hbounds := stopFrom_bounds h
      have hsplit : stop - buffer.length = count + (stop - (buffer.length + count)) := by omega
      rw [← hlen, ← hleft] at h
      rw [ih h, hlen, pull_pull, hsplit, List.take_add, List.append_assoc]
      rfl

theorem fillFrom_ok (h : fillFrom capacity target reads buffer s = (.ok out, t)) :
    ∃ stop reads', stopFrom capacity target reads buffer.length s.incoming.length =
      some (stop, reads') := by
  induction reads generalizing buffer s with
  | nil =>
    by_cases hreached : target ≤ buffer.length
    · exact ⟨_, _, stopFrom_reached hreached⟩
    · rw [fillFrom, if_neg hreached] at h
      cases h
  | cons answer reads ih =>
    by_cases hreached : target ≤ buffer.length
    · exact ⟨_, _, stopFrom_reached hreached⟩
    · cases answer with
      | none => exact absurd (h.symm.trans (if_neg hreached)) (by simp)
      | some n =>
        rw [fillFrom_read n hreached rfl] at h
        obtain ⟨stop, reads', hstop⟩ := ih h
        refine ⟨stop, reads', ?_⟩
        rw [stopFrom_read n hreached, ← hstop]
        congr 1
        · rw [List.length_append, List.length_take]
          omega
        · rw [pull, List.length_drop]

theorem fill_ok : fill capacity target buffer s = (.ok out, t) ↔
      ∃ stop reads', stopFrom capacity target s.reads buffer.length s.incoming.length =
        some (stop, reads') ∧ out = buffer ++ s.incoming.take (stop - buffer.length) ∧
          t = pull s (stop - buffer.length) reads' := by
  constructor
  · intro h
    obtain ⟨stop, reads', hstop⟩ := fillFrom_ok h
    have hrun := fillFrom_stop hstop
    rw [fill, hrun] at h
    cases h
    exact ⟨stop, reads', hstop, rfl, rfl⟩
  · rintro ⟨stop, reads', hstop, rfl, rfl⟩
    exact fillFrom_stop hstop

theorem fill_nil : fill capacity target [] s = (.ok out, t) ↔
      ∃ stop reads', stopFrom capacity target s.reads 0 s.incoming.length = some (stop, reads') ∧
        out = s.incoming.take stop ∧ t = pull s stop reads' := by
  rw [fill_ok]
  simp only [List.length_nil, Nat.sub_zero, List.nil_append]

theorem fill_again (hfirst : first ≤ target)
    (h : stopFrom capacity first s.reads 0 s.incoming.length = some (stop, reads')) :
    fill capacity target (s.incoming.take stop) (pull s stop reads') = (.ok out, t) ↔
      fill capacity target [] s = (.ok out, t) := by
  have hbounds := stopFrom_bounds h
  have hlen : (s.incoming.take stop).length = stop := by
    rw [List.length_take]
    omega
  have hlater := stopFrom_later hfirst h
  rw [fill_nil, fill_ok, hlater, hlen]
  have hleft : (pull s stop reads').incoming.length = s.incoming.length - (stop - 0) := by
    rw [pull, List.length_drop, Nat.sub_zero]
  rw [hleft]
  -- both sides name the same end, counted from the start or from the first stop
  refine exists_congr fun last => exists_congr fun rest => and_congr_right fun hlast => ?_
  have hsum : stop + (last - stop) = last := by
    have := stopFrom_bounds hlast
    omega
  have hbytes : s.incoming.take stop ++ (pull s stop reads').incoming.take (last - stop) =
      s.incoming.take last := by
    rw [pull, ← List.take_add, hsum]
  rw [hbytes, pull_pull, hsum]

end

variable {capacity : Nat}

theorem receive_ok {frame : Octets} : receive capacity s = (.ok frame, t) ↔
      ∃ header rest stop reads, VmCallMessageHeader.read s.incoming = some (header, rest) ∧
        stopFrom capacity header.frameSize s.reads 0 s.incoming.length = some (stop, reads) ∧
          frame = s.incoming.take stop ∧ t = pull s stop reads := by
  have hsize (header : VmCallMessageHeader) :
      VMCALL_SPDM_MESSAGE_HEADER_SIZE ≤ header.frameSize := Nat.le_add_right _ _
  constructor
  · intro h
    obtain ⟨_, _, hcap, h⟩ := bind_ok.mp h
    obtain ⟨-, rfl⟩ := ensure_ok.mp hcap
    obtain ⟨buffer, u, hfill, h⟩ := bind_ok.mp h
    obtain ⟨⟨header, behind⟩, _, hlift, h⟩ := bind_ok.mp h
    obtain ⟨hread, rfl⟩ := lift_ok.mp hlift
    obtain ⟨_, _, hfits, h⟩ := bind_ok.mp h
    obtain ⟨-, rfl⟩ := ensure_ok.mp hfits
    obtain ⟨first, reads, hfirst, rfl, rfl⟩ := fill_nil.mp hfill
    obtain ⟨stop, reads', hstop, hframe, ht⟩ := fill_nil.mp ((fill_again (hsize header) hfirst).mp h)
    have hwhole := VmCallMessageHeader.decidedBy_read.read_all (orElse_ok.mp hread)
      (s.incoming.drop first)
    rw [List.take_append_drop] at hwhole
    exact ⟨header, _, stop, reads', hwhole, hstop, hframe, ht⟩
  · rintro ⟨header, rest, stop, reads, hread, hstop, hframe, ht⟩
    obtain ⟨first, reads', hfirst⟩ := stopFrom_earlier (hsize header) hstop
    have hreached := stopFrom_bounds hstop
    have hbounds := stopFrom_bounds hfirst
    have hfits : header.frameSize ≤ capacity := by omega
    have hhead := VmCallMessageHeader.decidedBy_read.read_prefix hbounds.1 hread
    refine bind_ok.mpr ⟨(), s, ensure_ok.mpr ⟨(hsize header).trans hfits, rfl⟩, ?_⟩
    refine bind_ok.mpr ⟨_, _, fill_nil.mpr ⟨first, reads', hfirst, rfl, rfl⟩, ?_⟩
    refine bind_ok.mpr ⟨_, _, lift_ok.mpr ⟨orElse_ok.mpr hhead, rfl⟩, ?_⟩
    refine bind_ok.mpr ⟨(), _, ensure_ok.mpr ⟨?_, rfl⟩, ?_⟩
    · rw [VmCallMessageHeader.frameSize] at hfits
      exact Nat.le_sub_of_add_le' hfits
    · exact (fill_again (hsize header) hfirst).mpr (fill_nil.mpr ⟨stop, reads, hstop, hframe, ht⟩)

/-- The bytes are one header and the payload that it declares. -/
def IsFrame (bytes : Octets) : Prop :=
  ∃ header payload, VmCallMessageHeader.read bytes = some (header, payload) ∧
    payload.length = header.length.toNat

/-- A successful call returns one frame and leaves all bytes behind it. -/
def ReturnsFrame (capacity : Nat) (s : Link) : Prop :=
  ∀ frame t, receive capacity s = (.ok frame, t) → IsFrame frame ∧ s.incoming = frame ++ t.incoming

/-- If the reads reach the end of the frame in front, the first one that does ends there. -/
def StopsAtEnd (capacity : Nat) (s : Link) : Prop :=
  ∀ header rest, VmCallMessageHeader.read s.incoming = some (header, rest) →
    ∀ stop reads, stopFrom capacity header.frameSize s.reads 0 s.incoming.length =
      some (stop, reads) → stop = header.frameSize

theorem isFrame_take {bytes rest : Octets} {header : VmCallMessageHeader} {stop : Nat}
    (hread : VmCallMessageHeader.read bytes = some (header, rest))
    (hlow : VMCALL_SPDM_MESSAGE_HEADER_SIZE ≤ stop) (hhigh : stop ≤ bytes.length) :
    IsFrame (bytes.take stop) ↔ stop = header.frameSize := by
  have hcut := VmCallMessageHeader.decidedBy_read.read_prefix hlow hread
  obtain ⟨front, hfront, hbytes, -⟩ := VmCallMessageHeader.decidedBy_read bytes header rest hread
  have hrest : (rest.take (stop - VMCALL_SPDM_MESSAGE_HEADER_SIZE)).length =
      stop - VMCALL_SPDM_MESSAGE_HEADER_SIZE := by
    rw [hbytes, List.length_append, hfront] at hhigh
    rw [List.length_take]
    omega
  rw [VmCallMessageHeader.frameSize]
  constructor
  · rintro ⟨header', payload, hread', hlen⟩
    rw [hcut] at hread'
    cases hread'
    omega
  · intro hstop
    exact ⟨header, _, hcut, by omega⟩

theorem returnsFrame_iff : ReturnsFrame capacity s ↔ StopsAtEnd capacity s := by
  have hframe {header rest stop reads}
      (hread : VmCallMessageHeader.read s.incoming = some (header, rest))
      (hstop : stopFrom capacity header.frameSize s.reads 0 s.incoming.length =
        some (stop, reads)) :
      IsFrame (s.incoming.take stop) ↔ stop = header.frameSize := by
    have hbounds := stopFrom_bounds hstop
    refine isFrame_take hread ?_ ?_
    · exact (Nat.le_add_right _ _).trans hbounds.1
    · omega
  constructor
  · intro h header rest hread stop reads hstop
    have hreturn := h _ _ (receive_ok.mpr ⟨header, rest, stop, reads, hread, hstop, rfl, rfl⟩)
    exact (hframe hread hstop).mp hreturn.1
  · intro h frame t hrun
    obtain ⟨header, rest, stop, reads, hread, hstop, rfl, rfl⟩ := receive_ok.mp hrun
    refine ⟨(hframe hread hstop).mpr (h header rest hread stop reads hstop), ?_⟩
    exact (List.take_append_drop stop s.incoming).symm

/-- Each of the messages ends where the reads of its call stop. -/
def Separated (capacity : Nat) : List Message → List (Option Nat) → Nat → Prop
  | [], _, _ => True
  | m :: ms, reads, left =>
    ∃ reads', stopFrom capacity m.header.frameSize reads 0 left = some (m.frame.length, reads') ∧
      Separated capacity ms reads' (left - m.frame.length)

theorem receive_frame {m : Message} {more : Octets} (hin : s.incoming = m.frame ++ more) :
    receive capacity s = (.ok m.frame, t) ↔
      ∃ reads, stopFrom capacity m.header.frameSize s.reads 0 s.incoming.length =
        some (m.frame.length, reads) ∧ t = pull s m.frame.length reads := by
  have hread : VmCallMessageHeader.read s.incoming = some (m.header, m.payload ++ more) := by
    rw [hin, Message.frame, List.append_assoc]
    exact VmCallMessageHeader.decodes_read rfl _
  rw [receive_ok]
  constructor
  · rintro ⟨header, rest, stop, reads, hread', hstop, hframe, rfl⟩
    rw [hread] at hread'
    cases hread'
    have hbounds := stopFrom_bounds hstop
    have hlen : m.frame.length = stop := by
      rw [hframe, List.length_take]
      omega
    rw [hlen]
    exact ⟨reads, hstop, rfl⟩
  · rintro ⟨reads, hstop, rfl⟩
    refine ⟨m.header, _, _, reads, hread, hstop, ?_, rfl⟩
    rw [hin, List.take_left]

theorem receives_iff {messages : List Message} {rest : Octets}
    (hin : s.incoming = (messages.map Message.frame).flatten ++ rest) :
    (∃ t, receives capacity messages.length s = (.ok (messages.map Message.frame), t) ∧
      t.incoming = rest) ↔ Separated capacity messages s.reads s.incoming.length := by
  induction messages generalizing s with
  | nil => exact ⟨fun _ => trivial, fun _ => ⟨s, rfl, hin⟩⟩
  | cons m ms ih =>
    rw [List.map_cons, List.flatten_cons, List.append_assoc] at hin
    -- the state behind the first call, wherever its reads left the answers
    have hnext (reads : List (Option Nat)) : (pull s m.frame.length reads).incoming =
        (ms.map Message.frame).flatten ++ rest := by
      rw [pull, hin, List.drop_left]
    have hleft (reads : List (Option Nat)) : (pull s m.frame.length reads).incoming.length =
        s.incoming.length - m.frame.length := by
      rw [pull, List.length_drop]
    constructor
    · rintro ⟨t, hrun, ht⟩
      obtain ⟨frame, u, hfirst, hrun⟩ := bind_ok.mp hrun
      obtain ⟨frames, v, hothers, hrun⟩ := bind_ok.mp hrun
      obtain ⟨hcons, rfl⟩ := pure_ok.mp hrun
      rw [List.map_cons] at hcons
      cases hcons
      obtain ⟨reads, hstop, rfl⟩ := (receive_frame hin).mp hfirst
      have htail := (ih (hnext reads)).mp ⟨_, hothers, ht⟩
      rw [hleft] at htail
      exact ⟨reads, hstop, htail⟩
    · rintro ⟨reads, hstop, htail⟩
      have hfirst := (receive_frame hin).mpr ⟨reads, hstop, rfl⟩
      rw [← hleft reads] at htail
      obtain ⟨t, hothers, ht⟩ := (ih (hnext reads)).mpr htail
      refine ⟨t, ?_, ht⟩
      refine bind_ok.mpr ⟨_, _, hfirst, ?_⟩
      exact bind_ok.mpr ⟨_, _, hothers, pure_ok.mpr ⟨rfl, rfl⟩⟩

private theorem transfers_sendMessage (capacity : Nat) (m : Message) :
    Transfers (sendMessage capacity m) fun r out _ => r = .ok () → out = m.frame := by
  unfold sendMessage
  refine Transfers.bind (transfers_lift _) (fun frame => transfers_send _ frame) ?_ ?_
  · rintro frame out inn ⟨hencap, rfl, rfl⟩ r out' inn' ⟨-, -, hsent⟩ hr
    rw [List.nil_append, hsent hr, encap_ok (mapError_ok.mp hencap.symm)]
    rfl
  · rintro e out inn - hr
    cases hr

theorem transfers_sendMessages (capacity : Nat) (messages : List Message) :
    Transfers (sendMessages capacity messages) fun r out _ =>
      r = .ok () → out = (messages.map Message.frame).flatten := by
  induction messages with
  | nil =>
    refine (transfers_pure ()).mono ?_
    rintro r out inn ⟨-, hout, -⟩ hr
    exact hout
  | cons m ms ih =>
    refine Transfers.bind (transfers_sendMessage capacity m) (fun _ => ih) ?_ ?_
    · intro _ out inn hfirst r out' inn' hothers hr
      rw [hfirst rfl, hothers hr, List.map_cons, List.flatten_cons]
    · rintro e out inn - hr
      cases hr

/-- A call returns one frame exactly when its reads stop at the end of the frame, and the calls
return the messages that the peer sent, in order, exactly when every message ends where the reads
of its call stop. -/
theorem receive_framing_iff (capacity : Nat) :
    (∀ s, ReturnsFrame capacity s ↔ StopsAtEnd capacity s) ∧
      ∀ (peerCapacity : Nat) (messages : List Message) (peer peer' s : Link) (rest : Octets),
        sendMessages peerCapacity messages peer = (.ok (), peer') →
        s.incoming = sentSince peer peer' ++ rest →
        ((∃ t, receives capacity messages.length s = (.ok (messages.map Message.frame), t) ∧
          t.incoming = rest) ↔ Separated capacity messages s.reads s.incoming.length) := by
  refine ⟨fun s => returnsFrame_iff, ?_⟩
  intro peerCapacity messages peer peer' s rest hsend hin
  have hsent := (transfers_sendMessages peerCapacity messages).of_run hsend rfl
  rw [hsent] at hin
  exact receives_iff hin

def ping : Message := ⟨false, [0x10, 0x84, 0, 0]⟩

def twoPings (reads : List (Option Nat)) : Link where
  writes := [some 16, some 16]
  reads := reads
  incoming := ping.frame ++ ping.frame
  sent := []
  received := []

/-- Split in the middle of each message, but not across them, both arrive. -/
theorem receive_framing_split : ∃ t, receives 64 2 (twoPings [some 5, some 11, some 12, some 4]) =
      (.ok [ping.frame, ping.frame], t) ∧ t.incoming = [] := by
  have hsend : sendMessages 64 [ping, ping] (twoPings []) =
      (.ok (), { twoPings [] with writes := [], sent := ping.frame ++ ping.frame }) := by
    rfl
  refine ((receive_framing_iff 64).2 64 [ping, ping] _ _ _ [] hsend rfl).mpr ?_
  exact ⟨[some 12, some 4], rfl, [], rfl, trivial⟩

/-- Both messages in one read: the first call returns both. -/
theorem receive_framing_merged : receive 64 (twoPings [some 32]) = (.ok (ping.frame ++ ping.frame),
          { twoPings [] with incoming := [], received := ping.frame ++ ping.frame }) ∧
      ¬ReturnsFrame 64 (twoPings [some 32]) ∧
      ¬∃ t, receives 64 2 (twoPings [some 32]) = (.ok [ping.frame, ping.frame], t) := by
  have hrun : receive 64 (twoPings [some 32]) = (.ok (ping.frame ++ ping.frame),
        { twoPings [] with incoming := [], received := ping.frame ++ ping.frame }) := by
    rfl
  refine ⟨hrun, ?_, ?_⟩
  · intro h
    obtain ⟨header, payload, hread, hlen⟩ := (h _ _ hrun).1
    have hfirst : VmCallMessageHeader.read (ping.frame ++ ping.frame) =
        some (ping.header, ping.payload ++ ping.frame) := by
      rfl
    rw [hfirst] at hread
    cases hread
    exact absurd hlen (by decide)
  · have hwaits : (receives 64 2 (twoPings [some 32])).1 = .error .waiting := by
      rfl
    rintro ⟨t, ht⟩
    rw [ht] at hwaits
    cases hwaits

end MigTd.Spdm.VmcallTransport
