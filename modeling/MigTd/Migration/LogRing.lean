/- source: logging.rs
   digest: One entry on one page, and the chain of entries on the program's own page. -/

import MigTd.Migration.Logging

set_option autoImplicit false

namespace MigTd.Migration.LogRing

open Lib.ByteCodec Lib.StateProgram Logging

/-- The second page is the first one with these bytes in the place of others. -/
structure Wrote (offset : Nat) (data : Octets) (p q : LogPage) : Prop where
  fits : offset + data.length ≤ 4096
  bytes : q.bytes.1 = p.bytes.1.take offset ++ (data ++ p.bytes.1.drop (offset + data.length))

section

variable {offset start stop k : Nat} {data : Octets} {p q : LogPage}

theorem Wrote.take (h : Wrote offset data p q) (hk : k ≤ offset) :
    q.bytes.1.take k = p.bytes.1.take k := by
  have hlen : (p.bytes.1.take offset).length = offset := by
    have := h.fits
    rw [List.length_take, p.bytes.2]
    omega
  rw [h.bytes, List.take_append_of_le_length (by omega), List.take_take, min_eq_left hk]

theorem Wrote.inside (h : Wrote offset data p q) :
    (q.bytes.1.drop offset).take data.length = data := by
  have hlen : (p.bytes.1.take offset).length = offset := by
    have := h.fits
    rw [List.length_take, p.bytes.2]
    omega
  rw [h.bytes, List.drop_left' hlen, List.take_left]

theorem Wrote.drop (h : Wrote offset data p q) (hk : offset + data.length ≤ k) :
    q.bytes.1.drop k = p.bytes.1.drop k := by
  have hlen : (p.bytes.1.take offset ++ data).length = offset + data.length := by
    have := h.fits
    rw [List.length_append, List.length_take, p.bytes.2]
    omega
  rw [h.bytes, ← List.append_assoc, List.drop_append, hlen,
    List.drop_eq_nil_of_le (by omega), List.nil_append, List.drop_drop]
  congr 1
  omega

theorem take_drop_eq (bs : Octets) (first size : Nat) :
    (bs.drop first).take size = (bs.take (first + size)).drop first := by
  rw [List.drop_take, Nat.add_sub_cancel_left]

theorem Wrote.field (h : Wrote offset data p q) {first size : Nat} (hk : first + size ≤ offset) :
    q.field first size = p.field first size := by
  rw [LogPage.field, LogPage.field, take_drop_eq, take_drop_eq, h.take hk]

theorem copyFromSlice_ok (h : offset + data.length ≤ 4096) (p : LogPage) :
    ∃ q, copyFromSlice offset data p = (.ok (), q) ∧ Wrote offset data p q :=
  ⟨_, dif_pos h, h, rfl⟩

theorem fill_ok (hle : start ≤ stop) (hstop : stop ≤ 4096) (p : LogPage) :
    ∃ q, fill start stop p = (.ok (), q) ∧ Wrote start (List.replicate (stop - start) 0) p q := by
  have hfits : start + (List.replicate (stop - start) (0 : UInt8)).length ≤ 4096 := by
    rw [List.length_replicate]
    omega
  obtain ⟨q, hrun, hwrote⟩ := copyFromSlice_ok hfits p
  exact ⟨q, (run_bind_ok (a := ()) (ensure_ok.mpr ⟨hle, rfl⟩)).trans hrun, hwrote⟩

theorem usizeAdd_small (debugAssertions : Bool) {a b : Nat} (h : a + b < 2 ^ 64) (p : LogPage) :
    usizeAdd debugAssertions a b p = (.ok (a + b), p) := by
  rw [usizeAdd, if_pos h]
  rfl

end

theorem asBytes_length (h : LogEntryHeader) : h.asBytes.length = 24 := by
  simp only [LogEntryHeader.asBytes, putU64, putU32, List.length_append, List.length_cons,
    leBytes_length]

def entryBytes (e : LogEntry) : Octets := e.header.asBytes ++ e.value

theorem entryBytes_length (e : LogEntry) : (entryBytes e).length = 24 + e.value.length := by
  rw [entryBytes, List.length_append, asBytes_length]

/-- The second page has the entry at this offset, and is the first one before it. -/
structure Stored (offset : Nat) (e : LogEntry) (p q : LogPage) : Prop where
  front : ∀ k ≤ offset, q.bytes.1.take k = p.bytes.1.take k
  entry : (q.bytes.1.drop offset).take (24 + e.value.length) = entryBytes e

variable {e : LogEntry}

theorem copyEntry_ok {offset : Nat} (h : offset + (24 + e.value.length) ≤ 4096)
    (p : LogPage) : ∃ q, copyEntry offset e p = (.ok (), q) ∧ Stored offset e p q := by
  have hheader := asBytes_length e.header
  obtain ⟨r, hfirst, hr⟩ := copyFromSlice_ok
    (show offset + e.header.asBytes.length ≤ 4096 by omega) p
  obtain ⟨q, hsecond, hq⟩ := copyFromSlice_ok
    (show offset + 24 + e.value.length ≤ 4096 by omega) r
  refine ⟨q, (run_bind_ok hfirst).trans hsecond, ?_, ?_⟩
  · intro k hk
    rw [hq.take (by omega)]
    exact hr.take hk
  · -- The header was written first, and the value behind it leaves it alone.
    have hfront : (q.bytes.1.drop offset).take 24 = e.header.asBytes := by
      have hinside := hr.inside
      rw [hheader, take_drop_eq] at hinside
      rw [take_drop_eq, hq.take le_rfl]
      exact hinside
    rw [List.take_add, hfront, List.drop_drop, hq.inside, entryBytes]

section

variable (debugAssertions : Bool) {start : Nat}

theorem entryAt_ok (h : start + 24 ≤ 4096) (p : LogPage) :
    entryAt debugAssertions start p = (.ok ((p.bytes.1.drop start).take 24), p) := by
  unfold entryAt readSlice LOGENTRYHEADERSIZE
  rw [run_bind_ok (usizeAdd_small debugAssertions (by omega) p),
    run_bind_ok (a := ()) (ensure_ok.mpr ⟨⟨Nat.le_add_right start 24, h⟩, rfl⟩),
    Nat.add_sub_cancel_left]
  rfl

theorem resetStart_ok (hstart : start ≤ 4096) (p : LogPage) :
    ∃ t q, resetStart debugAssertions start p = (.ok t, q) ∧
      q.bytes.1.take 4072 = p.bytes.1.take 4072 ∧
      (start = 40 → t = 40 ∧ q = p) := by
  unfold resetStart
  rw [run_bind_ok (usizeAdd_small debugAssertions (by unfold LOGENTRYHEADERSIZE; omega) p)]
  unfold wrapOffset
  by_cases hlast : PAGE_SIZE ≤ start + LOGENTRYHEADERSIZE
  · have hge : 4072 ≤ start := by
      unfold PAGE_SIZE LOGENTRYHEADERSIZE at hlast
      omega
    obtain ⟨q, hfill, hq⟩ := fill_ok hstart le_rfl p
    have hwrap : (do fill start PAGE_SIZE; pure LOGAREABUFFERHEADERSIZE : PageProgram Nat) p =
        (.ok LOGAREABUFFERHEADERSIZE, q) := run_bind_ok hfill
    rw [if_pos hlast, run_bind_ok hwrap, if_neg (by decide)]
    exact ⟨_, q, rfl, hq.take hge, fun h => by omega⟩
  · rw [if_neg hlast, run_bind_ok (m := pure start) (a := start) rfl]
    by_cases hfirst : start = LOGAREABUFFERHEADERSIZE
    · rw [if_neg (not_not.mpr hfirst)]
      exact ⟨start, p, rfl, rfl, fun h => ⟨h, rfl⟩⟩
    · rw [if_pos hfirst, run_bind_ok (entryAt_ok debugAssertions (Nat.not_le.mp hlast).le p)]
      split_ifs
      · exact ⟨_, p, rfl, rfl, fun h => absurd h hfirst⟩
      · exact ⟨_, p, rfl, rfl, fun h => absurd h hfirst⟩

/-- The page behind `storeEntry`, seen from the page on which it had made room. -/
structure Settled (start stop : Nat) (e : LogEntry) (p q : LogPage) : Prop where
  front : ∀ k ≤ stop, k ≤ 24 → q.bytes.1.take k = p.bytes.1.take k
  head : stop ≤ 24 → (q.bytes.1.take 24).drop stop = e.header.asBytes.take (24 - stop)
  ring : start = 40 → 40 ≤ stop → q.startoffset = 40 ∧ q.endoffset = stop + (24 + e.value.length) ∧
    (q.bytes.1.take (stop + (24 + e.value.length))).drop 40 =
      (p.bytes.1.take stop).drop 40 ++ entryBytes e

theorem storeEntry_settled {p r : LogPage} {start stop : Nat}
    (hroom : makeRoom debugAssertions (LOGENTRYHEADERSIZE + e.value.length) p.startoffset
      p.endoffset p = (.ok (start, stop), r))
    (hstart : start ≤ 4096) (hfits : stop + (24 + e.value.length) ≤ 4096) :
    ∃ q, storeEntry debugAssertions e p = (.ok (), q) ∧ Settled start stop e r q := by
  obtain ⟨t, u, hreset, hlow, hforty⟩ := resetStart_ok debugAssertions hstart r
  obtain ⟨v, hfill, hv⟩ := fill_ok (Nat.le_add_right stop (24 + e.value.length)) hfits u
  obtain ⟨w, hcopy, hw⟩ := copyEntry_ok hfits v
  have hsize (n : UInt64) : (putU64 n).length = 8 := leBytes_length 8 n.toNat
  obtain ⟨x, hfirst, hx⟩ := copyFromSlice_ok
    (show 24 + (putU64 (.ofNat t)).length ≤ 4096 by rw [hsize]; decide) w
  obtain ⟨q, hsecond, hq⟩ := copyFromSlice_ok
    (show 32 + (putU64 (.ofNat (stop + (24 + e.value.length)))).length ≤ 4096 by
      rw [hsize]; decide) x
  have hrun : storeEntry debugAssertions e p = (.ok (), q) := by
    unfold storeEntry
    unfold LOGENTRYHEADERSIZE at hroom ⊢
    rw [observe_bind, observe_bind, run_bind_ok hroom]
    dsimp only
    rw [run_bind_ok hreset, run_bind_ok (usizeAdd_small debugAssertions (by omega) u),
      run_bind_ok hfill, run_bind_ok hcopy, run_bind_ok hfirst]
    exact hsecond
  -- The offsets are written in front of byte 40 and behind byte 24.
  have hfour : q.bytes.1.take 24 = w.bytes.1.take 24 := by
    rw [hq.take (by decide), hx.take le_rfl]
  have hbehind : q.bytes.1.drop 40 = w.bytes.1.drop 40 := by
    rw [hq.drop (by rw [hsize]), hx.drop (by rw [hsize]; decide)]
  have hfront : ∀ k ≤ stop, k ≤ 4072 → w.bytes.1.take k = r.bytes.1.take k := by
    intro k hk hlast
    have hkept := congrArg (List.take k) hlow
    rw [List.take_take, List.take_take, min_eq_left hlast] at hkept
    rw [hw.front k hk, hv.take hk, hkept]
  refine ⟨q, hrun, ?_, ?_, ?_⟩
  · intro k hk hlast
    have hsame := congrArg (List.take k) hfour
    rw [List.take_take, List.take_take, min_eq_left hlast] at hsame
    rw [hsame, hfront k hk (by omega)]
  · intro hstop
    have hentry := congrArg (List.take (24 - stop)) hw.entry
    rw [List.take_take, min_eq_left (by omega), entryBytes,
      List.take_append_of_le_length (by rw [asBytes_length]; omega)] at hentry
    rw [hfour, List.drop_take, hentry]
  · intro hforty' hstop
    obtain ⟨rfl, rfl⟩ := hforty hforty'
    have hfield : ∀ n : Nat, n < 2 ^ 64 → leValue (putU64 (.ofNat n)) = n := by
      intro n hn
      rw [putU64, UInt64.toNat_ofNat', Nat.mod_eq_of_lt hn, leValue_leBytes 8 n (by omega)]
    refine ⟨?_, ?_, ?_⟩
    · have hinside := hx.inside
      rw [hsize] at hinside
      rw [LogPage.startoffset, hq.field (by decide), LogPage.field, hinside, hfield 40 (by decide)]
    · have hinside := hq.inside
      rw [hsize] at hinside
      rw [LogPage.endoffset, LogPage.field, hinside, hfield _ (by omega)]
    · have hlen : (w.bytes.1.take stop).length = stop := by
        rw [List.length_take, w.bytes.2]
        omega
      have hold : w.bytes.1.take stop = u.bytes.1.take stop := by
        rw [hw.front stop le_rfl, hv.take le_rfl]
      rw [List.drop_take, hbehind, ← List.drop_take, List.take_add, hw.entry,
        List.drop_append_of_le_length (by omega), hold]

end

def readEntry : Decoder LogEntry := do
  let logEntryId ← u64
  let migRequestId ← u64
  let loglevel ← u8
  let _ ← take 3
  let length ← u32
  let value ← take length.toNat
  return ⟨⟨logEntryId, migRequestId, loglevel, length⟩, value⟩

/-- Follow the headers from an offset to the end of the chain, for at most this many turns. Where
no header fits, the chain goes on behind the header of the page. -/
def follow (bytes : Octets) (stop : Nat) : Nat → Nat → Option (List (Nat × LogEntry))
  | 0, _ => none
  | turns + 1, offset =>
    if offset = stop then some []
    else if PAGE_SIZE < offset + LOGENTRYHEADERSIZE then
      follow bytes stop turns LOGAREABUFFERHEADERSIZE
    else do
      let (e, _) ← readEntry (bytes.drop offset)
      let rest ← follow bytes stop turns (offset + (LOGENTRYHEADERSIZE + e.value.length))
      return (offset, e) :: rest

def chainOf (p : LogPage) : Option (List (Nat × LogEntry)) :=
  follow p.bytes.1 p.endoffset PAGE_SIZE p.startoffset

def placed : Nat → List LogEntry → List (Nat × LogEntry)
  | _, [] => []
  | offset, e :: es => (offset, e) :: placed (offset + (24 + e.value.length)) es

def encode (chain : List LogEntry) : Octets := chain.flatMap entryBytes

def Sound (e : LogEntry) : Prop := e.header.length.toNat = e.value.length

/-- The page holds this chain behind its header. -/
structure Ring (p : LogPage) (chain : List LogEntry) : Prop where
  start : p.startoffset = 40
  low : 40 ≤ p.endoffset
  high : p.endoffset ≤ 4096
  bytes : (p.bytes.1.take p.endoffset).drop 40 = encode chain
  sound : ∀ e ∈ chain, Sound e

theorem decodes_entry (h : Sound e) : Decodes readEntry e (entryBytes e) := by
  have hbytes : entryBytes e = putU64 e.header.logEntryId ++ (putU64 e.header.migRequestId ++
      (putU8 e.header.loglevel ++ ([0, 0, 0] ++ (putU32 e.header.length ++ e.value)))) := by
    simp [entryBytes, LogEntryHeader.asBytes, putU8]
  rw [hbytes]
  refine (decodes_u64 _).bind ((decodes_u64 _).bind ((decodes_u8 _).bind
    ((decodes_take [0, 0, 0]).bind ((decodes_u32 _).bind ?_))))
  have hvalue := decodes_take e.value
  rw [← h] at hvalue
  exact hvalue.last fun value => (⟨⟨_, _, _, _⟩, value⟩ : LogEntry)

theorem length_le_encode (chain : List LogEntry) : chain.length ≤ (encode chain).length := by
  induction chain with
  | nil => exact le_rfl
  | cons e es ih =>
    rw [encode, List.flatMap_cons, List.length_append, entryBytes_length, List.length_cons]
    unfold encode at ih
    omega

theorem follow_placed {bytes : Octets} {stop : Nat} (hstop : stop ≤ 4096)
    (hlen : stop ≤ bytes.length) (chain : List LogEntry) (offset turns : Nat)
    (hsound : ∀ e ∈ chain, Sound e) (hoffset : offset ≤ stop) (hturns : chain.length < turns)
    (hbytes : (bytes.take stop).drop offset = encode chain) :
    follow bytes stop turns offset = some (placed offset chain) := by
  obtain ⟨turns, rfl⟩ : ∃ n, turns = n + 1 := ⟨turns - 1, by omega⟩
  have hsize := congrArg List.length hbytes
  rw [List.length_drop, List.length_take, min_eq_left hlen] at hsize
  induction chain generalizing offset turns with
  | nil =>
    rw [follow, if_pos (by simp only [encode, List.flatMap_nil, List.length_nil] at hsize; omega)]
    rfl
  | cons e es ih =>
    rw [encode, List.flatMap_cons] at hbytes hsize
    rw [List.length_append, entryBytes_length] at hsize
    have hread : readEntry (bytes.drop offset) = some (e, encode es ++ bytes.drop stop) := by
      have hsplit : bytes.drop offset = (bytes.take stop).drop offset ++ bytes.drop stop := by
        rw [← List.drop_append_of_le_length (by rw [List.length_take]; omega),
          List.take_append_drop]
      rw [hsplit, hbytes, List.append_assoc]
      exact decodes_entry (hsound e List.mem_cons_self) _
    have hrest : (bytes.take stop).drop (offset + (24 + e.value.length)) = encode es := by
      rw [← List.drop_drop, hbytes, List.drop_left' (entryBytes_length e)]
      rfl
    rw [List.length_cons] at hturns
    obtain ⟨turns, rfl⟩ : ∃ n, turns = n + 1 := ⟨turns - 1, by omega⟩
    rw [follow, if_neg (by omega), if_neg (by unfold PAGE_SIZE LOGENTRYHEADERSIZE; omega), hread]
    have hnext := ih (offset + (24 + e.value.length)) (fun x hx => hsound x (.tail e hx))
      (by omega) hrest turns (by omega) (by
        rw [← hrest, List.length_drop, List.length_take, min_eq_left hlen])
    change (follow bytes stop (turns + 1) (offset + (24 + e.value.length))).bind _ = _
    rw [hnext]
    rfl

theorem placed_snd (offset : Nat) (chain : List LogEntry) :
    (placed offset chain).map Prod.snd = chain := by
  induction chain generalizing offset with
  | nil => rfl
  | cons e es ih => rw [placed, List.map_cons, ih]

theorem field_of_append {p : LogPage} {front data rest : Octets} (offset size : Nat)
    (h : p.bytes.1 = front ++ (data ++ rest)) (hfront : front.length = offset)
    (hdata : data.length = size) : p.field offset size = leValue data := by
  rw [LogPage.field, h, List.drop_left' hfront, List.take_left' hdata]

theorem ring_areaPage (address : UInt64) (content : Bytes 4096) (index : UInt32) :
    Ring (areaPage address content index) [] ∧
      (areaPage address content index).vcpuindex = index.toNat := by
  have hbytes : (areaPage address content index).bytes.1 = LOGAREA_SIGNATURE ++ (putU32 index ++
      (putU32 0 ++ (putU64 40 ++ (putU64 40 ++ content.1.drop 40)))) := by
    change _ ++ (_ ++ content.1.drop (0 + (LogAreaBufferHeader.asBytes _).1.length)) = _
    rw [(LogAreaBufferHeader.asBytes _).2]
    simp [LogAreaBufferHeader.asBytes]
  have hindex := field_of_append 16 4 hbytes rfl (leBytes_length 4 _)
  rw [← List.append_assoc, ← List.append_assoc] at hbytes
  have hstart := field_of_append 24 8 hbytes
    (by simp [LOGAREA_SIGNATURE, putU32, leBytes_length]) (leBytes_length 8 _)
  rw [← List.append_assoc] at hbytes
  have hstop := field_of_append 32 8 hbytes
    (by simp [LOGAREA_SIGNATURE, putU32, putU64, leBytes_length]) (leBytes_length 8 _)
  have hforty : leValue (putU64 40) = 40 := by decide
  rw [hforty] at hstart hstop
  refine ⟨⟨hstart, hstop.symm.le, by rw [LogPage.endoffset, hstop]; decide, ?_, by simp⟩, ?_⟩
  · rw [LogPage.endoffset, hstop, List.drop_take, Nat.sub_self]
    rfl
  · rw [LogPage.vcpuindex, hindex, putU32, leValue_leBytes 4 _ index.toNat_lt]

variable {chain : List LogEntry} {p : LogPage}

theorem Ring.chainOf_eq (h : Ring p chain) : chainOf p = some (placed 40 chain) := by
  have hlen := congrArg List.length h.bytes
  rw [List.length_drop, List.length_take, p.bytes.2, min_eq_left h.high] at hlen
  have hcount := length_le_encode chain
  have hhigh := h.high
  rw [chainOf, h.start]
  exact follow_placed h.high (by rw [p.bytes.2]; exact h.high) chain 40 PAGE_SIZE h.sound h.low
    (by unfold PAGE_SIZE; omega) h.bytes

/-- A chain goes on while there is room for the next entry, and starts anew when there is not. -/
def append (chain : List LogEntry) (e : LogEntry) : List LogEntry :=
  if 40 + (encode chain).length + (24 + e.value.length) ≤ 4096 then chain ++ [e] else [e]

theorem Ring.stop_eq (h : Ring p chain) : p.endoffset = 40 + (encode chain).length := by
  have hlen := congrArg List.length h.bytes
  rw [List.length_drop, List.length_take, p.bytes.2, min_eq_left h.high] at hlen
  have := h.low
  omega

theorem makeRoom_ring (debugAssertions : Bool) {need : Nat}
    (hstart : p.startoffset = 40) (hlow : 40 ≤ p.endoffset) (hhigh : p.endoffset ≤ 4096)
    (hneed : need ≤ 4056) :
    ∃ r, makeRoom debugAssertions need p.startoffset p.endoffset p =
        (.ok (40, if p.endoffset + need ≤ 4096 then p.endoffset else 40), r) ∧
      r.bytes.1.take p.endoffset = p.bytes.1.take p.endoffset := by
  unfold makeRoom
  rw [hstart, run_bind_ok (usizeAdd_small debugAssertions (by omega) p)]
  by_cases hfits : p.endoffset + need ≤ 4096
  · rw [if_neg (by unfold PAGE_SIZE; omega), if_pos hfits]
    exact ⟨p, rfl, rfl⟩
  · have hfull : PAGE_SIZE < p.endoffset + need := Nat.not_le.mp hfits
    obtain ⟨r, hfill, hr⟩ := fill_ok hhigh le_rfl p
    have hwrap : wrapOffset (PAGE_SIZE < p.endoffset + need) p.endoffset p =
        (.ok LOGAREABUFFERHEADERSIZE, r) := by
      rw [wrapOffset, if_pos hfull]
      exact run_bind_ok hfill
    rw [if_pos (.inl hfull), run_bind_ok hwrap, if_neg hfits, clearGap, if_neg (by decide)]
    exact ⟨r, rfl, hr.take le_rfl⟩

theorem storeEntry_ring (debugAssertions : Bool)
    (h : Ring p chain) (he : Sound e) (hlen : e.value.length ≤ 4032) :
    ∃ q, storeEntry debugAssertions e p = (.ok (), q) ∧ Ring q (append chain e) ∧
      q.vcpuindex = p.vcpuindex := by
  have hlow := h.low
  have hhigh := h.high
  have hstop := h.stop_eq
  have hneed : LOGENTRYHEADERSIZE + e.value.length ≤ 4056 := by
    unfold LOGENTRYHEADERSIZE
    omega
  obtain ⟨r, hroom, hr⟩ := makeRoom_ring debugAssertions h.start hlow hhigh hneed
  have hindex : ∀ q : LogPage, q.bytes.1.take 24 = r.bytes.1.take 24 →
      q.vcpuindex = p.vcpuindex := by
    intro q hq
    have hsame := congrArg (List.take 24) hr
    rw [List.take_take, List.take_take, min_eq_left (by omega), ← hq] at hsame
    have hfield := congrArg (fun bs => (bs.take 20).drop 16) hsame
    rw [List.take_take, List.take_take] at hfield
    rw [LogPage.vcpuindex, LogPage.vcpuindex, LogPage.field, LogPage.field, take_drop_eq,
      take_drop_eq]
    exact congrArg leValue hfield
  unfold append
  rw [← hstop]
  by_cases hfits : p.endoffset + (24 + e.value.length) ≤ 4096
  · rw [if_pos hfits]
    rw [LOGENTRYHEADERSIZE, if_pos hfits] at hroom
    obtain ⟨q, hrun, hq⟩ := storeEntry_settled debugAssertions hroom (by decide) hfits
    obtain ⟨hstart, hend, hbytes⟩ := hq.ring rfl hlow
    refine ⟨q, hrun, ⟨hstart, by omega, by omega, ?_, ?_⟩, ?_⟩
    · rw [hend, hbytes, hr, h.bytes, encode, encode, List.flatMap_append, List.flatMap_singleton]
    · exact List.forall_mem_append.mpr ⟨h.sound, List.forall_mem_singleton.mpr he⟩
    · exact hindex q (hq.front 24 (by omega) le_rfl)
  · rw [if_neg hfits]
    rw [LOGENTRYHEADERSIZE, if_neg hfits] at hroom
    obtain ⟨q, hrun, hq⟩ := storeEntry_settled debugAssertions hroom (by decide) (by omega)
    obtain ⟨hstart, hend, hbytes⟩ := hq.ring rfl le_rfl
    refine ⟨q, hrun, ⟨hstart, by omega, by omega, ?_, List.forall_mem_singleton.mpr he⟩, ?_⟩
    · rw [hend, hbytes, List.drop_take, Nat.sub_self, List.take_zero, List.nil_append, encode,
        List.flatMap_singleton]
    · exact hindex q (hq.front 24 (by decide) le_rfl)

end MigTd.Migration.LogRing
