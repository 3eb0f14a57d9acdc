/- source: logging.rs
   digest: On which pages `entrylog` returns and leaves the first 24 bytes alone, when the host may
     have written anything there. -/

import MigTd.Migration.LogRetention

set_option autoImplicit false

namespace MigTd.Migration.LogTolerance

open Lib.ByteCodec Lib.StateProgram Logging LogRing LogRetention

def lengthAt (bytes : Octets) (offset : Nat) : Nat :=
  leValue ((bytes.drop (offset + 20)).take 4)

/-- The entries from an offset on end within the page, up to the limit. Less than a header before
the end of the page, the entry behind the page header takes their place, as far as it has not been
cleared from `stop` on. -/
def Removable (bytes : Octets) (stop limit : Nat) : Nat → Nat → Prop
  | 0, _ => True
  | turns + 1, offset => offset < limit →
    if PAGE_SIZE ≤ offset + LOGENTRYHEADERSIZE then lengthAt (bytes.take stop) 40 ≤ 4032
    else offset + (lengthAt bytes offset + 24) ≤ 4096 ∧
      Removable bytes stop limit turns (offset + (lengthAt bytes offset + 24))

theorem leValue_append_zero (bs : Octets) (n : Nat) :
    leValue (bs ++ List.replicate n 0) = leValue bs := by
  induction bs with
  | nil =>
    induction n with
    | zero => rfl
    | succ n ih =>
      rw [List.nil_append] at ih ⊢
      rw [List.replicate_succ]
      change 0 + 256 * leValue (List.replicate n 0) = 0
      rw [ih]
      rfl
  | cons b bs ih => rw [List.cons_append, leValue, leValue, ih]

section

variable (debugAssertions : Bool) {p s : LogPage} {stop offset : Nat}

theorem fill_error {start stop : Nat} (h : ¬(start ≤ stop ∧ stop ≤ 4096)) (p : LogPage) :
    fill start stop p = (.error .index, p) := by
  by_cases hle : start ≤ stop
  · have hlong : ¬start + (List.replicate (stop - start) (0 : UInt8)).length ≤ 4096 := by
      rw [List.length_replicate]
      omega
    exact (run_bind_ok (a := ()) (ensure_ok.mpr ⟨hle, rfl⟩)).trans (dif_neg hlong)
  · refine run_bind_error ?_
    rw [ensure, if_neg hle]
    rfl

theorem lengthAt_behind (h : Wrote stop (List.replicate (offset - stop) 0) p s)
    (hle : stop ≤ offset) : lengthAt s.bytes.1 offset = lengthAt p.bytes.1 offset := by
  rw [lengthAt, lengthAt, h.drop (by rw [List.length_replicate]; omega)]

theorem lengthAt_first (h : Wrote stop (List.replicate (offset - stop) 0) p s)
    (hle : stop ≤ offset) (hlast : 4072 ≤ offset) :
    lengthAt s.bytes.1 40 = lengthAt (p.bytes.1.take stop) 40 := by
  have hfits := h.fits
  rw [List.length_replicate] at hfits
  have hlen : (p.bytes.1.take stop).length = stop := by
    rw [List.length_take, p.bytes.2]
    omega
  have hfront : s.bytes.1.take (40 + 20 + 4) =
      (p.bytes.1.take stop ++ List.replicate (offset - stop) 0).take (40 + 20 + 4) := by
    rw [h.bytes, ← List.append_assoc, List.take_append_of_le_length]
    rw [List.length_append, hlen, List.length_replicate]
    omega
  rw [lengthAt, take_drop_eq, hfront, ← take_drop_eq, List.drop_append, List.take_append,
    List.drop_replicate, List.take_replicate, leValue_append_zero]
  rfl

theorem Wrote.extend {q : LogPage} {n : Nat} (h : Wrote stop (List.replicate (offset - stop) 0) p s)
    (hle : stop ≤ offset) (hq : Wrote offset (List.replicate n 0) s q) :
    Wrote stop (List.replicate (offset + n - stop) 0) p q := by
  have hfits := hq.fits
  rw [List.length_replicate] at hfits
  have hlen : (p.bytes.1.take stop ++ List.replicate (offset - stop) 0).length = offset := by
    rw [List.length_append, List.length_take, p.bytes.2, List.length_replicate]
    omega
  have hfront : s.bytes.1.take offset =
      p.bytes.1.take stop ++ List.replicate (offset - stop) 0 := by
    rw [h.bytes, ← List.append_assoc, List.take_left' hlen]
  have hzero : List.replicate (offset + n - stop) (0 : UInt8) =
      List.replicate (offset - stop) 0 ++ List.replicate n 0 := by
    rw [List.replicate_append_replicate]
    congr 1
    omega
  have hend : stop + (List.replicate (offset + n - stop) (0 : UInt8)).length = offset + n := by
    rw [List.length_replicate]
    omega
  refine ⟨by rw [hend]; exact hfits, ?_⟩
  rw [hend, hzero, hq.bytes, hfront, List.length_replicate,
    h.drop (by rw [List.length_replicate]; omega), List.append_assoc, List.append_assoc]

theorem evict_turn {turns reqdatasize : Nat} (hreq : reqdatasize ≠ 0) (hoffset : offset ≤ 4096)
    {first : Nat} (hfirst : first =
      if PAGE_SIZE ≤ offset + LOGENTRYHEADERSIZE then LOGAREABUFFERHEADERSIZE else offset) :
    evict debugAssertions (turns + 1) reqdatasize offset s =
      (fill first (first + (lengthAt s.bytes.1 first + 24)) >>= fun _ =>
        evict debugAssertions turns (reqdatasize - (lengthAt s.bytes.1 first + 24))
          (first + (lengthAt s.bytes.1 first + 24))) s := by
  have hlow : first + 24 ≤ 4096 := by
    rw [hfirst]
    split_ifs with hlast
    · decide
    · exact (Nat.not_le.mp hlast).le
  have hlength : entryLength ((s.bytes.1.drop first).take 24) = lengthAt s.bytes.1 first := by
    rw [entryLength, lengthAt, List.drop_take, List.drop_drop]
  have hlt : lengthAt s.bytes.1 first < 256 ^ 4 := by
    refine (leValue_lt _).trans_le (Nat.pow_le_pow_right (by decide) ?_)
    exact List.length_take_le 4 _
  rw [evict, if_neg hreq, run_bind_ok (usizeAdd_small debugAssertions
    (by unfold LOGENTRYHEADERSIZE; omega) s), ← hfirst,
    run_bind_ok (entryAt_ok debugAssertions hlow s), hlength,
    run_bind_ok (usizeAdd_small debugAssertions (by unfold LOGENTRYHEADERSIZE; omega) s)]
  rfl

theorem evict_cases {limit : Nat} (hlimit : limit ≤ 4096) (turns : Nat)
    (hturns : limit - offset ≤ turns) (hstop : stop ≤ offset) (hoffset : offset ≤ 4096)
    (hs : Wrote stop (List.replicate (offset - stop) 0) p s) :
    (Removable p.bytes.1 stop limit turns offset ∧
      ∃ t q, evict debugAssertions turns (limit - offset) offset s = (.ok t, q) ∧ t ≤ 4096 ∧
        ∀ k ≤ stop, k ≤ 24 → q.bytes.1.take k = p.bytes.1.take k) ∨
    (¬Removable p.bytes.1 stop limit turns offset ∧
      ∃ q, evict debugAssertions turns (limit - offset) offset s = (.error .index, q)) := by
  have hfront : ∀ k ≤ stop, s.bytes.1.take k = p.bytes.1.take k := fun k hk => hs.take hk
  induction turns generalizing offset s with
  | zero =>
    exact .inl ⟨trivial, offset, s, rfl, hoffset, fun k hk _ => hfront k hk⟩
  | succ turns ih =>
    by_cases hdone : limit ≤ offset
    · refine .inl ⟨fun h => absurd h (Nat.not_lt.mpr hdone), offset, s, ?_, hoffset,
        fun k hk _ => hfront k hk⟩
      rw [evict, if_pos (by omega)]
      rfl
    have hreq : limit - offset ≠ 0 := by omega
    rw [Removable, forall_prop_of_true (Nat.not_le.mp hdone)]
    by_cases hlast : PAGE_SIZE ≤ offset + LOGENTRYHEADERSIZE
    · -- One turn at the first entry gains all that is still missing.
      have hfar : 4072 ≤ offset := by
        unfold PAGE_SIZE LOGENTRYHEADERSIZE at hlast
        omega
      rw [if_pos hlast, evict_turn debugAssertions hreq hoffset (if_pos hlast).symm,
        ← lengthAt_first hs hstop hfar]
      unfold LOGAREABUFFERHEADERSIZE
      by_cases hfits : lengthAt s.bytes.1 40 ≤ 4032
      · obtain ⟨q, hfill, hq⟩ := fill_ok
          (Nat.le_add_right 40 (lengthAt s.bytes.1 40 + 24)) (by omega) s
        refine .inl ⟨hfits, 40 + (lengthAt s.bytes.1 40 + 24), q, ?_, by omega, ?_⟩
        · rw [run_bind_ok hfill, show limit - offset - (lengthAt s.bytes.1 40 + 24) = 0 by omega]
          cases turns <;> rfl
        · intro k hk hlow
          rw [hq.take (by omega), hfront k hk]
      · exact .inr ⟨hfits, s, run_bind_error (fill_error (by omega) s)⟩
    · rw [if_neg hlast, evict_turn debugAssertions hreq hoffset (if_neg hlast).symm,
        ← lengthAt_behind hs hstop]
      by_cases hfits : offset + (lengthAt s.bytes.1 offset + 24) ≤ 4096
      · obtain ⟨q, hfill, hq⟩ := fill_ok (Nat.le_add_right offset _) hfits s
        rw [run_bind_ok hfill, Nat.sub_sub, and_iff_right hfits]
        rw [Nat.add_sub_cancel_left] at hq
        have hnext := Wrote.extend hs hstop hq
        exact ih (by omega) (by omega) hfits hnext fun k hk => hnext.take hk
      · exact .inr ⟨fun h => hfits h.1, s, run_bind_error (fill_error (by omega) s)⟩

def storeAt (p : LogPage) (need : Nat) : Nat :=
  if p.endoffset + need ≤ PAGE_SIZE then p.endoffset else LOGAREABUFFERHEADERSIZE

/-- The page, cleared behind its end offset if the entry does not fit there. -/
def cleared (p : LogPage) (need : Nat) : Octets :=
  if p.endoffset + need ≤ PAGE_SIZE then p.bytes.1
  else p.bytes.1.take p.endoffset ++ List.replicate (PAGE_SIZE - p.endoffset) 0

/-- The start offset and the entries from there on let the entry be stored. -/
def Roomy (p : LogPage) (need : Nat) : Prop :=
  storeAt p need < p.startoffset → p.startoffset ≤ PAGE_SIZE ∧
    Removable (cleared p need) (storeAt p need) (storeAt p need + need)
      (storeAt p need + need - p.startoffset) p.startoffset

theorem clearGap_cases {need : Nat} (start : Nat) (hfits : stop + need ≤ 4096) :
    ((stop < start → start ≤ 4096 ∧ Removable p.bytes.1 stop (stop + need)
        (stop + need - start) start) ∧
      ∃ t q, clearGap debugAssertions need start stop p = (.ok (t, stop), q) ∧ t ≤ 4096 ∧
        ∀ k ≤ stop, k ≤ 24 → q.bytes.1.take k = p.bytes.1.take k) ∨
    (¬(stop < start → start ≤ 4096 ∧ Removable p.bytes.1 stop (stop + need)
        (stop + need - start) start) ∧
      ∃ q, clearGap debugAssertions need start stop p = (.error .index, q)) := by
  unfold clearGap
  by_cases hgap : stop < start
  · rw [if_pos hgap, forall_prop_of_true hgap]
    by_cases hstart : start ≤ 4096
    · obtain ⟨s, hfill, hs⟩ := fill_ok hgap.le hstart p
      rw [run_bind_ok hfill, run_bind_ok (usizeAdd_small debugAssertions (by omega) s),
        and_iff_right hstart]
      by_cases hover : start < stop + need
      · rw [if_pos hover, show need - (start - stop) = stop + need - start by omega]
        rcases evict_cases debugAssertions hfits _ le_rfl hgap.le hstart hs with
          ⟨hremovable, t, q, hrun, ht, hq⟩ | ⟨hremovable, q, hrun⟩
        · exact .inl ⟨hremovable, t, q, run_bind_ok hrun, ht, hq⟩
        · exact .inr ⟨hremovable, q, run_bind_error hrun⟩
      · rw [if_neg hover, show stop + need - start = 0 by omega]
        exact .inl ⟨trivial, start, s, rfl, hstart, fun k hk _ => hs.take hk⟩
    · exact .inr ⟨fun h => hstart h.1, p, run_bind_error (fill_error (by omega) p)⟩
  · rw [if_neg hgap]
    exact .inl ⟨fun h => absurd h hgap, start, p, rfl, by omega, fun _ _ _ => rfl⟩

theorem makeRoom_cases {need : Nat} (hstop : p.endoffset ≤ 4096) (hneed : need ≤ 4056) :
    (Roomy p need ∧ ∃ t q, makeRoom debugAssertions need p.startoffset p.endoffset p =
        (.ok (t, storeAt p need), q) ∧ t ≤ 4096 ∧
      ∀ k ≤ storeAt p need, k ≤ 24 → q.bytes.1.take k = p.bytes.1.take k) ∨
    (¬Roomy p need ∧ ∃ q,
      makeRoom debugAssertions need p.startoffset p.endoffset p = (.error .index, q)) := by
  unfold makeRoom Roomy storeAt cleared
  rw [run_bind_ok (usizeAdd_small debugAssertions (by omega) p)]
  by_cases hfits : p.endoffset + need ≤ PAGE_SIZE
  · rw [if_pos hfits, if_pos hfits]
    by_cases hgap : p.endoffset < p.startoffset
    · have hkeep : wrapOffset (PAGE_SIZE < p.endoffset + need) p.endoffset p =
          (.ok p.endoffset, p) := by
        rw [wrapOffset, if_neg (Nat.not_lt.mpr hfits)]
        rfl
      rw [if_pos (.inr hgap), run_bind_ok hkeep]
      exact clearGap_cases debugAssertions _ hfits
    · rw [if_neg (by omega)]
      exact .inl ⟨fun h => absurd h hgap, _, p, rfl, by omega, fun _ _ _ => rfl⟩
  · have hfull : PAGE_SIZE < p.endoffset + need := Nat.not_le.mp hfits
    obtain ⟨r, hfill, hr⟩ := fill_ok hstop le_rfl p
    have hwrap : wrapOffset (PAGE_SIZE < p.endoffset + need) p.endoffset p =
        (.ok LOGAREABUFFERHEADERSIZE, r) := by
      rw [wrapOffset, if_pos hfull]
      exact run_bind_ok hfill
    have hbytes : p.bytes.1.take p.endoffset ++ List.replicate (PAGE_SIZE - p.endoffset) 0 =
        r.bytes.1 := by
      rw [hr.bytes, List.length_replicate, List.drop_eq_nil_of_le, List.append_nil]
      · rfl
      · rw [p.bytes.2]
        omega
    have hfront : ∀ k ≤ LOGAREABUFFERHEADERSIZE, r.bytes.1.take k = p.bytes.1.take k := by
      intro k hk
      unfold PAGE_SIZE LOGAREABUFFERHEADERSIZE at *
      exact hr.take (by omega)
    rw [if_neg hfits, if_neg hfits, if_pos (.inl hfull), run_bind_ok hwrap, hbytes]
    rcases clearGap_cases debugAssertions (p := r) p.startoffset
      (show LOGAREABUFFERHEADERSIZE + need ≤ 4096 by unfold LOGAREABUFFERHEADERSIZE; omega) with
      ⟨hroomy, t, q, hrun, ht, hq⟩ | hbad
    · exact .inl ⟨hroomy, t, q, hrun, ht, fun k hk hlow => (hq k hk hlow).trans (hfront k hk)⟩
    · exact .inr hbad

end

section

variable (debugAssertions : Bool) {p q : LogPage} {e : LogEntry}

theorem fill_bounds {start stop : Nat} {u : Unit} (h : fill start stop p = (.ok u, q)) :
    start ≤ stop ∧ stop ≤ 4096 := by
  by_contra hbad
  rw [fill_error hbad] at h
  cases h

theorem endoffset_of_ok {u : Unit} (h : storeEntry debugAssertions e p = (.ok u, q)) :
    p.endoffset ≤ 4096 := by
  obtain ⟨_, _, hobserve, h⟩ := bind_ok.mp h
  obtain ⟨rfl, rfl⟩ := observe_ok.mp hobserve
  obtain ⟨_, _, hobserve, h⟩ := bind_ok.mp h
  obtain ⟨rfl, rfl⟩ := observe_ok.mp hobserve
  obtain ⟨⟨start, stop⟩, r, hroom, h⟩ := bind_ok.mp h
  obtain ⟨_, _, -, h⟩ := bind_ok.mp h
  obtain ⟨_, _, -, h⟩ := bind_ok.mp h
  obtain ⟨_, _, hfill, -⟩ := bind_ok.mp h
  have hstop := fill_bounds hfill
  obtain ⟨_, _, -, hroom⟩ := bind_ok.mp hroom
  split_ifs at hroom with hwrap
  · obtain ⟨current, r', hoffset, hgap⟩ := bind_ok.mp hroom
    unfold wrapOffset at hoffset
    split_ifs at hoffset
    · obtain ⟨_, _, hfill, -⟩ := bind_ok.mp hoffset
      exact (fill_bounds hfill).1
    · cases hoffset
      unfold clearGap at hgap
      split_ifs at hgap with hlt
      · obtain ⟨_, _, hfill, -⟩ := bind_ok.mp hgap
        exact (fill_bounds hfill).1.trans (fill_bounds hfill).2
      · cases hgap
        exact hstop.1.trans hstop.2
  · cases hroom
    exact hstop.1.trans hstop.2

/-- The page bears the entry: its end offset lies within it, there is room, and the entry does not
come before byte 24, unless what it would write there is there already. -/
def Tolerable (p : LogPage) (e : LogEntry) : Prop :=
  p.endoffset ≤ PAGE_SIZE ∧ Roomy p (LOGENTRYHEADERSIZE + e.value.length) ∧
    (storeAt p (LOGENTRYHEADERSIZE + e.value.length) < 24 →
      (p.bytes.1.take 24).drop (storeAt p (LOGENTRYHEADERSIZE + e.value.length)) =
        e.header.asBytes.take (24 - storeAt p (LOGENTRYHEADERSIZE + e.value.length)))

theorem storeEntry_iff (hlen : e.value.length ≤ 4032) :
    (∃ q, storeEntry debugAssertions e p = (.ok (), q) ∧
      q.bytes.1.take 24 = p.bytes.1.take 24) ↔ Tolerable p e := by
  unfold Tolerable
  by_cases hend : p.endoffset ≤ PAGE_SIZE
  · have hneed : LOGENTRYHEADERSIZE + e.value.length ≤ 4056 := Nat.add_le_add_left hlen 24
    rw [and_iff_right hend]
    rcases makeRoom_cases debugAssertions hend hneed with
      ⟨hroomy, t, r, hroom, ht, hfront⟩ | ⟨hroomy, r, hroom⟩
    · have hfits : storeAt p (LOGENTRYHEADERSIZE + e.value.length) + (24 + e.value.length) ≤
          4096 := by
        unfold storeAt
        split_ifs with h
        · exact h
        · exact Nat.add_le_add_left (Nat.add_le_add_left hlen 24) 40
      obtain ⟨q, hrun, hq⟩ := storeEntry_settled debugAssertions hroom ht hfits
      rw [and_iff_right hroomy]
      generalize storeAt p (LOGENTRYHEADERSIZE + e.value.length) = stop at hfront hq
      constructor
      · rintro ⟨q', hrun', hhead⟩ hlow
        cases hrun.symm.trans hrun'
        rw [← hhead]
        exact hq.head hlow.le
      · intro hhead
        refine ⟨q, hrun, ?_⟩
        by_cases hlow : stop < 24
        · rw [← List.take_append_drop stop (q.bytes.1.take 24), hq.head hlow.le, ← hhead hlow,
            List.take_take, min_eq_left hlow.le, hq.front stop le_rfl hlow.le,
            hfront stop le_rfl hlow.le]
          conv_rhs => rw [← List.take_append_drop stop (p.bytes.1.take 24), List.take_take,
            min_eq_left hlow.le]
        · rw [hq.front 24 (Nat.not_lt.mp hlow) le_rfl, hfront 24 (Nat.not_lt.mp hlow) le_rfl]
    · refine iff_of_false ?_ fun h => hroomy h.1
      rintro ⟨q, hrun, -⟩
      unfold storeEntry at hrun
      rw [observe_bind, observe_bind, run_bind_error hroom] at hrun
      cases hrun
  · refine iff_of_false ?_ fun h => hend h.1
    rintro ⟨q, hrun, -⟩
    exact hend (endoffset_of_ok debugAssertions hrun)

end

/-- The call returns, and changes nothing but the bytes from 24 on of the processor's page. -/
def Tolerated (debugAssertions : Bool) (s : LoggingState) (c : Call) : Prop :=
  (c.run debugAssertions s).1 = .ok () ∧ ∀ i page, s.pages[i]? = some page →
    ∃ q, (c.run debugAssertions s).2.pages[i]? = some q ∧
      q.bytes.1.take 24 = page.bytes.1.take 24 ∧ (c.cpu.map UInt8.toNat ≠ some i → q = page)

theorem tolerated_same {debugAssertions : Bool} {s : LoggingState} {c : Call}
    (h : c.run debugAssertions s = (.ok (), s)) : Tolerated debugAssertions s c := by
  unfold Tolerated
  rw [h]
  exact ⟨rfl, fun i page hpage => ⟨page, hpage, rfl, fun _ => rfl⟩⟩

/-- A call is tolerated exactly when, if its message is to be stored, the processor has a page and
the page, if it is the right one, bears the entry. -/
theorem log_tolerance_iff (debugAssertions : Bool) (s : LoggingState) (c : Call) :
    Tolerated debugAssertions s c ↔ (Admitted s c → ∀ cpu, c.cpu = some cpu →
      ∃ page, s.pages[cpu.toNat]? = some page ∧
        (page.vcpuindex = cpu.toNat → Tolerable page (c.entry (nextEntryId s.logentryId)))) := by
  by_cases hadmitted : Admitted s c
  · rw [forall_prop_of_true hadmitted]
    cases hcpu : c.cpu with
    | none => exact iff_of_true (tolerated_same (run_unknown _ hcpu)) (fun _ h => by cases h)
    | some cpu =>
      simp only [Option.some.injEq, forall_eq']
      cases hpage : s.pages[cpu.toNat]? with
      | none =>
        refine iff_of_false ?_ (fun h => by obtain ⟨_, h, -⟩ := h; cases h)
        rintro ⟨h, -⟩
        rw [run_known debugAssertions hadmitted hcpu, hpage] at h
        cases h
      | some page =>
        simp only [Option.some.injEq, exists_eq_left']
        by_cases hindex : page.vcpuindex = cpu.toNat
        · rw [forall_prop_of_true hindex, ← storeEntry_iff debugAssertions hadmitted.2]
          unfold Tolerated
          rw [run_stored debugAssertions hadmitted hcpu hpage hindex]
          have hin : cpu.toNat < s.pages.length := (List.getElem?_eq_some_iff.mp hpage).1
          have hset (i : Nat) (q : LogPage) : (LoggingState.setPage
              { s with logentryId := nextEntryId s.logentryId } cpu.toNat q).pages[i]? =
              if cpu.toNat = i then some q else s.pages[i]? := by
            rw [pages_setPage, List.getElem?_set]
            split_ifs with hi hlt
            · rfl
            · exact absurd hin hlt
            · rfl
          constructor
          · rintro ⟨hok, hpages⟩
            obtain ⟨q, hq, hhead, -⟩ := hpages cpu.toNat page hpage
            rw [hset, if_pos rfl] at hq
            cases hq
            exact ⟨_, Prod.ext hok rfl, hhead⟩
          · rintro ⟨q, hrun, hhead⟩
            rw [hrun]
            refine ⟨rfl, ?_⟩
            intro i other hother
            rw [hset]
            by_cases hi : cpu.toNat = i
            · subst hi
              cases hpage.symm.trans hother
              rw [if_pos rfl]
              exact ⟨q, rfl, hhead, fun h => absurd (by rw [hcpu]; rfl) h⟩
            · rw [if_neg hi]
              exact ⟨other, hother, rfl, fun _ => rfl⟩
        · refine iff_of_true (tolerated_same ?_) fun h => absurd h hindex
          rw [run_known debugAssertions hadmitted hcpu, hpage]
          change appendEntry _ _ _ _ s = _
          rw [appendEntry, if_neg (Ne.symm hindex)]
          rfl
  · exact iff_of_true (tolerated_same (run_refused _ hadmitted)) fun h => absurd h hadmitted

/-- The host has set the end offset of the first page to 5000. -/
def hostilePages : LoggingState :=
  { samplePages with
    provisionalLogareaptr := samplePages.provisionalLogareaptr.modify 0 fun page =>
      { page with bytes := Logging.overwrite page.bytes 32 (putU64 5000) (by decide) } }

theorem log_tolerance_end_offset : ((sampleCall 0 1).run false hostilePages).1 = .error .index := by
  decide +kernel

end MigTd.Migration.LogTolerance
