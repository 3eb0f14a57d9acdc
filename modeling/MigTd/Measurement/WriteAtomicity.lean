/- source: migtd/src/event_log.rs
   digest: When a failed write leaves registers and log area as they were. -/

import MigTd.Measurement.EventWriter

set_option autoImplicit false

namespace MigTd.Measurement.WriteAtomicity

open Lib.RunHistory Lib.StateProgram EventLog EventWriter

section

variable (p : Platform) (s : LogState) (w : TaggedWrite)

/-- The size of the log and the registers behind the extend, when the write gets that far. -/
def extension : Option (Nat × Rtmrs) := do
  let logSize ← eventLogSize p.cc s.area
  let digest ← (calculateDigest p.sha384 w.hashData).toOption
  let i ← rtmrIndex w.mrIndex
  let after ← (tdcallExtendRtmr p s.rtmrs digest i).toOption
  return (logSize, after)

def Fits (logSize : Nat) : Prop := logSize + CcEventHeader.size + w.event.length ≤ s.area.length
  deriving Decidable

variable {p s w}

theorem toOption_some {ε α : Type} {x : Except ε α} {a : α} (h : x.toOption = some a) :
    x = .ok a := by
  cases x with
  | ok b => exact congrArg Except.ok (Option.some.inj h)
  | error e => cases h

variable {after : Rtmrs} {logSize : Nat}

theorem extension_some (h : extension p s w = some (logSize, after)) :
    ∃ digest i, eventLogSize p.cc s.area = some logSize ∧
      calculateDigest p.sha384 w.hashData = .ok digest ∧ rtmrIndex w.mrIndex = some i ∧
      tdcallExtendRtmr p s.rtmrs digest i = .ok after := by
  unfold extension at h
  simp only [Option.bind_eq_bind, Option.bind_eq_some_iff, Option.pure_def, Option.some.injEq,
    Prod.mk.injEq] at h
  obtain ⟨size, hsize, digest, hdigest, i, hi, _, hafter, rfl, rfl⟩ := h
  exact ⟨digest, i, hsize, toOption_some hdigest, hi, toOption_some hafter⟩

theorem write_refused (h : extension p s w = none) :
    ∃ e, writeTaggedEventLog p w s = (.error (.failed e), s) := by
  unfold extension at h
  unfold writeTaggedEventLog
  cases hsize : eventLogSize p.cc s.area with
  | none =>
    refine ⟨"Parsing event log", bind_error.mpr (.inr ⟨_, s, rfl, bind_error.mpr (.inl ?_)⟩)⟩
    rw [hsize]
    rfl
  | some logSize =>
    cases hdigest : calculateDigest p.sha384 w.hashData with
    | error e =>
      refine ⟨e, bind_error.mpr (.inr ⟨_, s, rfl, bind_error.mpr (.inr ⟨logSize, s, ?_, ?_⟩)⟩)⟩
      · rw [hsize]
        rfl
      · exact bind_error.mpr (.inl rfl)
    | ok digest =>
      have hextend : ∃ e, extendRtmr p digest w.mrIndex s = (.error (.failed e), s) := by
        unfold extendRtmr
        cases hi : rtmrIndex w.mrIndex with
        | none => exact ⟨_, bind_error.mpr (.inl rfl)⟩
        | some i =>
          rw [hsize, hdigest, hi] at h
          cases hafter : tdcallExtendRtmr p s.rtmrs digest i with
          | ok after =>
            rw [Option.bind_eq_bind, Option.bind_some] at h
            simp [hafter, Except.toOption] at h
          | error e =>
            refine ⟨e, bind_error.mpr (.inr ⟨i, s, rfl, bind_error.mpr (.inr ⟨_, s, rfl, ?_⟩)⟩)⟩
            refine bind_error.mpr (.inl ?_)
            rw [hafter]
            rfl
      obtain ⟨e, hextend⟩ := hextend
      refine ⟨e, bind_error.mpr (.inr ⟨_, s, rfl, bind_error.mpr (.inr ⟨logSize, s, ?_, ?_⟩)⟩)⟩
      · rw [hsize]
        rfl
      · exact bind_error.mpr (.inr ⟨digest, s, rfl, bind_error.mpr (.inl hextend)⟩)

theorem extendRtmr_run {digest : MigTd.Lib.ByteCodec.Bytes 48} {i : Fin 4}
    (hi : rtmrIndex w.mrIndex = some i) (hafter : tdcallExtendRtmr p s.rtmrs digest i = .ok after) :
    extendRtmr p digest w.mrIndex s = (.ok (), { s with rtmrs := after }) := by
  unfold extendRtmr
  refine bind_ok.mpr ⟨i, s, ?_, bind_ok.mpr ⟨s.rtmrs, s, rfl, bind_ok.mpr ⟨after, s, ?_, rfl⟩⟩⟩
  · rw [hi]
    rfl
  · rw [hafter]
    rfl

theorem write_overflow (h : extension p s w = some (logSize, after)) (hno : ¬Fits s w logSize) :
    writeTaggedEventLog p w s =
      (.error (.failed "Event log out of memory"), { s with rtmrs := after }) := by
  obtain ⟨digest, i, hsize, hdigest, hi, hafter⟩ := extension_some h
  unfold writeTaggedEventLog
  refine bind_error.mpr (.inr ⟨_, s, rfl, bind_error.mpr (.inr ⟨logSize, s, ?_, ?_⟩)⟩)
  · rw [hsize]
    rfl
  · refine bind_error.mpr (.inr ⟨digest, s, ?_, bind_error.mpr (.inr ⟨(), _,
      extendRtmr_run hi hafter, bind_error.mpr (.inl ?_)⟩)⟩)
    · rw [hdigest]
      rfl
    · have hno : ¬logSize + CcEventHeader.size + w.event.length ≤ s.area.length := hno
      rw [ensure, if_neg hno]
      rfl

theorem write_succeeds (h : extension p s w = some (logSize, after))
    (hfits : Fits s w logSize) : Succeeds p s w := by
  obtain ⟨digest, i, hsize, hdigest, hi, hafter⟩ := extension_some h
  have hheader := asBytes_length (w.eventHeader digest)
  have hfits : logSize + CcEventHeader.size + w.event.length ≤ s.area.length := hfits
  have hfirst : logSize + (w.eventHeader digest).asBytes.length ≤ s.area.length := by
    rw [hheader]
    omega
  have hsecond : logSize + CcEventHeader.size + w.event.length ≤
      (splice s.area logSize (w.eventHeader digest).asBytes).length := by
    rw [splice, List.length_append, List.length_append, List.length_take, List.length_drop]
    omega
  have hrun : writeTaggedEventLog p w s = (.ok (logSize + CcEventHeader.size + w.event.length),
      ⟨splice (splice s.area logSize (w.eventHeader digest).asBytes)
        (logSize + CcEventHeader.size) w.event, after⟩) := by
    unfold writeTaggedEventLog
    refine bind_ok.mpr ⟨_, s, rfl, bind_ok.mpr ⟨logSize, s, ?_, bind_ok.mpr ⟨digest, s, ?_, ?_⟩⟩⟩
    · rw [hsize]
      rfl
    · rw [hdigest]
      rfl
    · refine bind_ok.mpr ⟨(), _, extendRtmr_run hi hafter, ?_⟩
      refine bind_ok.mpr ⟨(), _, ensure_ok.mpr ⟨hfits, rfl⟩, ?_⟩
      refine bind_ok.mpr ⟨(), ⟨splice s.area logSize (w.eventHeader digest).asBytes, after⟩, ?_, ?_⟩
      · exact bind_ok.mpr ⟨_, _, rfl, bind_ok.mpr ⟨(), _, ensure_ok.mpr ⟨hfirst, rfl⟩, rfl⟩⟩
      · refine bind_ok.mpr ⟨(), _, bind_ok.mpr ⟨_, _, rfl, bind_ok.mpr ⟨(), _,
          ensure_ok.mpr ⟨hsecond, rfl⟩, rfl⟩⟩, rfl⟩
  rw [Succeeds, hrun]
  rfl

end

/-- If the write fails, registers and log area are as before. -/
def Atomic (p : Platform) (s : LogState) (w : TaggedWrite) : Prop :=
  (writeTaggedEventLog p w s).1.isOk = false → (writeTaggedEventLog p w s).2 = s

/-- A write that extends a register finds room for its event, unless the extend gives the
register the value that it had. -/
def RoomIfExtended (p : Platform) (s : LogState) (w : TaggedWrite) : Prop :=
  ∀ logSize after, extension p s w = some (logSize, after) → after = s.rtmrs ∨ Fits s w logSize

theorem atomic_iff (p : Platform) (s : LogState) (w : TaggedWrite) :
    Atomic p s w ↔ RoomIfExtended p s w := by
  cases hext : extension p s w with
  | none =>
    obtain ⟨e, hrun⟩ := write_refused hext
    refine iff_of_true (fun _ => ?_) (fun _ _ h => ?_)
    · rw [hrun]
    · rw [hext] at h
      cases h
  | some found =>
    obtain ⟨logSize, after⟩ := found
    have hroom : RoomIfExtended p s w ↔ after = s.rtmrs ∨ Fits s w logSize := by
      constructor
      · exact fun h => h logSize after hext
      · rintro h n a hn
        rw [hext] at hn
        cases hn
        exact h
    rw [hroom]
    by_cases hfits : Fits s w logSize
    · refine iff_of_true (fun hfail => ?_) (.inr hfits)
      have hok : (writeTaggedEventLog p w s).1.isOk = true := write_succeeds hext hfits
      rw [hok] at hfail
      cases hfail
    · have hrun := write_overflow hext hfits
      rw [Atomic, hrun]
      constructor
      · intro h
        exact .inl (congrArg LogState.rtmrs (h rfl))
      · rintro (rfl | h)
        · exact fun _ => rfl
        · exact absurd h hfits

/-- A write that extends a register leaves a byte of the area free behind its event, and the size
of the event fits its field. -/
def SpareIfExtended (p : Platform) (s : LogState) (w : TaggedWrite) : Prop :=
  ∀ logSize after, extension p s w = some (logSize, after) →
    w.event.length < 2 ^ 32 ∧ logSize + CcEventHeader.size + w.event.length < s.area.length

def successes (p : Platform) : LogState → List TaggedWrite → List TaggedWrite
  | _, [] => []
  | s, w :: rest =>
    if (writeTaggedEventLog p w s).1.isOk then w :: successes p (writeStep p s w) rest
    else successes p (writeStep p s w) rest

section

variable {p : Platform}

theorem recorded_mixed (hreads : ReadsTagged p.cc)
    (ws : List TaggedWrite) {s : LogState} {ms : List (Measured p.sha384)} (hs : Recorded p s ms)
    (hspare : ∀ v ∈ trace (writeStep p) s ws, SpareIfExtended p v.before v.input) :
    ∃ ms' : List (Measured p.sha384),
      ms'.map Measured.write = ms.map Measured.write ++ successes p s ws ∧
      Recorded p (ws.foldl (writeStep p) s) ms' := by
  induction ws generalizing s ms with
  | nil => exact ⟨ms, (List.append_nil _).symm, hs⟩
  | cons w rest ih =>
    have hfirst : SpareIfExtended p s w := hspare ⟨s, w, writeStep p s w⟩ List.mem_cons_self
    have hrest : ∀ v ∈ trace (writeStep p) (writeStep p s w) rest,
        SpareIfExtended p v.before v.input := fun v hv => hspare v (List.mem_cons_of_mem _ hv)
    rw [List.foldl_cons, successes]
    by_cases hok : (writeTaggedEventLog p w s).1.isOk = true
    · obtain ⟨n, hn⟩ := exists_ok_of_isOk hok
      obtain ⟨t, ht⟩ := run_of_result hn
      have hroom : Roomy p s w := by
        cases hext : extension p s w with
        | none =>
          obtain ⟨e, hrun⟩ := write_refused hext
          cases hrun.symm.trans ht
        | some found =>
          obtain ⟨logSize, after⟩ := found
          obtain ⟨hsmall, hbyte⟩ := hfirst logSize after hext
          obtain ⟨digest, i, hsize, -⟩ := extension_some hext
          refine ⟨hsmall, fun size h => ?_⟩
          obtain rfl := Option.some.inj (hsize.symm.trans h)
          exact hbyte
      obtain ⟨m, hm, hstep⟩ := hs.write hreads hok hroom
      obtain ⟨ms', hms', hend⟩ := ih hstep hrest
      refine ⟨ms', ?_, hend⟩
      rw [hms', List.map_append, List.map_singleton, hm, if_pos hok, List.append_assoc,
        List.singleton_append]
    · have hatomic : Atomic p s w := by
        refine (atomic_iff p s w).mpr fun logSize after hext => .inr ?_
        exact (hfirst logSize after hext).2.le
      have hsame : writeStep p s w = s := hatomic (Bool.eq_false_iff.mpr hok)
      rw [if_neg hok]
      rw [hsame] at hrest ⊢
      exact ih hs hrest

end

/-- A write is atomic exactly when it finds room whenever it has extended a register. In every run
in which each write that extends a register leaves a byte of the area free, the log replays to the
registers, whatever other writes failed in between. -/
theorem measurement_atomic_iff (p : Platform) :
    (∀ (s : LogState) (w : TaggedWrite), Atomic p s w ↔ RoomIfExtended p s w) ∧
    (ReadsTagged p.cc →
      ∀ (start : LogState) (ws : List TaggedWrite), Fresh p start →
        (∀ v ∈ trace (writeStep p) start ws, SpareIfExtended p v.before v.input) →
        ∃ slice, Agrees p (ws.foldl (writeStep p) start) (successes p start ws) slice) := by
  refine ⟨atomic_iff p, fun hreads start ws hstart hspare => ?_⟩
  obtain ⟨ms, hms, hrec⟩ := recorded_mixed hreads ws hstart.recorded hspare
  obtain ⟨slice, hagrees⟩ := hrec.agrees hreads
  rw [hms, List.map_nil, List.nil_append] at hagrees
  exact ⟨slice, hagrees⟩

def sampleBadWrite : TaggedWrite := ⟨9, [7], TAGGED_EVENT_ID_POLICY, []⟩

/-- A refused write and then one that fits. -/
theorem measurement_atomic_sample : Atomic samplePlatform (sampleArea 75) samplePolicyWrite ∧
      ∃ slice, Agrees samplePlatform
        ([sampleBadWrite, samplePolicyWrite].foldl (writeStep samplePlatform) (sampleArea 75))
        [samplePolicyWrite] slice := by
  have hfacts : (writeTaggedEventLog samplePlatform sampleBadWrite (sampleArea 75)).1.isOk = false ∧
      (writeStep samplePlatform (sampleArea 75) sampleBadWrite).area = (sampleArea 75).area ∧
      (writeTaggedEventLog samplePlatform samplePolicyWrite
        (writeStep samplePlatform (sampleArea 75) sampleBadWrite)).1.isOk = true ∧
      eventLogSize samplePlatform.cc (sampleArea 75).area = some 32 := by decide +kernel
  obtain ⟨hbad, harea, hgood, hsize⟩ := hfacts
  have hspare : ∀ (s : LogState) (w : TaggedWrite), s.area = (sampleArea 75).area →
      w.event.length = 8 → SpareIfExtended samplePlatform s w := by
    intro s w hs hw logSize after hext
    obtain ⟨-, -, hfound, -⟩ := extension_some hext
    rw [hs, hsize] at hfound
    rw [← Option.some.inj hfound, hs, hw]
    decide +kernel
  have hsuccesses : successes samplePlatform (sampleArea 75) [sampleBadWrite, samplePolicyWrite] =
      [samplePolicyWrite] := by
    rw [successes, if_neg (by rw [hbad]; decide), successes, if_pos hgood]
    rfl
  have hatomic := measurement_atomic_iff samplePlatform
  refine ⟨(hatomic.1 _ _).mpr fun logSize after hext => .inr ?_, ?_⟩
  · exact (hspare _ _ rfl rfl logSize after hext).2.le
  · have hfresh : Fresh samplePlatform (sampleArea 75) :=
      sampleArea_fresh (by decide) (by decide +kernel)
    have hrun := hatomic.2 packed_readsTagged (sampleArea 75) [sampleBadWrite, samplePolicyWrite] hfresh ?_
    · rw [hsuccesses] at hrun
      exact hrun
    · intro v hv
      rcases List.mem_cons.mp hv with rfl | hv
      · exact hspare _ _ rfl rfl
      · obtain rfl := List.mem_singleton.mp hv
        exact hspare _ _ harea rfl

/-- In an area that is one byte too short, a write fails with its register extended, and the log
does not replay to the registers any more. -/
theorem measurement_extended_alone : Fresh samplePlatform (sampleArea 73) ∧
      ¬Atomic samplePlatform (sampleArea 73) samplePolicyWrite ∧
      ¬∃ ws slice, Agrees samplePlatform
        (writeStep samplePlatform (sampleArea 73) samplePolicyWrite) ws slice := by
  have hfacts : (writeTaggedEventLog samplePlatform samplePolicyWrite (sampleArea 73)).1.isOk =
        false ∧
      ((writeTaggedEventLog samplePlatform samplePolicyWrite (sampleArea 73)).2.rtmrs 2).1 ≠
        ((sampleArea 73).rtmrs 2).1 ∧
      replays samplePlatform (writeStep samplePlatform (sampleArea 73) samplePolicyWrite) =
        false := by decide +kernel
  obtain ⟨hfails, hchanged, hreplay⟩ := hfacts
  refine ⟨sampleArea_fresh (by decide) (by decide +kernel), fun h => ?_, ?_⟩
  · exact hchanged (congrArg (fun s => (s.rtmrs 2).1) (h hfails))
  · rintro ⟨ws, slice, h⟩
    rw [h.replays] at hreplay
    cases hreplay

end MigTd.Measurement.WriteAtomicity
