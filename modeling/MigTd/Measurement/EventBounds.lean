/- source: migtd/src/event_log.rs
   digest: Parser and replay with their index expressions, on any events that a reader yields. -/

import MigTd.Lib.Slices
import MigTd.Measurement.Replay

set_option autoImplicit false

namespace MigTd.Measurement.EventBounds

open Lib.ByteCodec Lib.Slices Lib.StateProgram EventLog Replay Migration.Information

/-- The third-party reader: the events of a log, with data that may be empty. -/
abbrev LogReader := Octets → Option (List Event)

section

variable (cc : CcMeasurement)

/-- The body of the loop in `parse_events` with its index expressions. -/
def parseEventSlices (map : EventMap) (e : Event) : Except (Stop Unit) EventMap :=
  if e.1.eventType = EV_EFI_PLATFORM_FIRMWARE_BLOB2 then do
    let descSize ← index e.2 0
    let desc ← orElse (getRange e.2 1 (1 + descSize.toNat)) (.failed ())
    if desc = cc.platformFirmwareBlob2Payload then return map.insert .migTdCore ⟨e.1, none⟩
    else return map
  else if e.1.eventType = EV_PLATFORM_CONFIG_FLAGS then
    if cc.platformConfigSecureAuthority.isPrefixOf e.2 then
      return map.insert .secureBootKey ⟨e.1, none⟩
    else if cc.platformConfigSvn.isPrefixOf e.2 then do
      require (20 ≤ e.2.length) (.failed ())
      let infoSize ← slice e.2 16 20
      require (20 + leValue infoSize ≤ e.2.length) (.failed ())
      let info ← slice e.2 20 (20 + leValue infoSize)
      return map.insert .migTdCoreSvn ⟨e.1, some info⟩
    else return map
  else if e.1.eventType = EV_EVENT_TAG then do
    let tag ← orElse (getRange e.2 0 4) (.failed ())
    match taggedName (UInt32.ofNat (leValue tag)) with
    | some name => return map.insert name ⟨e.1, none⟩
    | none => return map
  else return map

def parseEventsSlices (read : LogReader) (log : Octets) : Except (Stop Unit) EventMap := do
  let events ← orElse (read log) (.failed ())
  events.foldlM (parseEventSlices cc) fun _ => none

theorem parseEventSlices_eq (map : EventMap) (e : Event) :
    parseEventSlices cc map e = parseEvent cc map e := by
  unfold parseEventSlices parseEvent
  by_cases hblob : e.1.eventType = EV_EFI_PLATFORM_FIRMWARE_BLOB2
  · rw [if_pos hblob, if_pos hblob]
    cases hdata : e.2 with
    | nil => rfl
    | cons descSize rest =>
      rw [index_ok (x := descSize) rfl, ok_bind]
      by_cases hshort : rest.length < descSize.toNat
      · rw [getRange_none (by rw [List.length_cons]; omega)]
        dsimp only
        rw [if_pos hshort]
        rfl
      · rw [getRange_some (by omega) (by rw [List.length_cons]; omega),
          Nat.add_sub_cancel_left, List.drop_one, List.tail_cons]
        dsimp only
        rw [if_neg hshort]
        rfl
  rw [if_neg hblob, if_neg hblob]
  by_cases hflags : e.1.eventType = EV_PLATFORM_CONFIG_FLAGS
  · rw [if_pos hflags, if_pos hflags]
    by_cases hauthority : cc.platformConfigSecureAuthority.isPrefixOf e.2 = true
    · rw [if_pos hauthority, if_pos hauthority]
      rfl
    rw [if_neg hauthority, if_neg hauthority]
    by_cases hsvn : cc.platformConfigSvn.isPrefixOf e.2 = true
    · rw [if_pos hsvn, if_pos hsvn]
      dsimp only
      by_cases hshort : e.2.length < 20
      · rw [require_neg (by omega), if_pos hshort]
        rfl
      rw [require_pos (by omega), ok_bind, slice_ok (by omega) (by omega), ok_bind, if_neg hshort,
        show 20 - 16 = 4 from rfl]
      by_cases hinfo : e.2.length < 20 + leValue ((e.2.drop 16).take 4)
      · rw [require_neg (by omega), if_pos hinfo]
        rfl
      · rw [require_pos (by omega), ok_bind, slice_ok (by omega) (by omega), ok_bind,
          if_neg hinfo, Nat.add_sub_cancel_left]
        rfl
    · rw [if_neg hsvn, if_neg hsvn]
      rfl
  rw [if_neg hflags, if_neg hflags]
  by_cases htag : e.1.eventType = EV_EVENT_TAG
  · rw [if_pos htag, if_pos htag, tagId]
    by_cases hfour : 4 ≤ e.2.length
    · rw [getRange_some (by omega) hfour, orElse, ok_bind, if_pos hfour, List.drop_zero,
        Nat.sub_zero]
      dsimp only
      cases taggedName (UInt32.ofNat (leValue (e.2.take 4))) <;> rfl
    · rw [getRange_none (by omega), if_neg hfour]
      rfl
  · rw [if_neg htag, if_neg htag]
    rfl

theorem parseEventSlices_funext : parseEventSlices cc = parseEvent cc :=
  funext fun map => funext fun e => parseEventSlices_eq cc map e

end

theorem parseEventsSlices_eventsOf (cc : CcMeasurement) (log : Octets) :
    parseEventsSlices cc (eventsOf cc) log = parseEvents cc log := by
  unfold parseEventsSlices parseEvents
  rw [parseEventSlices_funext]
  cases eventsOf cc log <;> rfl

def IsEmptyBlob (e : Event) : Prop := e.1.eventType = EV_EFI_PLATFORM_FIRMWARE_BLOB2 ∧ e.2 = []
  deriving Decidable

/-- An event at which the parser gives up: the data is shorter than its own fields tell. -/
def Malformed (cc : CcMeasurement) (e : Event) : Prop :=
  (e.1.eventType = EV_EFI_PLATFORM_FIRMWARE_BLOB2 ∧ 0 < e.2.length ∧
    e.2.length < 1 + (e.2.headD 0).toNat) ∨
  (e.1.eventType = EV_PLATFORM_CONFIG_FLAGS ∧
    cc.platformConfigSecureAuthority.isPrefixOf e.2 = false ∧
    cc.platformConfigSvn.isPrefixOf e.2 = true ∧
    e.2.length < 20 + leValue ((e.2.drop 16).take 4)) ∨
  (e.1.eventType = EV_EVENT_TAG ∧ e.2.length < 4)
  deriving Decidable

section

variable (cc : CcMeasurement)

theorem parseEvent_outcome (map : EventMap) (e : Event) :
    (IsEmptyBlob e ∧ parseEvent cc map e = .error .panicked) ∨
      (¬IsEmptyBlob e ∧ Malformed cc e ∧ parseEvent cc map e = .error (.failed ())) ∨
      (¬IsEmptyBlob e ∧ ¬Malformed cc e ∧ ∃ after, parseEvent cc map e = .ok after) := by
  have hcodes : EV_EFI_PLATFORM_FIRMWARE_BLOB2 ≠ EV_PLATFORM_CONFIG_FLAGS ∧
      EV_EFI_PLATFORM_FIRMWARE_BLOB2 ≠ EV_EVENT_TAG ∧
      EV_PLATFORM_CONFIG_FLAGS ≠ EV_EVENT_TAG := by decide
  unfold parseEvent
  by_cases hblob : e.1.eventType = EV_EFI_PLATFORM_FIRMWARE_BLOB2
  · rw [if_pos hblob]
    have hflags : e.1.eventType ≠ EV_PLATFORM_CONFIG_FLAGS := hblob ▸ hcodes.1
    have htag : e.1.eventType ≠ EV_EVENT_TAG := hblob ▸ hcodes.2.1
    cases hdata : e.2 with
    | nil => exact .inl ⟨⟨hblob, hdata⟩, rfl⟩
    | cons descSize rest =>
      have hsome : ¬IsEmptyBlob e := by simp [IsEmptyBlob, hdata]
      refine .inr ?_
      dsimp only
      by_cases hshort : rest.length < descSize.toNat
      · refine .inl ⟨hsome, .inl ⟨hblob, ?_⟩, if_pos hshort⟩
        rw [hdata, List.length_cons, List.headD_cons]
        omega
      · refine .inr ⟨hsome, ?_, ?_⟩
        · simp only [Malformed, hflags, htag, hdata, List.length_cons, List.headD_cons,
            false_and, or_false]
          omega
        · rw [if_neg hshort]
          split_ifs
          · exact ⟨_, rfl⟩
          · exact ⟨_, rfl⟩
  rw [if_neg hblob]
  have hsome : ¬IsEmptyBlob e := fun h => hblob h.1
  refine .inr ?_
  by_cases hflags : e.1.eventType = EV_PLATFORM_CONFIG_FLAGS
  · rw [if_pos hflags]
    have htag : e.1.eventType ≠ EV_EVENT_TAG := hflags ▸ hcodes.2.2
    by_cases hauthority : cc.platformConfigSecureAuthority.isPrefixOf e.2 = true
    · rw [if_pos hauthority]
      exact .inr ⟨hsome, by simp [Malformed, hblob, htag, hauthority], _, rfl⟩
    rw [if_neg hauthority]
    by_cases hsvn : cc.platformConfigSvn.isPrefixOf e.2 = true
    · rw [if_pos hsvn]
      dsimp only
      by_cases hshort : e.2.length < 20 + leValue ((e.2.drop 16).take 4)
      · refine .inl ⟨hsome, .inr (.inl ⟨hflags, eq_false_of_ne_true hauthority, hsvn, hshort⟩), ?_⟩
        rw [if_pos hshort, ite_self]
      · refine .inr ⟨hsome, by simp [Malformed, hblob, htag, hshort], ?_⟩
        rw [if_neg (by omega), if_neg hshort]
        exact ⟨_, rfl⟩
    · rw [if_neg hsvn]
      exact .inr ⟨hsome, by simp [Malformed, hblob, htag, hsvn], _, rfl⟩
  rw [if_neg hflags]
  by_cases htag : e.1.eventType = EV_EVENT_TAG
  · rw [if_pos htag, tagId]
    by_cases hfour : 4 ≤ e.2.length
    · refine .inr ⟨hsome, by simp [Malformed, hblob, hflags, hfour], ?_⟩
      rw [if_pos hfour]
      dsimp only
      split
      · exact ⟨_, rfl⟩
      · exact ⟨_, rfl⟩
    · refine .inl ⟨hsome, .inr (.inr ⟨htag, by omega⟩), ?_⟩
      rw [if_neg hfour]
  · rw [if_neg htag]
    exact .inr ⟨hsome, by simp [Malformed, hblob, hflags, htag], _, rfl⟩

/-- Every firmware blob without data stands behind an event at which the parser has given up. -/
def BlobsGuarded (events : List Event) : Prop :=
  ∀ before e after, events = before ++ e :: after → IsEmptyBlob e → ∃ m ∈ before, Malformed cc m

theorem blobsGuarded_cons {e : Event} {rest : List Event} (hsome : ¬IsEmptyBlob e)
    (hform : ¬Malformed cc e) : BlobsGuarded cc (e :: rest) ↔ BlobsGuarded cc rest := by
  constructor
  · intro h before b after hrest hb
    obtain ⟨m, hm, hmal⟩ := h (e :: before) b after (by rw [hrest, List.cons_append]) hb
    rcases List.mem_cons.mp hm with rfl | hm
    · exact absurd hmal hform
    · exact ⟨m, hm, hmal⟩
  · intro h before b after heq hb
    cases before with
    | nil =>
      rw [List.nil_append, List.cons.injEq] at heq
      exact absurd (heq.1 ▸ hb) hsome
    | cons first before =>
      rw [List.cons_append, List.cons.injEq] at heq
      obtain ⟨m, hm, hmal⟩ := h before b after heq.2 hb
      exact ⟨m, List.mem_cons_of_mem _ hm, hmal⟩

theorem parse_panics_iff (events : List Event) (map : EventMap) :
    events.foldlM (parseEvent cc) map ≠ .error .panicked ↔ BlobsGuarded cc events := by
  induction events generalizing map with
  | nil =>
    refine iff_of_true (by simp [pure, Except.pure]) ?_
    intro before e after h
    simp at h
  | cons e rest ih =>
    rw [List.foldlM_cons]
    rcases parseEvent_outcome cc map e with ⟨hempty, hstep⟩ | ⟨hsome, hmal, hstep⟩ |
      ⟨hsome, hform, after, hstep⟩
    · rw [hstep, error_bind]
      refine iff_of_false (by simp) ?_
      intro h
      obtain ⟨m, hm, -⟩ := h [] e rest rfl hempty
      cases hm
    · rw [hstep, error_bind]
      refine iff_of_true (by simp) ?_
      intro before b after heq hb
      cases before with
      | nil =>
        rw [List.nil_append, List.cons.injEq] at heq
        exact absurd (heq.1 ▸ hb) hsome
      | cons first before =>
        rw [List.cons_append, List.cons.injEq] at heq
        exact ⟨first, List.mem_cons_self, heq.1 ▸ hmal⟩
    · rw [hstep, ok_bind, ih after, blobsGuarded_cons cc hsome hform]

end

abbrev RtmrCells := List Octets

def MAX_RTMR_INDEX : Nat := 3

section

variable (sha384 : Octets → Octets)

def rtmrNumber (mrIndex : UInt32) : Nat :=
  if 1 ≤ mrIndex.toNat ∧ mrIndex.toNat ≤ 4 then mrIndex.toNat - 1 else 0xFF

def extendCell (cell : Octets) (digest : Bytes 48) : Except (Stop String) Octets := do
  let cell ← copyAt cell 48 cell.length digest.1
  match digestSha384 sha384 cell with
  | .error _ => .error (.failed "Calculate digest")
  | .ok value => copyAt cell 0 48 value

/-- The body of the loop in `replay_event_log_with_report` with its index expressions. -/
def replayEventSlices (rtmrs : RtmrCells) (e : Event) : Except (Stop String) RtmrCells := do
  require (rtmrNumber e.1.mrIndex ≤ MAX_RTMR_INDEX) (.failed "Invalid event log")
  let cell ← index rtmrs (rtmrNumber e.1.mrIndex)
  let cell ← extendCell sha384 cell e.1.sha384
  return rtmrs.set (rtmrNumber e.1.mrIndex) cell

def sameRegister (reportRtmrs : Rtmrs) (rtmrs : RtmrCells) (i : Fin 4) :
    Except (Stop String) Bool := do
  let cell ← index rtmrs i
  let value ← slice cell 0 48
  return (reportRtmrs i).1 = value

def verifyEventLogSlices (features : MockFeatures) (read : LogReader) (log : Octets)
    (reportRtmrs : Rtmrs) : Except (Stop String) Unit := do
  let events ← orElse (read log) (.failed "Invalid event log")
  let rtmrs ← events.foldlM (replayEventSlices sha384) (List.replicate 4 (List.replicate 96 0))
  -- The conjunction evaluates its operands from the left and stops at a difference.
  let same ← (List.finRange 4).foldlM
    (fun same i => if same then sameRegister reportRtmrs rtmrs i else return false) true
  if same then .ok ()
  else if features.azCvmEmu || features.useMockQuote then .ok ()
  else .error (.failed "Invalid event log")

end

/-- Four registers of 48 bytes, with as much room behind each. -/
def Shaped (cells : RtmrCells) : Prop := cells.length = 4 ∧ ∀ cell ∈ cells, cell.length = 96

section

variable {sha384 : Octets → Octets} {cells : RtmrCells}

private theorem extendCell_shaped {cell : Octets} (h : cell.length = 96) (digest : Bytes 48) :
    (∃ after, extendCell sha384 cell digest = .ok after ∧ after.length = 96) ∨
      ∃ message, extendCell sha384 cell digest = .error (.failed message) := by
  have hdigest : digest.1.length = 48 := digest.2
  rw [extendCell, copyAt_ok (by omega) le_rfl (by omega), ok_bind]
  cases hhash : digestSha384 sha384 (cell.take 48 ++ (digest.1 ++ cell.drop cell.length)) with
  | error e => exact .inr ⟨_, rfl⟩
  | ok value =>
    have hvalue : value.length = 48 := (digestSha384_ok hhash).2
    refine .inl ⟨_, copyAt_ok (by omega) ?_ hvalue, ?_⟩
    · simp only [List.length_append, List.length_take, List.length_drop]
      omega
    · simp only [List.length_append, List.length_take, List.length_drop]
      omega

theorem replayEventSlices_shaped (h : Shaped cells) (e : Event) :
    (∃ after, replayEventSlices sha384 cells e = .ok after ∧ Shaped after) ∨
      ∃ message, replayEventSlices sha384 cells e = .error (.failed message) := by
  unfold replayEventSlices
  by_cases hmax : rtmrNumber e.1.mrIndex ≤ MAX_RTMR_INDEX
  · have hlt : rtmrNumber e.1.mrIndex < cells.length := by
      rw [h.1]
      exact Nat.lt_succ_of_le hmax
    rw [require_pos hmax, ok_bind, index_ok (List.getElem?_eq_getElem hlt), ok_bind]
    rcases extendCell_shaped (h.2 _ (List.getElem_mem hlt)) e.1.sha384 with
      ⟨cell, hcell, hlen⟩ | ⟨message, hcell⟩
    · rw [hcell]
      refine .inl ⟨_, rfl, by rw [List.length_set, h.1], ?_⟩
      intro c hc
      rcases List.mem_or_eq_of_mem_set hc with hold | rfl
      · exact h.2 c hold
      · exact hlen
    · rw [hcell]
      exact .inr ⟨message, rfl⟩
  · rw [require_neg hmax]
    exact .inr ⟨_, rfl⟩

theorem replaySlices_shaped (events : List Event) (h : Shaped cells) :
    (∃ after, events.foldlM (replayEventSlices sha384) cells = .ok after ∧ Shaped after) ∨
      ∃ message, events.foldlM (replayEventSlices sha384) cells = .error (.failed message) := by
  induction events generalizing cells with
  | nil => exact .inl ⟨cells, rfl, h⟩
  | cons e rest ih =>
    rw [List.foldlM_cons]
    rcases replayEventSlices_shaped h e with ⟨mid, hstep, hmid⟩ | ⟨message, hstep⟩
    · rw [hstep, ok_bind]
      exact ih hmid
    · rw [hstep]
      exact .inr ⟨message, rfl⟩

private theorem sameRegister_shaped (h : Shaped cells) (reportRtmrs : Rtmrs) (i : Fin 4) :
    ∃ same, sameRegister reportRtmrs cells i = .ok same := by
  have hlt : (i : Nat) < cells.length := by
    rw [h.1]
    exact i.2
  have hcell := h.2 _ (List.getElem_mem hlt)
  rw [sameRegister, index_ok (List.getElem?_eq_getElem hlt), ok_bind,
    slice_ok (Nat.zero_le 48) (by omega), ok_bind]
  exact ⟨_, rfl⟩

theorem sameRegisters_shaped (h : Shaped cells) (reportRtmrs : Rtmrs) (is : List (Fin 4))
    (same : Bool) : ∃ all, is.foldlM (m := Except (Stop String))
      (fun same i => if same then sameRegister reportRtmrs cells i else return false) same =
        .ok all := by
  induction is generalizing same with
  | nil => exact ⟨same, rfl⟩
  | cons i is ih =>
    rw [List.foldlM_cons]
    cases same with
    | false => exact ih false
    | true =>
      obtain ⟨same, hsame⟩ := sameRegister_shaped h reportRtmrs i
      rw [if_pos rfl, hsame, ok_bind]
      exact ih same

theorem verifyEventLogSlices_returns (features : MockFeatures) (read : LogReader)
    (log : Octets) (reportRtmrs : Rtmrs) :
    verifyEventLogSlices sha384 features read log reportRtmrs ≠ .error .panicked := by
  have hzero : Shaped (List.replicate 4 (List.replicate 96 0)) := by
    refine ⟨rfl, ?_⟩
    intro cell hcell
    rw [List.eq_of_mem_replicate hcell]
    rfl
  unfold verifyEventLogSlices
  cases read log with
  | none => simp [orElse, error_bind]
  | some events =>
    rw [orElse, ok_bind]
    rcases @replaySlices_shaped sha384 _ events hzero with
      ⟨cells, hreplay, hcells⟩ | ⟨message, hreplay⟩
    · obtain ⟨same, hsame⟩ := sameRegisters_shaped hcells reportRtmrs (List.finRange 4) true
      rw [hreplay, ok_bind, hsame, ok_bind]
      split_ifs <;> simp
    · rw [hreplay, error_bind]
      simp

end

/-- Whatever events a reader yields, with whatever data: the parser panics exactly at a firmware
blob without data that no malformed event stands in front of, and the verifier never panics. -/
theorem event_log_panic_free_iff (cc : CcMeasurement) (sha384 : Octets → Octets)
    (features : MockFeatures) (read : LogReader) (log : Octets) (reportRtmrs : Rtmrs) :
    (parseEventsSlices cc read log ≠ .error .panicked ∧
        verifyEventLogSlices sha384 features read log reportRtmrs ≠ .error .panicked) ↔
      ∀ events, read log = some events → BlobsGuarded cc events := by
  rw [and_iff_left (verifyEventLogSlices_returns features read log reportRtmrs),
    parseEventsSlices, parseEventSlices_funext]
  cases hread : read log with
  | none =>
    refine iff_of_true (by simp [orElse, error_bind]) ?_
    intro events h
    cases h
  | some events =>
    rw [orElse, ok_bind, parse_panics_iff]
    simp

def emptyBlob : Event :=
  (⟨1, EV_EFI_PLATFORM_FIRMWARE_BLOB2, 1, TPML_ALG_SHA384, Bytes.zero 48, 0⟩, [])

/-- A log of that one event, which the reader of the measurement library yields, stops the parser
at `event_data[0]`. -/
theorem empty_blob_panics : eventsOf replayCc (replayLog [emptyBlob]) = some [emptyBlob] ∧
      parseEventsSlices replayCc (eventsOf replayCc) (replayLog [emptyBlob]) =
        .error .panicked := by
  have hread : eventsOf replayCc (replayLog [emptyBlob]) = some [emptyBlob] := by decide +kernel
  refine ⟨hread, ?_⟩
  rw [parseEventsSlices, hread]
  rfl

end MigTd.Measurement.EventBounds
