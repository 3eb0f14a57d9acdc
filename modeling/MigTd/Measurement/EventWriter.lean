/- source: migtd/src/event_log.rs
   digest: Tagged events written to the log area, and what the readers find there afterwards. -/

import MigTd.Lib.RunHistory
import MigTd.Measurement.EventLog

set_option autoImplicit false

namespace MigTd.Measurement.EventWriter

open Lib.ByteCodec Lib.RunHistory Lib.StateProgram EventLog

structure LogState where
  area : Octets
  rtmrs : Rtmrs

structure Platform where
  cc : CcMeasurement
  sha384 : Octets → Octets
  /-- The error with which the module refuses an extend. -/
  extendRefused : Rtmrs → Fin 4 → Bytes 48 → Option String

/-- The arguments of `write_tagged_event_log`. -/
structure TaggedWrite where
  mrIndex : UInt32
  hashData : Octets
  taggedEventId : UInt32
  taggedEventData : Octets

namespace TaggedWrite

def event (w : TaggedWrite) : Octets :=
  putU32 w.taggedEventId ++ (putU32 (UInt32.ofNat w.taggedEventData.length) ++ w.taggedEventData)

def eventHeader (w : TaggedWrite) (digest : Bytes 48) : CcEventHeader where
  mrIndex := w.mrIndex
  eventType := EV_EVENT_TAG
  count := 1
  hashAlg := TPML_ALG_SHA384
  sha384 := digest
  eventSize := UInt32.ofNat w.event.length

end TaggedWrite

section

variable (p : Platform)

/-- The module keeps the hash of the old value followed by the digest. -/
def tdcallExtendRtmr (rtmrs : Rtmrs) (digest : Bytes 48) (i : Fin 4) : Except String Rtmrs :=
  match p.extendRefused rtmrs i digest with
  | some e => .error ("Extend RTMR: " ++ e)
  | none => extended p.sha384 rtmrs i digest

def extendRtmr (digest : Bytes 48) (mrIndex : UInt32) : Program LogState (Stop String) Unit := do
  let i ← lift (noPanic (orElse (rtmrIndex mrIndex)
    ("Invalid mr_index 0x" ++ String.ofList (Nat.toDigits 16 mrIndex.toNat) ++ "\n")))
  let rtmrs ← observe LogState.rtmrs
  let after ← lift (noPanic (tdcallExtendRtmr p rtmrs digest i))
  update fun s => { s with rtmrs := after }

def splice (area : Octets) (offset : Nat) (data : Octets) : Octets :=
  area.take offset ++ (data ++ area.drop (offset + data.length))

/-- `event_log[offset..offset + data.len()].copy_from_slice(data)`: panics outside the area. -/
def copyFromSlice (offset : Nat) (data : Octets) : Program LogState (Stop String) Unit := do
  let area ← observe LogState.area
  ensure (offset + data.length ≤ area.length) .panicked
  update fun s => { s with area := splice area offset data }

def writeTaggedEventLog (w : TaggedWrite) : Program LogState (Stop String) Nat := do
  let area ← observe LogState.area
  let logSize ← lift (noPanic (orElse (eventLogSize p.cc area) "Parsing event log"))
  let digest ← lift (noPanic (calculateDigest p.sha384 w.hashData))
  -- The register is extended before the room in the area is known.
  extendRtmr p digest w.mrIndex
  ensure (logSize + CcEventHeader.size + w.event.length ≤ area.length)
    (.failed "Event log out of memory")
  copyFromSlice logSize (w.eventHeader digest).asBytes
  copyFromSlice (logSize + CcEventHeader.size) w.event
  return logSize + CcEventHeader.size + w.event.length

end

variable {s t : LogState} {rest spec : Octets}

section

variable {p : Platform}

theorem asBytes_length (h : CcEventHeader) : h.asBytes.length = CcEventHeader.size := by
  have hread := decodes_layout h []
  rw [List.append_nil] at hread
  have hlen := consumes_layout _ _ _ hread
  rwa [List.length_nil, Nat.add_zero] at hlen

theorem splice_splice (area first second : Octets) (offset : Nat)
    (h : offset + first.length + second.length ≤ area.length) :
    splice (splice area offset first) (offset + first.length) second =
      splice area offset (first ++ second) := by
  have htake : (area.take offset).length = offset := by
    rw [List.length_take]
    omega
  have hfront : (area.take offset ++ first).length = offset + first.length := by
    rw [List.length_append, htake]
  have hsame : splice area offset first =
      (area.take offset ++ first) ++ area.drop (offset + first.length) := by
    rw [splice, List.append_assoc]
  have hlead : ((area.take offset ++ first) ++ area.drop (offset + first.length)).take
      (offset + first.length) = area.take offset ++ first := List.take_left' hfront
  have hback : ((area.take offset ++ first) ++ area.drop (offset + first.length)).drop
      (offset + first.length + second.length) =
        area.drop (offset + first.length + second.length) := by
    rw [← List.drop_drop, List.drop_left' hfront, List.drop_drop]
  rw [splice, hsame, hlead, hback, splice, List.length_append, Nat.add_assoc]
  simp only [List.append_assoc]

theorem extendRtmr_ok {digest : Bytes 48} {mrIndex : UInt32} {u : Unit}
    (h : extendRtmr p digest mrIndex s = (.ok u, t)) :
    t.area = s.area ∧ ∃ i, rtmrIndex mrIndex = some i ∧
      extended p.sha384 s.rtmrs i digest = .ok t.rtmrs := by
  unfold extendRtmr at h
  simp only [bind_ok, lift_ok, observe_ok, update_ok, noPanic_ok, orElse_ok] at h
  obtain ⟨i, _, ⟨hi, rfl⟩, rtmrs, _, ⟨rfl, rfl⟩, after, _, ⟨hafter, rfl⟩, rfl⟩ := h
  refine ⟨rfl, i, hi, ?_⟩
  unfold tdcallExtendRtmr at hafter
  split at hafter
  · cases hafter
  · exact hafter

theorem copyFromSlice_ok {offset : Nat} {data : Octets} {u : Unit}
    (h : copyFromSlice offset data s = (.ok u, t)) :
    offset + data.length ≤ s.area.length ∧ t = { s with area := splice s.area offset data } := by
  unfold copyFromSlice at h
  simp only [bind_ok, observe_ok, ensure_ok, update_ok] at h
  obtain ⟨_, _, ⟨rfl, rfl⟩, _, _, ⟨hfit, rfl⟩, rfl⟩ := h
  exact ⟨hfit, rfl⟩

theorem writeTaggedEventLog_ok {w : TaggedWrite} {n : Nat}
    (h : writeTaggedEventLog p w s = (.ok n, t)) :
    ∃ logSize digest i, eventLogSize p.cc s.area = some logSize ∧
      digest.1 = p.sha384 w.hashData ∧ rtmrIndex w.mrIndex = some i ∧
      extended p.sha384 s.rtmrs i digest = .ok t.rtmrs ∧
      logSize + CcEventHeader.size + w.event.length ≤ s.area.length ∧
      t.area = splice s.area logSize ((w.eventHeader digest).asBytes ++ w.event) := by
  unfold writeTaggedEventLog at h
  simp only [bind_ok, observe_ok, lift_ok, ensure_ok, pure_ok, noPanic_ok, orElse_ok] at h
  obtain ⟨_, _, ⟨rfl, rfl⟩, logSize, _, ⟨hsize, rfl⟩, digest, _, ⟨hdigest, rfl⟩, _, a, hextend,
    _, _, ⟨hroom, rfl⟩, _, b, hfirst, _, c, hsecond, -, rfl⟩ := h
  obtain ⟨harea, i, hi, hrtmrs⟩ := extendRtmr_ok hextend
  obtain ⟨-, rfl⟩ := copyFromSlice_ok hfirst
  obtain ⟨-, rfl⟩ := copyFromSlice_ok hsecond
  refine ⟨logSize, digest, i, hsize, calculateDigest_ok.mp hdigest, hi, hrtmrs, hroom, ?_⟩
  have hlen := asBytes_length (w.eventHeader digest)
  have hboth := splice_splice s.area (w.eventHeader digest).asBytes w.event logSize
    (by rw [hlen]; exact hroom)
  rw [hlen] at hboth
  rw [← hboth, ← harea]

end

/-! Reading a log that consists of a spec-id event and encoded events. -/

def eventBytes (e : Event) : Octets := e.1.asBytes ++ e.2

/-- The reader takes these bytes off the start of every log. -/
def IsSpecId (cc : CcMeasurement) (spec : Octets) : Prop :=
  ∀ tail, cc.openLog (spec ++ tail) = some ⟨spec.length, tail⟩

/-- No event can be read from these bytes, wherever one starts. -/
def Unused (cc : CcMeasurement) (rest : Octets) : Prop :=
  ∀ n ≤ rest.length, cc.events.next (rest.drop n) = none
  deriving Decidable

/-- A tagged event whose header announces its data. -/
def Readable (e : Event) : Prop :=
  e.1.eventType = EV_EVENT_TAG ∧ e.1.eventSize.toNat = e.2.length

/-- What the reader has to do: it takes a tagged event apart as it was encoded if something follows
it, and finds none in less than a header. -/
structure ReadsTagged (cc : CcMeasurement) : Prop where
  next : ∀ e tail, Readable e → tail ≠ [] →
    cc.events.next (eventBytes e ++ tail) = some (e, tail)
  short : ∀ bytes : Octets, bytes.length < CcEventHeader.size → cc.events.next bytes = none

section

variable {cc : CcMeasurement}

theorem Unused.drop (h : Unused cc rest) (n : Nat) : Unused cc (rest.drop n) := by
  intro m hm
  rw [List.drop_drop]
  by_cases hle : n + m ≤ rest.length
  · exact h _ hle
  · rw [List.drop_eq_nil_of_le (by omega)]
    have hnil := h rest.length le_rfl
    rwa [List.drop_length] at hnil

variable {events : List Event} {tail : Octets}

theorem items_encoded (hreads : ReadsTagged cc)
    (hevents : ∀ e ∈ events, Readable e) (htail : tail ≠ []) (hend : cc.events.next tail = none) :
    cc.events.items ((events.map eventBytes).flatten ++ tail) = events := by
  have hitems := cc.events.items_encoded eventBytes hreads.next events tail hevents htail
  rwa [cc.events.items_none hend, List.append_nil] at hitems

theorem eventsOf_encoded (hreads : ReadsTagged cc) (hspec : IsSpecId cc spec)
    (hevents : ∀ e ∈ events, Readable e) (htail : tail ≠ []) (hend : cc.events.next tail = none) :
    eventsOf cc (spec ++ ((events.map eventBytes).flatten ++ tail)) = some events := by
  rw [eventsOf, hspec, Option.map_some, items_encoded hreads hevents htail hend]

private theorem eventBytes_length {e : Event} (he : Readable e) :
    (eventBytes e).length = CcEventHeader.size + e.1.eventSize.toNat := by
  rw [eventBytes, List.length_append, asBytes_length, he.2]

private theorem sizes_encoded (hevents : ∀ e ∈ events, Readable e) (start : Nat) :
    events.foldl (fun size e => size + (CcEventHeader.size + e.1.eventSize.toNat)) start =
      start + (events.map eventBytes).flatten.length := by
  induction events generalizing start with
  | nil => rfl
  | cons e rest ih =>
    have hlen := eventBytes_length (hevents e List.mem_cons_self)
    rw [List.foldl_cons, ih fun x hx => hevents x (List.mem_cons_of_mem e hx), List.map_cons,
      List.flatten_cons, List.length_append, hlen]
    omega

theorem eventLogSize_encoded (hreads : ReadsTagged cc)
    (hspec : IsSpecId cc spec) (hevents : ∀ e ∈ events, Readable e) (htail : tail ≠ [])
    (hend : cc.events.next tail = none) :
    eventLogSize cc (spec ++ ((events.map eventBytes).flatten ++ tail)) =
      some (spec ++ (events.map eventBytes).flatten).length := by
  rw [eventLogSize, hspec]
  simp only [Option.bind_eq_bind, Option.bind_some, items_encoded hreads hevents htail hend,
    Option.pure_def, sizes_encoded hevents, List.length_append]

end

structure Measured (sha384 : Octets → Octets) where
  write : TaggedWrite
  digest : Bytes 48
  measured : digest.1 = sha384 write.hashData

def Measured.event {sha384 : Octets → Octets} (m : Measured sha384) : Event :=
  (m.write.eventHeader m.digest, m.write.event)

def writeStep (p : Platform) (s : LogState) (w : TaggedWrite) : LogState :=
  (writeTaggedEventLog p w s).2

def Succeeds (p : Platform) (s : LogState) (w : TaggedWrite) : Prop :=
  (writeTaggedEventLog p w s).1.isOk = true

/-- The size of the event fits its header field, and the event leaves a byte of the area free. -/
def Roomy (p : Platform) (s : LogState) (w : TaggedWrite) : Prop :=
  w.event.length < 2 ^ 32 ∧ ∀ logSize, eventLogSize p.cc s.area = some logSize →
    logSize + CcEventHeader.size + w.event.length < s.area.length

/-- The area holds a spec-id event and unused bytes, and the registers are zero. -/
structure Fresh (p : Platform) (s : LogState) : Prop where
  area : ∃ spec rest, s.area = spec ++ rest ∧ IsSpecId p.cc spec ∧ rest ≠ [] ∧ Unused p.cc rest
  rtmrs : s.rtmrs = fun _ => Bytes.zero 48

def lastWritten (name : EventName) (ws : List TaggedWrite) : Option TaggedWrite :=
  (ws.filter fun w => taggedName w.taggedEventId = some name).getLast?

/-- The readers find in the log what was written: the replay of the returned slice gives the
registers, and the parser finds the last event of each tag with its digest. -/
structure Agrees (p : Platform) (s : LogState) (ws : List TaggedWrite) (slice : Octets) :
    Prop where
  returned : getEventLog p.cc s.area = .ok slice
  replay : replayEventLogWithReport p.sha384 p.cc .production slice s.rtmrs = .ok ()
  parse : ∃ map, parseEvents p.cc slice = .ok map ∧ ∀ name, name.byTag = true →
    (map name).map (fun e => (e.header.mrIndex, e.header.sha384.1)) =
      (lastWritten name ws).map fun w => (w.mrIndex, p.sha384 w.hashData)

/-- The area consists of the spec-id event, the events written so far and unused bytes. -/
structure Recorded (p : Platform) (s : LogState) (ms : List (Measured p.sha384)) : Prop where
  area : ∃ spec rest, s.area = spec ++ (((ms.map Measured.event).map eventBytes).flatten ++ rest) ∧
    IsSpecId p.cc spec ∧ rest ≠ [] ∧ Unused p.cc rest
  readable : ∀ e ∈ ms.map Measured.event, Readable e
  rtmrs : (ms.map Measured.event).foldlM (replayEvent p.sha384) (fun _ => Bytes.zero 48) =
    .ok s.rtmrs

section

variable {p : Platform}

theorem Fresh.recorded (h : Fresh p s) : Recorded p s [] := by
  obtain ⟨spec, rest, harea, hspec, hne, hunused⟩ := h.area
  refine ⟨⟨spec, rest, ?_, hspec, hne, hunused⟩, by simp, ?_⟩
  · simpa using harea
  · rw [h.rtmrs]
    rfl

theorem Unused.next {cc : CcMeasurement} (h : Unused cc rest) : cc.events.next rest = none :=
  h 0 (Nat.zero_le _)

private theorem splice_appends {used data : Octets} :
    splice (used ++ rest) used.length data = used ++ (data ++ rest.drop data.length) := by
  rw [splice, List.take_left, ← List.drop_drop, List.drop_left]

variable {ms : List (Measured p.sha384)}

theorem Recorded.write {w : TaggedWrite}
    (hreads : ReadsTagged p.cc) (hr : Recorded p s ms) (hok : Succeeds p s w) (hroom : Roomy p s w) :
    ∃ m : Measured p.sha384, m.write = w ∧ Recorded p (writeStep p s w) (ms ++ [m]) := by
  obtain ⟨n, hn⟩ := exists_ok_of_isOk hok
  obtain ⟨t, ht⟩ := run_of_result hn
  have hstep : writeStep p s w = t := by rw [writeStep, ht]
  obtain ⟨logSize, digest, i, hsize, hdigest, hi, hextend, -, harea⟩ := writeTaggedEventLog_ok ht
  obtain ⟨spec, rest, hbefore, hspec, hne, hunused⟩ := hr.area
  obtain ⟨hsmall, hspare⟩ := hroom
  let m : Measured p.sha384 := ⟨w, digest, hdigest⟩
  have hbytes : (w.eventHeader digest).asBytes ++ w.event = eventBytes m.event := rfl
  -- The write lands where the unused bytes start.
  have hend : logSize = (spec ++ ((ms.map Measured.event).map eventBytes).flatten).length := by
    have hcount := eventLogSize_encoded hreads hspec hr.readable hne hunused.next
    rw [← hbefore, hsize] at hcount
    exact Option.some.inj hcount
  have hafter : t.area = spec ++ (((ms ++ [m]).map Measured.event).map eventBytes).flatten ++
      rest.drop (eventBytes m.event).length := by
    rw [harea, hbytes, hbefore, ← List.append_assoc, hend, splice_appends]
    simp
  have hleft : rest.drop (eventBytes m.event).length ≠ [] := by
    have hlt := hspare logSize hsize
    rw [hbefore, ← List.append_assoc, List.length_append, ← hend] at hlt
    have hlen : (eventBytes m.event).length = CcEventHeader.size + w.event.length := by
      rw [← hbytes, List.length_append, asBytes_length]
    rw [Ne, List.drop_eq_nil_iff]
    omega
  refine ⟨m, rfl, ?_⟩
  rw [hstep]
  refine ⟨⟨spec, _, by rw [hafter, List.append_assoc], hspec, hleft, hunused.drop _⟩, ?_, ?_⟩
  · intro e he
    rw [List.map_append, List.mem_append] at he
    rcases he with he | he
    · exact hr.readable e he
    · obtain rfl := List.mem_singleton.mp he
      refine ⟨rfl, ?_⟩
      show (UInt32.ofNat w.event.length).toNat = w.event.length
      rw [UInt32.toNat_ofNat', Nat.mod_eq_of_lt hsmall]
  · rw [List.map_append, List.foldlM_append, hr.rtmrs]
    have hreplay : replayEvent p.sha384 s.rtmrs m.event = .ok t.rtmrs := by
      have hindex : rtmrIndex m.event.1.mrIndex = some i := hi
      rw [replayEvent, hindex]
      exact hextend
    show (replayEvent p.sha384 s.rtmrs m.event >>= pure) = _
    rw [hreplay]
    rfl

theorem recorded_run {start : LogState} {history : List (Visit LogState TaggedWrite)}
    (hreads : ReadsTagged p.cc) (hstart : Fresh p start) (hwalk : Walk (writeStep p) start history s)
    (hall : ∀ v ∈ history, Succeeds p v.before v.input ∧ Roomy p v.before v.input) :
    ∃ ms : List (Measured p.sha384), ms.map Measured.write = history.map Visit.input ∧
      Recorded p s ms := by
  induction hwalk with
  | nil => exact ⟨[], rfl, hstart.recorded⟩
  | @snoc t history walk w ih =>
    obtain ⟨ms, hms, hrec⟩ := ih fun v hv => hall v (List.mem_append_left _ hv)
    obtain ⟨hok, hroom⟩ := hall ⟨t, w, writeStep p t w⟩ (by simp)
    obtain ⟨m, hm, hafter⟩ := hrec.write hreads hok hroom
    refine ⟨ms ++ [m], ?_, hafter⟩
    simp [hms, hm]

theorem tagId_event (w : TaggedWrite) : tagId w.event = some w.taggedEventId := by
  have hlen : (putU32 w.taggedEventId).length = 4 := leBytes_length 4 _
  have htake : w.event.take 4 = putU32 w.taggedEventId := List.take_left' hlen
  have hmin : 4 ≤ w.event.length := by
    rw [TaggedWrite.event, List.length_append, hlen]
    omega
  have hvalue : leValue (putU32 w.taggedEventId) = w.taggedEventId.toNat :=
    leValue_leBytes 4 _ w.taggedEventId.toNat_lt
  rw [tagId, if_pos hmin, htake, hvalue, UInt32.ofNat_toNat]

variable {sha384 : Octets → Octets}

theorem isTagged_event (m : Measured sha384) (name : EventName) :
    IsTagged name m.event ↔ taggedName m.write.taggedEventId = some name := by
  have htag : tagId m.event.2 = some m.write.taggedEventId := tagId_event m.write
  simp only [IsTagged, htag, Option.bind_some]
  exact ⟨fun h => h.2, fun h => ⟨rfl, h⟩⟩

private theorem parseEvent_tagged (cc : CcMeasurement)
    (m : Measured sha384) (map : EventMap) : ∃ after, parseEvent cc map m.event = .ok after := by
  have hblob : m.event.1.eventType ≠ EV_EFI_PLATFORM_FIRMWARE_BLOB2 := by
    show EV_EVENT_TAG ≠ EV_EFI_PLATFORM_FIRMWARE_BLOB2
    decide
  have hflags : m.event.1.eventType ≠ EV_PLATFORM_CONFIG_FLAGS := by
    show EV_EVENT_TAG ≠ EV_PLATFORM_CONFIG_FLAGS
    decide
  have htype : m.event.1.eventType = EV_EVENT_TAG := rfl
  have htag : tagId m.event.2 = some m.write.taggedEventId := tagId_event m.write
  rw [parseEvent, if_neg hblob, if_neg hflags, if_pos htype, htag]
  cases htn : taggedName m.write.taggedEventId with
  | none => exact ⟨map, by simp only [htn]⟩
  | some name => exact ⟨map.insert name ⟨m.event.1, none⟩, by simp only [htn]⟩

theorem parse_measured (cc : CcMeasurement) (ms : List (Measured sha384)) (start : EventMap) :
    ∃ map, (ms.map Measured.event).foldlM (parseEvent cc) start = .ok map := by
  induction ms generalizing start with
  | nil => exact ⟨start, rfl⟩
  | cons m ms ih =>
    obtain ⟨mid, hmid⟩ := parseEvent_tagged cc m start
    obtain ⟨map, hmap⟩ := ih mid
    refine ⟨map, ?_⟩
    rw [List.map_cons, List.foldlM_cons, hmid]
    exact hmap

theorem last_measured (ms : List (Measured sha384)) (name : EventName) :
    ((ms.map Measured.event).filter (IsTagged name ·)).getLast?.map
        (fun e => (e.1.mrIndex, e.1.sha384.1)) =
      (lastWritten name (ms.map Measured.write)).map fun w => (w.mrIndex, sha384 w.hashData) := by
  have hfilter : (ms.map Measured.event).filter (IsTagged name ·) =
      (ms.filter fun m => taggedName m.write.taggedEventId = some name).map Measured.event := by
    rw [List.filter_map]
    congr 2
    funext m
    simp only [Function.comp_apply, isTagged_event]
  rw [hfilter, lastWritten, List.filter_map, List.getLast?_map, List.getLast?_map, Option.map_map,
    Option.map_map]
  congr 1
  funext m
  exact Prod.ext rfl m.measured

theorem Recorded.agrees (hreads : ReadsTagged p.cc) (hr : Recorded p s ms) :
    ∃ slice, Agrees p s (ms.map Measured.write) slice := by
  obtain ⟨spec, rest, harea, hspec, hne, hunused⟩ := hr.area
  let used := spec ++ ((ms.map Measured.event).map eventBytes).flatten
  have hsplit : s.area = used ++ rest := by rw [harea, List.append_assoc]
  have hsize : eventLogSize p.cc s.area = some used.length := by
    rw [harea]
    exact eventLogSize_encoded hreads hspec hr.readable hne hunused.next
  have hpos := List.length_pos_of_ne_nil hne
  have hlen : s.area.length = used.length + rest.length := by rw [hsplit, List.length_append]
  have hfit : used.length + 1 ≤ s.area.length := by omega
  have hslice : s.area.take (used.length + 1) = used ++ rest.take 1 := by
    rw [hsplit, List.take_length_add_append]
  have hone : rest.take 1 ≠ [] := by
    rw [Ne, List.take_eq_nil_iff]
    rintro (h | h)
    · cases h
    · exact hne h
  have hshort : p.cc.events.next (rest.take 1) = none := by
    refine hreads.short _ ?_
    rw [List.length_take]
    exact lt_of_le_of_lt (Nat.min_le_left _ _) (by decide)
  have hevents : eventsOf p.cc (used ++ rest.take 1) = some (ms.map Measured.event) := by
    rw [List.append_assoc]
    exact eventsOf_encoded hreads hspec hr.readable hone hshort
  refine ⟨used ++ rest.take 1, ?_, ?_, ?_⟩
  · rw [getEventLog, hsize]
    show (if used.length + 1 ≤ s.area.length then _ else _) = _
    rw [if_pos hfit, hslice]
  · rw [replayEventLogWithReport, hevents, orElse]
    show ((ms.map Measured.event).foldlM (replayEvent p.sha384) (fun _ => Bytes.zero 48) >>= _) = _
    rw [hr.rtmrs]
    show (if ∀ i, s.rtmrs i = s.rtmrs i then _ else _) = _
    rw [if_pos fun i => rfl]
  · obtain ⟨map, hmap⟩ := parse_measured p.cc ms fun _ => none
    have hparse : parseEvents p.cc (used ++ rest.take 1) = .ok map := by
      rw [parseEvents, hevents]
      exact hmap
    refine ⟨map, hparse, ?_⟩
    intro name hname
    obtain ⟨events, hevents', hentry⟩ := parseEvents_tagged hname hparse
    obtain rfl := Option.some.inj (hevents.symm.trans hevents')
    rw [hentry, Option.map_map, ← last_measured ms name]
    rfl

end

/-- In every run of successful writes that each leave room, the slice that `get_event_log`
returns replays to the registers and shows the last event of each tag. -/
theorem writer_reader_agree (p : Platform) (hreads : ReadsTagged p.cc)
    (start : LogState) (hstart : Fresh p start) (ws : List TaggedWrite)
    (hrun : ∀ v ∈ trace (writeStep p) start ws,
      Succeeds p v.before v.input ∧ Roomy p v.before v.input) :
    ∃ slice, Agrees p (ws.foldl (writeStep p) start) ws slice := by
  obtain ⟨ms, hms, hrec⟩ := recorded_run hreads hstart (walk_trace start ws) hrun
  have hinputs : (trace (writeStep p) start ws).map Visit.input = ws := trace_inputs start ws
  have hagrees := hrec.agrees hreads
  rwa [hms, hinputs] at hagrees

def samplePlatform : Platform where
  cc := packed [] [1] [2]
  sha384 := lastBytes
  extendRefused _ _ _ := none

def sampleArea (room : Nat) : LogState := ⟨List.replicate (32 + room) 0, fun _ => Bytes.zero 48⟩

def samplePolicyWrite : TaggedWrite := ⟨MR_INDEX_POLICY, [7], TAGGED_EVENT_ID_POLICY, []⟩

theorem packed_readsTagged {blob2Payload secureAuthority svn : Octets} :
    ReadsTagged (packed blob2Payload secureAuthority svn) := by
  constructor
  · rintro e tail ⟨htype, hsize⟩ htail
    have hread : CcEventHeader.layout (eventBytes e ++ tail) = some (e.1, e.2 ++ tail) := by
      rw [eventBytes, List.append_assoc]
      exact decodes_layout e.1 (e.2 ++ tail)
    have hpos := List.length_pos_of_ne_nil htail
    have hlen : CcEventHeader.size + e.2.length < (eventBytes e ++ tail).length := by
      simp only [eventBytes, List.length_append, asBytes_length]
      omega
    have htag : ¬EV_EVENT_TAG = 0 := by decide
    change nextPacked _ = _
    rw [nextPacked, hread]
    simp only [htype, htag, hsize, hlen, if_false, if_true, List.take_left, List.drop_left]
  · intro bytes h
    change nextPacked bytes = none
    unfold nextPacked
    split
    · rfl
    · rename_i header rest hread
      have hlen := consumes_layout _ _ _ hread
      omega

theorem sampleArea_fresh {room : Nat} (hne : List.replicate room (0 : UInt8) ≠ [])
    (hunused : Unused samplePlatform.cc (List.replicate room 0)) :
    Fresh samplePlatform (sampleArea room) := by
  refine ⟨⟨List.replicate 32 0, List.replicate room 0, ?_, fun tail => ?_, hne, hunused⟩, rfl⟩
  · exact List.replicate_add 32 room 0
  · have hlong : 32 ≤ (List.replicate 32 0 ++ tail).length := by simp
    change (if 32 ≤ (List.replicate 32 0 ++ tail).length then _ else none) = _
    rw [if_pos hlong]
    rfl

/-- The check that the slice of a state replays to its registers. -/
def replays (p : Platform) (s : LogState) : Bool :=
  match getEventLog p.cc s.area with
  | .ok slice => (replayEventLogWithReport p.sha384 p.cc .production slice s.rtmrs).isOk
  | .error _ => false

theorem Agrees.replays {p : Platform} {ws : List TaggedWrite}
    {slice : Octets} (h : Agrees p s ws slice) : replays p s = true := by
  rw [EventWriter.replays, h.returned]
  show (replayEventLogWithReport p.sha384 p.cc .production slice s.rtmrs).isOk = true
  rw [h.replay]
  rfl

/-- An event that fills the area is written and then not read. -/
theorem filling_event_dropped : Fresh samplePlatform (sampleArea 74) ∧
      Succeeds samplePlatform (sampleArea 74) samplePolicyWrite ∧
      ¬∃ slice, Agrees samplePlatform (writeStep samplePlatform (sampleArea 74) samplePolicyWrite)
        [samplePolicyWrite] slice := by
  refine ⟨sampleArea_fresh (by decide) (by decide +kernel), by unfold Succeeds; decide +kernel, ?_⟩
  have hno : replays samplePlatform
      (writeStep samplePlatform (sampleArea 74) samplePolicyWrite) = false := by decide +kernel
  intro ⟨slice, h⟩
  rw [h.replays] at hno
  cases hno

/-- With one byte more the same event is found again. -/
theorem writer_reader_agree_policy : Fresh samplePlatform (sampleArea 75) ∧
      ∃ slice, Agrees samplePlatform (writeStep samplePlatform (sampleArea 75) samplePolicyWrite)
        [samplePolicyWrite] slice := by
  have hfresh : Fresh samplePlatform (sampleArea 75) :=
    sampleArea_fresh (by decide) (by decide +kernel)
  refine ⟨hfresh, writer_reader_agree samplePlatform packed_readsTagged _ hfresh [samplePolicyWrite] ?_⟩
  intro v hv
  obtain rfl := List.mem_singleton.mp hv
  refine ⟨by unfold Succeeds; decide +kernel, by decide, ?_⟩
  have hsize : eventLogSize samplePlatform.cc (sampleArea 75).area = some 32 := by decide +kernel
  intro logSize h
  obtain rfl := Option.some.inj (hsize.symm.trans h)
  decide +kernel

end MigTd.Measurement.EventWriter
