/- source: migtd/src/event_log.rs, policy/src/lib.rs
   digest: The confidential-computing event log: reader, parser and replay. -/

import MigTd.Lib.Ascii
import MigTd.Lib.Framing
import MigTd.Lib.StateProgram
import MigTd.Migration.Information

set_option autoImplicit false

namespace MigTd.Measurement.EventLog

open Lib.ByteCodec Lib.Framing Lib.StateProgram Migration.Information

/-- The features under which quotes and registers are not genuine. -/
structure MockFeatures where
  azCvmEmu : Bool
  useMockQuote : Bool
  testMockReport : Bool
  deriving DecidableEq

def MockFeatures.production : MockFeatures := ⟨false, false, false⟩

def EV_EVENT_TAG : UInt32 := 0x00000006
def EV_PLATFORM_CONFIG_FLAGS : UInt32 := 0x0000000A
def EV_EFI_PLATFORM_FIRMWARE_BLOB2 : UInt32 := 0x8000000A

def TAGGED_EVENT_ID_POLICY : UInt32 := 0x1
def TAGGED_EVENT_ID_ROOT_CA : UInt32 := 0x2
def TAGGED_EVENT_ID_POLICY_ISSUER_CHAIN : UInt32 := 0x3

def MR_INDEX_POLICY_ISSUER_CHAIN : UInt32 := 0x2
def MR_INDEX_POLICY : UInt32 := 0x3
def MR_INDEX_ROOT_CA : UInt32 := 0x3

def TPML_ALG_SHA384 : UInt16 := 0xC

/-- The packed header, with the one digest that it carries. -/
structure CcEventHeader where
  mrIndex : UInt32
  eventType : UInt32
  count : UInt32
  hashAlg : UInt16
  sha384 : Bytes 48
  eventSize : UInt32
  deriving DecidableEq

namespace CcEventHeader

def size : Nat := 66

def asBytes (h : CcEventHeader) : Octets :=
  putU32 h.mrIndex ++ (putU32 h.eventType ++ (putU32 h.count ++ (putU16 h.hashAlg ++
    (h.sha384.1 ++ putU32 h.eventSize))))

end CcEventHeader

abbrev Event := CcEventHeader × Octets

structure CcEventLogReader where
  specIdSize : Nat
  ccEvents : Octets

/-- What the measurement library and td-shim decide. -/
structure CcMeasurement where
  /-- `CcEventLogReader::new`, which takes off the spec-id event. -/
  openLog : Octets → Option CcEventLogReader
  /-- `CcEvents`, the iterator over the events behind it. -/
  events : ItemReader Event
  platformFirmwareBlob2Payload : Octets
  platformConfigSecureAuthority : Octets
  platformConfigSvn : Octets

section

variable (cc : CcMeasurement)

def eventsOf (log : Octets) : Option (List Event) :=
  (cc.openLog log).map fun reader => cc.events.items reader.ccEvents

def eventLogSize (log : Octets) : Option Nat := do
  let reader ← cc.openLog log
  let events := cc.events.items reader.ccEvents
  return events.foldl (fun size e => size + (CcEventHeader.size + e.1.eventSize.toNat))
    reader.specIdSize

/-- The used part of the log area and one byte more, which makes the last event visible. The
slice panics when the area has no further byte. -/
def getEventLog (area : Octets) : Except (Stop Unit) Octets :=
  match eventLogSize cc area with
  | none => .error (.failed ())
  | some size => if size + 1 ≤ area.length then .ok (area.take (size + 1)) else .error .panicked

end

inductive EventName where
  | tdShim
  | secureBootKey
  | migTdCore
  | migTdCoreSvn
  | migTdPolicy
  | sgxRootKey
  | migTdPolicySigner
  | unknown
  deriving DecidableEq

structure CcEvent where
  header : CcEventHeader
  data : Option Octets
  deriving DecidableEq

abbrev EventMap := EventName → Option CcEvent

def EventMap.insert (map : EventMap) (name : EventName) (event : CcEvent) : EventMap :=
  fun n => if n = name then some event else map n

def taggedName (tagId : UInt32) : Option EventName :=
  if tagId = TAGGED_EVENT_ID_POLICY then some .migTdPolicy
  else if tagId = TAGGED_EVENT_ID_ROOT_CA then some .sgxRootKey
  else if tagId = TAGGED_EVENT_ID_POLICY_ISSUER_CHAIN then some .migTdPolicySigner
  else none

def tagId (data : Octets) : Option UInt32 :=
  if 4 ≤ data.length then some (UInt32.ofNat (leValue (data.take 4))) else none

section

variable (cc : CcMeasurement)

/-- The body of the loop in `parse_events`. -/
def parseEvent (map : EventMap) (e : Event) : Except (Stop Unit) EventMap :=
  if e.1.eventType = EV_EFI_PLATFORM_FIRMWARE_BLOB2 then
    match e.2 with
    -- The index expression `event_data[0]` has no fallback.
    | [] => .error .panicked
    | descSize :: rest =>
      if rest.length < descSize.toNat then .error (.failed ())
      else if rest.take descSize.toNat = cc.platformFirmwareBlob2Payload then
        .ok (map.insert .migTdCore ⟨e.1, none⟩)
      else .ok map
  else if e.1.eventType = EV_PLATFORM_CONFIG_FLAGS then
    if cc.platformConfigSecureAuthority.isPrefixOf e.2 then
      .ok (map.insert .secureBootKey ⟨e.1, none⟩)
    else if cc.platformConfigSvn.isPrefixOf e.2 then
      let infoSize := leValue ((e.2.drop 16).take 4)
      if e.2.length < 20 then .error (.failed ())
      else if e.2.length < 20 + infoSize then .error (.failed ())
      else .ok (map.insert .migTdCoreSvn ⟨e.1, some ((e.2.drop 20).take infoSize)⟩)
    else .ok map
  else if e.1.eventType = EV_EVENT_TAG then
    match tagId e.2 with
    | none => .error (.failed ())
    | some tag => match taggedName tag with
      | some name => .ok (map.insert name ⟨e.1, none⟩)
      | none => .ok map
  else .ok map

/-- Later events replace earlier ones of the same name. -/
def parseEvents (log : Octets) : Except (Stop Unit) EventMap :=
  match eventsOf cc log with
  | none => .error (.failed ())
  | some events => events.foldlM (parseEvent cc) fun _ => none

end

def IsTagged (name : EventName) (e : Event) : Prop :=
  e.1.eventType = EV_EVENT_TAG ∧ (tagId e.2).bind taggedName = some name
  deriving Decidable

/-- The names that only tagged events are stored under. -/
def EventName.byTag : EventName → Bool
  | migTdPolicy | sgxRootKey | migTdPolicySigner => true
  | _ => false

section

variable {cc : CcMeasurement} {name : EventName}

theorem parseEvent_entry {map after : EventMap} {e : Event}
    (hname : name.byTag = true) (h : parseEvent cc map e = .ok after) :
    after name = if IsTagged name e then some ⟨e.1, none⟩ else map name := by
  have hne : name ≠ .migTdCore ∧ name ≠ .secureBootKey ∧ name ≠ .migTdCoreSvn := by
    refine ⟨?_, ?_, ?_⟩ <;> rintro rfl <;> cases hname
  have htag : EV_EVENT_TAG ≠ EV_EFI_PLATFORM_FIRMWARE_BLOB2 ∧
      EV_EVENT_TAG ≠ EV_PLATFORM_CONFIG_FLAGS := by decide
  unfold parseEvent at h
  split_ifs at h with hblob hflags hauth hsvn hshort htype
  · -- Firmware blobs are stored under their own name.
    have hno : ¬IsTagged name e := fun ht => htag.1 (ht.1.symm.trans hblob)
    rw [if_neg hno]
    split at h
    · cases h
    · split_ifs at h <;> cases h
      · simp [EventMap.insert, hne.1]
      · rfl
  · cases h
    have hno : ¬IsTagged name e := fun ht => htag.2 (ht.1.symm.trans hflags)
    simp [EventMap.insert, hne.2.1, hno]
  · have hno : ¬IsTagged name e := fun ht => htag.2 (ht.1.symm.trans hflags)
    rw [if_neg hno]
    dsimp only at h
    split_ifs at h
    cases h
    simp [EventMap.insert, hne.2.2]
  · cases h
    have hno : ¬IsTagged name e := fun ht => htag.2 (ht.1.symm.trans hflags)
    rw [if_neg hno]
  · cases htagId : tagId e.2 with
    | none => simp [htagId] at h
    | some tag =>
      simp only [htagId] at h
      cases hnm : taggedName tag with
      | none =>
        simp only [hnm] at h
        cases h
        simp [IsTagged, htagId, hnm]
      | some stored =>
        simp only [hnm] at h
        cases h
        by_cases hs : name = stored
        · simp [IsTagged, htype, htagId, hnm, hs, EventMap.insert]
        · simp [IsTagged, htagId, hnm, hs, Ne.symm hs, EventMap.insert]
  · cases h
    have hno : ¬IsTagged name e := fun ht => htype ht.1
    rw [if_neg hno]

theorem parse_entry {events : List Event} {start map : EventMap}
    (hname : name.byTag = true) (h : events.foldlM (parseEvent cc) start = .ok map) :
    map name = ((events.filter (IsTagged name ·)).getLast?.map fun e => ⟨e.1, none⟩).or
      (start name) := by
  induction events generalizing start with
  | nil =>
    cases h
    rfl
  | cons e rest ih =>
    rw [List.foldlM_cons, except_bind_ok] at h
    obtain ⟨mid, hstep, hrest⟩ := h
    rw [ih hrest, parseEvent_entry hname hstep]
    by_cases ht : IsTagged name e
    · rw [if_pos ht, List.filter_cons_of_pos (by simpa using ht), List.getLast?_cons]
      cases (rest.filter (IsTagged name ·)).getLast? <;> rfl
    · rw [if_neg ht, List.filter_cons_of_neg (by simpa using ht)]

theorem parseEvents_tagged {log : Octets} {map : EventMap}
    (hname : name.byTag = true) (h : parseEvents cc log = .ok map) :
    ∃ events, eventsOf cc log = some events ∧
      map name = (events.filter (IsTagged name ·)).getLast?.map fun e => ⟨e.1, none⟩ := by
  unfold parseEvents at h
  cases hevents : eventsOf cc log with
  | none => simp [hevents] at h
  | some events =>
    rw [hevents] at h
    refine ⟨events, rfl, ?_⟩
    rw [parse_entry hname h, Option.or_none]

end

abbrev Rtmrs := Fin 4 → Bytes 48

/-- `mr_index` counts the registers from one. -/
def rtmrIndex (mrIndex : UInt32) : Option (Fin 4) :=
  if h : 1 ≤ mrIndex.toNat ∧ mrIndex.toNat ≤ 4 then some ⟨mrIndex.toNat - 1, by omega⟩ else none

section

variable (sha384 : Octets → Octets)

def calculateDigest (hashData : Octets) : Except String (Bytes 48) :=
  match h : digestSha384 sha384 hashData with
  | .ok digest => .ok ⟨digest, (digestSha384_ok h).2⟩
  | .error _ => .error "Calculate digest"

def extended (rtmrs : Rtmrs) (i : Fin 4) (digest : Bytes 48) : Except String Rtmrs := do
  let value ← calculateDigest sha384 ((rtmrs i).1 ++ digest.1)
  return Function.update rtmrs i value

/-- The body of the loop in `replay_event_log_with_report`. -/
def replayEvent (rtmrs : Rtmrs) (e : Event) : Except String Rtmrs :=
  match rtmrIndex e.1.mrIndex with
  | none => .error "Invalid event log"
  | some i => extended sha384 rtmrs i e.1.sha384

def replayEventLogWithReport (cc : CcMeasurement) (features : MockFeatures) (log : Octets)
    (reportRtmrs : Rtmrs) : Except String Unit := do
  let events ← orElse (eventsOf cc log) "Invalid event log"
  let rtmrs ← events.foldlM (replayEvent sha384) fun _ => Bytes.zero 48
  if ∀ i, reportRtmrs i = rtmrs i then .ok ()
  else if features.azCvmEmu || features.useMockQuote then .ok ()
  else .error "Invalid event log"

def verifyEventLog (cc : CcMeasurement) (features : MockFeatures) (log : Octets)
    (reportRtmrs : Rtmrs) : Except String Unit :=
  replayEventLogWithReport sha384 cc features log reportRtmrs

end

def registerDigests (events : List Event) (i : Fin 4) : List (Bytes 48) :=
  (events.filter fun e => rtmrIndex e.1.mrIndex = some i).map fun e => e.1.sha384

def hashChain (sha384 : Octets → Octets) (start : Octets) (digests : List (Bytes 48)) :
    Octets :=
  digests.foldl (fun value digest => sha384 (value ++ digest.1)) start

section

variable {sha384 : Octets → Octets} {cc : CcMeasurement}

theorem calculateDigest_ok {data : Octets} {d : Bytes 48} :
    calculateDigest sha384 data = .ok d ↔ d.1 = sha384 data := by
  unfold calculateDigest
  split
  · rename_i digest h
    rw [Except.ok.injEq, Subtype.ext_iff, ← (digestSha384_ok h).1]
    exact eq_comm
  · rename_i e h
    simp only [reduceCtorEq, false_iff]
    intro hd
    have hlen : (sha384 data).length = SHA384_DIGEST_SIZE := hd ▸ d.2
    simp [digestSha384, hlen] at h

theorem extended_ok {rtmrs after : Rtmrs} {i : Fin 4} {digest : Bytes 48} :
    extended sha384 rtmrs i digest = .ok after ↔
      (after i).1 = sha384 ((rtmrs i).1 ++ digest.1) ∧ ∀ j ≠ i, after j = rtmrs j := by
  unfold extended
  rw [except_bind_ok]
  constructor
  · rintro ⟨value, hvalue, h⟩
    cases h
    rw [Function.update_self]
    refine ⟨calculateDigest_ok.mp hvalue, fun j hj => Function.update_of_ne hj _ _⟩
  · rintro ⟨hi, hrest⟩
    refine ⟨after i, calculateDigest_ok.mpr hi, ?_⟩
    congr 1
    funext j
    by_cases hj : j = i
    · rw [hj, Function.update_self]
    · rw [Function.update_of_ne hj, hrest j hj]

theorem replay_ok {events : List Event} {start after : Rtmrs}
    (h : events.foldlM (replayEvent sha384) start = .ok after) :
    (∀ e ∈ events, ∃ i, rtmrIndex e.1.mrIndex = some i) ∧
      ∀ i, (after i).1 = hashChain sha384 (start i).1 (registerDigests events i) := by
  induction events generalizing start with
  | nil =>
    cases h
    exact ⟨by simp, fun i => rfl⟩
  | cons e rest ih =>
    rw [List.foldlM_cons, except_bind_ok] at h
    obtain ⟨mid, hstep, hrest⟩ := h
    obtain ⟨hvalid, hchain⟩ := ih hrest
    unfold replayEvent at hstep
    cases hi : rtmrIndex e.1.mrIndex with
    | none => simp [hi] at hstep
    | some k =>
      rw [hi] at hstep
      obtain ⟨hk, hother⟩ := extended_ok.mp hstep
      refine ⟨?_, ?_⟩
      · rintro e' he'
        rcases List.mem_cons.mp he' with rfl | he'
        · exact ⟨k, hi⟩
        · exact hvalid e' he'
      · intro i
        rw [hchain i]
        by_cases hik : i = k
        · subst hik
          have hd : registerDigests (e :: rest) i = e.1.sha384 :: registerDigests rest i := by
            simp [registerDigests, hi]
          rw [hd, hk]
          rfl
        · have hd : registerDigests (e :: rest) i = registerDigests rest i := by
            simp [registerDigests, hi, Ne.symm hik]
          rw [hd, hother i hik]

theorem verifyEventLog_ok {log : Octets} {rtmrs : Rtmrs}
    (h : verifyEventLog sha384 cc .production log rtmrs = .ok ()) :
    ∃ events, eventsOf cc log = some events ∧
      ∀ i, (rtmrs i).1 = hashChain sha384 (Bytes.zero 48).1 (registerDigests events i) := by
  unfold verifyEventLog replayEventLogWithReport at h
  rw [except_bind_ok] at h
  obtain ⟨events, hevents, h⟩ := h
  rw [except_bind_ok] at h
  obtain ⟨replayed, hreplay, h⟩ := h
  have hsame : ∀ i, rtmrs i = replayed i := by
    by_contra hne
    rw [if_neg hne] at h
    simp [MockFeatures.production] at h
  refine ⟨events, orElse_ok.mp hevents, ?_⟩
  intro i
  rw [hsame i]
  exact (replay_ok hreplay).2 i

end

/-- The last 48 bytes, with zeroes in front of shorter data: a hash to evaluate samples with. -/
def lastBytes (data : Octets) : Octets := (List.replicate 48 0 ++ data).drop data.length

theorem lastBytes_length (data : Octets) : (lastBytes data).length = 48 := by
  rw [lastBytes, List.length_drop, List.length_append, List.length_replicate]
  omega

/-! Packed logs: one reader of the kind that the library provides. -/

def CcEventHeader.layout : Decoder CcEventHeader := do
  return {
    mrIndex := ← u32
    eventType := ← u32
    count := ← u32
    hashAlg := ← u16
    sha384 := ← array 48
    eventSize := ← u32 }

/-- Zeroes are unused space, and an event counts only when it ends before the remaining bytes do. -/
def nextPacked (bytes : Octets) : Option (Event × Octets) :=
  match CcEventHeader.layout bytes with
  | none => none
  | some (header, rest) =>
    if header.eventType = 0 then none
    else if CcEventHeader.size + header.eventSize.toNat < bytes.length then
      some ((header, rest.take header.eventSize.toNat), rest.drop header.eventSize.toNat)
    else none

theorem decodes_layout (h : CcEventHeader) : Decodes CcEventHeader.layout h h.asBytes := by
  unfold CcEventHeader.layout CcEventHeader.asBytes
  refine (decodes_u32 h.mrIndex).bind ?_
  refine (decodes_u32 h.eventType).bind ?_
  refine (decodes_u32 h.count).bind ?_
  refine (decodes_u16 h.hashAlg).bind ?_
  refine (decodes_array h.sha384).bind ?_
  exact (decodes_u32 h.eventSize).last _

theorem consumes_layout : Consumes CcEventHeader.layout CcEventHeader.size := by
  unfold CcEventHeader.layout
  refine consumes_u32.bind (n := 62) (fun _ => ?_) rfl
  refine consumes_u32.bind (n := 58) (fun _ => ?_) rfl
  refine consumes_u32.bind (n := 54) (fun _ => ?_) rfl
  refine consumes_u16.bind (n := 52) (fun _ => ?_) rfl
  refine (consumes_array 48).bind (n := 4) (fun _ => ?_) rfl
  exact consumes_u32.bind (fun _ => consumes_pure _) rfl

def packedEvents : ItemReader Event where
  next := nextPacked
  shrinks := by
    intro bytes e rest h
    unfold nextPacked at h
    split at h
    · cases h
    · rename_i header body hl
      have hlen := consumes_layout _ _ _ hl
      split_ifs at h
      cases h
      rw [List.length_drop]
      simp only [CcEventHeader.size] at hlen
      omega

/-- Any 32 bytes are taken for the spec-id event. -/
def packed (blob2Payload secureAuthority svn : Octets) : CcMeasurement where
  openLog log := if 32 ≤ log.length then some ⟨32, log.drop 32⟩ else none
  events := packedEvents
  platformFirmwareBlob2Payload := blob2Payload
  platformConfigSecureAuthority := secureAuthority
  platformConfigSvn := svn

end MigTd.Measurement.EventLog
