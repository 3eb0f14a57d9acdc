/- source: migtd/src/event_log.rs
   digest: Which logs the replay accepts, and that the registers fix the digests of the log. -/

import MigTd.Lib.HashChain
import MigTd.Measurement.EventLog

set_option autoImplicit false

namespace MigTd.Measurement.Replay

open Lib.ByteCodec Lib.HashChain Lib.StateProgram EventLog

variable {sha384 : Octets → Octets} {cc : CcMeasurement}

theorem rtmrIndex_some {mrIndex : UInt32} :
    (∃ i, rtmrIndex mrIndex = some i) ↔ 1 ≤ mrIndex.toNat ∧ mrIndex.toNat ≤ 4 := by
  unfold rtmrIndex
  split
  · rename_i h
    simp [h]
  · rename_i h
    simp [h]

private theorem exists_extended (hlen : ∀ data, (sha384 data).length = 48) (rtmrs : Rtmrs)
    (i : Fin 4) (digest : Bytes 48) : ∃ after, extended sha384 rtmrs i digest = .ok after := by
  have hvalue : calculateDigest sha384 ((rtmrs i).1 ++ digest.1) = .ok ⟨_, hlen _⟩ :=
    calculateDigest_ok.mpr rfl
  exact ⟨_, except_bind_ok.mpr ⟨_, hvalue, rfl⟩⟩

variable {events : List Event}

theorem exists_replayed (hlen : ∀ data, (sha384 data).length = 48)
    (h : ∀ e ∈ events, ∃ i, rtmrIndex e.1.mrIndex = some i) (start : Rtmrs) :
    ∃ after, events.foldlM (replayEvent sha384) start = .ok after := by
  induction events generalizing start with
  | nil => exact ⟨start, rfl⟩
  | cons e rest ih =>
    rw [List.forall_mem_cons] at h
    obtain ⟨⟨i, hi⟩, hrest⟩ := h
    obtain ⟨mid, hmid⟩ := exists_extended hlen start i e.1.sha384
    have hstep : replayEvent sha384 start e = .ok mid := by
      rw [replayEvent, hi]
      exact hmid
    obtain ⟨after, hafter⟩ := ih hrest mid
    exact ⟨after, by rw [List.foldlM_cons, except_bind_ok]; exact ⟨mid, hstep, hafter⟩⟩

/-- A log is replayed to the registers: its events name registers, and each register is the hash
chain of the digests recorded under it. -/
structure ReplaysTo (sha384 : Octets → Octets) (events : List Event) (rtmrs : Rtmrs) :
    Prop where
  indices : ∀ e ∈ events, 1 ≤ e.1.mrIndex.toNat ∧ e.1.mrIndex.toNat ≤ 4
  registers : ∀ i, (rtmrs i).1 = hashChain sha384 (Bytes.zero 48).1 (registerDigests events i)

variable {rtmrs : Rtmrs}

theorem replayed_iff (hlen : ∀ data, (sha384 data).length = 48) :
    events.foldlM (replayEvent sha384) (fun _ => Bytes.zero 48) = .ok rtmrs ↔
      ReplaysTo sha384 events rtmrs := by
  constructor
  · intro h
    obtain ⟨hindices, hregisters⟩ := replay_ok h
    exact ⟨fun e he => rtmrIndex_some.mp (hindices e he), hregisters⟩
  · rintro ⟨hindices, hregisters⟩
    obtain ⟨after, hafter⟩ :=
      exists_replayed hlen (fun e he => rtmrIndex_some.mpr (hindices e he)) fun _ => Bytes.zero 48
    have hsame : after = rtmrs := by
      funext i
      apply Subtype.ext
      rw [hregisters i, (replay_ok hafter).2 i]
    rw [hafter, hsame]

theorem verifyEventLog_iff (hlen : ∀ data, (sha384 data).length = 48) {log : Octets} :
    verifyEventLog sha384 cc .production log rtmrs = .ok () ↔
      ∃ events, eventsOf cc log = some events ∧ ReplaysTo sha384 events rtmrs := by
  unfold verifyEventLog replayEventLogWithReport
  simp only [except_bind_ok, orElse_ok]
  constructor
  · rintro ⟨events, hevents, replayed, hreplay, h⟩
    refine ⟨events, hevents, ?_⟩
    have hsame : ∀ i, rtmrs i = replayed i := by
      by_contra hne
      rw [if_neg hne] at h
      simp [MockFeatures.production] at h
    rw [funext hsame]
    exact (replayed_iff hlen).mp hreplay
  · rintro ⟨events, hevents, hreplays⟩
    refine ⟨events, hevents, rtmrs, (replayed_iff hlen).mpr hreplays, ?_⟩
    rw [if_pos fun i => rfl]

def hashedData (sha384 : Octets → Octets) (events : List Event) (i : Fin 4) :
    List Octets :=
  (chainInputs (fun value digest => sha384 (value ++ digest.1)) (Bytes.zero 48).1
    (registerDigests events i)).map fun x => x.1 ++ x.2.1

/-- The hash has no collision among these data and sends none of them to zero. -/
structure Separates (sha384 : Octets → Octets) (data : Set Octets) : Prop where
  injOn : Set.InjOn sha384 data
  nonzero : ∀ d ∈ data, sha384 d ≠ (Bytes.zero 48).1

def hashedInBoth (sha384 : Octets → Octets) (events events' : List Event) :
    Set Octets :=
  {d | ∃ i, d ∈ hashedData sha384 events i ∨ d ∈ hashedData sha384 events' i}

theorem Separates.collisionFree {data : Set Octets} (h : Separates sha384 data) :
    CollisionFree (fun value (digest : Bytes 48) => sha384 (value ++ digest.1)) (Bytes.zero 48).1
      {x | x.1 ++ x.2.1 ∈ data} where
  injOn := by
    rintro ⟨value, digest⟩ hx ⟨value', digest'⟩ hy heq
    have hdata : value ++ digest.1 = value' ++ digest'.1 := h.injOn hx hy heq
    have hlen : digest.1.length = digest'.1.length := by rw [digest.2, digest'.2]
    obtain ⟨hvalue, hdigest⟩ := List.append_inj' hdata hlen
    rw [hvalue, Subtype.ext hdigest]
  fresh x hx := h.nonzero _ hx

theorem registerDigests_eq {events' : List Event}
    (h : Separates sha384 (hashedInBoth sha384 events events'))
    (hreplay : ReplaysTo sha384 events rtmrs) (hreplay' : ReplaysTo sha384 events' rtmrs)
    (i : Fin 4) : registerDigests events i = registerDigests events' i := by
  apply h.collisionFree.items_eq
  · intro x hx
    exact ⟨i, .inl (List.mem_map_of_mem hx)⟩
  · intro x hx
    exact ⟨i, .inr (List.mem_map_of_mem hx)⟩
  · exact (hreplay.registers i).symm.trans (hreplay'.registers i)

/-- The production build accepts precisely the logs that replay to the reported registers, and
two logs accepted for the same registers record the same digests under each of them. -/
theorem event_log_replay_sound (sha384 : Octets → Octets)
    (hlen : ∀ data, (sha384 data).length = 48) (cc : CcMeasurement) :
    (∀ (log : Octets) (rtmrs : Rtmrs), verifyEventLog sha384 cc .production log rtmrs = .ok () ↔
        ∃ events, eventsOf cc log = some events ∧ ReplaysTo sha384 events rtmrs) ∧
    ∀ (log log' : Octets) (rtmrs : Rtmrs) (events events' : List Event),
      verifyEventLog sha384 cc .production log rtmrs = .ok () →
      verifyEventLog sha384 cc .production log' rtmrs = .ok () →
      eventsOf cc log = some events → eventsOf cc log' = some events' →
      Separates sha384 (hashedInBoth sha384 events events') →
      ∀ i, registerDigests events i = registerDigests events' i := by
  refine ⟨fun log rtmrs => verifyEventLog_iff hlen, ?_⟩
  intro log log' rtmrs events events' h h' hevents hevents' hsep i
  obtain ⟨_, hread, hreplay⟩ := (verifyEventLog_iff hlen).mp h
  obtain ⟨_, hread', hreplay'⟩ := (verifyEventLog_iff hlen).mp h'
  obtain rfl := Option.some.inj (hevents.symm.trans hread)
  obtain rfl := Option.some.inj (hevents'.symm.trans hread')
  exact registerDigests_eq hsep hreplay hreplay' i

def replayCc : CcMeasurement := packed [] [] []

def replayEntry (mrIndex : UInt32) (value : UInt8) : Event :=
  (⟨mrIndex, EV_EVENT_TAG, 1, TPML_ALG_SHA384, ⟨List.replicate 48 value, by simp⟩, 0⟩, [])

def replayLog (events : List Event) : Octets :=
  List.replicate 32 0 ++ ((events.map fun e => e.1.asBytes).flatten ++ [0])

def replayRtmrs : Rtmrs
  | 0 => ⟨List.replicate 48 1, by simp⟩
  | 1 => ⟨List.replicate 48 2, by simp⟩
  | 2 => Bytes.zero 48
  | 3 => Bytes.zero 48

theorem event_log_replay_sound_interleaved :
    Separates lastBytes (hashedInBoth lastBytes [replayEntry 1 1, replayEntry 2 2]
      [replayEntry 2 2, replayEntry 1 1]) ∧
    ∀ i, registerDigests [replayEntry 1 1, replayEntry 2 2] i =
      registerDigests [replayEntry 2 2, replayEntry 1 1] i := by
  have hsep : Separates lastBytes (hashedInBoth lastBytes [replayEntry 1 1, replayEntry 2 2]
      [replayEntry 2 2, replayEntry 1 1]) := by
    have hsame : ∀ i, hashedData lastBytes [replayEntry 2 2, replayEntry 1 1] i =
        hashedData lastBytes [replayEntry 1 1, replayEntry 2 2] i := by decide +kernel
    have hinj : ∀ i, ∀ d ∈ hashedData lastBytes [replayEntry 1 1, replayEntry 2 2] i,
        lastBytes d ≠ (Bytes.zero 48).1 ∧
          ∀ j, ∀ d' ∈ hashedData lastBytes [replayEntry 1 1, replayEntry 2 2] j,
            lastBytes d = lastBytes d' → d = d' := by decide +kernel
    constructor
    · rintro d ⟨i, hd⟩ d' ⟨j, hd'⟩ heq
      rw [hsame, or_self] at hd hd'
      exact (hinj i d hd).2 j d' hd' heq
    · rintro d ⟨i, hd⟩
      rw [hsame, or_self] at hd
      exact (hinj i d hd).1
  refine ⟨hsep, (event_log_replay_sound lastBytes lastBytes_length replayCc).2
    (replayLog [replayEntry 1 1, replayEntry 2 2]) (replayLog [replayEntry 2 2, replayEntry 1 1])
    replayRtmrs _ _ ?_ ?_ ?_ ?_ hsep⟩ <;> decide +kernel

end MigTd.Measurement.Replay
