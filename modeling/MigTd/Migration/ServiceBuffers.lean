/- source: data.rs
   digest: The command buffer over sequences of writes, and reads of a response. -/

import MigTd.Lib.Slices
import MigTd.Migration.Requests

set_option autoImplicit false

namespace MigTd.Migration.ServiceBuffers

open Lib.ByteCodec Lib.Slices Lib.StateProgram Information Requests

def COMMAND_HEADER_LENGTH : Nat := 24

structure VmcallServiceCommand where
  data : Octets
  offset : Nat
  deriving DecidableEq

namespace VmcallServiceCommand

/-- `VmcallServiceCommand::new`; a failure is `None`. -/
def new (data : Octets) (guid : Bytes 16) : Except (Stop Unit) VmcallServiceCommand := do
  require (COMMAND_HEADER_LENGTH ≤ data.length) (.failed ())
  let data := List.replicate data.length 0
  let data ← copyAt data 0 16 guid.1
  let data ← copyAt data 16 20 (putU32 24)
  let data ← copyAt data 20 24 (putU32 0)
  return ⟨data, 24⟩

def copy (start stop : Nat) (bytes : Octets) :
    Program VmcallServiceCommand (Stop MigrationResult) Unit := do
  let data ← observe VmcallServiceCommand.data
  let data ← lift (copyAt data start stop bytes)
  update fun c => { c with data }

def write (bytes : Octets) : Program VmcallServiceCommand (Stop MigrationResult) Unit := do
  let c ← observe id
  -- The difference does not underflow: the offset stays within the buffer.
  ensure (bytes.length ≤ c.data.length - c.offset) (.failed .invalidParameter)
  copy c.offset (c.offset + bytes.length) bytes
  update fun c => { c with offset := c.offset + bytes.length }
  copy 16 20 (putU32 (UInt32.ofNat (c.offset + bytes.length)))

def writeAll (c : VmcallServiceCommand) :
    List Octets → List Octets × VmcallServiceCommand
  | [] => ([], c)
  | bytes :: rest => match write bytes c with
    | (.ok _, c') => (bytes :: (writeAll c' rest).1, (writeAll c' rest).2)
    | (.error _, c') => writeAll c' rest

def length (c : VmcallServiceCommand) : Nat := leValue ((c.data.drop 16).take 4)

end VmcallServiceCommand

/-- The writes that find room one after the other. -/
def admitted (room : Nat) : List Octets → List Octets
  | [] => []
  | bytes :: rest =>
    if bytes.length ≤ room then bytes :: admitted (room - bytes.length) rest
    else admitted room rest

/-- The buffer with these bytes in its data area and so much room behind them. -/
structure Carries (guid : Bytes 16) (sent : Octets) (room : Nat)
    (c : VmcallServiceCommand) : Prop where
  offset : c.offset = 24 + sent.length
  data : c.data = guid.1 ++ (putU32 (UInt32.ofNat (24 + sent.length)) ++ (putU32 0 ++
    (sent ++ List.replicate room 0)))

@[simp] theorem putU32_length (v : UInt32) : (putU32 v).length = 4 := leBytes_length 4 v.toNat

variable {guid : Bytes 16} {sent bytes : Octets} {room : Nat} {c : VmcallServiceCommand}

theorem new_carries {buffer : Octets} (h : VmcallServiceCommand.new buffer guid = .ok c) :
    24 ≤ buffer.length ∧ Carries guid [] (buffer.length - 24) c := by
  unfold VmcallServiceCommand.new at h
  rw [except_bind_ok] at h
  obtain ⟨_, hlarge, h⟩ := h
  have hlen : 24 ≤ buffer.length := require_ok.mp hlarge
  have hguid : guid.1.length = 16 := guid.2
  have hzero : (List.replicate buffer.length 0 : Octets) = [] ++ (List.replicate 16 0 ++
      (List.replicate 4 0 ++ (List.replicate 4 0 ++ List.replicate (buffer.length - 24) 0))) := by
    simp only [List.replicate_append_replicate, List.nil_append]
    congr 1
    omega
  have hname : (copyAt (List.replicate buffer.length 0) 0 16 guid.1 :
      Except (Stop Unit) Octets) = .ok (guid.1 ++ (List.replicate 4 0 ++
        (List.replicate 4 0 ++ List.replicate (buffer.length - 24) 0))) := by
    rw [hzero]
    exact copyAt_append rfl hguid.symm (by rw [hguid])
  have hlength : ∀ last : Octets, (copyAt (guid.1 ++ (List.replicate 4 0 ++ last)) 16 20
      (putU32 24) : Except (Stop Unit) Octets) = .ok (guid.1 ++ (putU32 24 ++ last)) :=
    fun last => copyAt_append hguid rfl rfl
  have hreserved : ∀ last : Octets,
      (copyAt (guid.1 ++ (putU32 24 ++ (List.replicate 4 0 ++ last))) 20 24 (putU32 0) :
        Except (Stop Unit) Octets) = .ok (guid.1 ++ (putU32 24 ++ (putU32 0 ++ last))) := by
    intro last
    rw [← List.append_assoc, ← List.append_assoc guid.1]
    exact copyAt_append (by rw [List.length_append, hguid]; rfl) rfl rfl
  dsimp only at h
  rw [hname, ok_bind, hlength, ok_bind, hreserved, ok_bind] at h
  cases h
  exact ⟨hlen, rfl, rfl⟩

theorem Carries.room_eq (h : Carries guid sent room c) : c.data.length - c.offset = room := by
  have hguid : guid.1.length = 16 := guid.2
  rw [h.data, h.offset]
  simp only [List.length_append, hguid, putU32_length, List.length_replicate]
  omega

theorem copy_run {start stop : Nat} {first old last : Octets}
    (hdata : c.data = first ++ (old ++ last)) (hstart : first.length = start)
    (hold : old.length = bytes.length) (hstop : start + bytes.length = stop) :
    VmcallServiceCommand.copy start stop bytes c =
      (.ok (), ⟨first ++ (bytes ++ last), c.offset⟩) := by
  refine bind_ok.mpr ⟨c.data, c, rfl, ?_⟩
  refine bind_ok.mpr ⟨first ++ (bytes ++ last), c, lift_ok.mpr ⟨?_, rfl⟩, rfl⟩
  rw [hdata]
  exact copyAt_append hstart hold hstop

theorem write_accepts (h : Carries guid sent room c) (hroom : bytes.length ≤ room) :
    ∃ c', VmcallServiceCommand.write bytes c = (.ok (), c') ∧
      Carries guid (sent ++ bytes) (room - bytes.length) c' := by
  have hguid : guid.1.length = 16 := guid.2
  have hoffset : c.offset + bytes.length = 24 + (sent ++ bytes).length := by
    rw [h.offset, List.length_append, Nat.add_assoc]
  -- The buffer is split at the place that the bytes go to.
  have hsplit : c.data = (guid.1 ++ (putU32 (UInt32.ofNat (24 + sent.length)) ++ (putU32 0 ++
      sent))) ++ (List.replicate bytes.length 0 ++ List.replicate (room - bytes.length) 0) := by
    rw [h.data, List.replicate_append_replicate, Nat.add_sub_cancel' hroom]
    simp only [List.append_assoc]
  have hplace : (guid.1 ++ (putU32 (UInt32.ofNat (24 + sent.length)) ++ (putU32 0 ++
      sent))).length = c.offset := by
    simp only [List.length_append, hguid, putU32_length, h.offset]
    omega
  refine ⟨⟨guid.1 ++ (putU32 (UInt32.ofNat (c.offset + bytes.length)) ++ (putU32 0 ++
    ((sent ++ bytes) ++ List.replicate (room - bytes.length) 0))), c.offset + bytes.length⟩,
    ?_, hoffset, by rw [hoffset]⟩
  · refine bind_ok.mpr ⟨c, c, rfl, ?_⟩
    refine bind_ok.mpr ⟨(), c, ensure_ok.mpr ⟨by rw [h.room_eq]; exact hroom, rfl⟩, ?_⟩
    refine bind_ok.mpr ⟨(), _, copy_run hsplit hplace List.length_replicate rfl, ?_⟩
    refine bind_ok.mpr ⟨(), _, rfl, ?_⟩
    have hdata : (guid.1 ++ (putU32 (UInt32.ofNat (24 + sent.length)) ++ (putU32 0 ++ sent))) ++
        (bytes ++ List.replicate (room - bytes.length) 0) =
        guid.1 ++ (putU32 (UInt32.ofNat (24 + sent.length)) ++ (putU32 0 ++
          ((sent ++ bytes) ++ List.replicate (room - bytes.length) 0))) := by
      simp only [List.append_assoc]
    exact copy_run hdata hguid (by rw [putU32_length, putU32_length]) (by rw [putU32_length])

theorem write_rejects (h : Carries guid sent room c) (hroom : room < bytes.length) :
    VmcallServiceCommand.write bytes c = (.error (.failed .invalidParameter), c) := by
  refine bind_error.mpr (.inr ⟨c, c, rfl, bind_error.mpr (.inl ?_)⟩)
  rw [ensure, h.room_eq, if_neg (by omega)]
  rfl

theorem writeAll_carries (writes : List Octets) (h : Carries guid sent room c) :
    (c.writeAll writes).1 = admitted room writes ∧
      ∃ left, Carries guid (sent ++ (admitted room writes).flatten) left (c.writeAll writes).2 := by
  induction writes generalizing sent room c with
  | nil => exact ⟨rfl, room, by rwa [admitted, List.flatten_nil, List.append_nil]⟩
  | cons bytes rest ih =>
    by_cases hroom : bytes.length ≤ room
    · obtain ⟨c', hwrite, hc'⟩ := write_accepts h hroom
      obtain ⟨hsame, left, hcarries⟩ := ih hc'
      rw [VmcallServiceCommand.writeAll, hwrite, admitted, if_pos hroom]
      dsimp only
      rw [hsame, List.flatten_cons, ← List.append_assoc]
      exact ⟨rfl, left, hcarries⟩
    · rw [VmcallServiceCommand.writeAll, write_rejects h (by omega), admitted, if_neg hroom]
      exact ih h

theorem Carries.length_eq (h : Carries guid sent room c) :
    c.length = (24 + sent.length) % 2 ^ 32 := by
  have hguid : guid.1.length = 16 := guid.2
  rw [VmcallServiceCommand.length, h.data, List.drop_left' hguid, List.take_left' (putU32_length _),
    putU32, leValue_leBytes _ _ (UInt32.toNat_lt _), UInt32.toNat_ofNat']

theorem Carries.area_eq (h : Carries guid sent room c) :
    (c.data.drop COMMAND_HEADER_LENGTH).take sent.length = sent := by
  have hguid : guid.1.length = 16 := guid.2
  have hdrop : c.data.drop COMMAND_HEADER_LENGTH = sent ++ List.replicate room 0 := by
    rw [h.data, ← List.append_assoc, ← List.append_assoc]
    refine List.drop_left' ?_
    rw [List.length_append, List.length_append, hguid, putU32_length, putU32_length]
    rfl
  rw [hdrop, List.take_left]

/-- What a command should look like behind a sequence of writes. -/
structure WrittenSoundly (c : VmcallServiceCommand) (writes : List Octets) : Prop where
  length : (c.writeAll writes).2.length = 24 + (c.writeAll writes).1.flatten.length
  area : (((c.writeAll writes).2.data.drop COMMAND_HEADER_LENGTH).take
    (c.writeAll writes).1.flatten.length) = (c.writeAll writes).1.flatten
  rejected : ∀ bytes e c', VmcallServiceCommand.write bytes (c.writeAll writes).2 = (.error e, c') →
    c' = (c.writeAll writes).2

theorem writtenSoundly_iff (h : Carries guid [] room c) (writes : List Octets) :
    WrittenSoundly c writes ↔ 24 + (admitted room writes).flatten.length < 2 ^ 32 := by
  obtain ⟨hsame, left, hcarries⟩ := writeAll_carries writes h
  rw [List.nil_append] at hcarries
  constructor
  · intro hsound
    have hlength := hsound.length
    rw [hsame, hcarries.length_eq] at hlength
    rw [← hlength]
    exact Nat.mod_lt _ (by decide)
  · intro hsmall
    refine ⟨?_, ?_, ?_⟩
    · rw [hsame, hcarries.length_eq, Nat.mod_eq_of_lt hsmall]
    · rw [hsame]
      exact hcarries.area_eq
    · intro bytes e c' hwrite
      by_cases hroom : bytes.length ≤ left
      · obtain ⟨next, haccept, -⟩ := write_accepts hcarries hroom
        rw [haccept] at hwrite
        cases hwrite
      · rw [write_rejects hcarries (by omega)] at hwrite
        exact (Prod.mk.inj hwrite).2.symm

section

variable (debugAssertions : Bool)

/-- The bounds of the slice that `read_data` takes, as `usize` values. -/
def readBounds (offset size : Nat) : Except (Stop Unit) (Nat × Nat) := do
  let start ← usizeSum debugAssertions 24 offset
  let stop ← usizeSum debugAssertions start size
  return (start, stop)

/-- `read_data` for a type of `size` bytes; a failure is `None`. -/
def readData (data : Octets) (offset size : Nat) : Except (Stop Unit) Octets := do
  let (start, stop) ← readBounds debugAssertions offset size
  require (stop ≤ data.length) (.failed ())
  slice data start stop

end

def declaredLength (data : Octets) : Nat := leValue ((data.drop 16).take 4)

/-- The result of a read does not depend on what stands behind the declared length. -/
def ReadsWithinLength (debugAssertions : Bool) (data : Octets) (offset size : Nat) : Prop :=
  ∀ other : Octets, other.length = data.length →
    other.take (declaredLength data) = data.take (declaredLength data) →
    readData debugAssertions other offset size = readData debugAssertions data offset size

theorem readsWithinLength_iff (debugAssertions : Bool) (data : Octets) (offset size : Nat) :
    ReadsWithinLength debugAssertions data offset size ↔
      ∀ start stop, readBounds debugAssertions offset size = .ok (start, stop) →
        start < stop → stop ≤ data.length → stop ≤ declaredLength data := by
  constructor
  · intro h start stop hbounds hlt hstop
    by_contra hlong
    -- The last byte read stands behind the declared length: another value there is returned too.
    have hlast : stop - 1 < data.length := by omega
    have hother := h (data.set (stop - 1) (data[stop - 1] + 1)) List.length_set
      (List.take_set_of_le (by omega))
    rw [readData, readData, hbounds, ok_bind, ok_bind] at hother
    dsimp only at hother
    rw [List.length_set, require_pos hstop, ok_bind, ok_bind,
      slice_ok (by omega) (by rw [List.length_set]; exact hstop), slice_ok (by omega) hstop,
      Except.ok.injEq] at hother
    have hbyte := congrArg (fun bytes => bytes[stop - 1 - start]?) hother
    have hpos : start + (stop - 1 - start) = stop - 1 := by omega
    have hin : stop - 1 - start < stop - start := by omega
    simp only [List.getElem?_take, if_pos hin, List.getElem?_drop, hpos,
      List.getElem?_set_self hlast, List.getElem?_eq_getElem hlast, Option.some.injEq] at hbyte
    simp at hbyte
  · intro h other hlen hsame
    rw [readData, readData]
    cases hbounds : readBounds debugAssertions offset size with
    | error e => rfl
    | ok bounds =>
      obtain ⟨start, stop⟩ := bounds
      rw [ok_bind, ok_bind]
      dsimp only
      rw [hlen]
      by_cases hstop : stop ≤ data.length
      · rw [require_pos hstop, ok_bind, ok_bind]
        by_cases hlt : start < stop
        · have hwithin := h start stop hbounds hlt hstop
          have hread : ∀ xs : Octets, (xs.drop start).take (stop - start) =
              ((xs.take (declaredLength data)).drop start).take (stop - start) := by
            intro xs
            rw [List.drop_take, List.take_take, Nat.min_eq_left (by omega)]
          rw [slice_ok (by omega) (by rw [hlen]; exact hstop), slice_ok (by omega) hstop,
            hread other, hread data, hsame]
        · by_cases heq : start = stop
          · rw [slice_ok (by omega) (by rw [hlen]; exact hstop), slice_ok (by omega) hstop, heq,
              Nat.sub_self, List.take_zero, List.take_zero]
          · rw [slice, slice, if_neg (by omega), if_neg (by omega)]
      · rw [require_neg hstop, error_bind, error_bind]

/-- Behind every sequence of writes the command is as it should be exactly when its length fits the
field, and a read of an accepted response returns bytes within the declared length only exactly
when the slice it takes of the buffer ends there. -/
theorem service_buffers_sound_iff (debugAssertions : Bool) :
    (∀ buffer guid c, VmcallServiceCommand.new buffer guid = .ok c → ∀ writes,
      (WrittenSoundly c writes ↔
        24 + (admitted (buffer.length - 24) writes).flatten.length < 2 ^ 32)) ∧
      ∀ data rsp, tryReadResponse data = some rsp → ∀ offset size,
        (ReadsWithinLength debugAssertions rsp offset size ↔
          ∀ start stop, readBounds debugAssertions offset size = .ok (start, stop) →
            start < stop → stop ≤ data.length → stop ≤ declaredLength data) := by
  refine ⟨?_, ?_⟩
  · intro buffer guid c hnew writes
    exact writtenSoundly_iff (new_carries hnew).2 writes
  · intro data rsp haccept offset size
    have hsame : data = rsp := by
      unfold tryReadResponse at haccept
      dsimp only at haccept
      split_ifs at haccept
      exact Option.some.inj haccept
    subst hsame
    exact readsWithinLength_iff debugAssertions data offset size

def shortResponse (behind : Octets) : Octets :=
  List.replicate 16 0 ++ (putU32 24 ++ (putU32 0 ++ behind))

/-- A read of that response returns the four bytes behind the declared length. -/
theorem short_response_read_behind :
    tryReadResponse (shortResponse [1, 2, 3, 4]) = some (shortResponse [1, 2, 3, 4]) ∧
      declaredLength (shortResponse [1, 2, 3, 4]) = 24 ∧
      readData true (shortResponse [1, 2, 3, 4]) 0 4 = .ok [1, 2, 3, 4] ∧
      ¬ReadsWithinLength true (shortResponse [1, 2, 3, 4]) 0 4 := by
  refine ⟨by decide, by decide, by decide, ?_⟩
  intro h
  have hother := h (shortResponse [1, 2, 3, 5]) (by decide) (by decide)
  revert hother
  decide

def fullResponse : Octets := List.replicate 16 0 ++ (putU32 26 ++ (putU32 0 ++ [1, 2]))

/-- Three writes into a buffer with room for two bytes, and a read within the length. -/
theorem service_buffers_sound_sample :
    WrittenSoundly ⟨shortResponse [0, 0], 24⟩ [[1], [2, 3], [4]] ∧
      (VmcallServiceCommand.writeAll ⟨shortResponse [0, 0], 24⟩ [[1], [2, 3], [4]]).1 = [[1], [4]] ∧
      readData true fullResponse 0 2 = .ok [1, 2] ∧ ReadsWithinLength true fullResponse 0 2 := by
  refine ⟨?_, by decide, by decide, ?_⟩
  · refine ((service_buffers_sound_iff true).1 (List.replicate 26 7) (Bytes.zero 16) _ ?_ _).mpr ?_
    · decide
    · decide
  · refine ((service_buffers_sound_iff true).2 fullResponse _ ?_ 0 2).mpr ?_
    · decide
    · intro start stop hbounds hlt hstop
      have hvalue : readBounds true 0 2 = .ok (24, 26) := by decide
      rw [hvalue] at hbounds
      cases hbounds
      decide

end MigTd.Migration.ServiceBuffers
