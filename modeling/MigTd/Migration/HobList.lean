/- source: data.rs
   digest: Which HOB lists of the host are accepted, and what is read from them. -/

import MigTd.Lib.Slices
import MigTd.Migration.RequestBuffers

set_option autoImplicit false

namespace MigTd.Migration.HobList

open Lib.ByteCodec Lib.FailureClass Lib.Slices Lib.StateProgram Information Requests

structure Header where
  type : UInt16
  length : UInt16
  reserved : UInt32
  deriving DecidableEq

def Header.layout : Decoder Header := do return ⟨← u16, ← u16, ← u32⟩

def HOB_TYPE_GUID_EXTENSION : UInt16 := 0x0004
def HOB_TYPE_END_OF_HOB_LIST : UInt16 := 0xffff

inductive Kind where
  | information
  | socket
  | policy
  deriving DecidableEq

def Kind.name : Kind → Octets
  | information =>
    [0x98, 0xe3, 0xb5, 0x42, 0x99, 0xa1, 0x30, 0x4d, 0xbe, 0xfc, 0xc7, 0x5a, 0xc3, 0xda, 0x5d, 0x7c]
  | socket =>
    [0x9d, 0x3b, 0x10, 0x7a, 0x2b, 0x55, 0x5f, 0x48, 0xbb, 0x4c, 0x2f, 0x3d, 0x2e, 0x8b, 0x1e, 0x0e]
  | policy =>
    [0x1a, 0x77, 0x4f, 0xd6, 0xc9, 0xf0, 0x33, 0x4d, 0x99, 0x8b, 0x0e, 0x3d, 0x8b, 0x94, 0x0a, 0x61]

/-- The arms are tried in the order of the source. -/
def Kind.ofName (name : Bytes 16) : Option Kind :=
  [information, socket, policy].find? fun kind => name.1 = kind.name

abbrev Found := Kind → Option Octets

structure TdShim where
  alignToNextHobOffset : Nat → Nat → UInt16 → Option Nat
  getGuidData : Octets → Option Octets

/-- The next offset is a later one that is a multiple of eight and not beyond the list. -/
def TdShim.Advances (shim : TdShim) : Prop :=
  ∀ cap offset length next, shim.alignToNextHobOffset cap offset length = some next →
    offset < next ∧ next % 8 = 0 ∧ next ≤ cap

def roundUp (n : Nat) : Nat := (n + 7) / 8 * 8

/-- The next offset is the end of the HOB, rounded up, and it is found when it lies within the list
and the rounded length has 16 bits. The data of a HOB stands behind its header of 24 bytes. -/
structure TdShim.Documented (shim : TdShim) : Prop where
  placed : ∀ cap offset length next, shim.alignToNextHobOffset cap offset length = some next →
    next = roundUp (offset + length.toNat)
  found : ∀ cap offset length, 0 < length.toNat → roundUp length.toNat < 2 ^ 16 →
    roundUp (offset + length.toNat) < cap →
      (shim.alignToNextHobOffset cap offset length).isSome
  data : ∀ hob : Octets, 24 ≤ hob.length → leValue ((hob.drop 2).take 2) = hob.length →
    shim.getGuidData hob = some (hob.drop 24)

section

variable (shim : TdShim)

/-- `get_next_hob`: the bytes from the next HOB on, and the offset behind it. -/
def getNextHob (hob : Octets) (offset : Nat) : Except (Stop Unit) (Option (Octets × Nat)) :=
  if hob.length ≤ offset then .ok none
  else do
    let hobSlice ← slice hob offset hob.length
    return do
      let header ← Header.layout hobSlice
      let next ← shim.alignToNextHobOffset hob.length offset header.1.length
      return (hobSlice, next)

/-- The body of the loop; no value stands for `break`. -/
def visit (found : Found) (hob : Octets) : Except (Stop Unit) (Option Found) := do
  let header ← orElse (Header.layout hob) (.failed ())
  if header.1.type = HOB_TYPE_GUID_EXTENSION then
    let name ← orElse (array 16 header.2) (.failed ())
    let guidHob ← orElse (getRange hob 0 header.1.length.toNat) (.failed ())
    let kind ← orElse (Kind.ofName name.1) (.failed ())
    if found kind = none then return some (Function.update found kind (some guidHob))
    else .error (.failed ())
  else if header.1.type = HOB_TYPE_END_OF_HOB_LIST then return none
  else .error (.failed ())

/-- The loop, without a value when the turns run out. -/
def hobLoop (hob : Octets) : Nat → Nat → Found → Option (Except (Stop Unit) Found)
  | 0, _, _ => none
  | turns + 1, offset, found => match getNextHob shim hob offset with
    | .error e => some (.error e)
    | .ok none => some (.ok found)
    | .ok (some (hobSlice, next)) => match visit found hobSlice with
      | .error e => some (.error e)
      | .ok none => some (.ok found)
      | .ok (some found) => hobLoop hob turns next found

structure MigtdStreamSocketInfo where
  communicationId : UInt64
  migTdCid : UInt64
  migChannelPort : UInt32
  quoteServicePort : UInt32
  deriving DecidableEq

def MigtdStreamSocketInfo.layout : Decoder MigtdStreamSocketInfo := do
  return ⟨← u64, ← u64, ← u32, ← u32⟩

structure MigtdMigpolicy where
  migPolicyId : UInt64
  migPolicySize : UInt32
  migPolicy : Octets
  deriving DecidableEq

/-- The two fields of a `MigtdMigpolicyInfo`, which has four bytes of padding behind them. -/
def migpolicyInfo : Decoder (UInt64 × UInt32) := do return (← u64, ← u32)

def readPolicy (data : Octets) : Option MigtdMigpolicy := do
  let header ← migpolicyInfo data
  let policy ← getRange data 16 (16 + header.1.2.toNat)
  return ⟨header.1.1, header.1.2, policy⟩

structure MigrationInformation where
  migInfo : MigtdMigrationInformation
  /-- Only the builds with a vsock transport have it. -/
  migSocketInfo : Option MigtdStreamSocketInfo
  migPolicy : Option MigtdMigpolicy
  deriving DecidableEq

def asNone : Stop MigrationResult → Stop Unit
  | .failed _ => .failed ()
  | .panicked => .panicked

def readInformation (b : Build) (data : Octets) :
    Except (Stop Unit) MigtdMigrationInformation :=
  if b.policyV2 then
    (RequestBuffers.readMigrationInformation b (.ofNat data.length) data).mapError asNone
  else orElse ((migInfoLayout b data).map fun x => x.1.1) (.failed ())

def readSocketInfo (vsock : Bool) (found : Found) :
    Except (Stop Unit) (Option MigtdStreamSocketInfo) :=
  if vsock then do
    let hob ← orElse (found .socket) (.failed ())
    let data ← orElse (shim.getGuidData hob) (.failed ())
    let info ← orElse (MigtdStreamSocketInfo.layout data) (.failed ())
    return some info.1
  else return none

def createMigrationInformation (b : Build) (vsock : Bool) (found : Found) :
    Except (Stop Unit) MigrationInformation := do
  let hob ← orElse (found .information) (.failed ())
  let data ← orElse (shim.getGuidData hob) (.failed ())
  let migInfo ← readInformation b data
  let migSocketInfo ← readSocketInfo shim vsock found
  return ⟨migInfo, migSocketInfo, (found .policy).bind fun hob =>
    (shim.getGuidData hob).bind readPolicy⟩

/-- `read_mig_info` within a number of turns. -/
def readMigInfo (b : Build) (vsock : Bool) (turns : Nat) (hob : Octets) :
    Option (Except (Stop Unit) MigrationInformation) :=
  (hobLoop shim hob turns 0 fun _ => none).map fun found => do
    createMigrationInformation shim b vsock (← found)

end

/-! The list as it stands in the bytes. -/

def field16 (hob : Octets) (offset : Nat) : Nat := leValue ((hob.drop offset).take 2)

def guidHobAt (hob : Octets) (offset : Nat) : Octets :=
  (hob.drop offset).take (field16 hob (offset + 2))

def kindOf (guidHob : Octets) : Option Kind :=
  [Kind.information, .socket, .policy].find? fun kind => (guidHob.drop 8).take 16 = kind.name

def dataOf (guidHob : Octets) : Octets := guidHob.drop 24

/-- From the offset on stand these GUID extension HOBs, one behind the other, each complete and
long enough for its header, and then a complete end-of-list HOB. -/
inductive HobChain (hob : Octets) : Nat → List Octets → Prop
  | marker {offset : Nat} (type : field16 hob offset = HOB_TYPE_END_OF_HOB_LIST.toNat)
      (long : 8 ≤ field16 hob (offset + 2))
      (complete : offset + field16 hob (offset + 2) ≤ hob.length) : HobChain hob offset []
  | guid {offset : Nat} {rest : List Octets}
      (type : field16 hob offset = HOB_TYPE_GUID_EXTENSION.toNat)
      (long : 24 ≤ field16 hob (offset + 2)) (aligned : roundUp (field16 hob (offset + 2)) < 2 ^ 16)
      (complete : offset + field16 hob (offset + 2) ≤ hob.length)
      (later : HobChain hob (roundUp (offset + field16 hob (offset + 2))) rest) :
      HobChain hob offset (guidHobAt hob offset :: rest)

/-- The HOBs are known ones, each at most once, and encode this value. -/
structure Encoded (b : Build) (vsock : Bool) (hobs : List Octets)
    (info : MigrationInformation) : Prop where
  known : ∀ h ∈ hobs, kindOf h ≠ none
  once : (hobs.map kindOf).Nodup
  information : ∃ h ∈ hobs, kindOf h = some .information ∧
    readInformation b (dataOf h) = .ok info.migInfo
  socket : vsock = true → ∃ h ∈ hobs, kindOf h = some .socket ∧
    ∃ x, MigtdStreamSocketInfo.layout (dataOf h) = some x ∧ info.migSocketInfo = some x.1
  policy : ∀ h ∈ hobs, kindOf h = some .policy →
    ∃ p, readPolicy (dataOf h) = some p ∧ info.migPolicy = some p
  noPolicy : (∀ h ∈ hobs, kindOf h ≠ some .policy) → info.migPolicy = none

/-- The bytes are a terminated list of complete HOBs that encodes this value. -/
def Encodes (b : Build) (vsock : Bool) (hob : Octets) (info : MigrationInformation) : Prop :=
  ∃ hobs, HobChain hob 0 hobs ∧ Encoded b vsock hobs info

/-- The bytes are a terminated list of complete HOBs, and a policy in it can be read. -/
def Proper (hob : Octets) : Prop :=
  ∃ hobs, HobChain hob 0 hobs ∧
    ∀ h ∈ hobs, kindOf h = some .policy → (readPolicy (dataOf h)).isSome = true

section

variable {shim : TdShim} {hob : Octets}

theorem getNextHob_ok (shim : TdShim) (hob : Octets) (offset : Nat) :
    ∃ next, getNextHob shim hob offset = .ok next ∧
    ∀ hobSlice after, next = some (hobSlice, after) → offset < hob.length ∧
      ∃ header, Header.layout hobSlice = some header ∧
        shim.alignToNextHobOffset hob.length offset header.1.length = some after := by
  unfold getNextHob
  by_cases hend : hob.length ≤ offset
  · rw [if_pos hend]
    exact ⟨none, rfl, fun _ _ h => by cases h⟩
  · rw [if_neg hend, slice_ok (by omega) le_rfl]
    refine ⟨_, rfl, ?_⟩
    intro hobSlice after h
    simp only [Option.bind_eq_bind, Option.bind_eq_some_iff, Option.pure_def,
      Option.some.injEq, Prod.mk.injEq] at h
    obtain ⟨header, hheader, next, hnext, rfl, rfl⟩ := h
    exact ⟨by omega, header, hheader, hnext⟩

variable {hobSlice : Octets} {found : Found}

theorem visit_error {e : Stop Unit} (h : visit found hobSlice = .error e) : e = .failed () := by
  have hfact : Fact ((.failed () : Stop Unit) = .failed ()) := ⟨rfl⟩
  have herring : Erring (· = .failed ()) (visit found hobSlice) := by
    unfold visit
    infer_instance
  exact herring.of e h

theorem visit_none (h : visit found hobSlice = .ok none) :
    ∃ header, Header.layout hobSlice = some header ∧ header.1.type = HOB_TYPE_END_OF_HOB_LIST := by
  obtain ⟨header, hheader, h⟩ := except_bind_ok.mp h
  refine ⟨header, orElse_ok.mp hheader, ?_⟩
  split_ifs at h with hguid hend
  · obtain ⟨_, -, h⟩ := except_bind_ok.mp h
    obtain ⟨_, -, h⟩ := except_bind_ok.mp h
    obtain ⟨_, -, h⟩ := except_bind_ok.mp h
    split_ifs at h
    cases h
  · exact hend

theorem visit_some {found' : Found} (h : visit found hobSlice = .ok (some found')) :
    ∃ header name kind, Header.layout hobSlice = some header ∧
      header.1.type = HOB_TYPE_GUID_EXTENSION ∧ array 16 header.2 = some name ∧
      header.1.length.toNat ≤ hobSlice.length ∧ Kind.ofName name.1 = some kind ∧
      found kind = none ∧
      found' = Function.update found kind (some (hobSlice.take header.1.length.toNat)) := by
  obtain ⟨header, hheader, h⟩ := except_bind_ok.mp h
  split_ifs at h with hguid
  · obtain ⟨name, hname, h⟩ := except_bind_ok.mp h
    obtain ⟨bytes, hbytes, h⟩ := except_bind_ok.mp h
    obtain ⟨kind, hkind, h⟩ := except_bind_ok.mp h
    split_ifs at h with hfree
    have hrange := orElse_ok.mp hbytes
    unfold getRange at hrange
    split_ifs at hrange with hlen
    cases h
    cases hrange
    exact ⟨header, name, kind, orElse_ok.mp hheader, hguid, orElse_ok.mp hname, hlen.2,
      orElse_ok.mp hkind, hfree, rfl⟩
  · cases h

theorem hobLoop_finishes (hshim : shim.Advances) (turns offset : Nat) (found : Found)
    (hoffset : offset ≤ hob.length) (hturns : hob.length < offset + turns) :
    ∃ result, hobLoop shim hob turns offset found = some result ∧ result ≠ .error .panicked := by
  induction turns generalizing offset found with
  | zero => omega
  | succ turns ih =>
    obtain ⟨next, hget, hnext⟩ := getNextHob_ok shim hob offset
    rw [hobLoop, hget]
    rcases next with - | ⟨hobSlice, after⟩
    · exact ⟨_, rfl, by simp⟩
    · obtain ⟨-, header, -, halign⟩ := hnext hobSlice after rfl
      have hafter := hshim _ _ _ _ halign
      dsimp only
      cases hvisit : visit found hobSlice with
      | error e =>
        rw [visit_error hvisit]
        exact ⟨_, rfl, by simp⟩
      | ok visited =>
        cases visited with
        | none => exact ⟨_, rfl, by simp⟩
        | some found => exact ih after found hafter.2.2 (by omega)

theorem u16_run (bs : Octets) (h : 2 ≤ bs.length) :
    u16 bs = some (.ofNat (leValue (bs.take 2)), bs.drop 2) := by
  simp [u16, number, take, Functor.map, StateT.map, h]

private theorem u32_run (bs : Octets) (h : 4 ≤ bs.length) :
    u32 bs = some (.ofNat (leValue (bs.take 4)), bs.drop 4) := by
  simp [u32, number, take, Functor.map, StateT.map, h]

theorem field16_toNat (hob : Octets) (offset : Nat) :
    (UInt16.ofNat (field16 hob offset)).toNat = field16 hob offset := by
  rw [UInt16.toNat_ofNat', Nat.mod_eq_of_lt]
  have hlen : ((hob.drop offset).take 2).length ≤ 2 := List.length_take_le 2 _
  exact lt_of_lt_of_le (leValue_lt _) (Nat.pow_le_pow_right (by decide) hlen)

variable {offset : Nat} {hobs : List Octets} {final : Found}

theorem header_at (h : offset + 8 ≤ hob.length) :
    ∃ header : Header, Header.layout (hob.drop offset) = some (header, hob.drop (offset + 8)) ∧
      header.type.toNat = field16 hob offset ∧ header.length.toNat = field16 hob (offset + 2) := by
  have hlen : (hob.drop offset).length = hob.length - offset := List.length_drop
  have htype := u16_run (hob.drop offset) (by omega)
  have hlength := u16_run (hob.drop (offset + 2)) (by rw [List.length_drop]; omega)
  have hreserved := u32_run (hob.drop (offset + 4)) (by rw [List.length_drop]; omega)
  simp only [List.drop_drop] at htype hlength hreserved
  refine ⟨⟨.ofNat (field16 hob offset), .ofNat (field16 hob (offset + 2)), .ofNat (leValue
    ((hob.drop (offset + 4)).take 4))⟩, ?_, field16_toNat _ _, field16_toNat _ _⟩
  refine decoder_bind.mpr ⟨_, _, htype, decoder_bind.mpr ⟨_, _, hlength, ?_⟩⟩
  exact decoder_bind.mpr ⟨_, _, hreserved, rfl⟩

theorem getNextHob_at (h : offset + 8 ≤ hob.length) {header : Header}
    (hheader : Header.layout (hob.drop offset) = some (header, hob.drop (offset + 8))) :
    getNextHob shim hob offset = .ok ((shim.alignToNextHobOffset hob.length offset
      header.length).map fun next => (hob.drop offset, next)) := by
  have hslice : (hob.drop offset).take (hob.length - offset) = hob.drop offset :=
    List.take_of_length_le (by rw [List.length_drop])
  unfold getNextHob
  rw [if_neg (by omega), slice_ok (by omega) le_rfl, hslice, ok_bind, hheader, Option.map_eq_bind]
  rfl

theorem HobChain.room (chain : HobChain hob offset hobs) : offset + 8 ≤ hob.length := by
  cases chain <;> omega

theorem guidHobAt_drop (n : Nat) (hn : n + 2 ≤ field16 hob (offset + 2)) (m : Nat)
    (hm : n + m ≤ field16 hob (offset + 2)) :
    ((guidHobAt hob offset).drop n).take m = (hob.drop (offset + n)).take m := by
  rw [guidHobAt, List.drop_take, List.take_take, Nat.min_eq_left (by omega), List.drop_drop]

theorem HobChain.mem (chain : HobChain hob offset hobs) :
    ∀ g ∈ hobs, 24 ≤ g.length ∧ leValue ((g.drop 2).take 2) = g.length := by
  induction chain with
  | marker => exact List.forall_mem_nil _
  | @guid offset rest _ long _ complete later ih =>
    have hlength : (guidHobAt hob offset).length = field16 hob (offset + 2) := by
      rw [guidHobAt, List.length_take, List.length_drop]
      omega
    refine List.forall_mem_cons.mpr ⟨⟨hlength ▸ long, ?_⟩, ih⟩
    rw [guidHobAt_drop 2 (by omega) 2 (by omega), hlength]
    rfl

/-- What has been collected before and the HOBs of a chain make up what has been collected
behind it. -/
structure Collected (found : Found) (hobs : List Octets) (final : Found) : Prop where
  fresh : ∀ g ∈ hobs, ∃ kind, kindOf g = some kind ∧ found kind = none
  once : (hobs.map kindOf).Nodup
  final : ∀ kind bytes, final kind = some bytes ↔
    found kind = some bytes ∨ bytes ∈ hobs ∧ kindOf bytes = some kind

theorem collected_nil (found : Found) : Collected found [] found :=
  ⟨List.forall_mem_nil _, List.nodup_nil, by simp⟩

theorem Collected.cons {kind : Kind} {g : Octets}
    (hkind : kindOf g = some kind) (hfree : found kind = none)
    (h : Collected (Function.update found kind (some g)) hobs final) :
    Collected found (g :: hobs) final := by
  have hlater : ∀ g' ∈ hobs, ∃ k, kindOf g' = some k ∧ k ≠ kind ∧ found k = none := by
    intro g' hg'
    obtain ⟨k, hk, hnone⟩ := h.fresh g' hg'
    have hne : k ≠ kind := by
      rintro rfl
      rw [Function.update_self] at hnone
      cases hnone
    exact ⟨k, hk, hne, by rwa [Function.update_of_ne hne] at hnone⟩
  refine ⟨List.forall_mem_cons.mpr ⟨⟨kind, hkind, hfree⟩, ?_⟩, ?_, ?_⟩
  · intro g' hg'
    obtain ⟨k, hk, -, hnone⟩ := hlater g' hg'
    exact ⟨k, hk, hnone⟩
  · refine List.nodup_cons.mpr ⟨fun hmem => ?_, h.once⟩
    obtain ⟨g', hg', hsame⟩ := List.mem_map.mp hmem
    obtain ⟨k, hk, hne, -⟩ := hlater g' hg'
    exact hne (Option.some.inj (hk.symm.trans (hsame.trans hkind)))
  · intro k bytes
    rw [h.final, List.mem_cons]
    by_cases hk : k = kind
    · subst hk
      rw [Function.update_self, hfree]
      constructor
      · rintro (hsome | ⟨hmem, hsame⟩)
        · cases hsome
          exact .inr ⟨.inl rfl, hkind⟩
        · exact .inr ⟨.inr hmem, hsame⟩
      · rintro (hsome | ⟨rfl | hmem, hsame⟩)
        · cases hsome
        · exact .inl rfl
        · exact .inr ⟨hmem, hsame⟩
    · rw [Function.update_of_ne hk]
      constructor
      · rintro (hsome | ⟨hmem, hsame⟩)
        · exact .inl hsome
        · exact .inr ⟨.inr hmem, hsame⟩
      · rintro (hsome | ⟨rfl | hmem, hsame⟩)
        · exact .inl hsome
        · exact absurd (Option.some.inj (hsame.symm.trans hkind)) hk
        · exact .inr ⟨hmem, hsame⟩

theorem hobLoop_chain (hshim : shim.Documented) (chain : HobChain hob offset hobs) {turns : Nat}
    (h : hobLoop shim hob turns offset found = some (.ok final)) :
    Collected found hobs final := by
  induction chain generalizing turns found with
  | @marker offset type long complete =>
    obtain ⟨header, hheader, htype, -⟩ := header_at (by omega : offset + 8 ≤ hob.length)
    cases turns with
    | zero => cases h
    | succ turns =>
      rw [hobLoop, getNextHob_at (by omega) hheader] at h
      cases hnext : shim.alignToNextHobOffset hob.length offset header.length with
      | none =>
        rw [hnext] at h
        cases h
        exact collected_nil _
      | some next =>
        have hend : header.type = HOB_TYPE_END_OF_HOB_LIST := by
          rw [← UInt16.toNat_inj, htype, type]
        have hvisit : visit found (hob.drop offset) = .ok none := by
          unfold visit
          rw [hheader]
          exact (if_neg (by rw [hend]; decide)).trans (if_pos hend)
        rw [hnext] at h
        simp only [Option.map_some, hvisit] at h
        cases h
        exact collected_nil _
  | @guid offset rest type long aligned complete later ih =>
    obtain ⟨header, hheader, htype, hlength⟩ := header_at (by omega : offset + 8 ≤ hob.length)
    cases turns with
    | zero => cases h
    | succ turns =>
      -- the next HOB is there, so that td-shim finds it
      have hroom := later.room
      obtain ⟨next, hnext⟩ := Option.isSome_iff_exists.mp (hshim.found hob.length offset
        header.length (by omega) (by rwa [hlength]) (by rw [hlength]; omega))
      obtain rfl := hshim.placed _ _ _ _ hnext
      rw [hobLoop, getNextHob_at (by omega) hheader, hnext] at h
      dsimp only [Option.map_some] at h
      cases hvisit : visit found (hob.drop offset) with
      | error e =>
        rw [hvisit] at h
        cases h
      | ok visited =>
        rw [hvisit] at h
        cases visited with
        | none =>
          obtain ⟨header', hheader', hend⟩ := visit_none hvisit
          cases hheader.symm.trans hheader'
          rw [← UInt16.toNat_inj, htype, type] at hend
          cases hend
        | some found' =>
          obtain ⟨header', name, kind, hheader', -, hname, -, hkind, hfree, rfl⟩ :=
            visit_some hvisit
          cases hheader.symm.trans hheader'
          rw [hlength] at h
          have hof : kindOf (guidHobAt hob offset) = some kind := by
            rw [← hkind, kindOf, guidHobAt_drop 8 (by omega) 16 (by omega), Kind.ofName]
            unfold array at hname
            split_ifs at hname
            cases hname
            rfl
          exact Collected.cons hof hfree (ih h)

end

section

variable {shim : TdShim} {policyV2 vsock : Bool} {found : Found} {info : MigrationInformation}

theorem create_returns :
    createMigrationInformation shim ⟨policyV2, false⟩ vsock found ≠ .error .panicked := by
  have hfact : Fact ((.failed () : Stop Unit) = .failed ()) := ⟨rfl⟩
  have hread : ∀ data, Erring (· = .failed ()) (readInformation ⟨policyV2, false⟩ data) := by
    intro data
    unfold readInformation
    rw [RequestBuffers.readMigrationInformation_eq]
    have hform : Erring (· = .failed ()) ((noPanic (Requests.readMigrationInformation
        ⟨policyV2, false⟩ (.ofNat data.length) data)).mapError asNone) := by
      constructor
      intro e he
      cases hr : Requests.readMigrationInformation ⟨policyV2, false⟩ (.ofNat data.length) data with
      | ok info =>
        rw [hr] at he
        cases he
      | error status =>
        rw [hr] at he
        cases he
        rfl
    infer_instance
  have hsocket : Erring (· = .failed ()) (readSocketInfo shim vsock found) := by
    unfold readSocketInfo
    infer_instance
  have herring : Erring (· = .failed ())
      (createMigrationInformation shim ⟨policyV2, false⟩ vsock found) := by
    unfold createMigrationInformation
    infer_instance
  intro h
  cases herring.of _ h

theorem create_ok (h : createMigrationInformation shim ⟨policyV2, false⟩ vsock found = .ok info) :
    (∃ hob ∈ found .information, ∃ data ∈ shim.getGuidData hob,
      readInformation ⟨policyV2, false⟩ data = .ok info.migInfo) ∧
    (vsock = true → ∃ hob ∈ found .socket, ∃ data ∈ shim.getGuidData hob,
      ∃ x, MigtdStreamSocketInfo.layout data = some x ∧ info.migSocketInfo = some x.1) ∧
    info.migPolicy = (found .policy).bind fun hob => (shim.getGuidData hob).bind readPolicy := by
  obtain ⟨hob, hhob, h⟩ := except_bind_ok.mp h
  obtain ⟨data, hdata, h⟩ := except_bind_ok.mp h
  obtain ⟨migInfo, hinfo, h⟩ := except_bind_ok.mp h
  obtain ⟨socket, hsocket, h⟩ := except_bind_ok.mp h
  cases h
  refine ⟨⟨hob, orElse_ok.mp hhob, data, orElse_ok.mp hdata, hinfo⟩, ?_, rfl⟩
  intro hvsock
  rw [readSocketInfo, if_pos hvsock] at hsocket
  obtain ⟨hob, hhob, h⟩ := except_bind_ok.mp hsocket
  obtain ⟨data, hdata, h⟩ := except_bind_ok.mp h
  obtain ⟨x, hx, h⟩ := except_bind_ok.mp h
  cases h
  exact ⟨hob, orElse_ok.mp hhob, data, orElse_ok.mp hdata, x, orElse_ok.mp hx, rfl⟩

theorem encoded_of_collected {hobs : List Octets}
    (hshim : shim.Documented) (h : Collected (fun _ => none) hobs found)
    (hmem : ∀ g ∈ hobs, 24 ≤ g.length ∧ leValue ((g.drop 2).take 2) = g.length)
    (hpolicies : ∀ g ∈ hobs, kindOf g = some .policy → (readPolicy (dataOf g)).isSome = true)
    (hcreate : createMigrationInformation shim ⟨policyV2, false⟩ vsock found = .ok info) :
    Encoded ⟨policyV2, false⟩ vsock hobs info := by
  obtain ⟨⟨bytes, hbytes, data, hdata, hread⟩, hsocket, hnone⟩ := create_ok hcreate
  have hfound : ∀ {kind bytes}, found kind = some bytes → bytes ∈ hobs ∧ kindOf bytes = some kind := by
    intro kind bytes hk
    simpa using (h.final kind bytes).mp hk
  have hget : ∀ g ∈ hobs, shim.getGuidData g = some (dataOf g) := fun g hg =>
    hshim.data g (hmem g hg).1 (hmem g hg).2
  refine ⟨?_, h.once, ?_, ?_, ?_, ?_⟩
  · intro g hg hunknown
    obtain ⟨kind, hkind, -⟩ := h.fresh g hg
    rw [hunknown] at hkind
    cases hkind
  · obtain ⟨hg, hkind⟩ := hfound hbytes
    cases (hget bytes hg).symm.trans hdata
    exact ⟨bytes, hg, hkind, hread⟩
  · intro hvsock
    obtain ⟨bytes, hbytes, data, hdata, x, hx, hsome⟩ := hsocket hvsock
    obtain ⟨hg, hkind⟩ := hfound hbytes
    cases (hget bytes hg).symm.trans hdata
    exact ⟨bytes, hg, hkind, x, hx, hsome⟩
  · intro g hg hkind
    obtain ⟨p, hp⟩ := Option.isSome_iff_exists.mp (hpolicies g hg hkind)
    have hstored : found .policy = some g := (h.final .policy g).mpr (.inr ⟨hg, hkind⟩)
    refine ⟨p, hp, ?_⟩
    rw [hnone, hstored, Option.bind_some, hget g hg, Option.bind_some, hp]
  · intro habsent
    rw [hnone]
    cases hstored : found .policy with
    | none => rfl
    | some bytes =>
      obtain ⟨hg, hkind⟩ := hfound hstored
      exact absurd hkind (habsent bytes hg)

end

/-- Within enough turns the reader returns and does not panic. A list that it accepts is as it
should be and encodes the value, exactly when it is terminated in the bytes and its policy HOB can
be read. -/
theorem hob_list_sound_iff (shim : TdShim) (hshim : shim.Advances) (policyV2 vsock : Bool)
    (hob : Octets) (turns : Nat) (hturns : hob.length < turns) :
    (∃ result, readMigInfo shim ⟨policyV2, false⟩ vsock turns hob = some result ∧
      result ≠ .error .panicked) ∧
    (shim.Documented → ∀ info, readMigInfo shim ⟨policyV2, false⟩ vsock turns hob =
        some (.ok info) →
      (Encodes ⟨policyV2, false⟩ vsock hob info ↔ Proper hob)) := by
  obtain ⟨found, hloop, hreturns⟩ :=
    hobLoop_finishes hshim turns 0 (fun _ => none) (Nat.zero_le hob.length) (by omega)
  have hrun : readMigInfo shim ⟨policyV2, false⟩ vsock turns hob =
      some (found >>= createMigrationInformation shim ⟨policyV2, false⟩ vsock) := by
    rw [readMigInfo, hloop]
    rfl
  rw [hrun]
  cases found with
  | error e =>
    rw [error_bind]
    exact ⟨⟨_, rfl, fun h => by cases h; exact hreturns rfl⟩, fun _ _ h => by cases h⟩
  | ok found =>
    rw [ok_bind]
    refine ⟨⟨_, rfl, create_returns⟩, fun hdocumented info hinfo => ⟨?_, ?_⟩⟩
    · rintro ⟨hobs, chain, hencoded⟩
      refine ⟨hobs, chain, fun g hg hkind => ?_⟩
      obtain ⟨p, hp, -⟩ := hencoded.policy g hg hkind
      rw [hp]
      rfl
    · rintro ⟨hobs, chain, hpolicies⟩
      exact ⟨hobs, chain, encoded_of_collected hdocumented (hobLoop_chain hdocumented chain hloop)
        chain.mem hpolicies (Option.some.inj hinfo)⟩

/-- The next HOB must begin within the list. -/
def sampleShim : TdShim where
  alignToNextHobOffset cap offset length :=
    let next := roundUp (offset + length.toNat)
    if length.toNat = 0 ∨ 2 ^ 16 ≤ roundUp length.toNat ∨ cap ≤ next then none else some next
  getGuidData hob :=
    if 24 ≤ hob.length ∧ leValue ((hob.drop 2).take 2) = hob.length then some (hob.drop 24)
    else none

theorem sampleShim_advances : sampleShim.Advances := by
  intro cap offset length next h
  simp only [sampleShim] at h
  split_ifs at h with hnone
  cases h
  unfold roundUp at *
  omega

theorem sampleShim_documented : sampleShim.Documented := by
  refine ⟨?_, ?_, ?_⟩
  · intro cap offset length next h
    simp only [sampleShim] at h
    split_ifs at h
    cases h
    rfl
  · intro cap offset length hpos hlong hinside
    simp only [sampleShim]
    rw [if_neg (by omega)]
    rfl
  · intro hob hlong hlength
    exact if_pos ⟨hlong, hlength⟩

def informationHob : Octets :=
  putU16 HOB_TYPE_GUID_EXTENSION ++ (putU16 96 ++ (putU32 0 ++ (Kind.information.name ++
    List.replicate 72 0)))

def endMarker : Octets := putU16 HOB_TYPE_END_OF_HOB_LIST ++ (putU16 8 ++ putU32 0)

theorem accepted_of_any {read : Option (Except (Stop Unit) MigrationInformation)}
    (h : read.any Except.isOk = true) : ∃ info, read = some (.ok info) := by
  cases read with
  | none => cases h
  | some x =>
    obtain ⟨info, rfl⟩ := exists_ok_of_isOk h
    exact ⟨info, rfl⟩

private theorem markedList_checked :
    let hob := informationHob ++ endMarker
    (readMigInfo sampleShim ⟨false, false⟩ false 105 hob).any Except.isOk = true ∧
      hob.length = 104 ∧ field16 hob 0 = 4 ∧ field16 hob 2 = 96 ∧ field16 hob 96 = 0xffff ∧
      field16 hob 98 = 8 ∧ kindOf (guidHobAt hob 0) = some .information := by
  decide +kernel

theorem hob_list_sound_marked :
    ∃ info, readMigInfo sampleShim ⟨false, false⟩ false 105 (informationHob ++ endMarker) =
        some (.ok info) ∧
      Encodes ⟨false, false⟩ false (informationHob ++ endMarker) info := by
  obtain ⟨hread, hlength, htype, hsize, hmarker, hlast, hkind⟩ := markedList_checked
  obtain ⟨info, hinfo⟩ := accepted_of_any hread
  have hproper : Proper (informationHob ++ endMarker) := by
    refine ⟨[guidHobAt _ 0], .guid htype (by rw [hsize]; decide) (by rw [hsize]; decide)
      (by rw [hsize, hlength]; decide) ?_, ?_⟩
    · rw [hsize]
      change HobChain _ 96 []
      exact .marker hmarker (by rw [hlast]) (by rw [hlast, hlength])
    · intro h hmem hpolicy
      rw [List.mem_singleton.mp hmem, hkind] at hpolicy
      cases hpolicy
  exact ⟨info, hinfo, ((hob_list_sound_iff sampleShim sampleShim_advances false false
    (informationHob ++ endMarker) 105 (by rw [hlength]; decide)).2 sampleShim_documented info
    hinfo).mpr hproper⟩

theorem HobChain.type {hob : Octets} {offset : Nat} {hobs : List Octets}
    (chain : HobChain hob offset hobs) :
    field16 hob offset = HOB_TYPE_END_OF_HOB_LIST.toNat ∨
      field16 hob offset = HOB_TYPE_GUID_EXTENSION.toNat ∧
        ∃ rest, HobChain hob (roundUp (offset + field16 hob (offset + 2))) rest := by
  cases chain with
  | marker type => exact .inl type
  | guid type _ _ _ later => exact .inr ⟨type, _, later⟩

/-- Eight zero bytes in the place of the end-of-list HOB are accepted. -/
theorem hob_list_unterminated :
    (∃ info, readMigInfo sampleShim ⟨false, false⟩ false 105
        (informationHob ++ List.replicate 8 0) = some (.ok info)) ∧
      ∀ info, ¬Encodes ⟨false, false⟩ false (informationHob ++ List.replicate 8 0) info := by
  have hrun : let hob := informationHob ++ List.replicate 8 0
      (readMigInfo sampleShim ⟨false, false⟩ false 105 hob).any Except.isOk = true ∧
        field16 hob 0 = 4 ∧ field16 hob 2 = 96 ∧ field16 hob 96 = 0 := by decide +kernel
  obtain ⟨hread, htype, hsize, hzero⟩ := hrun
  refine ⟨accepted_of_any hread, ?_⟩
  rintro info ⟨hobs, chain, -⟩
  rcases chain.type with hend | ⟨-, rest, later⟩
  · rw [htype] at hend
    cases hend
  · rw [hsize] at later
    rcases later.type with hend | ⟨hguid, -⟩
    · exact absurd (hzero.symm.trans hend) (by decide)
    · exact absurd (hzero.symm.trans hguid) (by decide)

end MigTd.Migration.HobList
