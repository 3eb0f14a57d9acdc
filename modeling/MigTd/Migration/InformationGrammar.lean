/- source: migration/mod.rs
   digest: Which payloads are migration information, and what becomes of their bytes. -/

import MigTd.Lib.FailureClass
import MigTd.Migration.Requests

set_option autoImplicit false

namespace MigTd.Migration.InformationGrammar

open Lib.ByteCodec Lib.FailureClass Lib.StateProgram Information Requests

/-- The header of the structure with these reserved bytes; `build_mig_info` of the tests writes it
with zeroes. -/
def headerBytes (b : Build) (info : MigtdMigrationInformation) (reserved : Bytes 6) : Octets :=
  putU64 info.migRequestId ++ (putU8 info.migrationSource ++ (putU8 info.hasInitData ++
    (reserved.1 ++ (putWords info.targetTdUuid.1 ++ (putU64 info.bindingHandle ++
      if b.vmcallRaw then [] else putU64 info.migPolicyId ++ putU64 info.communicationId)))))

/-- The whole structure, as `pwrite` lays it out. -/
def layoutBytes (b : Build) (x : MigtdMigrationInformation × Bytes 6) : Octets :=
  headerBytes b x.1 x.2 ++ if b.policyV2 then x.1.initTdInfo.1 else []

/-- The declared length counts the init data. -/
abbrev Full (b : Build) (dataLength : UInt32) : Prop :=
  dataLength.toNat = migInfoHeaderSize b + TD_INFO_SIZE

abbrev Declared (b : Build) (dataLength : UInt32) : Prop :=
  dataLength.toNat = migInfoHeaderSize b ∨ Full b dataLength

def layoutSize (b : Build) : Nat := migInfoHeaderSize b + if b.policyV2 then TD_INFO_SIZE else 0

/-- `build_mig_info`: a value in its own form, the init data only where it is present. -/
def buildMigInfo (b : Build) (info : MigtdMigrationInformation) : Octets :=
  headerBytes b info (Bytes.zero 6) ++ (info.initTdInfoIfPresent.map Subtype.val).getD []

@[simp] theorem putU64_length (v : UInt64) : (putU64 v).length = 8 := leBytes_length 8 v.toNat

@[simp] theorem putU8_length (v : UInt8) : (putU8 v).length = 1 := rfl

private theorem putWords_length (ws : List UInt64) : (putWords ws).length = 8 * ws.length := by
  induction ws with
  | nil => rfl
  | cons w ws ih =>
    change (putU64 w ++ putWords ws).length = _
    rw [List.length_append, putU64_length, ih, List.length_cons]
    omega

theorem headerBytes_length (b : Build) (info : MigtdMigrationInformation) (reserved : Bytes 6) :
    (headerBytes b info reserved).length = migInfoHeaderSize b := by
  have hwords : (putWords info.targetTdUuid.1).length = 32 := by
    rw [putWords_length, info.targetTdUuid.2]
  unfold headerBytes migInfoHeaderSize
  cases b.vmcallRaw <;> simp [hwords, reserved.2]

theorem completes_absent {α : Type} (a : α) : Completes (pure a) 0 [] fun _ : α => [] :=
  completes_pure rfl

variable {head payload : Octets}

theorem completes_initTdInfo (b : Build) (info : MigtdMigrationInformation)
    (reserved : Bytes 6) {front : Octets} (hfront : headerBytes b info reserved = front) :
    Completes (if b.policyV2 then do
        let initTdInfo ← array TD_INFO_SIZE
        pure ({ info with initTdInfo := initTdInfo }, reserved)
      else do
        let initTdInfo ← pure (Bytes.zero TD_INFO_SIZE)
        pure ({ info with initTdInfo := initTdInfo }, reserved))
      (if b.policyV2 then TD_INFO_SIZE else 0) front (layoutBytes b) := by
  rw [← hfront]
  refine .branch (fun hv2 => ?_) fun hv2 => ?_
  · refine Completes.bind (n := 0) (completes_array TD_INFO_SIZE) (fun initTdInfo => ?_)
      (by rw [hv2]; rfl)
    refine completes_pure ?_
    rw [layoutBytes, if_pos hv2]
    rfl
  · refine Completes.bind (n := 0) (completes_absent _) (fun initTdInfo => ?_) (by rw [hv2]; rfl)
    refine completes_pure ?_
    rw [layoutBytes, hv2]
    rfl

theorem completes_migInfoLayout (b : Build) :
    Completes (migInfoLayout b) (layoutSize b) [] (layoutBytes b) := by
  have hsize : 8 + (1 + (1 + (6 + (8 * 4 + (8 + ((if b.vmcallRaw then 0 else 16) +
      (if b.policyV2 then TD_INFO_SIZE else 0))))))) = layoutSize b := by
    unfold layoutSize migInfoHeaderSize
    cases b.vmcallRaw <;> simp <;> omega
  unfold migInfoLayout
  refine Completes.bind completes_u64 (fun migRequestId => ?_) hsize
  refine Completes.bind completes_u8 (fun migrationSource => ?_) rfl
  refine Completes.bind completes_u8 (fun hasInitData => ?_) rfl
  refine Completes.bind (completes_array 6) (fun reserved => ?_) rfl
  refine Completes.bind (completes_wordArray 4) (fun targetTdUuid => ?_) rfl
  refine Completes.bind completes_u64 (fun bindingHandle => ?_) rfl
  dsimp only
  refine .branch (fun hraw => ?_) fun hraw => ?_
  · refine Completes.bind (n := if b.policyV2 then TD_INFO_SIZE else 0) (completes_absent 0)
      (fun migPolicyId => ?_) (by rw [if_pos hraw])
    rw [if_pos hraw]
    refine Completes.bind (completes_absent 0) (fun communicationId => ?_) (Nat.zero_add _)
    refine completes_initTdInfo b ⟨migRequestId, migrationSource, hasInitData, targetTdUuid,
      bindingHandle, migPolicyId, communicationId, Bytes.zero TD_INFO_SIZE⟩ reserved ?_
    simp [headerBytes, hraw]
  · refine Completes.bind (n := 8 + if b.policyV2 then TD_INFO_SIZE else 0) completes_u64
      (fun migPolicyId => ?_) (by rw [hraw, ← Nat.add_assoc]; rfl)
    rw [if_neg (by rw [hraw]; decide)]
    refine Completes.bind completes_u64 (fun communicationId => ?_) rfl
    refine completes_initTdInfo b ⟨migRequestId, migrationSource, hasInitData, targetTdUuid,
      bindingHandle, migPolicyId, communicationId, Bytes.zero TD_INFO_SIZE⟩ reserved ?_
    simp [headerBytes, hraw]

structure WellFormed (b : Build) (dataLength : UInt32) (payload : Octets) : Prop where
  declared : Declared b dataLength
  present : dataLength.toNat ≤ payload.length
  reserved : (payload.drop 10).take 6 = List.replicate 6 0
  initData : payload.getD 9 0 =
    if Full b dataLength then 1 else 0

/-- The comparison of the code sees only the low 32 bits of the payload's length. -/
def LengthSeen (dataLength : UInt32) (payload : Octets) : Prop :=
  dataLength.toNat ≤ payload.length % 2 ^ 32

theorem header_reserved (b : Build) (info : MigtdMigrationInformation) (reserved : Bytes 6)
    (rest : Octets) :
    ((headerBytes b info reserved ++ rest).drop 10).take 6 = reserved.1 := by
  have hsplit : headerBytes b info reserved ++ rest =
      (putU64 info.migRequestId ++ putU8 info.migrationSource ++ putU8 info.hasInitData) ++
        (reserved.1 ++ (putWords info.targetTdUuid.1 ++ (putU64 info.bindingHandle ++
          ((if b.vmcallRaw then [] else putU64 info.migPolicyId ++ putU64 info.communicationId) ++
            rest)))) := by
    simp only [headerBytes, List.append_assoc]
  rw [hsplit, List.drop_left' (by simp), List.take_left' reserved.2]

theorem header_initData (b : Build) (info : MigtdMigrationInformation) (reserved : Bytes 6)
    (rest : Octets) : (headerBytes b info reserved ++ rest).getD 9 0 = info.hasInitData := by
  have hsplit : headerBytes b info reserved ++ rest =
      (putU64 info.migRequestId ++ putU8 info.migrationSource) ++ (info.hasInitData ::
        (reserved.1 ++ (putWords info.targetTdUuid.1 ++ (putU64 info.bindingHandle ++
          ((if b.vmcallRaw then [] else putU64 info.migPolicyId ++ putU64 info.communicationId) ++
            rest))))) := by
    simp only [headerBytes, putU8, List.append_assoc, List.cons_append, List.nil_append]
  have hfront : (putU64 info.migRequestId ++ putU8 info.migrationSource).length = 9 := by simp
  rw [hsplit, List.getD_eq_getElem?_getD, List.getElem?_append_right (by omega), hfront]
  rfl

def verdict (full : Prop) [Decidable full] (info : MigtdMigrationInformation)
    (reserved : Bytes 6) : Except MigrationResult MigtdMigrationInformation := do
  require (reserved = Bytes.zero 6) .invalidParameter
  require (info.hasInitData ≤ 1) .invalidParameter
  require (info.hasInitData = 1 ↔ full) .invalidParameter
  return info

variable {info : MigtdMigrationInformation} {reserved : Bytes 6} {full : Prop}

theorem verdict_ok [Decidable full] {x : MigtdMigrationInformation}
    : verdict full info reserved = .ok x ↔
      x = info ∧ reserved = Bytes.zero 6 ∧ info.hasInitData = if full then 1 else 0 := by
  have hbit : info.hasInitData ≤ 1 ∧ (info.hasInitData = 1 ↔ full) ↔
      info.hasInitData = if full then 1 else 0 := by
    by_cases hfull : full
    · simp only [hfull, iff_true, ↓reduceIte]
      constructor
      · exact fun h => h.2
      · intro h
        rw [h]
        exact ⟨le_refl 1, rfl⟩
    · simp only [hfull, iff_false, ↓reduceIte]
      constructor
      · intro ⟨hle, hne⟩
        have hle' := UInt8.le_iff_toNat_le.mp hle
        have hne' : info.hasInitData.toNat ≠ 1 := fun h => hne (UInt8.toNat_inj.mp h)
        apply UInt8.toNat_inj.mp
        change info.hasInitData.toNat = 0
        change info.hasInitData.toNat ≤ 1 at hle'
        omega
      · intro h
        rw [h]
        decide
  rw [← hbit]
  unfold verdict
  constructor
  · intro h
    obtain ⟨_, hres, h⟩ := except_bind_ok.mp h
    obtain ⟨_, hle, h⟩ := except_bind_ok.mp h
    obtain ⟨_, hiff, h⟩ := except_bind_ok.mp h
    cases h
    exact ⟨rfl, require_ok.mp hres, require_ok.mp hle, require_ok.mp hiff⟩
  · rintro ⟨rfl, hres, hle, hiff⟩
    rw [require, if_pos hres, require, if_pos hle, require, if_pos hiff]
    rfl

theorem verdict_error [Decidable full] (h : ¬∃ x, verdict full info reserved = .ok x) :
    verdict full info reserved = .error .invalidParameter := by
  have hfact : Fact (MigrationResult.invalidParameter = .invalidParameter) := ⟨rfl⟩
  have hone : Erring (· = .invalidParameter) (verdict full info reserved) := by
    unfold verdict require
    infer_instance
  cases hverdict : verdict full info reserved with
  | ok x => exact absurd ⟨x, hverdict⟩ h
  | error e => rw [hone.of e hverdict]

section

variable {b : Build} {dataLength : UInt32}

theorem pread_form (hv2 : b.policyV2 = true) (hdeclared : Declared b dataLength)
    (hhead : head.length = dataLength.toNat) :
    ∃ info reserved, head = headerBytes b info reserved ++
        (if Full b dataLength then info.initTdInfo.1 else []) ∧
      ∀ rest, pread (migInfoLayout b)
        (if Full b dataLength then head ++ rest
          else (head ++ rest).take (migInfoHeaderSize b) ++ List.replicate TD_INFO_SIZE 0) =
        .ok (info, reserved) := by
  have hsize : layoutSize b = migInfoHeaderSize b + TD_INFO_SIZE := by
    rw [layoutSize, if_pos hv2]
  by_cases hfull : Full b dataLength
  · simp only [if_pos hfull]
    obtain ⟨⟨info, reserved⟩, hput, hread⟩ :=
      completes_migInfoLayout b head (by rw [hhead, hfull, hsize])
    refine ⟨info, reserved, ?_, ?_⟩
    · rw [← List.nil_append head, ← hput, layoutBytes, if_pos hv2]
    · intro rest
      rw [pread, hread rest]
      rfl
  · simp only [if_neg hfull]
    have hshort : head.length = migInfoHeaderSize b := by omega
    obtain ⟨⟨info, reserved⟩, hput, hread⟩ := completes_migInfoLayout b
      (head ++ List.replicate TD_INFO_SIZE 0)
      (by rw [List.length_append, List.length_replicate, hshort, hsize])
    refine ⟨info, reserved, ?_, ?_⟩
    · rw [layoutBytes, List.nil_append] at hput
      have hboth := List.append_inj_left hput (by rw [headerBytes_length, hshort])
      rw [List.append_nil]
      exact hboth.symm
    · intro rest
      have hnil := hread []
      rw [List.append_nil] at hnil
      rw [List.take_left' hshort, pread, hnil]
      rfl

theorem read_declared (hv2 : b.policyV2 = true)
    (hdeclared : Declared b dataLength)
    (hhead : head.length = dataLength.toNat) :
    ∃ info reserved, head = headerBytes b info reserved ++
        (if Full b dataLength then info.initTdInfo.1 else []) ∧
      ∀ rest, readMigrationInformation b dataLength (head ++ rest) =
        if dataLength.toNat ≤ (head ++ rest).length % 2 ^ 32 then
          verdict (Full b dataLength) info reserved
        else .error .invalidParameter := by
  obtain ⟨info, reserved, hbytes, hread⟩ := pread_form hv2 hdeclared hhead
  refine ⟨info, reserved, hbytes, ?_⟩
  intro rest
  have hthis := hread rest
  unfold readMigrationInformation
  simp only [hv2, ↓reduceIte]
  rw [require, if_pos hdeclared]
  by_cases hseen : dataLength.toNat ≤ (head ++ rest).length % 2 ^ 32
  · rw [require, if_pos hseen, if_pos hseen, hthis]
    rfl
  · rw [require, if_neg hseen, if_neg hseen]
    rfl

theorem wellFormed_iff {rest : Octets} (hdeclared : Declared b dataLength)
    (hhead : head.length = dataLength.toNat) (hbytes : head = headerBytes b info reserved ++
      (if Full b dataLength then info.initTdInfo.1 else [])) :
    WellFormed b dataLength (head ++ rest) ↔ reserved = Bytes.zero 6 ∧ info.hasInitData =
        if Full b dataLength then 1 else 0 := by
  have hres : ((head ++ rest).drop 10).take 6 = reserved.1 := by
    rw [hbytes, List.append_assoc, header_reserved]
  have hinit : (head ++ rest).getD 9 0 = info.hasInitData := by
    rw [hbytes, List.append_assoc, header_initData]
  constructor
  · intro h
    refine ⟨Subtype.ext ?_, ?_⟩
    · rw [← hres]
      exact h.reserved
    · rw [← hinit]
      exact h.initData
  · intro ⟨hzero, hbit⟩
    refine ⟨hdeclared, ?_, ?_, ?_⟩
    · rw [List.length_append]
      omega
    · rw [hres, hzero]
      rfl
    · rw [hinit]
      exact hbit

theorem read_ok_checked (hv2 : b.policyV2 = true)
    (h : readMigrationInformation b dataLength payload = .ok info) :
    Declared b dataLength ∧ LengthSeen dataLength payload := by
  unfold readMigrationInformation at h
  simp only [hv2, ↓reduceIte] at h
  obtain ⟨_, hdeclared, h⟩ := except_bind_ok.mp h
  obtain ⟨_, hseen, -⟩ := except_bind_ok.mp h
  have hlow := require_ok.mp hseen
  exact ⟨require_ok.mp hdeclared, hlow⟩

theorem LengthSeen.present (h : LengthSeen dataLength payload) :
    dataLength.toNat ≤ payload.length :=
  h.trans (Nat.mod_le _ _)

theorem declared_length (h : dataLength.toNat ≤ payload.length) :
    (payload.take dataLength.toNat).length = dataLength.toNat := by
  rw [List.length_take]
  omega

theorem read_ok_iff (hv2 : b.policyV2 = true) :
    (∃ info, readMigrationInformation b dataLength payload = .ok info) ↔
      WellFormed b dataLength payload ∧ LengthSeen dataLength payload := by
  constructor
  · intro ⟨info, hok⟩
    obtain ⟨hdeclared, hseen⟩ := read_ok_checked hv2 hok
    refine ⟨?_, hseen⟩
    obtain ⟨x, reserved, hbytes, hread⟩ :=
      read_declared hv2 hdeclared (declared_length hseen.present)
    rw [← List.take_append_drop dataLength.toNat payload, hread,
      if_pos (by rw [List.take_append_drop]; exact hseen)] at hok
    rw [← List.take_append_drop dataLength.toNat payload,
      wellFormed_iff hdeclared (declared_length hseen.present) hbytes]
    exact (verdict_ok.mp hok).2
  · intro ⟨hwell, hseen⟩
    have hlen := declared_length hwell.present
    obtain ⟨x, reserved, hbytes, hread⟩ := read_declared hv2 hwell.declared hlen
    rw [← List.take_append_drop dataLength.toNat payload,
      wellFormed_iff hwell.declared hlen hbytes] at hwell
    refine ⟨x, ?_⟩
    rw [← List.take_append_drop dataLength.toNat payload, hread,
      if_pos (by rw [List.take_append_drop]; exact hseen)]
    exact verdict_ok.mpr ⟨rfl, hwell⟩

theorem read_ok_form (hv2 : b.policyV2 = true)
    (hok : readMigrationInformation b dataLength payload = .ok info) :
    buildMigInfo b info = payload.take dataLength.toNat ∧ (info.initTdInfoIfPresent.isSome = true ↔
        Full b dataLength) := by
  obtain ⟨hdeclared, hseen⟩ := read_ok_checked hv2 hok
  obtain ⟨x, reserved, hbytes, hread⟩ :=
    read_declared hv2 hdeclared (declared_length hseen.present)
  rw [← List.take_append_drop dataLength.toNat payload, hread,
    if_pos (by rw [List.take_append_drop]; exact hseen)] at hok
  obtain ⟨rfl, rfl, hbit⟩ := verdict_ok.mp hok
  by_cases hfull : Full b dataLength
  · rw [if_pos hfull] at hbit hbytes
    have hpresent : info.initTdInfoIfPresent = some info.initTdInfo := by
      rw [MigtdMigrationInformation.initTdInfoIfPresent, if_pos hbit]
    rw [buildMigInfo, hpresent, hbytes]
    exact ⟨rfl, fun _ => hfull, fun _ => rfl⟩
  · rw [if_neg hfull] at hbit hbytes
    have habsent : info.initTdInfoIfPresent = none := by
      rw [MigtdMigrationInformation.initTdInfoIfPresent, hbit]
      rfl
    rw [buildMigInfo, habsent, hbytes]
    exact ⟨rfl, fun h => absurd h (by decide), fun h => absurd h hfull⟩

theorem read_error (hv2 : b.policyV2 = true)
    (h : ¬∃ info, readMigrationInformation b dataLength payload = .ok info) :
    readMigrationInformation b dataLength payload = .error .invalidParameter := by
  by_cases hdeclared : Declared b dataLength
  · by_cases hseen : dataLength.toNat ≤ payload.length % 2 ^ 32
    · obtain ⟨x, reserved, -, hread⟩ := read_declared hv2 hdeclared
        (declared_length (hseen.trans (Nat.mod_le _ _)))
      have hthis := hread (payload.drop dataLength.toNat)
      rw [List.take_append_drop, if_pos hseen] at hthis
      rw [hthis] at h ⊢
      exact verdict_error h
    · unfold readMigrationInformation require
      simp only [hv2, ↓reduceIte]
      rw [if_pos hdeclared, if_neg hseen]
      rfl
  · unfold readMigrationInformation require
    simp only [hv2, ↓reduceIte]
    rw [if_neg hdeclared]
    rfl

end

/-- For this declared length and this payload, reading follows the grammar: what is accepted, that
its bytes are those of the value, and that nothing behind them counts. -/
structure FollowsGrammar (b : Build) (dataLength : UInt32) (payload : Octets) : Prop where
  accepted : (∃ info, readMigrationInformation b dataLength payload = .ok info) ↔
    WellFormed b dataLength payload
  reencoded : ∀ info, readMigrationInformation b dataLength payload = .ok info →
    buildMigInfo b info = payload.take dataLength.toNat
  independent : readMigrationInformation b dataLength payload =
    readMigrationInformation b dataLength (payload.take dataLength.toNat)
  visible : ∀ info, readMigrationInformation b dataLength payload = .ok info →
    (info.initTdInfoIfPresent.isSome = true ↔ Full b dataLength)

theorem wellFormed_take {b : Build} {dataLength : UInt32}
    (h : WellFormed b dataLength (payload.take dataLength.toNat)) :
    WellFormed b dataLength payload := by
  have hlarge : 16 ≤ dataLength.toNat := by
    have hshort : 16 ≤ migInfoHeaderSize b := by
      unfold migInfoHeaderSize
      split <;> omega
    rcases h.declared with hd | hd <;> omega
  have hpresent : dataLength.toNat ≤ payload.length := by
    have hp := h.present
    rw [List.length_take] at hp
    omega
  refine ⟨h.declared, hpresent, ?_, ?_⟩
  · have hres := h.reserved
    rwa [List.drop_take, List.take_take, Nat.min_eq_left (by omega)] at hres
  · have hinit := h.initData
    rw [List.getD_eq_getElem?_getD, List.getElem?_take_of_lt (by omega)] at hinit
    rw [List.getD_eq_getElem?_getD]
    exact hinit

/-- Reading follows the grammar for every payload shorter than 4 GiB. -/
theorem information_grammar (b : Build) (hv2 : b.policyV2 = true) (dataLength : UInt32)
    (payload : Octets) (short : payload.length < 2 ^ 32) :
    FollowsGrammar b dataLength payload := by
  have hseen (hwell : WellFormed b dataLength payload) : LengthSeen dataLength payload := by
    rw [LengthSeen, Nat.mod_eq_of_lt short]
    exact hwell.present
  refine ⟨?_, ?_, ?_, ?_⟩
  · rw [read_ok_iff hv2]
    exact ⟨fun h => h.1, fun h => ⟨h, hseen h⟩⟩
  · intro info hok
    exact (read_ok_form hv2 hok).1
  · by_cases hwell : WellFormed b dataLength payload
    · have hlen := declared_length hwell.present
      obtain ⟨x, reserved, -, hread⟩ := read_declared hv2 hwell.declared hlen
      have hlow : dataLength.toNat ≤ payload.length % 2 ^ 32 := hseen hwell
      have hwhole := hread (payload.drop dataLength.toNat)
      rw [List.take_append_drop, if_pos hlow] at hwhole
      have hpart := hread []
      have hsmall := dataLength.toNat_lt
      rw [List.append_nil, hlen, if_pos (by omega)] at hpart
      rw [hwhole, hpart]
    · have hno : ¬∃ info, readMigrationInformation b dataLength payload = .ok info :=
        fun h => hwell ((read_ok_iff hv2).mp h).1
      have hno' : ¬∃ info, readMigrationInformation b dataLength
          (payload.take dataLength.toNat) = .ok info :=
        fun h => hwell (wellFormed_take ((read_ok_iff hv2).mp h).1)
      rw [read_error hv2 hno, read_error hv2 hno']
  · intro info hok
    exact (read_ok_form hv2 hok).2

/-- The header with nothing set in it and four bytes behind it is read. -/
theorem information_grammar_short :
    FollowsGrammar ⟨true, true⟩ 56 (List.replicate 60 0) ∧
      ∃ info, readMigrationInformation ⟨true, true⟩ 56 (List.replicate 60 0) = .ok info := by
  have hfollows := information_grammar ⟨true, true⟩ rfl 56 (List.replicate 60 0) (by decide)
  exact ⟨hfollows, hfollows.accepted.mpr ⟨.inl rfl, by decide, rfl, rfl⟩⟩

end MigTd.Migration.InformationGrammar
