/- source: mig_policy.rs
   digest: The hash check of TDINFO sees the fields that are not ignored, and nothing else. -/

import MigTd.Policy.MigPolicy

set_option autoImplicit false

namespace MigTd.Policy.MaskedTdInfo

open Attestation.Reports Lib.ByteCodec Lib.StateProgram Measurement.EventLog Migration.Information
  MigPolicy

def Covers (f : IgnorableField) (i : Nat) : Prop := f.start ≤ i ∧ i < f.start + f.size
  deriving Decidable

def IgnoredAt (attr : UInt64) (i : Nat) : Prop :=
  ∃ f ∈ ignorableFields, f.ignoredBy attr = true ∧ Covers f i
  deriving Decidable

theorem clear_byte (f : IgnorableField) (t : TdInfo) (i : Nat) :
    (f.clear t).1[i]? = if Covers f i then some 0 else t.1[i]? := by
  have hfits := f.fits
  have hfront : (t.1.take f.start).length = f.start := by
    rw [List.length_take, t.2]
    omega
  change (t.1.take f.start ++ (List.replicate f.size 0 ++ t.1.drop (f.start + f.size)))[i]? = _
  by_cases hbefore : i < f.start
  · rw [List.getElem?_append_left (by omega), List.getElem?_take_of_lt hbefore]
    rw [if_neg fun h => absurd h.1 (by omega)]
  · rw [List.getElem?_append_right (by omega), hfront]
    by_cases hinside : i < f.start + f.size
    · rw [List.getElem?_append_left (by rw [List.length_replicate]; omega),
        List.getElem?_replicate_of_lt (by omega), if_pos ⟨by omega, hinside⟩]
    · rw [List.getElem?_append_right (by rw [List.length_replicate]; omega),
        List.length_replicate, List.getElem?_drop, if_neg fun h => hinside h.2]
      congr 1
      omega

private theorem masked_byte (fields : List IgnorableField) (attr : UInt64) (t : TdInfo) (i : Nat) :
    (fields.foldl (fun t f => if f.ignoredBy attr then f.clear t else t) t).1[i]? =
      if ∃ f ∈ fields, f.ignoredBy attr = true ∧ Covers f i then some 0 else t.1[i]? := by
  induction fields generalizing t with
  | nil => simp
  | cons f rest ih =>
    rw [List.foldl_cons, ih]
    by_cases hrest : ∃ g ∈ rest, g.ignoredBy attr = true ∧ Covers g i
    · have hany : ∃ g ∈ f :: rest, g.ignoredBy attr = true ∧ Covers g i := by
        obtain ⟨g, hg, h⟩ := hrest
        exact ⟨g, List.mem_cons_of_mem f hg, h⟩
      rw [if_pos hrest, if_pos hany]
    · have hhead : (∃ g ∈ f :: rest, g.ignoredBy attr = true ∧ Covers g i) ↔
          f.ignoredBy attr = true ∧ Covers f i := by
        rw [List.exists_mem_cons_iff, or_iff_left hrest]
      rw [if_neg hrest]
      simp only [hhead]
      by_cases hf : f.ignoredBy attr = true
      · rw [if_pos hf, clear_byte]
        simp only [hf, true_and]
      · rw [if_neg hf, if_neg fun h => hf h.1]

theorem maskTdInfo_byte (attr : UInt64) (t : TdInfo) (i : Nat) :
    (maskTdInfo attr t).1[i]? = if IgnoredAt attr i then some 0 else t.1[i]? :=
  masked_byte ignorableFields attr t i

theorem maskTdInfo_eq_iff {attr : UInt64} {t t' : TdInfo} :
    maskTdInfo attr t = maskTdInfo attr t' ↔ ∀ i, ¬IgnoredAt attr i → t.1[i]? = t'.1[i]? := by
  constructor
  · intro h i hi
    have hbyte := maskTdInfo_byte attr t i
    rw [h, maskTdInfo_byte attr t' i, if_neg hi, if_neg hi] at hbyte
    exact hbyte.symm
  · intro h
    apply Subtype.ext
    apply List.ext_getElem?
    intro i
    rw [maskTdInfo_byte, maskTdInfo_byte]
    by_cases hi : IgnoredAt attr i
    · rw [if_pos hi, if_pos hi]
    · rw [if_neg hi, if_neg hi, h i hi]

section

variable {sha384 : Octets → Octets} {bytes bytes' : Octets} {attr : UInt64}
  {hash : Bytes 48} {t t' : TdInfo}

def givenTdInfo (bytes : Octets) (h : TD_INFO_SIZE ≤ bytes.length) : TdInfo :=
  ⟨bytes.take TD_INFO_SIZE, by rw [List.length_take]; exact Nat.min_eq_left h⟩

theorem given_byte (h : TD_INFO_SIZE ≤ bytes.length) {i : Nat} (hi : i < TD_INFO_SIZE) :
    (givenTdInfo bytes h).1[i]? = bytes[i]? :=
  List.getElem?_take_of_lt hi

theorem verify_of_given (h : TD_INFO_SIZE ≤ bytes.length) :
    verifyServtdInfoHash sha384 bytes attr hash = (do
      let infoHash ← (digestSha384 sha384 (maskTdInfo attr (givenTdInfo bytes h)).1).mapError
        fun _ => .hashCalculation
      require (infoHash = hash.1) .invalidTdReport
      return maskTdInfo attr (givenTdInfo bytes h)) := by
  have hread : array 512 bytes = some (givenTdInfo bytes h, bytes.drop 512) := dif_pos h
  unfold verifyServtdInfoHash
  rw [hread]
  rfl

theorem verify_of_short (h : ¬TD_INFO_SIZE ≤ bytes.length) :
    verifyServtdInfoHash sha384 bytes attr hash = .error .invalidParameter := by
  have hread : array 512 bytes = none := dif_neg h
  unfold verifyServtdInfoHash
  rw [hread]
  rfl

theorem verify_ok (h : verifyServtdInfoHash sha384 bytes attr hash = .ok t) :
    ∃ hle : TD_INFO_SIZE ≤ bytes.length,
      t = maskTdInfo attr (givenTdInfo bytes hle) ∧ sha384 t.1 = hash.1 := by
  by_cases hle : TD_INFO_SIZE ≤ bytes.length
  · rw [verify_of_given hle] at h
    simp only [except_bind_ok, mapError_ok, require_ok] at h
    obtain ⟨digest, hdigest, _, hsame, hret⟩ := h
    have ht := (Except.ok.inj hret).symm
    refine ⟨hle, ht, ?_⟩
    rw [ht, ← (digestSha384_ok hdigest).1]
    exact hsame
  · rw [verify_of_short hle] at h
    cases h

theorem verify_congr (hle : TD_INFO_SIZE ≤ bytes.length ↔ TD_INFO_SIZE ≤ bytes'.length)
    (hsame : ∀ i < TD_INFO_SIZE, ¬IgnoredAt attr i → bytes[i]? = bytes'[i]?) :
    verifyServtdInfoHash sha384 bytes attr hash = verifyServtdInfoHash sha384 bytes' attr hash := by
  by_cases h : TD_INFO_SIZE ≤ bytes.length
  · have h' := hle.mp h
    have hmask : maskTdInfo attr (givenTdInfo bytes h) = maskTdInfo attr (givenTdInfo bytes' h') := by
      rw [maskTdInfo_eq_iff]
      intro i hi
      by_cases hlt : i < TD_INFO_SIZE
      · rw [given_byte h hlt, given_byte h' hlt, hsame i hlt hi]
      · have hout : ∀ u : TdInfo, u.1[i]? = none := fun u =>
          List.getElem?_eq_none (by rw [u.2]; exact Nat.le_of_not_lt hlt)
        rw [hout, hout]
    rw [verify_of_given h, verify_of_given h', hmask]
  · rw [verify_of_short h, verify_of_short (mt hle.mpr h)]

theorem returned_byte (h : verifyServtdInfoHash sha384 bytes attr hash = .ok t) {i : Nat}
    (hi : i < TD_INFO_SIZE) : t.1[i]? = if IgnoredAt attr i then some 0 else bytes[i]? := by
  obtain ⟨hle, rfl, -⟩ := verify_ok h
  rw [maskTdInfo_byte, given_byte hle hi]

theorem returned_eq (h : verifyServtdInfoHash sha384 bytes attr hash = .ok t)
    (h' : verifyServtdInfoHash sha384 bytes' attr hash = .ok t')
    (hinj : Set.InjOn sha384 {t.1, t'.1}) : t = t' := by
  obtain ⟨-, -, hhash⟩ := verify_ok h
  obtain ⟨-, -, hhash'⟩ := verify_ok h'
  apply Subtype.ext
  exact hinj (by simp) (by simp) (hhash.trans hhash'.symm)

end

/-- The check does not see the ignored fields, returns TDINFO with exactly these fields cleared,
and fixes every other byte when the hash is injective on the two TDINFOs that are hashed. -/
theorem masked_tdinfo_hashing (sha384 : Octets → Octets) :
    (∀ (bytes bytes' : Octets) (attr : UInt64) (hash : Bytes 48),
      (TD_INFO_SIZE ≤ bytes.length ↔ TD_INFO_SIZE ≤ bytes'.length) →
      (∀ i < TD_INFO_SIZE, ¬IgnoredAt attr i → bytes[i]? = bytes'[i]?) →
      verifyServtdInfoHash sha384 bytes attr hash = verifyServtdInfoHash sha384 bytes' attr hash) ∧
    (∀ (bytes : Octets) (attr : UInt64) (hash : Bytes 48) (t : TdInfo),
      verifyServtdInfoHash sha384 bytes attr hash = .ok t →
      ∀ i < TD_INFO_SIZE, t.1[i]? = if IgnoredAt attr i then some 0 else bytes[i]?) ∧
    ∀ (bytes bytes' : Octets) (attr : UInt64) (hash : Bytes 48) (t t' : TdInfo),
      verifyServtdInfoHash sha384 bytes attr hash = .ok t →
      verifyServtdInfoHash sha384 bytes' attr hash = .ok t' →
      Set.InjOn sha384 {t.1, t'.1} →
      ∀ i < TD_INFO_SIZE, ¬IgnoredAt attr i → bytes[i]? = bytes'[i]? := by
  refine ⟨fun bytes bytes' attr hash => verify_congr, fun bytes attr hash t h i => returned_byte h,
    ?_⟩
  intro bytes bytes' attr hash t t' h h' hinj i hi hout
  have hbyte := returned_byte h hi
  rw [returned_eq h h' hinj, returned_byte h' hi, if_neg hout, if_neg hout] at hbyte
  exact hbyte.symm

/-- Two TDINFOs that differ in their attributes, which are ignored. -/
theorem masked_tdinfo_hashing_attributes :
    verifyServtdInfoHash lastBytes (5 :: List.replicate 511 0) 0x1_0000_0000 (Bytes.zero 48) =
        .ok (Bytes.zero 512) ∧
      verifyServtdInfoHash lastBytes (List.replicate 512 0) 0x1_0000_0000 (Bytes.zero 48) =
        .ok (Bytes.zero 512) ∧
      ∀ i < TD_INFO_SIZE, ¬IgnoredAt 0x1_0000_0000 i →
        (5 :: List.replicate 511 (0 : UInt8))[i]? = (List.replicate 512 (0 : UInt8))[i]? := by
  have hfirst : verifyServtdInfoHash lastBytes (5 :: List.replicate 511 0) 0x1_0000_0000
      (Bytes.zero 48) = .ok (Bytes.zero 512) := by decide +kernel
  have hsecond : verifyServtdInfoHash lastBytes (List.replicate 512 0) 0x1_0000_0000
      (Bytes.zero 48) = .ok (Bytes.zero 512) := by decide +kernel
  refine ⟨hfirst, hsecond, ?_⟩
  exact (masked_tdinfo_hashing lastBytes).2.2 _ _ _ _ _ _ hfirst hsecond (by simp)

end MigTd.Policy.MaskedTdInfo
