/- source: v2/mod.rs, json-signer/src/lib.rs
   digest: The two decoders of hexadecimal signatures: accepted strings, panics and inverses. -/

import MigTd.Lib.Slices
import MigTd.Policy.Collateral

set_option autoImplicit false

namespace MigTd.Policy.HexStrings

open Lib.Ascii Lib.Slices Lib.StateProgram Collateral

inductive SignerError where
  | invalidString
  deriving DecidableEq

def isCharBoundary (s : Text) (i : Nat) : Bool :=
  i == 0 || match s[i]? with
    | some b => !isContinuation b
    | none => i == s.length

/-- `&s[start..stop]`, which panics inside a character and behind the end. -/
def strSlice (s : Text) (start stop : Nat) : Except (Stop SignerError) Text :=
  if start ≤ stop ∧ isCharBoundary s start ∧ isCharBoundary s stop then
    .ok ((s.drop start).take (stop - start))
  else .error .panicked

/-- One turn of the iterator: the two bytes from `i` on as a number. -/
def signerByte (s : Text) (i : Nat) : Except (Stop SignerError) UInt8 := do
  match ← strSlice s i (i + 2) with
  | [a, b] => orElse (fromStrRadix16 a b) (.failed .invalidString)
  | _ => .error (.failed .invalidString)

/-- `hex_string_to_bytes` of the json-signer. The collection stops at the first error. -/
def signerHexStringToBytes (s : Text) : Except (Stop SignerError) Octets := do
  require (s.length % 2 = 0) (.failed .invalidString)
  (List.range' 0 ((s.length + 1) / 2) 2).mapM (signerByte s)

def isHexDigit (b : UInt8) : Bool :=
  (0x30 ≤ b && b ≤ 0x39) || (0x41 ≤ b && b ≤ 0x46) || (0x61 ≤ b && b ≤ 0x66)

/-- Two digits, or a plus sign and a digit. -/
def readablePair (a b : UInt8) : Bool := (isHexDigit a || a == 0x2B) && isHexDigit b

def readable : Text → Bool
  | [] => true
  | [_] => false
  | a :: b :: rest => readablePair a b && readable rest

def hasSign : Text → Bool
  | a :: _ :: rest => a == 0x2B || hasSign rest
  | _ => false

def startsInside : Text → Bool
  | [] => false
  | b :: _ => isContinuation b

/-- Behind readable pairs only, some pair ends inside a character. -/
def cutsCharacter : Text → Bool
  | a :: b :: rest => startsInside rest || (readablePair a b && cutsCharacter rest)
  | _ => false

theorem forall_byte {P : UInt8 → Prop} (h : ∀ n < 256, P (UInt8.ofNat n)) (b : UInt8) : P b := by
  have hb := h b.toNat b.toNat_lt
  rwa [UInt8.ofNat_toNat] at hb

theorem hexValue_spec (b : UInt8) : (hexValue b).isSome = isHexDigit b ∧
      ∀ v, hexValue b = some v → v < 16 ∧ hexDigit v = upperByte b := by
  have hspec : ∀ n < 256, (hexValue (UInt8.ofNat n)).isSome = isHexDigit (UInt8.ofNat n) ∧
      ∀ v ∈ hexValue (UInt8.ofNat n), v < 16 ∧ hexDigit v = upperByte (UInt8.ofNat n) := by
    decide +kernel
  exact forall_byte (P := fun b => (hexValue b).isSome = isHexDigit b ∧
    ∀ v ∈ hexValue b, v < 16 ∧ hexDigit v = upperByte b) hspec b

theorem hexValue_digit (n : Nat) (h : n < 16) : hexValue (hexDigit n) = some n := by
  have hdigit : ∀ n < 16, hexValue (hexDigit n) = some n := by decide
  exact hdigit n h

theorem isHexDigit_spec (b : UInt8) (h : isHexDigit b = true) : b < 0x80 ∧ b ≠ 0x2B := by
  have hspec : ∀ n < 256, isHexDigit (UInt8.ofNat n) = true →
      UInt8.ofNat n < 0x80 ∧ UInt8.ofNat n ≠ 0x2B := by decide +kernel
  exact forall_byte (P := fun b => isHexDigit b = true → b < 0x80 ∧ b ≠ 0x2B) hspec b h

theorem fromStrRadix16_isSome (a b : UInt8) : (fromStrRadix16 a b).isSome = readablePair a b := by
  have ha := (hexValue_spec a).1
  have hb := (hexValue_spec b).1
  unfold fromStrRadix16 readablePair
  by_cases hsign : a = 0x2B
  · rw [if_pos hsign, Option.isSome_map, hb, hsign]
    rfl
  · rw [if_neg hsign, ← ha, ← hb]
    cases hexValue a <;> cases hexValue b <;> simp [hsign]

theorem fromStrRadix16_digits {a b byte : UInt8} (hsign : a ≠ 0x2B)
    (h : fromStrRadix16 a b = some byte) : hexByte byte = [upperByte a, upperByte b] := by
  rw [fromStrRadix16, if_neg hsign] at h
  simp only [Option.bind_eq_bind, Option.bind_eq_some_iff] at h
  obtain ⟨hi, hhi, lo, hlo, hbyte⟩ := h
  obtain ⟨hhi16, hhiDigit⟩ := (hexValue_spec a).2 hi hhi
  obtain ⟨hlo16, hloDigit⟩ := (hexValue_spec b).2 lo hlo
  have hval : byte.toNat = 16 * hi + lo := by
    rw [← Option.some.inj hbyte, UInt8.toNat_ofNat']
    omega
  have hdiv : byte.toNat / 16 = hi := by omega
  have hmod : byte.toNat % 16 = lo := by omega
  rw [hexByte, hdiv, hmod, hhiDigit, hloDigit]

theorem fromStrRadix16_hexByte (byte : UInt8) :
    fromStrRadix16 (hexDigit (byte.toNat / 16)) (hexDigit (byte.toNat % 16)) = some byte := by
  have hlt := byte.toNat_lt
  have hhi := hexValue_digit (byte.toNat / 16) (by omega)
  have hlo := hexValue_digit (byte.toNat % 16) (by omega)
  have hsign : hexDigit (byte.toNat / 16) ≠ 0x2B := by
    intro h
    rw [h] at hhi
    cases hhi
  rw [fromStrRadix16, if_neg hsign, hhi, hlo]
  refine congrArg some ?_
  rw [Nat.div_add_mod, UInt8.ofNat_toNat]

theorem readable_even_ascii : ∀ s : Text, readable s = true → s.length % 2 = 0 ∧ isAscii s = true
  | [], _ => ⟨rfl, rfl⟩
  | [_], h => by cases h
  | a :: b :: rest, h => by
    simp only [readable, readablePair, Bool.and_eq_true, Bool.or_eq_true, beq_iff_eq] at h
    obtain ⟨⟨ha, hb⟩, hrest⟩ := h
    obtain ⟨heven, hascii⟩ := readable_even_ascii rest hrest
    have haLt : a < 0x80 := by
      rcases ha with ha | rfl
      · exact (isHexDigit_spec a ha).1
      · decide
    refine ⟨by rw [List.length_cons, List.length_cons]; omega, ?_⟩
    unfold isAscii at hascii ⊢
    simp [haLt, (isHexDigit_spec b hb).1, hascii]

theorem readable_unsigned_iff : ∀ s : Text, readable s = true ∧ hasSign s = false ↔
      s.length % 2 = 0 ∧ ∀ b ∈ s, isHexDigit b = true
  | [] => by simp [readable, hasSign]
  | [_] => by simp [readable]
  | a :: b :: rest => by
    have ih := readable_unsigned_iff rest
    have hlen : (a :: b :: rest).length % 2 = rest.length % 2 := by
      rw [List.length_cons, List.length_cons]
      omega
    have hsign : isHexDigit a = true → a ≠ 0x2B := fun h => (isHexDigit_spec a h).2
    rw [hlen]
    simp only [readable, readablePair, hasSign, Bool.and_eq_true, Bool.or_eq_true, beq_iff_eq,
      Bool.or_eq_false_iff, beq_eq_false_iff_ne, List.mem_cons, forall_eq_or_imp]
    constructor
    · rintro ⟨⟨⟨ha, hb⟩, hrest⟩, hne, hrestSign⟩
      obtain ⟨heven, hdigits⟩ := ih.mp ⟨hrest, hrestSign⟩
      exact ⟨heven, ha.resolve_right hne, hb, hdigits⟩
    · rintro ⟨heven, ha, hb, hdigits⟩
      obtain ⟨hrest, hrestSign⟩ := ih.mpr ⟨heven, hdigits⟩
      exact ⟨⟨⟨.inl ha, hb⟩, hrest⟩, hsign ha, hrestSign⟩

theorem hexPairs_isSome : ∀ s : Text, s.length % 2 = 0 → (hexPairs s).isSome = readable s
  | [], _ => rfl
  | [_], h => by cases h
  | a :: b :: rest, h => by
    have ih := hexPairs_isSome rest (by rw [List.length_cons, List.length_cons] at h; omega)
    rw [hexPairs, readable, ← fromStrRadix16_isSome, ← ih]
    cases fromStrRadix16 a b <;> cases hexPairs rest <;> rfl

variable {bytes : Octets} {s : Text}

theorem readable_of_hexPairs (heven : s.length % 2 = 0)
    (h : hexPairs s = some bytes) : readable s = true := by
  rw [← hexPairs_isSome s heven, h]
  rfl

theorem hexPairs_encode : ∀ (s : Text) (bytes : Octets), s.length % 2 = 0 → hasSign s = false →
      hexPairs s = some bytes → bytesToHexString bytes = toAsciiUppercase s
  | [], bytes, _, _, h => by
    cases h
    rfl
  | [_], _, heven, _, _ => by cases heven
  | a :: b :: rest, bytes, heven, hsign, h => by
    simp only [hexPairs, Option.bind_eq_bind, Option.bind_eq_some_iff] at h
    obtain ⟨byte, hbyte, restBytes, hrest, hbytes⟩ := h
    simp only [hasSign, Bool.or_eq_false_iff, beq_eq_false_iff_ne] at hsign
    have ih := hexPairs_encode rest restBytes
      (by rw [List.length_cons, List.length_cons] at heven; omega) hsign.2 hrest
    rw [← Option.some.inj hbytes]
    unfold bytesToHexString toAsciiUppercase at ih ⊢
    rw [List.flatMap_cons, ih, fromStrRadix16_digits hsign.1 hbyte]
    rfl

theorem hexPairs_bytesToHexString (bytes : Octets) :
    hexPairs (bytesToHexString bytes) = some bytes := by
  induction bytes with
  | nil => rfl
  | cons byte bytes ih =>
    unfold bytesToHexString at ih ⊢
    rw [List.flatMap_cons, hexByte, List.cons_append, List.cons_append, List.nil_append, hexPairs,
      fromStrRadix16_hexByte, ih]
    rfl

theorem bytesToHexString_length (bytes : Octets) :
    (bytesToHexString bytes).length = 2 * bytes.length := by
  induction bytes with
  | nil => rfl
  | cons byte bytes ih =>
    unfold bytesToHexString at ih ⊢
    rw [List.flatMap_cons, List.length_append, ih, List.length_cons, hexByte, List.length_cons,
      List.length_cons, List.length_nil]
    omega

theorem cutsCharacter_readable : ∀ s : Text, readable s = true → cutsCharacter s = false
  | [], _ => rfl
  | [_], _ => rfl
  | a :: b :: rest, h => by
    simp only [readable, Bool.and_eq_true] at h
    have hascii := (readable_even_ascii rest h.2).2
    have hstart : startsInside rest = false := by
      cases rest with
      | nil => rfl
      | cons c rest =>
        simp only [isAscii, List.all_cons, Bool.and_eq_true, decide_eq_true_eq] at hascii
        have hc := hascii.1
        simp only [startsInside, isContinuation, Bool.and_eq_false_iff, decide_eq_false_iff_not]
        exact .inl (UInt8.not_le.mpr hc)
    rw [cutsCharacter, hstart, cutsCharacter_readable rest h.2, Bool.and_false, Bool.or_false]

theorem hexStringToBytes_ok :
    hexStringToBytes s = .ok bytes ↔ s ≠ [] ∧ s.length % 2 = 0 ∧ hexPairs s = some bytes := by
  unfold hexStringToBytes
  by_cases hgate : (s.isEmpty || s.length % 2 != 0 || !isAscii s) = true
  · rw [if_pos hgate]
    refine iff_of_false (by simp) ?_
    rintro ⟨hne, heven, hpairs⟩
    have hread := readable_of_hexPairs heven hpairs
    simp [hne, heven, (readable_even_ascii s hread).2] at hgate
  · rw [if_neg hgate, orElse_ok]
    simp only [Bool.or_eq_true, List.isEmpty_iff, bne_iff_ne, not_or, not_not] at hgate
    exact ⟨fun h => ⟨hgate.1.1, hgate.1.2, h⟩, fun h => h.2.2⟩

theorem isCharBoundary_append (before s : Text) :
    isCharBoundary (before ++ s) before.length = (before.isEmpty || !startsInside s) := by
  unfold isCharBoundary
  cases before with
  | nil => rfl
  | cons first before =>
    cases s with
    | nil => simp [startsInside]
    | cons b s => simp [startsInside]

theorem signerByte_pair {before : Text} {a b : UInt8} {rest : Text}
    (hstart : before = [] ∨ startsInside (a :: b :: rest) = false) :
    signerByte (before ++ a :: b :: rest) before.length =
      if startsInside rest then .error .panicked
      else orElse (fromStrRadix16 a b) (.failed .invalidString) := by
  have hleft : isCharBoundary (before ++ a :: b :: rest) before.length = true := by
    rw [isCharBoundary_append]
    rcases hstart with rfl | hstart
    · rfl
    · simp [hstart]
  have hright : isCharBoundary (before ++ a :: b :: rest) (before.length + 2) =
      !startsInside rest := by
    have happ : before ++ a :: b :: rest = (before ++ [a, b]) ++ rest := by simp
    have hlen : before.length + 2 = (before ++ [a, b]).length := by simp
    rw [happ, hlen, isCharBoundary_append]
    simp
  unfold signerByte strSlice
  rw [hleft, hright]
  cases startsInside rest with
  | true =>
    rw [if_neg (by simp)]
    rfl
  | false =>
    rw [if_pos ⟨by omega, rfl, rfl⟩, Nat.add_sub_cancel_left, List.drop_left]
    rfl

theorem mapM_signerByte :
    ∀ before s : Text, s.length % 2 = 0 → (before = [] ∨ startsInside s = false) →
      (List.range' before.length ((s.length + 1) / 2) 2).mapM (signerByte (before ++ s)) =
        if cutsCharacter s then .error .panicked
        else orElse (hexPairs s) (.failed .invalidString)
  | _, [], _, _ => rfl
  | _, [_], heven, _ => by cases heven
  | before, a :: b :: rest, heven, hstart => by
    have hrestEven : rest.length % 2 = 0 := by
      rw [List.length_cons, List.length_cons] at heven
      omega
    have hcount : ((a :: b :: rest).length + 1) / 2 = (rest.length + 1) / 2 + 1 := by
      rw [List.length_cons, List.length_cons]
      omega
    rw [hcount, List.range'_succ, List.mapM_cons, signerByte_pair hstart, cutsCharacter, hexPairs]
    cases hin : startsInside rest with
    | true => rfl
    | false =>
      have ih := mapM_signerByte (before ++ [a, b]) rest hrestEven (.inr hin)
      rw [List.append_assoc, List.length_append] at ih
      have hread := fromStrRadix16_isSome a b
      cases hbyte : fromStrRadix16 a b with
      | none =>
        rw [hbyte] at hread
        rw [← hread]
        rfl
      | some byte =>
        rw [hbyte] at hread
        have hsuffix : before.length + [a, b].length = before.length + 2 := rfl
        rw [hsuffix] at ih
        rw [← hread, if_neg (by decide), orElse, ok_bind]
        simp only [List.cons_append, List.nil_append] at ih
        rw [ih]
        cases cutsCharacter rest with
        | true => rfl
        | false => cases hexPairs rest <;> rfl

theorem signerHexStringToBytes_eq (s : Text) (heven : s.length % 2 = 0) :
    signerHexStringToBytes s = if cutsCharacter s then .error .panicked
      else orElse (hexPairs s) (.failed .invalidString) := by
  rw [signerHexStringToBytes, require_pos heven, ok_bind]
  exact mapM_signerByte [] s heven (.inl rfl)

theorem signerHexStringToBytes_odd (s : Text) (hodd : s.length % 2 ≠ 0) :
    signerHexStringToBytes s = .error (.failed .invalidString) := by
  rw [signerHexStringToBytes, require_neg hodd, error_bind]

theorem signerHexStringToBytes_ok :
    signerHexStringToBytes s = .ok bytes ↔ s.length % 2 = 0 ∧ hexPairs s = some bytes := by
  by_cases heven : s.length % 2 = 0
  · rw [signerHexStringToBytes_eq s heven]
    cases hcut : cutsCharacter s with
    | true =>
      refine iff_of_false (by simp) ?_
      rintro ⟨-, hpairs⟩
      have hread := readable_of_hexPairs heven hpairs
      rw [cutsCharacter_readable s hread] at hcut
      cases hcut
    | false =>
      rw [if_neg (by decide), orElse_ok]
      exact ⟨fun h => ⟨heven, h⟩, fun h => h.2⟩
  · rw [signerHexStringToBytes_odd s heven]
    exact iff_of_false (by simp) fun h => heven h.1

theorem signer_panics_iff (s : Text) :
    signerHexStringToBytes s = .error .panicked ↔ s.length % 2 = 0 ∧ cutsCharacter s = true := by
  by_cases heven : s.length % 2 = 0
  · rw [signerHexStringToBytes_eq s heven]
    cases hcut : cutsCharacter s with
    | true => simp [heven]
    | false => cases hexPairs s <;> simp [orElse]
  · rw [signerHexStringToBytes_odd s heven]
    simp [heven]

/-- What a string should get from the two decoders. -/
structure DecodedSoundly (s : Text) : Prop where
  policyAccepts : (∃ bytes, hexStringToBytes s = .ok bytes) ↔
    s ≠ [] ∧ s.length % 2 = 0 ∧ ∀ b ∈ s, isHexDigit b = true
  signerAccepts : (∃ bytes, signerHexStringToBytes s = .ok bytes) ↔
    s.length % 2 = 0 ∧ ∀ b ∈ s, isHexDigit b = true
  signerReturns : signerHexStringToBytes s ≠ .error .panicked
  policyInverse : ∀ bytes, hexStringToBytes s = .ok bytes →
    bytesToHexString bytes = toAsciiUppercase s
  signerInverse : ∀ bytes, signerHexStringToBytes s = .ok bytes →
    bytesToHexString bytes = toAsciiUppercase s
  agree : s ≠ [] → ∀ bytes, hexStringToBytes s = .ok bytes ↔ signerHexStringToBytes s = .ok bytes

/-- The encoder is a right inverse of both decoders, and a string is decoded as it should be
exactly when it does not consist of pairs that the number parser reads with a sign among them, and
no pair behind readable ones cuts a character. -/
theorem hex_decoding_sound_iff (s : Text) :
    (∀ bytes, bytes ≠ [] → hexStringToBytes (bytesToHexString bytes) = .ok bytes) ∧
      (∀ bytes, signerHexStringToBytes (bytesToHexString bytes) = .ok bytes) ∧
      (DecodedSoundly s ↔
        (s.length % 2 = 0 → cutsCharacter s = false ∧ (readable s = true → hasSign s = false))) := by
  have heven : ∀ bytes, (bytesToHexString bytes).length % 2 = 0 := by
    intro bytes
    rw [bytesToHexString_length]
    omega
  refine ⟨?_, ?_, ?_⟩
  · intro bytes hne
    refine hexStringToBytes_ok.mpr ⟨?_, heven bytes, hexPairs_bytesToHexString bytes⟩
    intro hempty
    have hlen := bytesToHexString_length bytes
    rw [hempty, List.length_nil] at hlen
    exact hne (List.length_eq_zero_iff.mp (by omega))
  · intro bytes
    exact signerHexStringToBytes_ok.mpr ⟨heven bytes, hexPairs_bytesToHexString bytes⟩
  · constructor
    · intro h hs
      refine ⟨?_, ?_⟩
      · refine eq_false_of_ne_true fun hcut => h.signerReturns ?_
        exact (signer_panics_iff s).mpr ⟨hs, hcut⟩
      · intro hread
        obtain ⟨bytes, hbytes⟩ := Option.isSome_iff_exists.mp ((hexPairs_isSome s hs).trans hread)
        have hok := signerHexStringToBytes_ok.mpr ⟨hs, hbytes⟩
        exact ((readable_unsigned_iff s).mpr (h.signerAccepts.mp ⟨bytes, hok⟩)).2
    · intro h
      have haccepts : (∃ bytes, s.length % 2 = 0 ∧ hexPairs s = some bytes) ↔
          s.length % 2 = 0 ∧ ∀ b ∈ s, isHexDigit b = true := by
        rw [← readable_unsigned_iff s]
        constructor
        · rintro ⟨bytes, hs, hbytes⟩
          have hread := readable_of_hexPairs hs hbytes
          exact ⟨hread, (h hs).2 hread⟩
        · rintro ⟨hread, -⟩
          have hs := (readable_even_ascii s hread).1
          obtain ⟨bytes, hbytes⟩ :=
            Option.isSome_iff_exists.mp ((hexPairs_isSome s hs).trans hread)
          exact ⟨bytes, hs, hbytes⟩
      have hinverse : ∀ bytes, s.length % 2 = 0 → hexPairs s = some bytes →
          bytesToHexString bytes = toAsciiUppercase s := by
        intro bytes hs hbytes
        have hread := readable_of_hexPairs hs hbytes
        exact hexPairs_encode s bytes hs ((h hs).2 hread) hbytes
      exact {
        policyAccepts := by
          simp only [hexStringToBytes_ok]
          rw [exists_and_left, haccepts]
        signerAccepts := by
          simp only [signerHexStringToBytes_ok]
          exact haccepts
        signerReturns := by
          rw [Ne, signer_panics_iff]
          rintro ⟨hs, hcut⟩
          rw [(h hs).1] at hcut
          cases hcut
        policyInverse := by
          intro bytes hok
          obtain ⟨-, hs, hbytes⟩ := hexStringToBytes_ok.mp hok
          exact hinverse bytes hs hbytes
        signerInverse := by
          intro bytes hok
          obtain ⟨hs, hbytes⟩ := signerHexStringToBytes_ok.mp hok
          exact hinverse bytes hs hbytes
        agree := by
          intro hne bytes
          rw [hexStringToBytes_ok, signerHexStringToBytes_ok]
          exact and_iff_right hne }

/-- A plus sign passes both decoders, and a two-byte character at an odd offset stops the
json-signer. -/
theorem hex_decoding_sign_and_panic : hexStringToBytes (ascii "+A") = .ok [0x0A] ∧
      signerHexStringToBytes (ascii "+A") = .ok [0x0A] ∧
      isUtf8 [0x61, 0xC3, 0xA9, 0x62] = true ∧
      signerHexStringToBytes [0x61, 0xC3, 0xA9, 0x62] = .error .panicked := by
  refine ⟨?_, ?_, ?_, ?_⟩ <;> rfl

end MigTd.Policy.HexStrings
