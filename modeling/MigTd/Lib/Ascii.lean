/- scope: library
   digest: Texts as their UTF-8 bytes: letter case, hexadecimal and decimal numbers, splitting. -/

import Mathlib.Data.List.Basic

set_option autoImplicit false

namespace MigTd.Lib.Ascii

/-- A text, as its UTF-8 bytes. -/
abbrev Text := List UInt8

def ascii (s : String) : Text := s.toList.map fun c => UInt8.ofNat c.toNat

def isAscii (t : Text) : Bool := t.all (· < 0x80)

def isContinuation (b : UInt8) : Bool := 0x80 ≤ b && b ≤ 0xBF

/-- Well-formed UTF-8: no overlong form, no surrogate, nothing above U+10FFFF. -/
def isUtf8 : Text → Bool
  | [] => true
  | a :: t =>
    if a < 0x80 then isUtf8 t
    else match t with
      | [] => false
      | b :: t =>
        if 0xC2 ≤ a && a ≤ 0xDF then isContinuation b && isUtf8 t
        else match t with
          | [] => false
          | c :: t =>
            if a == 0xE0 then 0xA0 ≤ b && b ≤ 0xBF && isContinuation c && isUtf8 t
            else if a == 0xED then 0x80 ≤ b && b ≤ 0x9F && isContinuation c && isUtf8 t
            else if 0xE1 ≤ a && a ≤ 0xEF then isContinuation b && isContinuation c && isUtf8 t
            else match t with
              | [] => false
              | d :: t =>
                (if a == 0xF0 then 0x90 ≤ b && b ≤ 0xBF
                else if a == 0xF4 then 0x80 ≤ b && b ≤ 0x8F
                else 0xF1 ≤ a && a ≤ 0xF3 && isContinuation b) &&
                  isContinuation c && isContinuation d && isUtf8 t

def upperByte (b : UInt8) : UInt8 := if 0x61 ≤ b && b ≤ 0x7A then b - 0x20 else b

def toAsciiUppercase (t : Text) : Text := t.map upperByte

/-- The upper-case hexadecimal digit of a number below sixteen. -/
def hexDigit (n : Nat) : UInt8 := UInt8.ofNat (if n < 10 then 0x30 + n else 0x37 + n)

def hexByte (b : UInt8) : Text := [hexDigit (b.toNat / 16), hexDigit (b.toNat % 16)]

def bytesToHexString (bytes : List UInt8) : Text := bytes.flatMap hexByte

def hexValue (b : UInt8) : Option Nat :=
  if 0x30 ≤ b && b ≤ 0x39 then some (b.toNat - 0x30)
  else if 0x41 ≤ b && b ≤ 0x46 then some (b.toNat - 0x37)
  else if 0x61 ≤ b && b ≤ 0x66 then some (b.toNat - 0x57)
  else none

/-- Two characters read as an eight-bit number in base sixteen. A plus sign in front counts as
a sign, as the standard library reads it. -/
def fromStrRadix16 (a b : UInt8) : Option UInt8 :=
  if a = 0x2B then (hexValue b).map UInt8.ofNat
  else do
    let hi ← hexValue a
    let lo ← hexValue b
    return UInt8.ofNat (16 * hi + lo)

/-- The digits of a decimal number, accumulated and kept below 2^32. -/
def decimalFrom : Nat → Text → Option Nat
  | n, [] => some n
  | n, b :: t =>
    if 0x30 ≤ b && b ≤ 0x39 then
      if 10 * n + (b.toNat - 0x30) < 2 ^ 32 then decimalFrom (10 * n + (b.toNat - 0x30)) t
      else none
    else none

/-- A 32-bit decimal number, with an optional plus sign in front. -/
def parseU32 (t : Text) : Option UInt32 :=
  match t with
  | [] => none
  | [0x2B] => none
  | 0x2B :: digits => (decimalFrom 0 digits).map UInt32.ofNat
  | digits => (decimalFrom 0 digits).map UInt32.ofNat

/-- The pieces between occurrences of two dots, taken from the left. -/
def splitDots : Text → List Text
  | [] => [[]]
  | 0x2E :: 0x2E :: t => [] :: splitDots t
  | b :: t => match splitDots t with
    | [] => [[b]]
    | piece :: pieces => (b :: piece) :: pieces

theorem toAsciiUppercase_hex (bytes : List UInt8) :
    toAsciiUppercase (bytesToHexString bytes) = bytesToHexString bytes := by
  have hdigit : ∀ n < 16, upperByte (hexDigit n) = hexDigit n := by decide
  induction bytes with
  | nil => rfl
  | cons b bytes ih =>
    have hb := b.toNat_lt
    have hhi : b.toNat / 16 < 16 := by omega
    have hlo : b.toNat % 16 < 16 := by omega
    unfold toAsciiUppercase bytesToHexString at ih ⊢
    rw [List.flatMap_cons, List.map_append, ih, hexByte]
    simp only [List.map_cons, List.map_nil, hdigit _ hhi, hdigit _ hlo]

end MigTd.Lib.Ascii
