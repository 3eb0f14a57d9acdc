/- scope: library
   digest: Byte streams read item by item through a reader that always consumes something. -/

import Mathlib.Data.List.Basic

set_option autoImplicit false

namespace MigTd.Lib.Framing

/-- A reader of one item that returns what follows it and never stands still. -/
structure ItemReader (ι : Type) where
  next : List UInt8 → Option (ι × List UInt8)
  shrinks : ∀ {bytes i rest}, next bytes = some (i, rest) → rest.length < bytes.length

variable {ι : Type}

def itemsFuel (next : List UInt8 → Option (ι × List UInt8)) : Nat → List UInt8 → List ι
  | 0, _ => []
  | n + 1, bytes => match next bytes with
    | none => []
    | some (i, rest) => i :: itemsFuel next n rest

/-- All items, until the reader finds no further one. -/
def ItemReader.items (f : ItemReader ι) (bytes : List UInt8) : List ι :=
  itemsFuel f.next (bytes.length + 1) bytes

variable (f : ItemReader ι)

theorem itemsFuel_enough (n : Nat) (bytes : List UInt8) (h : bytes.length < n) :
    itemsFuel f.next n bytes = f.items bytes := by
  unfold ItemReader.items
  generalize hm : bytes.length + 1 = m
  have hlt : bytes.length < m := by omega
  clear hm
  induction n generalizing m bytes with
  | zero => omega
  | succ n ih =>
    cases m with
    | zero => omega
    | succ m =>
      rw [itemsFuel, itemsFuel]
      cases hnext : f.next bytes with
      | none => rfl
      | some p =>
        obtain ⟨i, rest⟩ := p
        have hs := f.shrinks hnext
        simp only [ih rest (by omega) m (by omega)]

theorem ItemReader.items_none {bytes : List UInt8} (h : f.next bytes = none) :
    f.items bytes = [] := by
  rw [ItemReader.items, itemsFuel, h]

theorem ItemReader.items_some {bytes rest : List UInt8} {i : ι}
    (h : f.next bytes = some (i, rest)) : f.items bytes = i :: f.items rest := by
  rw [ItemReader.items, itemsFuel, h]
  have hs := f.shrinks h
  simp only [itemsFuel_enough f bytes.length rest hs]

theorem ItemReader.items_encoded (encode : ι → List UInt8) {P : ι → Prop}
    (hread : ∀ i tail, P i → tail ≠ [] → f.next (encode i ++ tail) = some (i, tail))
    (is : List ι) (tail : List UInt8) (his : ∀ i ∈ is, P i) (htail : tail ≠ []) :
    f.items ((is.map encode).flatten ++ tail) = is ++ f.items tail := by
  induction is with
  | nil => rfl
  | cons i is ih =>
    have hrest : (is.map encode).flatten ++ tail ≠ [] := by simp [htail]
    have hnext := hread i _ (his i List.mem_cons_self) hrest
    rw [List.map_cons, List.flatten_cons, List.append_assoc, f.items_some hnext,
      ih fun j hj => his j (List.mem_cons_of_mem i hj)]
    rfl

end MigTd.Lib.Framing
