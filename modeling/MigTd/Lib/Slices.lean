/- scope: library
   digest: Index expressions that panic out of bounds, and checked sums. -/

import MigTd.Lib.ByteCodec
import MigTd.Lib.StateProgram

set_option autoImplicit false

namespace MigTd.Lib.Slices

open ByteCodec StateProgram

variable {α ε : Type}

/-- `xs[start..stop]` -/
def slice (xs : List α) (start stop : Nat) : Except (Stop ε) (List α) :=
  if start ≤ stop ∧ stop ≤ xs.length then .ok ((xs.drop start).take (stop - start))
  else .error .panicked

/-- `xs.get(start..stop)` -/
def getRange (xs : List α) (start stop : Nat) : Option (List α) :=
  if start ≤ stop ∧ stop ≤ xs.length then some ((xs.drop start).take (stop - start)) else none

/-- `xs[start..stop].copy_from_slice(data)` -/
def copyAt (xs : List α) (start stop : Nat) (data : List α) : Except (Stop ε) (List α) :=
  if start ≤ stop ∧ stop ≤ xs.length ∧ data.length = stop - start then
    .ok (xs.take start ++ (data ++ xs.drop stop))
  else .error .panicked

/-- `xs[i]` -/
def index (xs : List α) (i : Nat) : Except (Stop ε) α :=
  match xs[i]? with
  | some x => .ok x
  | none => .error .panicked

def checkedAdd (a b : Nat) : Option Nat := if a + b < 2 ^ 64 then some (a + b) else none

/-- The sum of two `usize` values: an overflow is checked with debug assertions and wraps
without. -/
def usizeSum (debugAssertions : Bool) (a b : Nat) : Except (Stop ε) Nat :=
  if a + b < 2 ^ 64 then .ok (a + b)
  else if debugAssertions then .error .panicked
  else .ok ((a + b) % 2 ^ 64)

variable {start stop : Nat} {xs : List α}

theorem slice_ok (hle : start ≤ stop) (hstop : stop ≤ xs.length) :
    (slice xs start stop : Except (Stop ε) (List α)) = .ok ((xs.drop start).take (stop - start)) :=
  if_pos ⟨hle, hstop⟩

theorem getRange_some (hle : start ≤ stop) (hstop : stop ≤ xs.length) :
    getRange xs start stop = some ((xs.drop start).take (stop - start)) :=
  if_pos ⟨hle, hstop⟩

theorem getRange_none (hstop : xs.length < stop) : getRange xs start stop = none :=
  if_neg fun h => absurd h.2 (Nat.not_le.mpr hstop)

theorem copyAt_ok {data : List α} (hle : start ≤ stop)
    (hstop : stop ≤ xs.length) (hdata : data.length = stop - start) :
    (copyAt xs start stop data : Except (Stop ε) (List α)) =
      .ok (xs.take start ++ (data ++ xs.drop stop)) :=
  if_pos ⟨hle, hstop, hdata⟩

theorem copyAt_append {first old last data : List α}
    (hstart : first.length = start) (hold : old.length = data.length)
    (hstop : start + data.length = stop) :
    (copyAt (first ++ (old ++ last)) start stop data : Except (Stop ε) (List α)) =
      .ok (first ++ (data ++ last)) := by
  have hlen : (first ++ (old ++ last)).length = stop + last.length := by
    rw [List.length_append, List.length_append]
    omega
  have hdrop : (first ++ (old ++ last)).drop stop = last := by
    rw [← List.append_assoc]
    exact List.drop_left' (by rw [List.length_append]; omega)
  rw [copyAt_ok (by omega) (by omega) (by omega), List.take_left' hstart, hdrop]

theorem index_ok {i : Nat} {x : α} (h : xs[i]? = some x) :
    (index xs i : Except (Stop ε) α) = .ok x := by
  rw [index, h]

theorem checkedAdd_small {a b : Nat} (h : a + b < 2 ^ 64) : checkedAdd a b = some (a + b) :=
  if_pos h

variable {β : Type}

theorem ok_bind (a : α) (f : α → Except ε β) : ((.ok a : Except ε α) >>= f) = f a := rfl

theorem error_bind (e : ε) (f : α → Except ε β) : ((.error e : Except ε α) >>= f) = .error e := rfl

theorem require_pos {c : Prop} [Decidable c] (h : c) (e : ε) : require c e = .ok () := if_pos h

theorem require_neg {c : Prop} [Decidable c] (h : ¬c) (e : ε) : require c e = .error e := if_neg h

end MigTd.Lib.Slices
