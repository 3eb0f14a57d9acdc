/- scope: library
   digest: One end of an ordered byte stream that splits and merges chunks as it likes. -/

import MigTd.Lib.StateProgram
import Mathlib.Data.List.Basic

set_option autoImplicit false

namespace MigTd.Lib.ByteLink

open StateProgram

/-- The answers that the stream will give to the next calls, where an absent count is a failure,
and what has passed in each direction. -/
structure Link where
  writes : List (Option Nat)
  reads : List (Option Nat)
  incoming : List UInt8
  sent : List UInt8
  received : List UInt8

/-- A call can fail, or wait for an answer that never comes. -/
inductive Halt (ε : Type) where
  | failed (e : ε)
  | waiting
  deriving DecidableEq

variable {ε : Type}

def sendFrom (e : ε) : List (Option Nat) → List UInt8 → Link → Except (Halt ε) Unit × Link
  | writes, [], s => (.ok (), { s with writes := writes })
  | [], _ :: _, s => (.error .waiting, { s with writes := [] })
  | none :: writes, _ :: _, s => (.error (.failed e), { s with writes := writes })
  | some n :: writes, b :: data, s =>
    sendFrom e writes ((b :: data).drop n) { s with sent := s.sent ++ (b :: data).take n }

def receiveFrom (e : ε) :
    List (Option Nat) → Nat → List UInt8 → Link → Except (Halt ε) (List UInt8) × Link
  | reads, 0, buffer, s => (.ok buffer, { s with reads := reads })
  | [], _ + 1, _, s => (.error .waiting, { s with reads := [] })
  | none :: reads, _ + 1, _, s => (.error (.failed e), { s with reads := reads })
  | some n :: reads, missing + 1, buffer, s =>
    let chunk := s.incoming.take (min n (missing + 1))
    receiveFrom e reads (missing + 1 - chunk.length) (buffer ++ chunk) { s with
        incoming := s.incoming.drop chunk.length
        received := s.received ++ chunk }

def send (e : ε) (data : List UInt8) : Program Link (Halt ε) Unit := fun s =>
  sendFrom e s.writes data s

def receive (e : ε) (size : Nat) : Program Link (Halt ε) (List UInt8) := fun s =>
  receiveFrom e s.reads size [] s

structure Moved (s t : Link) (out inn : List UInt8) : Prop where
  sent : t.sent = s.sent ++ out
  received : t.received = s.received ++ inn

variable {s t : Link}

theorem Moved.refl : Moved s s [] [] :=
  ⟨(List.append_nil _).symm, (List.append_nil _).symm⟩

theorem Moved.trans {u : Link} {out out' inn inn' : List UInt8} (h : Moved s t out inn)
    (h' : Moved t u out' inn') : Moved s u (out ++ out') (inn ++ inn') := by
  refine ⟨?_, ?_⟩
  · rw [h'.sent, h.sent, List.append_assoc]
  · rw [h'.received, h.received, List.append_assoc]

def sentSince (s t : Link) : List UInt8 := t.sent.drop s.sent.length

def receivedSince (s t : Link) : List UInt8 := t.received.drop s.received.length

theorem Moved.since {out inn : List UInt8} (h : Moved s t out inn) :
    sentSince s t = out ∧ receivedSince s t = inn := by
  unfold sentSince receivedSince
  rw [h.sent, h.received, List.drop_left, List.drop_left]
  exact ⟨rfl, rfl⟩

theorem sendFrom_post (e : ε) (writes : List (Option Nat)) (data : List UInt8) (s : Link) :
    ∃ out, out <+: data ∧ Moved s (sendFrom e writes data s).2 out [] ∧
      ((sendFrom e writes data s).1 = .ok () → out = data) := by
  induction writes generalizing data s with
  | nil =>
    cases data with
    | nil => exact ⟨[], List.prefix_rfl, ⟨by simp [sendFrom], by simp [sendFrom]⟩, fun _ => rfl⟩
    | cons b data =>
      exact ⟨[], List.nil_prefix, ⟨by simp [sendFrom], by simp [sendFrom]⟩, by simp [sendFrom]⟩
  | cons answer writes ih =>
    cases data with
    | nil => exact ⟨[], List.prefix_rfl, ⟨by simp [sendFrom], by simp [sendFrom]⟩, fun _ => rfl⟩
    | cons b data =>
      cases answer with
      | none =>
        exact ⟨[], List.nil_prefix, ⟨by simp [sendFrom], by simp [sendFrom]⟩, by simp [sendFrom]⟩
      | some n =>
        rw [sendFrom]
        obtain ⟨out, hout, hmoved, hok⟩ := ih ((b :: data).drop n)
          { s with sent := s.sent ++ (b :: data).take n }
        refine ⟨(b :: data).take n ++ out, ?_, ⟨?_, ?_⟩, ?_⟩
        · conv_rhs => rw [← List.take_append_drop n (b :: data)]
          exact (List.prefix_append_right_inj _).mpr hout
        · rw [hmoved.sent, List.append_assoc]
        · exact hmoved.received
        · intro h
          rw [hok h, List.take_append_drop]

theorem receiveFrom_post (e : ε) (reads : List (Option Nat)) (missing : Nat)
    (buffer : List UInt8) (s : Link) :
    ∃ inn, Moved s (receiveFrom e reads missing buffer s).2 [] inn ∧
      ((∃ h, (receiveFrom e reads missing buffer s).1 = .error h ∧ inn.length < missing) ∨
        ((receiveFrom e reads missing buffer s).1 = .ok (buffer ++ inn) ∧
          inn.length = missing)) := by
  induction reads generalizing missing buffer s with
  | nil =>
    cases missing with
    | zero => exact ⟨[], ⟨by simp [receiveFrom], by simp [receiveFrom]⟩, by simp [receiveFrom]⟩
    | succ missing =>
      exact ⟨[], ⟨by simp [receiveFrom], by simp [receiveFrom]⟩, by simp [receiveFrom]⟩
  | cons answer reads ih =>
    cases missing with
    | zero => exact ⟨[], ⟨by simp [receiveFrom], by simp [receiveFrom]⟩, by simp [receiveFrom]⟩
    | succ missing =>
      cases answer with
      | none => exact ⟨[], ⟨by simp [receiveFrom], by simp [receiveFrom]⟩, by simp [receiveFrom]⟩
      | some n =>
        rw [receiveFrom]
        have hlen : (s.incoming.take (min n (missing + 1))).length ≤ missing + 1 := by
          rw [List.length_take]
          omega
        generalize s.incoming.take (min n (missing + 1)) = chunk at hlen ⊢
        obtain ⟨inn, hmoved, hres⟩ := ih (missing + 1 - chunk.length) (buffer ++ chunk) { s with
            incoming := s.incoming.drop chunk.length
            received := s.received ++ chunk }
        refine ⟨chunk ++ inn, ⟨hmoved.sent, ?_⟩, ?_⟩
        · rw [hmoved.received, List.append_assoc]
        · rw [List.length_append]
          rcases hres with ⟨h, herr, hlt⟩ | ⟨hok, heq⟩
          · exact .inl ⟨h, herr, by omega⟩
          · exact .inr ⟨by rw [hok, List.append_assoc], by omega⟩

/-- Whatever the outcome, it and the bytes that passed are related in this way. -/
def Transfers {α : Type} (m : Program Link (Halt ε) α)
    (Q : Except (Halt ε) α → List UInt8 → List UInt8 → Prop) : Prop :=
  ∀ s, Post m s fun r t => ∃ out inn, Moved s t out inn ∧ Q r out inn

section

variable {α β : Type}

theorem transfers_send (e : ε) (data : List UInt8) : Transfers (send e data) fun r out inn =>
      inn = [] ∧ out <+: data ∧ (r = .ok () → out = data) := by
  intro s
  obtain ⟨out, hout, hmoved, hok⟩ := sendFrom_post e s.writes data s
  exact ⟨out, [], hmoved, rfl, hout, hok⟩

theorem transfers_receive (e : ε) (size : Nat) :
    Transfers (receive e size) fun r out inn => out = [] ∧ match r with
      | .ok data => inn = data ∧ data.length = size
      | .error _ => inn.length < size := by
  intro s
  obtain ⟨inn, hmoved, hres⟩ := receiveFrom_post e s.reads size [] s
  refine ⟨[], inn, hmoved, rfl, ?_⟩
  change match (receiveFrom e s.reads size [] s).1 with
    | .ok data => inn = data ∧ data.length = size
    | .error _ => inn.length < size
  rcases hres with ⟨h, herr, hlt⟩ | ⟨hok, hlen⟩
  · rw [herr]
    exact hlt
  · rw [hok]
    exact ⟨rfl, hlen⟩

theorem transfers_lift (x : Except (Halt ε) α) :
    Transfers (lift x) fun r out inn => r = x ∧ out = [] ∧ inn = [] :=
  fun _ => ⟨[], [], .refl, rfl, rfl, rfl⟩

theorem transfers_pure (a : α) : Transfers (pure a : Program Link (Halt ε) α) fun r out inn =>
      r = .ok a ∧ out = [] ∧ inn = [] :=
  fun _ => ⟨[], [], .refl, rfl, rfl, rfl⟩

theorem transfers_ensure (c : Prop) [Decidable c] (e : Halt ε) :
    Transfers (ensure c e) fun _ out inn => out = [] ∧ inn = [] := by
  intro s
  exact post_ensure.mpr ⟨fun _ => ⟨[], [], .refl, rfl, rfl⟩, fun _ => ⟨[], [], .refl, rfl, rfl⟩⟩

variable {Q : Except (Halt ε) α → List UInt8 → List UInt8 → Prop} {m : Program Link (Halt ε) α}

theorem Transfers.mono {Q' : Except (Halt ε) α → List UInt8 → List UInt8 → Prop} (h : Transfers m Q)
    (hq : ∀ r out inn, Q r out inn → Q' r out inn) : Transfers m Q' := by
  intro s
  refine (h s).mono ?_
  rintro r t ⟨out, inn, hmoved, hr⟩
  exact ⟨out, inn, hmoved, hq r out inn hr⟩

theorem Transfers.bind {f : α → Program Link (Halt ε) β}
    {R : α → Except (Halt ε) β → List UInt8 → List UInt8 → Prop}
    {S : Except (Halt ε) β → List UInt8 → List UInt8 → Prop} (hm : Transfers m Q)
    (hf : ∀ a, Transfers (f a) (R a))
    (hok : ∀ a out inn, Q (.ok a) out inn → ∀ r out' inn', R a r out' inn' →
      S r (out ++ out') (inn ++ inn'))
    (herr : ∀ e out inn, Q (.error e) out inn → S (.error e) out inn) :
    Transfers (m >>= f) S := by
  intro s
  refine post_bind_of (hm s) ?_ ?_
  · rintro a t ⟨out, inn, hmoved, hq⟩
    refine (hf a t).mono ?_
    rintro r u ⟨out', inn', hmoved', hr⟩
    exact ⟨out ++ out', inn ++ inn', hmoved.trans hmoved', hok a out inn hq r out' inn' hr⟩
  · rintro e t ⟨out, inn, hmoved, hq⟩
    exact ⟨out, inn, hmoved, herr e out inn hq⟩

theorem Transfers.guarded {c : Prop} [Decidable c] {e : Halt ε} (hm : Transfers m Q) :
    Transfers (do ensure c e; m) fun r out inn =>
      (c ∧ Q r out inn) ∨ (¬c ∧ r = .error e ∧ out = [] ∧ inn = []) := by
  intro s
  by_cases hc : c
  · refine post_bind.mpr (post_ensure.mpr ⟨fun _ => ?_, fun h => absurd hc h⟩)
    refine (hm s).mono ?_
    rintro r t ⟨out, inn, hmoved, hq⟩
    exact ⟨out, inn, hmoved, .inl ⟨hc, hq⟩⟩
  · refine post_bind.mpr (post_ensure.mpr ⟨fun h => absurd h hc, fun _ => ?_⟩)
    exact ⟨[], [], .refl, .inr ⟨hc, rfl, rfl, rfl⟩⟩

theorem Transfers.of_run (h : Transfers m Q) {r : Except (Halt ε) α} (hrun : m s = (r, t)) :
    Q r (sentSince s t) (receivedSince s t) := by
  have hs := h s
  unfold Post at hs
  rw [hrun] at hs
  obtain ⟨out, inn, hmoved, hq⟩ := hs
  rw [hmoved.since.1, hmoved.since.2]
  exact hq

end

end MigTd.Lib.ByteLink
