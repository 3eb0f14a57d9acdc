/- source: v2/policy.rs
   digest: A peer at the end of a chain of accepted peers would have been accepted at its start. -/

import MigTd.Policy.StatusRanks
import Mathlib.Data.List.Chain

set_option autoImplicit false

namespace MigTd.Policy.Succession

open Lib.StateProgram Conjunction Evaluation StatusRanks

section

variable {p : PolicyProperty} {b c : TcbStatus}

theorem compare_trans {α : Type} [BEq α] [LawfulBEq α] [LE α] [DecidableLE α] [IsTrans α (· ≤ ·)]
    {e : PolicyError} {a : Option α} {b c : α}
    (hab : (do
      let own ← orElse a e
      p.compare (b == own) (own ≤ b)) = .ok true)
    (hbc : p.compare (c == b) (b ≤ c) = .ok true) : (do
      let own ← orElse a e
      p.compare (c == own) (own ≤ c)) = .ok true := by
  obtain ⟨own, hown, hab⟩ := except_bind_ok.mp hab
  have htrans : own ≤ b → b ≤ c → own ≤ c := trans_of (· ≤ ·)
  refine except_bind_ok.mpr ⟨own, hown, ?_⟩
  unfold PolicyProperty.compare at *
  grind

theorem rank_of_compare (h : p.compare (c.eq b) (b.rank ≤ c.rank) = .ok true) : b.rank ≤ c.rank := by
  unfold PolicyProperty.compare TcbStatus.eq at h
  grind

private theorem evaluateTcbStatus_trans {a : Option TcbStatus}
    (hab : p.evaluateTcbStatus b a = .ok true) (hbc : p.evaluateTcbStatus c (some b) = .ok true) :
    p.evaluateTcbStatus c a = .ok true := by
  by_cases hle : b.rank ≤ c.rank
  · exact evaluateTcbStatus_mono hle hab
  · -- The own status is the better one, so the property does not compare with it.
    unfold PolicyProperty.evaluateTcbStatus at hbc ⊢
    obtain ⟨operation, reference⟩ := p
    cases reference with
    | string reference =>
      dsimp only at hbc ⊢
      split_ifs at hbc ⊢
      · exact hbc
      · rfl
      · exact absurd (rank_of_compare hbc) hle
      · exact hbc
    | _ => exact hbc

theorem judge_trans {k : PropertyKind} {a : Option k.Value} {b c : k.Value}
    (hab : k.judge p b a = .ok true) (hbc : k.judge p c (some b) = .ok true) :
    k.judge p c a = .ok true := by
  cases k with
  | tcbStatusAccepted => exact evaluateTcbStatus_trans hab hbc
  | migtdTcbStatusAccepted => exact hbc
  | _ =>
    -- Numbers and texts: only a relative reference looks at the own data.
    simp only [PropertyKind.judge, PolicyProperty.evaluateInteger,
      PolicyProperty.evaluateString] at *
    obtain ⟨operation, reference⟩ := p
    cases reference with
    | string reference =>
      dsimp only at *
      split_ifs at *
      · exact compare_trans hab hbc
      · exact hbc
    | _ => exact hbc

end

/-- The block passes the data of a peer, where `self` and `init` stand for the own data. -/
def Accepts (skipGlobal : Bool) (block : List PolicyTypes) (own peer : PolicyEvaluationInfo) : Prop :=
  evaluatePolicyBlock peer own skipGlobal block = .ok ()

instance (skipGlobal : Bool) (block : List PolicyTypes) :
    IsTrans PolicyEvaluationInfo (Accepts skipGlobal block) := ⟨by
  intro own between peer hfirst hsecond
  unfold Accepts at *
  rw [block_holds] at *
  intro t ht happlies k p hp
  obtain ⟨b, hb, hab⟩ := hfirst t ht happlies k p hp
  obtain ⟨c, hc, hbc⟩ := hsecond t ht happlies k p hp
  rw [hb] at hbc
  exact ⟨c, hc, judge_trans hab hbc⟩⟩

/-- When each member of a chain of migrations passes a block against the one before it, each passes
it against all before it: no status, date, number or SVN is lowered in small steps. -/
theorem accepted_along_chain (skipGlobal : Bool) (block : List PolicyTypes)
    (chain : List PolicyEvaluationInfo) :
    chain.IsChain (Accepts skipGlobal block) ↔ chain.Pairwise (Accepts skipGlobal block) :=
  List.isChain_iff_pairwise

end MigTd.Policy.Succession
