/- source: session.rs, servtd_ext.rs
   digest: The order between the attribute check and the writes of version and key, as a log law. -/

import MigTd.Lib.EventLog
import MigTd.Migration.MskExchange

set_option autoImplicit false

namespace MigTd.Migration.AttrOrder

open Lib.StateProgram Lib.EventLog Information ServtdRecord MskExchange Tdx.Module

/-- A write of version or key demands the passed attribute check of the same target. -/
def AttrDemand (e l : TdEvent) : Prop :=
  ∃ h u, WritesMig h u e.call ∧ l = attrChecked h u

/-- Every write of version or key comes after the passed attribute check of its target. -/
abbrev AttrFirst : TdLog → Prop := Preceded AttrDemand

/-- What one program may add to such a log when the listed checks have passed. -/
abbrev AttrKept (held : TdLog) : TdLog → TdLog → Prop := Grows AttrDemand held

section

variable {α : Type} {m : TdProgram α} {held : TdLog} {h : UInt64} {u : TargetTdUuid}
  {P : TdCall → Prop}

theorem keeps_of_issues (hm : Keeps (Issues P) m)
    (hp : ∀ e : TdEvent, P e.call → ∀ l, AttrDemand e l → l ∈ held) : Keeps (AttrKept held) m := by
  refine hm.mono ?_
  rintro log log' ⟨added, rfl, hadded⟩
  exact Grows.of_append fun e he l hl => hp e (hadded e he) l hl

theorem keeps_attr_of_reads (hm : Keeps (Issues ReadsOnly) m) : Keeps (AttrKept held) m := by
  refine keeps_of_issues hm ?_
  rintro e (⟨h', f, u', hc⟩ | ⟨f, hc⟩) l ⟨h, u, ⟨f', d, -, hw⟩, -⟩
  · rw [hc] at hw
    cases hw
  · rw [hc] at hw
    cases hw

theorem keeps_attr_of_writes (hm : Keeps (Issues (WritesMig h u)) m) :
    Keeps (AttrKept [attrChecked h u]) m := by
  refine keeps_of_issues hm ?_
  rintro e ⟨f, d, -, hc⟩ l ⟨h', u', ⟨f', d', -, hw⟩, rfl⟩
  rw [hc] at hw
  cases hw
  exact List.mem_singleton.mpr rfl

theorem keeps_attr_of_vmWrites (hm : Keeps (Issues P) m)
    (hp : ∀ c, P c → ∃ f v k, c = .vmWrite f v k) : Keeps (AttrKept held) m := by
  refine keeps_of_issues hm ?_
  rintro e he l ⟨h, u, ⟨f', d, -, hw⟩, -⟩
  obtain ⟨f, v, k, hc⟩ := hp _ he
  rw [hc] at hw
  cases hw

theorem verifyServtdAttr_holds {tdx : TdxModule} {log log' : TdLog} {r : Unit}
    (hv : verifyServtdAttr tdx h u log = (.ok r, log')) : [attrChecked h u] ⊆ log' := by
  obtain ⟨-, rfl⟩ := verifyServtdAttr_ok.mp hv
  simp

instance keeps_attr_verifyServtdAttr (tdx : TdxModule) :
    Keeps (AttrKept held) (verifyServtdAttr tdx h u) :=
  keeps_attr_of_reads <| keeps_verifyServtdAttr.mono fun _ _ hi => hi.mono fun c hc => by
    obtain ⟨f, rfl⟩ := hc
    exact .inl ⟨h, f, u, rfl⟩

instance keeps_attr_readServtdExt (tdx : TdxModule) :
    Keeps (AttrKept held) (readServtdExt tdx h u) :=
  keeps_attr_of_reads <| keeps_readServtdExt.mono fun _ _ hi => hi.mono fun c hc => by
    obtain ⟨f, rfl⟩ := hc
    exact .inl ⟨h, f, u, rfl⟩

instance keeps_attr_exchangeInfo (tdx : TdxModule) (info : MigtdMigrationInformation)
    (isSrc : Bool) : Keeps (AttrKept held) (exchangeInfo tdx info isSrc) :=
  keeps_attr_of_reads inferInstance

theorem keeps_attr_install (tdx : TdxModule) (info : MigtdMigrationInformation) (migVer : UInt16)
    (msk : MigrationSessionKey) :
    Keeps (AttrKept [attrChecked info.bindingHandle info.targetTdUuid]) (do
      setMigVersion tdx info migVer
      writeMsk tdx info msk) :=
  keeps_attr_of_writes inferInstance

end

end MigTd.Migration.AttrOrder
