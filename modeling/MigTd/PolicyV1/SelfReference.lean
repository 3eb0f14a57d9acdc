/- source: v1/config.rs, verify.rs, migtd/src/event_log.rs
   digest: Policy v1 documents that compare the two sides with each other only. -/

import MigTd.PolicyV1.Verdict

set_option autoImplicit false

namespace MigTd.PolicyV1.SelfReference

open Attestation.Reports Lib.Ascii Lib.ByteCodec Lib.StateProgram Measurement.EventLog Verdict
  Verify

def AllSelf (map : PropertyMap) : Prop := ∀ entry ∈ map.entries, entry.2.reference = .self

def SelfReferring : Policy → Prop
  | .platform p => p.fmspc = ascii "self" ∧ AllSelf p.tcbInfo
  | .qe q => AllSelf q.qeIdentity
  | .tdxModule t => AllSelf t.tdxModuleIdentity
  | .migtd m => AllSelf m.tdInfo ∧ ∀ log, m.eventLog = some log → AllSelf log

def OnlySelf (policy : MigPolicy) : Prop := ∀ block ∈ policy.blocks, SelfReferring block

def tdxModules (blocks : List Policy) : List TdxModuleInfo :=
  blocks.filterMap fun
    | .tdxModule t => some t
    | _ => none

/-- What the operation asks of the value of a source and the value of its destination. -/
def Follows (op : Operation) (src dst : Octets) : Prop :=
  src.length = dst.length ∧
    match op with
    | .equal | .arrayEqual => src = dst
    | .greaterOrEqual => src.length ≤ 8 ∧ leValue src ≤ leValue dst
    | .arrayGreaterOrEqual => List.Forall₂ (· ≤ ·) src dst
    | .subset | .inRange | .inTimeRange => False

theorem all_zip {l p : Octets} {r : UInt8 → UInt8 → Prop} [DecidableRel r]
    (hlen : l.length = p.length) :
    ((l.zip p).all fun x => decide (r x.1 x.2)) = true ↔ List.Forall₂ r l p := by
  simp [List.forall₂_iff_zip, hlen]

theorem verifySelf_iff (isSrc : Bool) (op : Operation) (own peer : Octets) :
    verifySelf isSrc op own peer = true ↔
      Follows op (if isSrc then own else peer) (if isSrc then peer else own) := by
  by_cases hlen : own.length = peer.length
  · have hflip : List.Forall₂ (fun a b : UInt8 => b ≤ a) own peer ↔
        List.Forall₂ (· ≤ ·) peer own := ⟨List.Forall₂.flip, List.Forall₂.flip⟩
    cases op with
    | equal =>
      cases isSrc with
      | true => simpa [verifySelf, Follows, hlen] using eq_comm
      | false => simp [verifySelf, Follows, hlen]
    | arrayEqual =>
      cases isSrc with
      | true => simp [verifySelf, Follows, hlen]
      | false => simpa [verifySelf, Follows, hlen] using eq_comm
    | greaterOrEqual =>
      by_cases hbig : 8 < peer.length
      · cases isSrc <;> simp [verifySelf, Follows, hlen, sliceToU64, hbig]
      · cases isSrc <;> simp [verifySelf, Follows, hlen, sliceToU64, hbig] <;> omega
    | arrayGreaterOrEqual =>
      cases isSrc with
      | true => simpa [verifySelf, Follows, hlen] using all_zip hlen
      | false => simpa [verifySelf, Follows, hlen, ← hflip] using all_zip hlen
    | subset => simp [verifySelf, Follows]
    | inRange => simp [verifySelf, Follows]
    | inTimeRange => simp [verifySelf, Follows]
  · have hlen' : peer.length ≠ own.length := Ne.symm hlen
    cases isSrc <;> simp [verifySelf, Follows, hlen, hlen']

private theorem forall₂_le_trans {a b c : Octets} (hab : List.Forall₂ (· ≤ ·) a b)
    (hbc : List.Forall₂ (· ≤ ·) b c) : List.Forall₂ (· ≤ ·) a c := by
  induction hab generalizing c with
  | nil => exact hbc
  | cons h _ ih =>
    cases hbc with
    | cons h' hrest => exact .cons (UInt8.le_trans h h') (ih hrest)

theorem Follows.trans {op : Operation} {a b c : Octets} (hab : Follows op a b)
    (hbc : Follows op b c) : Follows op a c := by
  obtain ⟨hlen, hab⟩ := hab
  obtain ⟨hlen', hbc⟩ := hbc
  refine ⟨hlen.trans hlen', ?_⟩
  cases op with
  | equal => exact Eq.trans hab hbc
  | arrayEqual => exact Eq.trans hab hbc
  | greaterOrEqual => exact ⟨hab.1, hab.2.trans hbc.2⟩
  | arrayGreaterOrEqual => exact forall₂_le_trans hab hbc
  | subset => exact hab
  | inRange => exact hab
  | inTimeRange => exact hab

abbrev Answers := Text → Option Octets

def Met (isSrc : Bool) (own peer : Answers) (map : PropertyMap) : Prop :=
  ∀ entry ∈ map.entries, ∃ l p, own entry.1 = some l ∧ peer entry.1 = some p ∧
    entry.2.verify isSrc l p = true

variable {prop : Property} {map : PropertyMap}

theorem verify_self (h : prop.reference = .self) (isSrc : Bool)
    (l p : Octets) : prop.verify isSrc l p = true ↔
      Follows prop.operation (if isSrc then l else p) (if isSrc then p else l) := by
  rw [← verifySelf_iff]
  simp [Property.verify, h]

theorem verify_swap (h : prop.reference = .self) (isSrc : Bool)
    (l p : Octets) : prop.verify isSrc l p = prop.verify (!isSrc) p l := by
  rw [Bool.eq_iff_iff, verify_self h, verify_self h]
  cases isSrc <;> exact Iff.rfl

theorem Met.swap {own peer : Answers} (hself : AllSelf map) (isSrc : Bool) :
    Met isSrc own peer map ↔ Met (!isSrc) peer own map := by
  refine forall₂_congr fun entry hentry => ?_
  have hverify := verify_swap (hself entry hentry) isSrc
  constructor
  · rintro ⟨l, p, hl, hp, hmet⟩
    exact ⟨p, l, hp, hl, (hverify l p).symm.trans hmet⟩
  · rintro ⟨p, l, hp, hl, hmet⟩
    exact ⟨l, p, hl, hp, (hverify l p).trans hmet⟩

theorem Met.trans {a b c : Answers} (hself : AllSelf map)
    (hab : Met true a b map) (hbc : Met true b c map) : Met true a c map := by
  intro entry hentry
  obtain ⟨x, y, hx, hy, hxy⟩ := hab entry hentry
  obtain ⟨y', z, hy', hz, hyz⟩ := hbc entry hentry
  obtain rfl := Option.some.inj (hy.symm.trans hy')
  rw [verify_self (hself entry hentry)] at hxy hyz
  refine ⟨x, z, hx, hz, ?_⟩
  rw [verify_self (hself entry hentry)]
  exact Follows.trans hxy hyz

def reportAnswers (table : List (String × Field)) (r : VerifiedReport) : Answers :=
  fun name => (fieldIn table name).map (·.read r)

def migtdAnswers (r : VerifiedReport) : Answers :=
  fun name => (reportAnswers migtdInfoFields r name).map (maskMigtdProperty name)

section

variable {isSrc : Bool} {own peer : VerifiedReport} {map : PropertyMap}
  {table : List (String × Field)}

theorem infoValues_ok {name : Text} {l p : Octets} :
    infoValues table own peer name = .ok (l, p) ↔
      reportAnswers table own name = some l ∧ reportAnswers table peer name = some p := by
  unfold infoValues
  simp only [except_bind_ok, getInfoProperty, orElse_ok]
  constructor
  · rintro ⟨l', hl, p', hp, h⟩
    cases h
    exact ⟨hl, hp⟩
  · rintro ⟨hl, hp⟩
    exact ⟨l, hl, p, hp, rfl⟩

theorem satisfies_info :
    Satisfies isSrc (infoValues table own peer) map ↔
      Met isSrc (reportAnswers table own) (reportAnswers table peer) map := by
  simp only [Satisfies, Met, infoValues_ok, and_assoc]

theorem satisfies_migtd : Satisfies isSrc (migtdValues own peer) map ↔
      Met isSrc (migtdAnswers own) (migtdAnswers peer) map := by
  have hvalues : ∀ name l p, migtdValues own peer name = .ok (l, p) ↔
      migtdAnswers own name = some l ∧ migtdAnswers peer name = some p := by
    intro name l p
    unfold migtdValues migtdAnswers
    simp only [except_bind_ok, Prod.exists, infoValues_ok, Option.map_eq_some_iff]
    constructor
    · rintro ⟨l', p', ⟨hl, hp⟩, h⟩
      cases h
      exact ⟨⟨l', hl, rfl⟩, p', hp, rfl⟩
    · rintro ⟨⟨l', hl, rfl⟩, p', hp, rfl⟩
      exact ⟨l', p', ⟨hl, hp⟩, rfl⟩
  simp only [Satisfies, Met, hvalues, and_assoc]

end

/-- In a parsed log only the event of the SVN keeps its data. -/
def DataByName (events : EventMap) : Prop :=
  ∀ name e, events name = some e → (e.data.isSome = true ↔ name = .migTdCoreSvn)

variable {name : EventName} {events : EventMap} {isSrc : Bool} {own peer : EventMap}

theorem DataByName.insert {e : CcEvent}
    (h : DataByName events) (he : e.data.isSome = true ↔ name = .migTdCoreSvn) :
    DataByName (events.insert name e) := by
  intro n e' hn
  by_cases hname : n = name
  · subst hname
    simp only [EventMap.insert, if_true, Option.some.injEq] at hn
    exact hn ▸ he
  · simp only [EventMap.insert, if_neg hname] at hn
    exact h n e' hn

theorem taggedName_ne {tag : UInt32} (h : taggedName tag = some name) : name ≠ .migTdCoreSvn := by
  unfold taggedName at h
  split_ifs at h <;> cases h <;> decide

theorem parseEvent_dataByName {cc : CcMeasurement} {after : EventMap} {e : Event}
    (hevents : DataByName events) (h : parseEvent cc events e = .ok after) :
    DataByName after := by
  unfold parseEvent at h
  split_ifs at h with hblob hflags hauth hsvn hshort htype
  · split at h
    · cases h
    · split_ifs at h <;> cases h
      · exact hevents.insert (by simp)
      · exact hevents
  · cases h
    exact hevents.insert (by simp)
  · dsimp only at h
    split_ifs at h
    cases h
    exact hevents.insert (by simp)
  · cases h
    exact hevents
  · split at h
    · cases h
    · split at h <;> cases h
      · rename_i name hname
        exact hevents.insert (by simpa using taggedName_ne hname)
      · exact hevents
  · cases h
    exact hevents

theorem parseEvents_dataByName {cc : CcMeasurement} {log : Octets}
    (h : parseEvents cc log = .ok events) : DataByName events := by
  unfold parseEvents at h
  split at h
  · cases h
  · exact foldlM_invariant DataByName (fun _ _ _ => parseEvent_dataByName)
      (fun _ _ hnone => by cases hnone) h

/-- The data of an event, or its digest where it has none. -/
def eventAnswers (events : EventMap) : Answers :=
  fun name => (events (eventName name)).map fun e => e.data.getD e.header.sha384.1

private theorem verifyEvent_iff (hown : DataByName own) (hpeer : DataByName peer) :
    verifyEvent isSrc name prop own peer = true ↔ ∃ l p, own name = some l ∧ peer name = some p ∧
        prop.verify isSrc (l.data.getD l.header.sha384.1) (p.data.getD p.header.sha384.1) =
          true := by
  unfold verifyEvent
  cases hl : own name with
  | none => simp
  | some l =>
    cases hp : peer name with
    | none => simp
    | some p =>
      -- Both events have data or neither has.
      have hdata := (hown name l hl).trans (hpeer name p hp).symm
      cases hld : l.data <;> cases hpd : p.data <;> simp_all

theorem eventsSatisfied_iff (hown : DataByName own) (hpeer : DataByName peer) :
    EventsSatisfied isSrc own peer map ↔ (∀ entry ∈ map.entries, eventName entry.1 ≠ .unknown) ∧
        Met isSrc (eventAnswers own) (eventAnswers peer) map := by
  unfold EventsSatisfied Met eventAnswers
  rw [← forall₂_and]
  refine forall₂_congr fun entry _ => and_congr Iff.rfl ?_
  rw [verifyEvent_iff hown hpeer]
  simp only [Option.map_eq_some_iff]
  constructor
  · rintro ⟨l, p, hl, hp, hmet⟩
    exact ⟨_, _, ⟨l, hl, rfl⟩, ⟨p, hp, rfl⟩, hmet⟩
  · rintro ⟨_, _, ⟨l, hl, rfl⟩, ⟨p, hp, rfl⟩, hmet⟩
    exact ⟨l, p, hl, hp, hmet⟩

section

variable {isSrc : Bool} {own peer : VerifiedReport} {platforms : List PlatformInfo}

theorem targetPlatform_self {p : PlatformInfo} (hself : ∀ q ∈ platforms, q.fmspc = ascii "self") :
    targetPlatform platforms (fmspcOf own) (fmspcOf peer) = .ok p ↔
      platforms = [p] ∧ fmspcOf own = fmspcOf peer := by
  have hnone : platforms.find? (·.fmspc == fmspcOf peer) = none := by
    rw [List.find?_eq_none]
    intro q hq hfmspc
    rw [hself q hq] at hfmspc
    exact fmspcOf_ne_self peer (eq_of_beq hfmspc).symm
  unfold targetPlatform
  split
  · rename_i q
    rw [if_pos (hself q List.mem_cons_self)]
    by_cases hsame : fmspcOf own = fmspcOf peer <;> simp [hsame]
  · rename_i hlist
    rw [hnone]
    constructor
    · intro h
      cases h
    · rintro ⟨hsole, -⟩
      exact absurd hsole (hlist p)

theorem verifyPlatformInfo_self (hself : ∀ q ∈ platforms, q.fmspc = ascii "self") :
    verifyPlatformInfo isSrc own peer platforms = .ok () ↔
      ∃ p, (platforms = [p] ∧ fmspcOf own = fmspcOf peer) ∧
        Met isSrc (reportAnswers platformInfoFields own) (reportAnswers platformInfoFields peer)
          p.tcbInfo := by
  unfold verifyPlatformInfo
  simp only [except_bind_ok, targetPlatform_self hself, verifyProperties_ok]
  exact exists_congr fun p => and_congr Iff.rfl satisfies_info

variable {entries : List (Text × Property)}

theorem tdxModuleSatisfied_swap (hself : ∀ entry ∈ entries, entry.2.reference = .self) :
    tdxModuleSatisfied true own peer entries = tdxModuleSatisfied false peer own entries := by
  induction entries with
  | nil => rfl
  | cons entry rest ih =>
    rw [List.forall_mem_cons] at hself
    obtain ⟨name, prop⟩ := entry
    have hverify : ∀ l p, prop.verify true l p = prop.verify false p l :=
      verify_swap hself.1 true
    simp only [tdxModuleSatisfied, infoValues, getInfoProperty, ih hself.2]
    cases fieldIn tdxModuleInfoFields name with
    | none => rfl
    | some field =>
      simp only [Option.map_some, orElse]
      change (if prop.verify true _ _ = true then _ else _) =
        if prop.verify false _ _ = true then _ else _
      rw [hverify]

variable {blocks : List Policy} {flag : Bool}

theorem tdxModuleLoop_swap (hself : ∀ block ∈ blocks, SelfReferring block) :
    tdxModuleLoop true own peer flag blocks = tdxModuleLoop false peer own flag blocks := by
  induction blocks generalizing flag with
  | nil => rfl
  | cons block rest ih =>
    rw [List.forall_mem_cons] at hself
    cases block with
    | tdxModule t => simp only [tdxModuleLoop, tdxModuleSatisfied_swap hself.1, ih hself.2]
    | platform p => simpa [tdxModuleLoop] using ih hself.2
    | qe q => simpa [tdxModuleLoop] using ih hself.2
    | migtd m => simpa [tdxModuleLoop] using ih hself.2

theorem tdxModuleSatisfied_true : tdxModuleSatisfied isSrc own peer entries = .ok true ↔
      ∀ entry ∈ entries, ∃ l p, infoValues tdxModuleInfoFields own peer entry.1 = .ok (l, p) ∧
        entry.2.verify isSrc l p = true := by
  induction entries with
  | nil => simp [tdxModuleSatisfied]
  | cons entry rest ih =>
    rw [List.forall_mem_cons, tdxModuleSatisfied, except_bind_ok, ← ih]
    constructor
    · rintro ⟨⟨l, p⟩, hvalues, h⟩
      dsimp only at h
      split_ifs at h with hmet
      · exact ⟨⟨l, p, hvalues, hmet⟩, h⟩
      · cases h
    · rintro ⟨⟨l, p, hvalues, hmet⟩, hrest⟩
      exact ⟨⟨l, p⟩, hvalues, (if_pos hmet).trans hrest⟩

private theorem tdxModuleLoop_modules : tdxModuleLoop isSrc own peer flag blocks =
      tdxModuleLoop isSrc own peer flag ((tdxModules blocks).map .tdxModule) := by
  induction blocks generalizing flag with
  | nil => rfl
  | cons block rest ih =>
    cases block with
    | tdxModule t =>
      change tdxModuleLoop isSrc own peer flag (.tdxModule t :: rest) =
        tdxModuleLoop isSrc own peer flag (.tdxModule t :: (tdxModules rest).map .tdxModule)
      simp only [tdxModuleLoop, ih]
    | platform p => exact ih
    | qe q => exact ih
    | migtd m => exact ih

theorem tdxModuleLoop_sole (hsole : (tdxModules blocks).length ≤ 1) :
    tdxModuleLoop isSrc own peer true blocks = .ok true ↔
      ∀ t ∈ tdxModules blocks, Met isSrc (reportAnswers tdxModuleInfoFields own)
        (reportAnswers tdxModuleInfoFields peer) t.tdxModuleIdentity := by
  rw [tdxModuleLoop_modules]
  match hmodules : tdxModules blocks, hsole with
  | [], _ => simp [tdxModuleLoop]
  | [t], _ =>
    rw [List.forall_mem_singleton, ← satisfies_info, List.map_singleton, tdxModuleLoop,
      except_bind_ok]
    refine Iff.trans ?_ tdxModuleSatisfied_true
    constructor
    · rintro ⟨met, hmet, h⟩
      cases met with
      | true => exact hmet
      | false => simp [tdxModuleLoop] at h
    · intro hmet
      exact ⟨true, hmet, rfl⟩

end

theorem migtdSatisfied_iff {own peer : Side} {m : MigTdInfo}
    (hown : DataByName own.events) (hpeer : DataByName peer.events) :
    MigtdSatisfied isSrc own peer m ↔
      Met isSrc (migtdAnswers own.report) (migtdAnswers peer.report) m.tdInfo ∧
        ∀ log, m.eventLog = some log → (∀ entry ∈ log.entries, eventName entry.1 ≠ .unknown) ∧
            Met isSrc (eventAnswers own.events) (eventAnswers peer.events) log := by
  unfold MigtdSatisfied
  rw [satisfies_migtd]
  exact and_congr Iff.rfl (forall₂_congr fun log _ => eventsSatisfied_iff hown hpeer)

section

variable {logging isSrc : Bool} {policy : MigPolicy} {own peer : Side}

theorem platforms_self (hself : OnlySelf policy) :
    ∀ p ∈ getPlatformInfoPolicy policy, p.fmspc = ascii "self" ∧ AllSelf p.tcbInfo := by
  intro p hp
  obtain ⟨block, hblock, hsome⟩ := List.mem_filterMap.mp hp
  cases block with
  | platform q =>
    cases hsome
    exact hself _ hblock
  | qe q => cases hsome
  | tdxModule t => cases hsome
  | migtd m => cases hsome

theorem modules_self (hself : OnlySelf policy) :
    ∀ t ∈ tdxModules policy.blocks, AllSelf t.tdxModuleIdentity := by
  intro t ht
  obtain ⟨block, hblock, hsome⟩ := List.mem_filterMap.mp ht
  cases block with
  | tdxModule u =>
    cases hsome
    exact hself _ hblock
  | platform p => cases hsome
  | qe q => cases hsome
  | migtd m => cases hsome

theorem verifyMigPolicy_self (hself : OnlySelf policy) (hown : DataByName own.events)
    (hpeer : DataByName peer.events) :
    verifyMigPolicy logging isSrc policy own peer = .ok () ↔
      (∃ p, (getPlatformInfoPolicy policy = [p] ∧ fmspcOf own.report = fmspcOf peer.report) ∧
        Met isSrc (reportAnswers platformInfoFields own.report)
          (reportAnswers platformInfoFields peer.report) p.tcbInfo) ∧
      tdxModuleLoop isSrc own.report peer.report true policy.blocks = .ok true ∧
      (∀ q, .qe q ∈ policy.blocks → Met isSrc (reportAnswers qeInfoFields own.report)
        (reportAnswers qeInfoFields peer.report) q.qeIdentity) ∧
      ∀ m, .migtd m ∈ policy.blocks →
        Met isSrc (migtdAnswers own.report) (migtdAnswers peer.report) m.tdInfo ∧
          ∀ log, m.eventLog = some log → (∀ entry ∈ log.entries, eventName entry.1 ≠ .unknown) ∧
              Met isSrc (eventAnswers own.events) (eventAnswers peer.events) log := by
  unfold verifyMigPolicy
  simp only [except_bind_ok, Unique.exists_iff, PUnit.default_eq_unit, verifyBlocks_ok,
    verifyTdxModuleInfo_loop, verifyPlatformInfo_self fun p hp => (platforms_self hself p hp).1,
    satisfies_info, migtdSatisfied_iff hown hpeer]

theorem verifyMigPolicy_swap (hself : OnlySelf policy) (hown : DataByName own.events)
    (hpeer : DataByName peer.events) :
    verifyMigPolicy logging true policy own peer = .ok () ↔
      verifyMigPolicy logging false policy peer own = .ok () := by
  rw [verifyMigPolicy_self hself hown hpeer, verifyMigPolicy_self hself hpeer hown,
    tdxModuleLoop_swap hself]
  refine and_congr ?_ (and_congr Iff.rfl (and_congr ?_ ?_))
  · refine exists_congr fun p => ?_
    constructor
    · rintro ⟨⟨hsole, hfmspc⟩, hmet⟩
      have hp := platforms_self hself p (hsole ▸ List.mem_cons_self)
      exact ⟨⟨hsole, hfmspc.symm⟩, (Met.swap hp.2 true).mp hmet⟩
    · rintro ⟨⟨hsole, hfmspc⟩, hmet⟩
      have hp := platforms_self hself p (hsole ▸ List.mem_cons_self)
      exact ⟨⟨hsole, hfmspc.symm⟩, (Met.swap hp.2 true).mpr hmet⟩
  · exact forall₂_congr fun q hq => Met.swap (hself _ hq) true
  · refine forall₂_congr fun m hm => and_congr (Met.swap (hself _ hm).1 true) ?_
    exact forall₂_congr fun log hlog =>
      and_congr Iff.rfl (Met.swap ((hself _ hm).2 log hlog) true)

theorem verifyMigPolicy_trans {a b c : Side} (hself : OnlySelf policy)
    (hsole : (tdxModules policy.blocks).length ≤ 1) (ha : DataByName a.events)
    (hb : DataByName b.events) (hc : DataByName c.events)
    (hab : verifyMigPolicy logging true policy a b = .ok ())
    (hbc : verifyMigPolicy logging true policy b c = .ok ()) :
    verifyMigPolicy logging true policy a c = .ok () := by
  rw [verifyMigPolicy_self hself ha hb, tdxModuleLoop_sole hsole] at hab
  rw [verifyMigPolicy_self hself hb hc, tdxModuleLoop_sole hsole] at hbc
  rw [verifyMigPolicy_self hself ha hc, tdxModuleLoop_sole hsole]
  obtain ⟨⟨p, ⟨hp, hfmspc⟩, hplatform⟩, htdx, hqe, hmigtd⟩ := hab
  obtain ⟨⟨p', ⟨hp', hfmspc'⟩, hplatform'⟩, htdx', hqe', hmigtd'⟩ := hbc
  obtain rfl := (List.cons.inj (hp.symm.trans hp')).1
  refine ⟨⟨p, ⟨hp, hfmspc.trans hfmspc'⟩, ?_⟩, ?_, ?_, ?_⟩
  · have hself := platforms_self hself p (hp ▸ List.mem_cons_self)
    exact hplatform.trans hself.2 hplatform'
  · intro t ht
    exact (htdx t ht).trans (modules_self hself t ht) (htdx' t ht)
  · intro q hq
    exact (hqe q hq).trans (hself _ hq) (hqe' q hq)
  · intro m hm
    obtain ⟨htdInfo, hlogs⟩ := hself _ hm
    refine ⟨(hmigtd m hm).1.trans htdInfo (hmigtd' m hm).1, fun log hlog => ?_⟩
    obtain ⟨hnames, hevents⟩ := (hmigtd m hm).2 log hlog
    exact ⟨hnames, hevents.trans (hlogs log hlog) ((hmigtd' m hm).2 log hlog).2⟩

theorem verifyPolicy_ok {lib : Library} {doc r r' : Octets} {e e' : EventMap}
    (hparse : parsePolicy lib doc = .ok policy) :
    verifyPolicy lib isSrc doc r e r' e' = .ok () ↔
      ∃ own peer : VerifiedReport, own.1 = r ∧ peer.1 = r' ∧
        verifyMigPolicy lib.logging isSrc policy ⟨own, e⟩ ⟨peer, e'⟩ = .ok () := by
  have hreport : ∀ {bytes : Octets} {v : VerifiedReport},
      newReport bytes = .ok v → v.1 = bytes := by
    intro bytes v h
    unfold newReport at h
    split at h
    · cases h
      rfl
    · cases h
  constructor
  · intro h
    simp only [verifyPolicy, except_bind_ok, hparse, Except.ok.injEq] at h
    obtain ⟨_, -, _, rfl, own, hown, peer, hpeer, h⟩ := h
    exact ⟨own, peer, hreport hown, hreport hpeer, h⟩
  · rintro ⟨own, peer, rfl, rfl, h⟩
    exact (@verifyPolicy_of_parse isSrc policy ⟨own, e⟩ ⟨peer, e'⟩ lib doc hparse).trans h

end

/-- On a document whose references are all `self` the source and the destination come to the same
verdict. With at most one TDX-module block the source-side check is transitive. -/
theorem self_reference_symmetric_transitive (lib : Library) (cc : CcMeasurement)
    (doc : Octets) (policy : MigPolicy) (hparse : parsePolicy lib doc = .ok policy)
    (hself : OnlySelf policy) :
    (∀ (log₁ log₂ r₁ r₂ : Octets) (e₁ e₂ : EventMap), parseEvents cc log₁ = .ok e₁ →
      parseEvents cc log₂ = .ok e₂ →
      (verifyPolicy lib true doc r₁ e₁ r₂ e₂ = .ok () ↔
        verifyPolicy lib false doc r₂ e₂ r₁ e₁ = .ok ())) ∧
    ((tdxModules policy.blocks).length ≤ 1 →
      ∀ (log₁ log₂ log₃ r₁ r₂ r₃ : Octets) (e₁ e₂ e₃ : EventMap),
        parseEvents cc log₁ = .ok e₁ → parseEvents cc log₂ = .ok e₂ →
        parseEvents cc log₃ = .ok e₃ →
        verifyPolicy lib true doc r₁ e₁ r₂ e₂ = .ok () →
        verifyPolicy lib true doc r₂ e₂ r₃ e₃ = .ok () →
        verifyPolicy lib true doc r₁ e₁ r₃ e₃ = .ok ()) := by
  constructor
  · intro log₁ log₂ r₁ r₂ e₁ e₂ h₁ h₂
    have hd₁ := parseEvents_dataByName h₁
    have hd₂ := parseEvents_dataByName h₂
    rw [verifyPolicy_ok hparse, verifyPolicy_ok hparse]
    constructor
    · rintro ⟨own, peer, hown, hpeer, h⟩
      exact ⟨peer, own, hpeer, hown, (verifyMigPolicy_swap hself hd₁ hd₂).mp h⟩
    · rintro ⟨peer, own, hpeer, hown, h⟩
      exact ⟨own, peer, hown, hpeer, (verifyMigPolicy_swap hself hd₁ hd₂).mpr h⟩
  · intro hsole log₁ log₂ log₃ r₁ r₂ r₃ e₁ e₂ e₃ h₁ h₂ h₃
    have hd₁ := parseEvents_dataByName h₁
    have hd₂ := parseEvents_dataByName h₂
    have hd₃ := parseEvents_dataByName h₃
    rw [verifyPolicy_ok hparse, verifyPolicy_ok hparse, verifyPolicy_ok hparse]
    rintro ⟨a, b, ha, hb, hab⟩ ⟨b', c, hb', hc, hbc⟩
    obtain rfl : b = b' := Subtype.ext (hb.trans hb'.symm)
    exact ⟨a, c, ha, hc, verifyMigPolicy_trans hself hsole hd₁ hd₂ hd₃ hab hbc⟩

def svnPolicy : MigPolicy where
  blocks := [.platform ⟨ascii "self", oneProperty "pcesvn" ⟨.greaterOrEqual, .self⟩⟩,
    moduleBlock ⟨.greaterOrEqual, .self⟩,
    .migtd ⟨oneProperty "ATTRIBUTES" ⟨.equal, .self⟩,
      some (oneProperty "Digest.MigTdCoreSvn" ⟨.greaterOrEqual, .self⟩)⟩]

def svnDocument : Text :=
  documentText [platformText, moduleText "greater-or-equal" "\"self\"",
    ascii "\x7b\"MigTD\":\x7b\"TDINFO\":" ++ propertyText "ATTRIBUTES" "equal" "\"self\"" ++
      ascii ",\"EventLog\":" ++
        propertyText "Digest.MigTdCoreSvn" "greater-or-equal" "\"self\"" ++ ascii "\x7d\x7d"]

def svnLibrary : Library := ⟨fun text => if text = svnDocument then some svnPolicy else none, true⟩

def svnCc : CcMeasurement := packed [] [1] [2]

def svnEvent (svn : UInt8) : Event :=
  (⟨1, EV_PLATFORM_CONFIG_FLAGS, 1, TPML_ALG_SHA384, Bytes.zero 48, 21⟩,
    2 :: List.replicate 15 0 ++ [1, 0, 0, 0, svn])

def svnLog (svn : UInt8) : Octets :=
  List.replicate 32 0 ++ ((svnEvent svn).1.asBytes ++ ((svnEvent svn).2 ++ [0]))

def svnEvents (svn : UInt8) : EventMap :=
  EventMap.insert (fun _ => none) .migTdCoreSvn ⟨(svnEvent svn).1, some [svn]⟩

theorem svnPolicy_onlySelf : OnlySelf svnPolicy := by
  have hone : ∀ name op, AllSelf (oneProperty name ⟨op, .self⟩) := by
    intro name op entry hentry
    rw [List.mem_singleton.mp hentry]
  intro block hblock
  simp only [svnPolicy, List.mem_cons, List.not_mem_nil, or_false] at hblock
  rcases hblock with rfl | rfl | rfl
  · exact ⟨rfl, hone _ _⟩
  · exact hone _ _
  · refine ⟨hone _ _, fun log hlog => ?_⟩
    rw [← Option.some.inj hlog]
    exact hone _ _

private theorem svnLog_parsed : parseEvents svnCc (svnLog 3) = .ok (svnEvents 3) ∧
    parseEvents svnCc (svnLog 5) = .ok (svnEvents 5) ∧
    parseEvents svnCc (svnLog 7) = .ok (svnEvents 7) := by
  have hread : eventsOf svnCc (svnLog 3) = some [svnEvent 3] ∧
      eventsOf svnCc (svnLog 5) = some [svnEvent 5] ∧
      eventsOf svnCc (svnLog 7) = some [svnEvent 7] := by decide +kernel
  unfold parseEvents
  rw [hread.1, hread.2.1, hread.2.2]
  exact ⟨rfl, rfl, rfl⟩

theorem self_reference_symmetric_transitive_svn :
    let report := blankSide.report.1
    verifyPolicy svnLibrary false svnDocument report (svnEvents 5) report (svnEvents 3) = .ok () ∧
      verifyPolicy svnLibrary true svnDocument report (svnEvents 3) report (svnEvents 7) = .ok () ∧
      verifyPolicy svnLibrary true svnDocument report (svnEvents 5) report (svnEvents 3) ≠ .ok () := by
  intro report
  have hup : verifyPolicy svnLibrary true svnDocument report (svnEvents 3) report (svnEvents 5) =
        .ok () ∧
      verifyPolicy svnLibrary true svnDocument report (svnEvents 5) report (svnEvents 7) = .ok () ∧
      verifyPolicy svnLibrary true svnDocument report (svnEvents 5) report (svnEvents 3) ≠ .ok () := by
    decide +kernel
  obtain ⟨h₃, h₅, h₇⟩ := svnLog_parsed
  obtain ⟨hswap, htrans⟩ :=
    self_reference_symmetric_transitive svnLibrary svnCc svnDocument svnPolicy
      (parsePolicy_of_text (by decide +kernel) (by simp only [svnLibrary, ↓reduceIte]))
      svnPolicy_onlySelf
  exact ⟨(hswap _ _ _ _ _ _ h₃ h₅).mp hup.1,
    htrans (by decide) _ _ _ _ _ _ _ _ _ h₃ h₅ h₇ hup.1 hup.2.1, hup.2.2⟩

end MigTd.PolicyV1.SelfReference
