/- source: verify.rs
   digest: What a policy v1 document asks for, whatever the order of its blocks. -/

import MigTd.PolicyV1.Verify
import Mathlib.Data.List.Nodup

set_option autoImplicit false

namespace MigTd.PolicyV1.Verdict

open Attestation.Reports Lib.Ascii Lib.ByteCodec Lib.StateProgram Measurement.EventLog Verify
  Policy.Evaluation

def Satisfies (isSrc : Bool) (values : Values) (map : PropertyMap) : Prop :=
  ∀ entry ∈ map.entries, ∃ l p, values entry.1 = .ok (l, p) ∧ entry.2.verify isSrc l p = true

def EventsSatisfied (isSrc : Bool) (own peer : EventMap) (map : PropertyMap) : Prop :=
  ∀ entry ∈ map.entries, eventName entry.1 ≠ .unknown ∧
    verifyEvent isSrc (eventName entry.1) entry.2 own peer = true

def MigtdSatisfied (isSrc : Bool) (own peer : Side) (m : MigTdInfo) : Prop :=
  Satisfies isSrc (migtdValues own.report peer.report) m.tdInfo ∧
    ∀ log, m.eventLog = some log → EventsSatisfied isSrc own.events peer.events log

/-- The entry for the platform of the peer, or the sole entry `self` on equal platforms. -/
def Selects (platforms : List PlatformInfo) (own peer : VerifiedReport) (p : PlatformInfo) :
    Prop :=
  (p ∈ platforms ∧ p.fmspc = fmspcOf peer) ∨
    (platforms = [p] ∧ p.fmspc = ascii "self" ∧ fmspcOf own = fmspcOf peer)

structure Accepted (isSrc : Bool) (policy : MigPolicy) (own peer : Side) : Prop where
  platform : ∃ p, Selects (getPlatformInfoPolicy policy) own.report peer.report p ∧
    Satisfies isSrc (infoValues platformInfoFields own.report peer.report) p.tcbInfo
  tdxModule : (∀ t, .tdxModule t ∉ policy.blocks) ∨ ∃ t, .tdxModule t ∈ policy.blocks ∧
    Satisfies isSrc (infoValues tdxModuleInfoFields own.report peer.report) t.tdxModuleIdentity
  qe : ∀ q, .qe q ∈ policy.blocks →
    Satisfies isSrc (infoValues qeInfoFields own.report peer.report) q.qeIdentity
  migtd : ∀ m, .migtd m ∈ policy.blocks → MigtdSatisfied isSrc own peer m

def KnownIn (table : List (String × Field)) (map : PropertyMap) : Prop :=
  ∀ entry ∈ map.entries, (fieldIn table entry.1).isSome = true

def NamesKnown : Policy → Prop
  | .platform p => KnownIn platformInfoFields p.tcbInfo
  | .qe q => KnownIn qeInfoFields q.qeIdentity
  | .tdxModule t => KnownIn tdxModuleInfoFields t.tdxModuleIdentity
  | .migtd m => KnownIn migtdInfoFields m.tdInfo ∧
    ∀ log, m.eventLog = some log → ∀ entry ∈ log.entries, eventName entry.1 ≠ .unknown

/-- All property names are known and no platform has two entries. -/
structure WellFormed (policy : MigPolicy) : Prop where
  names : ∀ block ∈ policy.blocks, NamesKnown block
  platforms : ((getPlatformInfoPolicy policy).map (·.fmspc)).Nodup

section

variable {isSrc : Bool} {own peer : VerifiedReport} {entries : List (Text × Property)}

theorem verifyProperties_ok {values : Values} {e : PolicyError} :
    verifyProperties isSrc values e entries = .ok () ↔
      ∀ entry ∈ entries, ∃ l p, values entry.1 = .ok (l, p) ∧ entry.2.verify isSrc l p = true := by
  induction entries with
  | nil => simp [verifyProperties]
  | cons entry rest ih =>
    rw [List.forall_mem_cons, verifyProperties, except_bind_ok]
    simp only [except_bind_ok, require_ok, Unique.exists_iff, ih]
    constructor
    · rintro ⟨⟨l, p⟩, hvalues, hmet, hrest⟩
      exact ⟨⟨l, p, hvalues, hmet⟩, hrest⟩
    · rintro ⟨⟨l, p, hvalues, hmet⟩, hrest⟩
      exact ⟨⟨l, p⟩, hvalues, hmet, hrest⟩

private theorem verifyEvents_ok {ownEvents peerEvents : EventMap} :
    verifyEvents isSrc ownEvents peerEvents entries = .ok () ↔
      ∀ entry ∈ entries, eventName entry.1 ≠ .unknown ∧
        verifyEvent isSrc (eventName entry.1) entry.2 ownEvents peerEvents = true := by
  induction entries with
  | nil => simp [verifyEvents]
  | cons entry rest ih =>
    rw [List.forall_mem_cons, verifyEvents]
    simp only [except_bind_ok, require_ok, Unique.exists_iff, ih, and_assoc]

theorem verifyMigtdInfo_ok {own peer : Side} {m : MigTdInfo} :
    verifyMigtdInfo isSrc own peer m = .ok () ↔ MigtdSatisfied isSrc own peer m := by
  unfold verifyMigtdInfo MigtdSatisfied
  simp only [except_bind_ok, Unique.exists_iff, PUnit.default_eq_unit, verifyProperties_ok]
  apply and_congr Iff.rfl
  cases m.eventLog with
  | none => simp
  | some log => simp [verifyEvents_ok, EventsSatisfied]

variable {blocks : List Policy}

theorem verifyBlocks_ok {own peer : Side} : verifyBlocks isSrc own peer blocks = .ok () ↔
      (∀ q, .qe q ∈ blocks →
        Satisfies isSrc (infoValues qeInfoFields own.report peer.report) q.qeIdentity) ∧
      ∀ m, .migtd m ∈ blocks → MigtdSatisfied isSrc own peer m := by
  induction blocks with
  | nil => simp [verifyBlocks]
  | cons block rest ih =>
    cases block with
    | platform p => simpa [verifyBlocks] using ih
    | tdxModule t => simpa [verifyBlocks] using ih
    | qe q =>
      have hq : verifyQeInfo isSrc own.report peer.report q = .ok () ↔
          Satisfies isSrc (infoValues qeInfoFields own.report peer.report) q.qeIdentity :=
        verifyProperties_ok
      simp only [verifyBlocks, except_bind_ok, Unique.exists_iff, ih, hq, List.mem_cons,
        Policy.qe.injEq, reduceCtorEq, false_or, forall_eq_or_imp, and_assoc]
    | migtd m =>
      simp only [verifyBlocks, except_bind_ok, Unique.exists_iff, PUnit.default_eq_unit, ih,
        verifyMigtdInfo_ok, List.mem_cons, Policy.migtd.injEq, reduceCtorEq, false_or,
        forall_eq_or_imp]
      constructor
      · rintro ⟨hm, hqe, hrest⟩
        exact ⟨hqe, hm, hrest⟩
      · rintro ⟨hqe, hm, hrest⟩
        exact ⟨hm, hqe, hrest⟩

private theorem infoValues_known {table : List (String × Field)} {name : Text}
    (h : (fieldIn table name).isSome = true) : ∃ v, infoValues table own peer name = .ok v := by
  obtain ⟨field, hfield⟩ := Option.isSome_iff_exists.mp h
  exact ⟨(field.read own, field.read peer), by
    simp only [infoValues, getInfoProperty, hfield, Option.map_some, orElse]
    rfl⟩

theorem tdxModuleSatisfied_known
    (hknown : ∀ entry ∈ entries, (fieldIn tdxModuleInfoFields entry.1).isSome = true) :
    ∃ b, tdxModuleSatisfied isSrc own peer entries = .ok b ∧ (b = true ↔
      ∀ entry ∈ entries, ∃ l p, infoValues tdxModuleInfoFields own peer entry.1 = .ok (l, p) ∧
        entry.2.verify isSrc l p = true) := by
  induction entries with
  | nil => exact ⟨true, rfl, by simp⟩
  | cons entry rest ih =>
    rw [List.forall_mem_cons] at hknown
    obtain ⟨⟨l, p⟩, hvalues⟩ : ∃ v, infoValues tdxModuleInfoFields own peer entry.1 = .ok v :=
      infoValues_known hknown.1
    obtain ⟨b, hrest, hb⟩ := ih hknown.2
    have hstep : tdxModuleSatisfied isSrc own peer (entry :: rest) =
        if entry.2.verify isSrc l p then tdxModuleSatisfied isSrc own peer rest
        else .ok false := by
      rw [tdxModuleSatisfied, hvalues]
      rfl
    by_cases hmet : entry.2.verify isSrc l p = true
    · refine ⟨b, by rw [hstep, if_pos hmet, hrest], ?_⟩
      rw [hb, List.forall_mem_cons, and_iff_right ⟨l, p, hvalues, hmet⟩]
    · refine ⟨false, by rw [hstep, if_neg hmet], ?_⟩
      simp only [Bool.false_eq_true, false_iff]
      intro hall
      obtain ⟨l', p', hvalues', hmet'⟩ := hall entry List.mem_cons_self
      rw [hvalues] at hvalues'
      cases hvalues'
      exact hmet hmet'

theorem tdxModuleLoop_known {flag : Bool}
    (hknown : ∀ t, .tdxModule t ∈ blocks → KnownIn tdxModuleInfoFields t.tdxModuleIdentity) :
    ∃ b, tdxModuleLoop isSrc own peer flag blocks = .ok b ∧ (b = true ↔
      (flag = true ∧ ∀ t, .tdxModule t ∉ blocks) ∨ ∃ t, .tdxModule t ∈ blocks ∧
        Satisfies isSrc (infoValues tdxModuleInfoFields own peer) t.tdxModuleIdentity) := by
  induction blocks generalizing flag with
  | nil => exact ⟨flag, rfl, by simp⟩
  | cons block rest ih =>
    have hrest : ∀ t, .tdxModule t ∈ rest → KnownIn tdxModuleInfoFields t.tdxModuleIdentity :=
      fun t ht => hknown t (List.mem_cons_of_mem block ht)
    cases block with
    | platform p => simpa [tdxModuleLoop] using ih hrest
    | qe q => simpa [tdxModuleLoop] using ih hrest
    | migtd m => simpa [tdxModuleLoop] using ih hrest
    | tdxModule t =>
      obtain ⟨met, hmet, hiff⟩ : ∃ met, tdxModuleSatisfied isSrc own peer _ = .ok met ∧ _ :=
        tdxModuleSatisfied_known (hknown t List.mem_cons_self)
      have hstep : tdxModuleLoop isSrc own peer flag (.tdxModule t :: rest) =
          if met then .ok true else tdxModuleLoop isSrc own peer met rest := by
        rw [tdxModuleLoop, hmet]
        rfl
      cases met with
      | true =>
        refine ⟨true, hstep, ?_⟩
        simp only [true_iff]
        exact .inr ⟨t, List.mem_cons_self, hiff.mp rfl⟩
      | false =>
        obtain ⟨b, hloop, hb⟩ := @ih false hrest
        refine ⟨b, by rw [hstep]; exact hloop, ?_⟩
        have hnot : ¬Satisfies isSrc (infoValues tdxModuleInfoFields own peer)
            t.tdxModuleIdentity := fun h => Bool.false_ne_true (hiff.mpr h)
        rw [hb]
        simp only [Bool.false_eq_true, false_and, false_or, List.mem_cons, Policy.tdxModule.injEq]
        constructor
        · rintro ⟨u, hu, hsat⟩
          exact .inr ⟨u, .inr hu, hsat⟩
        · rintro (⟨-, hnone⟩ | ⟨u, rfl | hu, hsat⟩)
          · exact absurd (.inl rfl) (hnone t)
          · exact absurd hsat hnot
          · exact ⟨u, hu, hsat⟩

theorem verifyTdxModuleInfo_loop {logging : Bool} :
    verifyTdxModuleInfo isSrc own peer logging blocks = .ok () ↔
      tdxModuleLoop isSrc own peer true blocks = .ok true := by
  unfold verifyTdxModuleInfo
  rw [except_bind_ok]
  constructor
  · rintro ⟨flag, hloop, h⟩
    cases flag with
    | true => exact hloop
    | false =>
      rw [if_neg Bool.false_ne_true] at h
      cases logging with
      | true =>
        obtain ⟨_, -, hfail⟩ := except_bind_ok.mp h
        cases hfail
      | false => cases h
  · intro hloop
    exact ⟨true, hloop, rfl⟩

theorem verifyTdxModuleInfo_ok {logging : Bool}
    (hknown : ∀ t, .tdxModule t ∈ blocks → KnownIn tdxModuleInfoFields t.tdxModuleIdentity) :
    verifyTdxModuleInfo isSrc own peer logging blocks = .ok () ↔
      (∀ t, .tdxModule t ∉ blocks) ∨ ∃ t, .tdxModule t ∈ blocks ∧
        Satisfies isSrc (infoValues tdxModuleInfoFields own peer) t.tdxModuleIdentity := by
  obtain ⟨b, hloop, hb⟩ : ∃ b, tdxModuleLoop isSrc own peer true blocks = .ok b ∧ _ :=
    tdxModuleLoop_known hknown
  rw [verifyTdxModuleInfo_loop, hloop, Except.ok.injEq, hb]
  simp

theorem bytesToHexString_length (bytes : Octets) :
    (bytesToHexString bytes).length = 2 * bytes.length := by
  induction bytes with
  | nil => rfl
  | cons b rest ih =>
    rw [bytesToHexString, List.flatMap_cons, List.length_append, ← bytesToHexString, ih]
    simp only [hexByte, List.length_cons, List.length_nil]
    omega

theorem fmspcOf_ne_self (r : VerifiedReport) : fmspcOf r ≠ ascii "self" := by
  intro h
  have hlen := congrArg List.length h
  rw [fmspcOf, formatBytesHex, bytesToHexString_length, (slice r 584 6 _).2] at hlen
  exact absurd hlen (by decide)

variable {platforms : List PlatformInfo} {p : PlatformInfo}

private theorem find_fmspc {fmspc : Text} (hnodup : (platforms.map (·.fmspc)).Nodup) :
    platforms.find? (·.fmspc == fmspc) = some p ↔ p ∈ platforms ∧ p.fmspc = fmspc := by
  constructor
  · intro h
    have hbeq := List.find?_some h
    exact ⟨List.mem_of_find?_eq_some h, eq_of_beq hbeq⟩
  · rintro ⟨hp, hf⟩
    cases hfind : platforms.find? (·.fmspc == fmspc) with
    | none =>
      rw [List.find?_eq_none] at hfind
      exact absurd (beq_iff_eq.mpr hf) (hfind p hp)
    | some q =>
      have hq := List.mem_of_find?_eq_some hfind
      have hqf := List.find?_some hfind
      rw [List.inj_on_of_nodup_map hnodup hq hp ((eq_of_beq hqf).trans hf.symm)]

theorem targetPlatform_ok (hnodup : (platforms.map (·.fmspc)).Nodup) :
    targetPlatform platforms (fmspcOf own) (fmspcOf peer) = .ok p ↔
      Selects platforms own peer p := by
  have hfind : orElse (platforms.find? (·.fmspc == fmspcOf peer))
      (PolicyError.platformNotFound (fmspcOf peer)) = .ok p ↔
      p ∈ platforms ∧ p.fmspc = fmspcOf peer := orElse_ok.trans (find_fmspc hnodup)
  unfold targetPlatform Selects
  split
  · rename_i q
    by_cases hself : q.fmspc = ascii "self"
    · have hno : ¬(p ∈ [q] ∧ p.fmspc = fmspcOf peer) := by
        rintro ⟨hp, hf⟩
        rw [List.mem_singleton.mp hp, hself] at hf
        exact fmspcOf_ne_self peer hf.symm
      rw [if_pos hself, or_iff_right hno]
      by_cases hsame : fmspcOf own = fmspcOf peer
      · rw [if_neg (not_not.mpr hsame)]
        constructor
        · intro h
          cases h
          exact ⟨rfl, hself, hsame⟩
        · rintro ⟨hq, -, -⟩
          rw [(List.cons.inj hq).1]
      · rw [if_pos hsame]
        constructor
        · intro h
          cases h
        · rintro ⟨-, -, h⟩
          exact absurd h hsame
    · rw [if_neg hself]
      refine hfind.trans (or_iff_left ?_).symm
      rintro ⟨hq, hp, -⟩
      rw [← (List.cons.inj hq).1] at hp
      exact hself hp
  · rename_i hlist
    refine hfind.trans (or_iff_left ?_).symm
    rintro ⟨hq, -, -⟩
    exact hlist p hq

private theorem verifyPlatformInfo_ok (hnodup : (platforms.map (·.fmspc)).Nodup) :
    verifyPlatformInfo isSrc own peer platforms = .ok () ↔ ∃ p, Selects platforms own peer p ∧
      Satisfies isSrc (infoValues platformInfoFields own peer) p.tcbInfo := by
  unfold verifyPlatformInfo
  simp only [except_bind_ok, targetPlatform_ok hnodup, verifyProperties_ok]
  rfl

end

section

variable {isSrc logging : Bool} {policy policy' : MigPolicy} {own peer : Side}

theorem verifyMigPolicy_iff (h : WellFormed policy) :
    verifyMigPolicy logging isSrc policy own peer = .ok () ↔ Accepted isSrc policy own peer := by
  unfold verifyMigPolicy
  simp only [except_bind_ok, Unique.exists_iff, verifyBlocks_ok,
    verifyPlatformInfo_ok h.platforms, verifyTdxModuleInfo_ok fun t ht => h.names _ ht]
  constructor
  · rintro ⟨hplatform, htdx, hqe, hmigtd⟩
    exact ⟨hplatform, htdx, hqe, hmigtd⟩
  · rintro ⟨hplatform, htdx, hqe, hmigtd⟩
    exact ⟨hplatform, htdx, hqe, hmigtd⟩

theorem platforms_perm (h : policy.blocks.Perm policy'.blocks) :
    (getPlatformInfoPolicy policy).Perm (getPlatformInfoPolicy policy') :=
  h.filterMap _

theorem WellFormed.perm (hw : WellFormed policy) (h : policy.blocks.Perm policy'.blocks) :
    WellFormed policy' where
  names block hblock := hw.names block (h.mem_iff.mpr hblock)
  platforms := ((platforms_perm h).map _).nodup_iff.mp hw.platforms

theorem Accepted.perm (ha : Accepted isSrc policy own peer)
    (h : policy.blocks.Perm policy'.blocks) : Accepted isSrc policy' own peer where
  platform := by
    obtain ⟨p, hp, hsat⟩ := ha.platform
    refine ⟨p, ?_, hsat⟩
    rcases hp with ⟨hmem, hf⟩ | ⟨hsole, hself, hsame⟩
    · exact .inl ⟨(platforms_perm h).mem_iff.mp hmem, hf⟩
    · have hperm := (platforms_perm h).symm
      rw [hsole] at hperm
      exact .inr ⟨List.perm_singleton.mp hperm, hself, hsame⟩
  tdxModule := by
    rcases ha.tdxModule with hnone | ⟨t, ht, hsat⟩
    · exact .inl fun t ht => hnone t (h.mem_iff.mpr ht)
    · exact .inr ⟨t, h.mem_iff.mp ht, hsat⟩
  qe q hq := ha.qe q (h.mem_iff.mpr hq)
  migtd m hm := ha.migtd m (h.mem_iff.mpr hm)

theorem verifyPolicy_of_parse {lib : Library} {doc : Octets}
    (h : parsePolicy lib doc = .ok policy) :
    verifyPolicy lib isSrc doc own.report.1 own.events peer.report.1 peer.events =
      verifyMigPolicy lib.logging isSrc policy own peer := by
  have hreport : ∀ r : VerifiedReport, newReport r.1 = .ok r := fun r => dif_pos r.2
  have hlen : TD_VERIFIED_REPORT_SIZE ≤ own.report.1.length ∧
      TD_VERIFIED_REPORT_SIZE ≤ peer.report.1.length :=
    ⟨own.report.2.ge, peer.report.2.ge⟩
  rw [verifyPolicy, require, if_pos hlen, h, hreport, hreport]
  rfl

end

/-- A document with known names and one entry for each platform is accepted when the selected
platform entry, one of the TDX-module blocks if there are any, and all QE and MigTD blocks are
satisfied. Permuting the blocks does not change the verdict. -/
theorem policy_v1_order_independent (lib : Library) (isSrc : Bool) (own peer : Side) :
    (∀ (doc : Octets) (policy : MigPolicy), parsePolicy lib doc = .ok policy →
      WellFormed policy →
      (verifyPolicy lib isSrc doc own.report.1 own.events peer.report.1 peer.events = .ok () ↔
        Accepted isSrc policy own peer)) ∧
    ∀ (doc doc' : Octets) (policy policy' : MigPolicy), parsePolicy lib doc = .ok policy →
      parsePolicy lib doc' = .ok policy' → WellFormed policy →
      policy.blocks.Perm policy'.blocks →
      (verifyPolicy lib isSrc doc own.report.1 own.events peer.report.1 peer.events = .ok () ↔
        verifyPolicy lib isSrc doc' own.report.1 own.events peer.report.1 peer.events =
          .ok ()) := by
  constructor
  · intro doc policy hparse hwell
    rw [verifyPolicy_of_parse hparse]
    exact verifyMigPolicy_iff hwell
  · intro doc doc' policy policy' hparse hparse' hwell hperm
    rw [verifyPolicy_of_parse hparse, verifyPolicy_of_parse hparse', verifyMigPolicy_iff hwell,
      verifyMigPolicy_iff (hwell.perm hperm)]
    exact ⟨fun h => h.perm hperm, fun h => h.perm hperm.symm⟩

def oneProperty (name : String) (p : Property) : PropertyMap :=
  ⟨[(ascii name, p)], List.pairwise_singleton _ _⟩

def moduleBlock (p : Property) : Policy := .tdxModule ⟨oneProperty "TDXModuleSVN" p⟩

def twoModules : MigPolicy where
  blocks := [moduleBlock ⟨.equal, .integer 5⟩,
    .platform ⟨ascii "self", oneProperty "pcesvn" ⟨.greaterOrEqual, .self⟩⟩,
    moduleBlock ⟨.greaterOrEqual, .self⟩, .qe ⟨oneProperty "ISVSVN" ⟨.equal, .self⟩⟩]

def twoModulesReversed : MigPolicy := ⟨twoModules.blocks.reverse⟩

def propertyText (name operation reference : String) : Text :=
  ascii "\x7b\"" ++ ascii name ++ ascii "\":\x7b\"operation\":\"" ++ ascii operation ++
    ascii "\",\"reference\":" ++ ascii reference ++ ascii "\x7d\x7d"

def moduleText (operation reference : String) : Text :=
  ascii "\x7b\"TDXModule\":\x7b\"TDXModule_Identity\":" ++
    propertyText "TDXModuleSVN" operation reference ++ ascii "\x7d\x7d"

def platformText : Text :=
  ascii "\x7b\"fmspc\":\"self\",\"Platform\":\x7b\"TcbInfo\":" ++
    propertyText "pcesvn" "greater-or-equal" "\"self\"" ++ ascii "\x7d\x7d"

def documentText (blocks : List Text) : Text :=
  ascii "\x7b\"id\":\"1\",\"policy\":[" ++ (blocks.intersperse (ascii ",")).flatten ++ ascii "]\x7d"

def twoModulesText : List Text :=
  [moduleText "equal" "5", platformText, moduleText "greater-or-equal" "\"self\"",
    ascii "\x7b\"QE\":\x7b\"QeIdentity\":" ++ propertyText "ISVSVN" "equal" "\"self\"" ++
      ascii "\x7d\x7d"]

def twoModulesLibrary : Library where
  fromStr text := if text = documentText twoModulesText then some twoModules
    else if text = documentText twoModulesText.reverse then some twoModulesReversed else none
  logging := true

def blankSide : Side := ⟨Bytes.zero TD_VERIFIED_REPORT_SIZE, fun _ => none⟩

theorem twoModules_wellFormed : WellFormed twoModules where
  names := by
    have hone : ∀ table name p, (fieldIn table (ascii name)).isSome = true →
        KnownIn table (oneProperty name p) := by
      intro table name p h entry hentry
      rw [List.mem_singleton.mp hentry]
      exact h
    intro block hblock
    simp only [twoModules, List.mem_cons, List.not_mem_nil, or_false] at hblock
    rcases hblock with rfl | rfl | rfl | rfl <;> exact hone _ _ _ (by decide +kernel)
  platforms := by decide +kernel

theorem parsePolicy_of_text {lib : Library} {doc : Text} {policy : MigPolicy}
    (htext : isUtf8 doc = true ∧ trimNul doc = doc) (h : lib.fromStr doc = some policy) :
    parsePolicy lib doc = .ok policy := by
  rw [parsePolicy, if_pos htext.1, htext.2, h]
  rfl

theorem policy_v1_order_independent_modules :
    WellFormed twoModules ∧ Accepted true twoModules blankSide blankSide ∧
      verifyPolicy twoModulesLibrary true (documentText twoModulesText.reverse) blankSide.report.1
        blankSide.events blankSide.report.1 blankSide.events = .ok () := by
  have hfirst : parsePolicy twoModulesLibrary (documentText twoModulesText) = .ok twoModules :=
    parsePolicy_of_text (by decide +kernel) (by simp only [twoModulesLibrary, ↓reduceIte])
  have hother : documentText twoModulesText.reverse ≠ documentText twoModulesText := by
    decide +kernel
  have hsecond : parsePolicy twoModulesLibrary (documentText twoModulesText.reverse) =
      .ok twoModulesReversed :=
    parsePolicy_of_text (by decide +kernel) (by simp only [twoModulesLibrary, hother, ↓reduceIte])
  have hok : verifyPolicy twoModulesLibrary true (documentText twoModulesText) blankSide.report.1
      blankSide.events blankSide.report.1 blankSide.events = .ok () := by decide +kernel
  obtain ⟨hiff, hperm⟩ := policy_v1_order_independent twoModulesLibrary true blankSide blankSide
  exact ⟨twoModules_wellFormed, (hiff _ _ hfirst twoModules_wellFormed).mp hok,
    (hperm _ _ _ _ hfirst hsecond twoModules_wellFormed
      (List.reverse_perm twoModules.blocks).symm).mp hok⟩

end MigTd.PolicyV1.Verdict
