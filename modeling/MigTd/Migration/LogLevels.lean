/- source: logging.rs
   digest: In a release build no record above Info leaves a trace in the log areas. -/

import MigTd.Migration.LogRing

-- The frame of a function is one search over all of its steps.
set_option synthInstance.maxSize 2000

set_option autoImplicit false

namespace MigTd.Migration.LogLevels

open Lib.Ascii Lib.ByteCodec Lib.StateProgram Logging LogRing

variable {e : LogEntry}

def Level.aboveInfo : Level → Bool
  | .debug | .trace => true
  | .error | .warn | .info => false

variable {level : Level}

theorem toU8_le_info : loglevelToU8 level ≤ 3 ↔ Level.aboveInfo level = false := by
  cases level <;> decide

theorem admits_le {value : UInt8} (hvalue : value ≤ 3)
    (h : (u8ToLevelfilter value).admits level = true) : Level.aboveInfo level = false := by
  have hcases : value = 0 ∨ value = 1 ∨ value = 2 ∨ value = 3 := by
    simp only [← UInt8.toNat_inj, UInt8.le_iff_toNat_le] at hvalue ⊢
    change value.toNat ≤ 3 at hvalue
    change value.toNat = 0 ∨ value.toNat = 1 ∨ value.toNat = 2 ∨ value.toNat = 3
    omega
  revert h
  rcases hcases with rfl | rfl | rfl | rfl <;> cases level <;> decide

/-- The bytes of the page are those of a chain of entries with levels up to Info. -/
def PageCapped (p : LogPage) : Prop :=
  ∃ chain, Ring p chain ∧ ∀ e ∈ chain, e.header.loglevel ≤ loglevelToU8 .info

/-- While the host leaves the shared pages alone they are capped; the others are in any case. -/
structure Capped (quiet : Prop) (s : LoggingState) : Prop where
  shared : quiet → ∀ p ∈ s.logareaptr, PageCapped p
  provisional : ∀ p ∈ s.provisionalLogareaptr, PageCapped p
  level : s.maxloglevel ≤ loglevelToU8 .info

variable {Q : Prop} {page : LogPage} {pages : List LogPage}

theorem capped_append (h : ∀ p ∈ pages, PageCapped p) (hpage : PageCapped page) :
    ∀ p ∈ pages ++ [page], PageCapped p :=
  List.forall_mem_append.mpr ⟨h, List.forall_mem_singleton.mpr hpage⟩

theorem capped_set {i : Nat} (h : ∀ p ∈ pages, PageCapped p) (hpage : PageCapped page) :
    ∀ p ∈ pages.set i page, PageCapped p := by
  intro p hp
  rcases List.mem_or_eq_of_mem_set hp with hold | rfl
  · exact h p hold
  · exact hpage

variable {debugAssertions : Bool}

theorem storeEntry_capped {p : LogPage}
    (he : e.header.loglevel ≤ loglevelToU8 .info) (hsound : Sound e)
    (hlen : e.value.length ≤ 4032) (hp : PageCapped p) :
    PageCapped (storeEntry debugAssertions e p).2 := by
  obtain ⟨chain, hring, hchain⟩ := hp
  obtain ⟨q, hrun, hq, -⟩ := storeEntry_ring debugAssertions hring hsound hlen
  rw [hrun]
  refine ⟨_, hq, ?_⟩
  unfold LogRing.append
  split_ifs
  · exact List.forall_mem_append.mpr ⟨hchain, List.forall_mem_singleton.mpr he⟩
  · exact List.forall_mem_singleton.mpr he

theorem areaPage_capped (address : UInt64) (content : Bytes 4096) (vcpuindex : UInt32) :
    PageCapped (areaPage address content vcpuindex) :=
  ⟨[], (ring_areaPage address content vcpuindex).1, by simp⟩

variable {s : LoggingState}

theorem appendEntry_state {i : Nat} :
    ((lift (orElse (some page) Panic.index) >>= fun page =>
      appendEntry debugAssertions i page e : LogProgram Unit) s).2 =
      if i = page.vcpuindex then
        LoggingState.setPage { s with logentryId := e.header.logEntryId } i
          (storeEntry debugAssertions e page).2
      else s := by
  change (appendEntry debugAssertions i page e s).2 = _
  unfold appendEntry
  split_ifs
  · rw [update_bind, embed_state]
  · rfl

theorem entrylog_cases (debugAssertions : Bool) (cpu : Option UInt8) (msg : Octets)
    (level : Level) (requestId : UInt64) (s : LoggingState) :
    (entrylog debugAssertions cpu msg level requestId s).2 = s ∨
      ((s.logareaInitialized = true ∨ s.provisionalLogsEnabled = true) ∧
        ∃ (i : Nat) (page : LogPage) (e : LogEntry), s.pages[i]? = some page ∧
          e.header.loglevel = loglevelToU8 level ∧ Sound e ∧ e.value.length ≤ 4032 ∧
          (entrylog debugAssertions cpu msg level requestId s).2 =
            LoggingState.setPage { s with logentryId := e.header.logEntryId } i
              (storeEntry debugAssertions e page).2) := by
  unfold entrylog
  rw [observe_bind]
  dsimp only [id]
  split_ifs with hgate hlong
  · exact .inl rfl
  · cases cpu with
    | none => exact .inl rfl
    | some cpu =>
      dsimp only
      cases hpage : s.pages[cpu.toNat]? with
      | none => exact .inl rfl
      | some page =>
        have hopen : s.logareaInitialized = true ∨ s.provisionalLogsEnabled = true :=
          hgate.imp And.left And.left
        have hlen : msg.length ≤ 4032 := Nat.not_lt.mp hlong
        have hsound : Sound ⟨⟨nextEntryId s.logentryId, requestId, loglevelToU8 level,
            UInt32.ofNat msg.length⟩, msg⟩ := by
          rw [Sound, UInt32.toNat_ofNat', Nat.mod_eq_of_lt (by omega)]
        rw [appendEntry_state]
        split_ifs
        · exact .inr ⟨hopen, cpu.toNat, page, _, hpage, rfl, hsound, hlen, rfl⟩
        · exact .inl rfl
  · exact .inl rfl

variable {cpu : Option UInt8} {requestId : UInt64} {r : Record}

theorem entrylog_capped {msg : Octets} (hlevel : Level.aboveInfo level = false) (hs : Capped Q s) :
    Capped Q (entrylog debugAssertions cpu msg level requestId s).2 := by
  rcases entrylog_cases debugAssertions cpu msg level requestId s with
    hsame | ⟨-, i, page, e, hpage, he, hsound, hlen, hafter⟩
  · rw [hsame]
    exact hs
  · have hcap : e.header.loglevel ≤ loglevelToU8 .info := he ▸ toU8_le_info.mpr hlevel
    rw [hafter]
    unfold LoggingState.pages at hpage
    unfold LoggingState.setPage
    have hset : ∀ {pages : List LogPage}, (∀ p ∈ pages, PageCapped p) → pages[i]? = some page →
        ∀ p ∈ pages.set i (storeEntry debugAssertions e page).2, PageCapped p := by
      intro pages hpages hget
      have hpage : PageCapped page := hpages page (List.mem_of_getElem? hget)
      exact capped_set hpages (storeEntry_capped hcap hsound hlen hpage)
    dsimp only
    split_ifs at hpage ⊢
    · exact ⟨hs.shared, hset hs.provisional hpage, hs.level⟩
    · exact ⟨fun hq => hset (hs.shared hq) hpage, hs.provisional, hs.level⟩

theorem logRecord_above (hs : Capped Q s)
    (hlevel : Level.aboveInfo r.level = true) : (logRecord false cpu r s).2 = s := by
  unfold logRecord
  rw [observe_bind]
  split_ifs with hmacro
  · unfold backendLog
    rw [observe_bind]
    split_ifs with henabled
    · -- Only before the areas are created do such records pass the filter.
      have hclosed : s.logareaInitialized = false ∧ s.provisionalLogsEnabled = false := by
        unfold enabled at henabled
        cases hinit : s.logareaInitialized with
        | true =>
          simp only [id, hinit, if_true] at henabled
          rw [admits_le hs.level henabled] at hlevel
          cases hlevel
        | false =>
          cases hprov : s.provisionalLogsEnabled with
          | true =>
            simp only [id, hinit, hprov, Bool.false_eq_true, if_false, if_true] at henabled
            rw [admits_le (by decide : (3 : UInt8) ≤ 3) henabled] at hlevel
            cases hlevel
          | false => exact ⟨rfl, rfl⟩
      rcases entrylog_cases false cpu (r.args ++ ascii "\n") r.level r.migRequestId s with
        hsame | ⟨hopen, -⟩
      · exact hsame
      · rw [hclosed.1, hclosed.2] at hopen
        simp at hopen
    · rfl
  · rfl

theorem logRecord_capped (hs : Capped Q s) : Capped Q (logRecord false cpu r s).2 := by
  cases hlevel : Level.aboveInfo r.level with
  | true =>
    rw [logRecord_above hs hlevel]
    exact hs
  | false =>
    unfold logRecord backendLog
    rw [observe_bind]
    split_ifs
    · rw [observe_bind]
      split_ifs
      · exact entrylog_capped hlevel hs
      · exact hs
    · exact hs

variable {alloc : Nat → Option NewPages}

theorem addPages_capped (indices : List Nat) :
    Keeps (Preserved (Capped Q)) (addPages alloc indices) := by
  induction indices with
  | nil =>
    unfold addPages
    infer_instance
  | cons index rest ih =>
    unfold addPages
    split
    · have hfree : Keeps (Preserved (Capped Q)) (update fun s : LoggingState =>
          { s with logareaptr := [], provisionalLogareaptr := [] } : LogProgram Unit) :=
        keeps_update fun s hs => ⟨fun _ => by simp, by simp, hs.level⟩
      infer_instance
    · rename_i new _
      have hadd : Keeps (Preserved (Capped Q)) (update fun s : LoggingState => { s with
          logareaptr := s.logareaptr ++ [areaPage new.shared new.content (UInt32.ofNat index)]
          provisionalLogareaptr := s.provisionalLogareaptr ++
            [areaPage new.provisional (Bytes.zero 4096) (UInt32.ofNat index)] } :
          LogProgram Unit) := by
        refine keeps_update fun s hs => ⟨?_, ?_, hs.level⟩
        · exact fun hq => capped_append (hs.shared hq) (areaPage_capped _ _ _)
        · exact capped_append hs.provisional (areaPage_capped _ _ _)
      infer_instance

theorem createLogarea_capped {numVcpus : Option UInt32} :
    Keeps (Preserved (Capped Q)) (createLogarea numVcpus alloc) := by
  unfold createLogarea
  split
  · infer_instance
  · rename_i n
    have hadd : Keeps (Preserved (Capped Q)) (addPages alloc (List.range n.toNat)) :=
      addPages_capped _
    have hflags : Keeps (Preserved (Capped Q)) (update fun s : LoggingState =>
        { s with numVcpus := n, provisionalLogsEnabled := true, logareaCreated := true } :
        LogProgram Unit) :=
      keeps_update fun s hs => ⟨hs.shared, hs.provisional, hs.level⟩
    infer_instance

private theorem publishPage_capped (index : Nat) (page : LogPage) :
    Keeps (Preserved (Capped Q)) (publishPage index page) := by
  constructor
  intro s hs
  unfold publishPage
  rw [observe_bind]
  cases hprov : s.provisionalLogareaptr[index]? with
  | none =>
    simp only [id, hprov]
    exact hs
  | some provisional =>
    simp only [id, hprov]
    obtain ⟨chain, hring, hchain⟩ := hs.provisional provisional (List.mem_of_getElem? hprov)
    have hvisible : PageCapped { page with bytes := provisional.bytes } :=
      ⟨chain, ⟨hring.start, hring.low, hring.high, hring.bytes, hring.sound⟩, hchain⟩
    exact ⟨fun hq => capped_set (hs.shared hq) hvisible, hs.provisional, hs.level⟩

theorem publishPages_capped (enabled : Bool) (indices : List Nat) :
    Keeps (Preserved (Capped Q)) (publishPages enabled indices) := by
  induction indices with
  | nil =>
    unfold publishPages
    infer_instance
  | cons index rest ih =>
    have hpage := publishPage_capped (Q := Q) index
    unfold publishPages
    infer_instance

theorem freeProvisionalLogarea_capped : Keeps (Preserved (Capped Q)) freeProvisionalLogarea := by
  refine keeps_update fun s hs => ?_
  split_ifs
  · exact ⟨hs.shared, by simp, hs.level⟩
  · exact hs

private theorem effectiveLevel_le (level : UInt8) : effectiveLevel false level ≤ 3 := by
  by_cases hle : level ≤ 3
  · simp [effectiveLevel, hle]
  · simp [effectiveLevel, hle]

theorem enableLogarea_capped {level : UInt8} :
    Keeps (Preserved (Capped Q)) (enableLogarea false cpu level requestId) := by
  have hrecord : ∀ r, Keeps (Preserved (Capped Q)) (logRecord false cpu r) := fun r =>
    ⟨fun _ => logRecord_capped⟩
  have hpublish := publishPages_capped (Q := Q)
  have hfree := freeProvisionalLogarea_capped (Q := Q)
  have hlevel : Keeps (Preserved (Capped Q)) (update fun s : LoggingState =>
      { s with maxloglevel := effectiveLevel false level } : LogProgram Unit) :=
    keeps_update fun s hs => ⟨hs.shared, hs.provisional, effectiveLevel_le level⟩
  have hflags : Keeps (Preserved (Capped Q)) (update fun s : LoggingState => { s with
      logareaInitialized := true
      maxLevel := u8ToLevelfilter (effectiveLevel false level) } : LogProgram Unit) :=
    keeps_update fun s hs => ⟨hs.shared, hs.provisional, hs.level⟩
  unfold enableLogarea
  dsimp only
  cases u8ToLoglevel (effectiveLevel false level) with
  | some _ => infer_instance
  | none => infer_instance

private theorem initVmmLogger_capped : Keeps (Preserved (Capped Q)) initVmmLogger := by
  have hflags : Keeps (Preserved (Capped Q)) (update fun s : LoggingState =>
      { s with backendInstalled := true, maxLevel := ⟨some .trace⟩ } : LogProgram Unit) :=
    keeps_update fun s hs => ⟨hs.shared, hs.provisional, hs.level⟩
  unfold initVmmLogger
  infer_instance

def Operation.isHostWrite : Operation → Bool
  | .hostWrite _ _ => true
  | _ => false

theorem step_capped (op : Operation) (hop : Q → Operation.isHostWrite op = false)
    (hs : Capped Q s) : Capped Q (step false s op) := by
  cases op with
  | initVmmLogger => exact initVmmLogger_capped.rel s hs
  | createLogarea numVcpus alloc => exact createLogarea_capped.rel s hs
  | enableLogarea cpu level requestId => exact enableLogarea_capped.rel s hs
  | record cpu r => exact logRecord_capped hs
  | completeRebinding cpu requestId => exact entrylog_capped rfl hs
  | hostWrite index bytes => exact ⟨fun hq => (by cases hop hq), hs.provisional, hs.level⟩

theorem initial_capped : Capped Q LoggingState.initial :=
  ⟨fun _ => by simp [LoggingState.initial], by simp [LoggingState.initial], by decide⟩

def Permitted : Operation → Bool
  | .record _ r => !Level.aboveInfo r.level
  | _ => true

theorem foldl_capped (ops : List Operation)
    (hops : Q → ∀ op ∈ ops, Operation.isHostWrite op = false) (hs : Capped Q s) :
    Capped Q (ops.foldl (step false) s) ∧
      (ops.filter Permitted).foldl (step false) s = ops.foldl (step false) s := by
  induction ops generalizing s with
  | nil => exact ⟨hs, rfl⟩
  | cons op rest ih =>
    have hrest : Q → ∀ op ∈ rest, Operation.isHostWrite op = false := fun hq op hmem =>
      hops hq op (List.mem_cons_of_mem _ hmem)
    rw [List.foldl_cons]
    cases hop : Permitted op with
    | true =>
      rw [List.filter_cons_of_pos hop, List.foldl_cons]
      exact ih hrest (step_capped op (fun hq => hops hq op List.mem_cons_self) hs)
    | false =>
      have hsame : step false s op = s := by
        cases op with
        | record cpu r => exact logRecord_above hs (by simpa [Permitted] using hop)
        | initVmmLogger => cases hop
        | createLogarea numVcpus alloc => cases hop
        | enableLogarea cpu level requestId => cases hop
        | completeRebinding cpu requestId => cases hop
        | hostWrite index bytes => cases hop
      rw [List.filter_cons_of_neg (by simp [hop]), hsame]
      exact ih hrest hs

/-- In every run of a release build in which only the program writes, the entries that a reader of
the shared pages finds have a level up to Info. In every run, also against a host that writes these
pages, they are what they would be if no record above Info had been made. -/
theorem release_log_level_capped (ops : List Operation) :
    ((∀ op ∈ ops, Operation.isHostWrite op = false) → ∀ p ∈ (run false ops).logareaptr,
      ∃ chain, chainOf p = some chain ∧ ∀ x ∈ chain, x.2.header.loglevel ≤ loglevelToU8 .info) ∧
    run false (ops.filter Permitted) = run false ops := by
  constructor
  · intro hops p hp
    obtain ⟨hcapped, -⟩ := foldl_capped (Q := True) ops (fun _ => hops) initial_capped
    obtain ⟨chain, hring, hchain⟩ := hcapped.shared trivial p hp
    refine ⟨_, hring.chainOf_eq, ?_⟩
    intro x hx
    have hmem := List.mem_map_of_mem (f := Prod.snd) hx
    rw [placed_snd] at hmem
    exact hchain x.2 hmem
  · exact (foldl_capped (Q := False) ops (fun h => h.elim) initial_capped).2

/-- The host asks for Trace after one record of Info and one of Debug, and then one of Trace is
made. -/
def sampleOperations : List Operation :=
  [.initVmmLogger, .createLogarea (some 1) fun _ => some ⟨0x1000, Bytes.zero 4096, 0x2000⟩,
    .record (some 0) ⟨.info, ascii "i", []⟩, .record (some 0) ⟨.debug, ascii "d", []⟩,
    .enableLogarea (some 0) 5 7, .record (some 0) ⟨.trace, ascii "t", []⟩]

/-- The record of Info and the one that reports the level are in the shared page. -/
example : (run false sampleOperations).logareaptr.map (fun p => (chainOf p).map
    (·.map (·.2.header.loglevel))) = [some [3, 3]] := by
  decide +kernel

end MigTd.Migration.LogLevels
