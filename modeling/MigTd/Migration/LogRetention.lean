/- source: logging.rs
   digest: Runs of `entrylog` on pages that only the program writes: the chain of entries on each
     page, and what an append makes unreachable. -/

import MigTd.Migration.LogRing
import Mathlib.Data.List.Chain

set_option autoImplicit false

namespace MigTd.Migration.LogRetention

open Lib.ByteCodec Lib.StateProgram Logging LogRing

structure Call where
  cpu : Option UInt8
  msg : Octets
  level : Level
  requestId : UInt64

def Call.entry (c : Call) (id : UInt64) : LogEntry :=
  ⟨⟨id, c.requestId, loglevelToU8 c.level, UInt32.ofNat c.msg.length⟩, c.msg⟩

/-- The message passes the filter and is not too long for a page. -/
def Admitted (s : LoggingState) (c : Call) : Prop :=
  ((s.logareaInitialized ∧ loglevelToU8 c.level ≤ s.maxloglevel) ∨
      (s.provisionalLogsEnabled ∧ loglevelToU8 c.level ≤ loglevelToU8 .trace)) ∧
    c.msg.length ≤ PAGE_SIZE - (LOGAREABUFFERHEADERSIZE + LOGENTRYHEADERSIZE)
  deriving Decidable

def Call.run (debugAssertions : Bool) (s : LoggingState) (c : Call) :
    Except Panic Unit × LoggingState :=
  entrylog debugAssertions c.cpu c.msg c.level c.requestId s

section

variable (debugAssertions : Bool) {s : LoggingState} {c : Call} {cpu : UInt8} {page : LogPage}

theorem run_refused (h : ¬Admitted s c) : c.run debugAssertions s = (.ok (), s) := by
  unfold Call.run entrylog
  rw [observe_bind]
  dsimp only [id]
  split_ifs with hgate hlong
  · rfl
  · exact absurd ⟨hgate, Nat.not_lt.mp hlong⟩ h
  · rfl

theorem run_unknown (hcpu : c.cpu = none) : c.run debugAssertions s = (.ok (), s) := by
  by_cases h : Admitted s c
  · unfold Call.run entrylog
    rw [observe_bind, hcpu]
    dsimp only [id]
    rw [if_pos h.1, if_neg (Nat.not_lt.mpr h.2)]
    rfl
  · exact run_refused debugAssertions h

theorem run_known (h : Admitted s c) (hcpu : c.cpu = some cpu) : c.run debugAssertions s =
    (lift (orElse s.pages[cpu.toNat]? Panic.index) >>= fun page => appendEntry debugAssertions
      cpu.toNat page (c.entry (nextEntryId s.logentryId)) : LogProgram Unit) s := by
  unfold Call.run entrylog
  rw [observe_bind, hcpu]
  dsimp only [id]
  rw [if_pos h.1, if_neg (Nat.not_lt.mpr h.2)]
  rfl

theorem run_stored (h : Admitted s c) (hcpu : c.cpu = some cpu)
    (hpage : s.pages[cpu.toNat]? = some page) (hindex : page.vcpuindex = cpu.toNat) :
    c.run debugAssertions s =
      ((storeEntry debugAssertions (c.entry (nextEntryId s.logentryId)) page).1,
        LoggingState.setPage { s with logentryId := nextEntryId s.logentryId } cpu.toNat
          (storeEntry debugAssertions (c.entry (nextEntryId s.logentryId)) page).2) := by
  rw [run_known debugAssertions h hcpu, hpage]
  change appendEntry debugAssertions cpu.toNat page (c.entry (nextEntryId s.logentryId)) s = _
  rw [appendEntry, if_pos hindex.symm, update_bind]
  unfold embed
  rcases storeEntry debugAssertions (c.entry (nextEntryId s.logentryId)) page with ⟨_ | _, q⟩
  · rfl
  · rfl

end

theorem pages_setPage (s : LoggingState) (i : Nat) (p : LogPage) :
    (s.setPage i p).pages = s.pages.set i p := by
  unfold LoggingState.setPage LoggingState.pages
  split_ifs <;> rfl

def target (s : LoggingState) (c : Call) : Option Nat :=
  if Admitted s c then
    (c.cpu.map UInt8.toNat).filter fun i => i < s.pages.length
  else none

abbrev Ledger := UInt64 × List (Nat × LogEntry)

def enter (s : LoggingState) (r : Ledger) (c : Call) : Ledger :=
  (target s c).elim r fun i =>
    (nextEntryId r.1, r.2 ++ [(i, c.entry (nextEntryId r.1))])

/-- What a sequence of calls stores, from this state on. -/
def logged (s : LoggingState) (calls : List Call) : List (Nat × LogEntry) :=
  (calls.foldl (enter s) (s.logentryId, [])).2

def onPage (i : Nat) (stored : List (Nat × LogEntry)) : List LogEntry :=
  stored.filterMap fun x => if x.1 = i then some x.2 else none

def runCalls (debugAssertions : Bool) (s : LoggingState) (calls : List Call) : LoggingState :=
  calls.foldl (fun s c => (c.run debugAssertions s).2) s

def Fresh (s : LoggingState) : Prop :=
  ∀ i page, s.pages[i]? = some page →
    ∃ address content, page = areaPage address content (UInt32.ofNat i)

/-- The state after some calls that stored this much. -/
structure Follows (s t : LoggingState) (r : Ledger) : Prop where
  initialized : t.logareaInitialized = s.logareaInitialized
  enabled : t.provisionalLogsEnabled = s.provisionalLogsEnabled
  level : t.maxloglevel = s.maxloglevel
  count : t.pages.length = s.pages.length
  id : t.logentryId = r.1
  pages : ∀ i page, t.pages[i]? = some page →
    Ring page ((onPage i r.2).foldl append []) ∧ page.vcpuindex = i % 2 ^ 32

variable {r : Ledger} {s t : LoggingState}

theorem Follows.target_eq (h : Follows s t r) (c : Call) : target t c = target s c := by
  have hgate : Admitted t c ↔ Admitted s c := by
    unfold Admitted
    rw [h.initialized, h.enabled, h.level]
  unfold target
  rw [h.count]
  simp only [hgate]

theorem entry_sound {c : Call} (id : UInt64) (h : c.msg.length ≤ 4032) : Sound (c.entry id) := by
  change c.msg.length % 2 ^ 32 = c.msg.length
  omega

theorem onPage_snoc (i j : Nat) (stored : List (Nat × LogEntry)) (e : LogEntry) :
    onPage j (stored ++ [(i, e)]) = if i = j then onPage j stored ++ [e] else onPage j stored := by
  unfold onPage
  rw [List.filterMap_append]
  by_cases hij : i = j
  · simp [hij]
  · simp [hij]

variable {i : Nat}

theorem Follows.store (debugAssertions : Bool)
    (h : Follows s t r) {page : LogPage} {e : LogEntry} (hpage : t.pages[i]? = some page)
    (he : Sound e) (hlen : e.value.length ≤ 4032) :
    Follows s (LoggingState.setPage { t with logentryId := e.header.logEntryId } i
      (storeEntry debugAssertions e page).2) (e.header.logEntryId, r.2 ++ [(i, e)]) := by
  obtain ⟨hring, hindex⟩ := h.pages i page hpage
  obtain ⟨q, hrun, hq, hsame⟩ := storeEntry_ring debugAssertions hring he hlen
  rw [hrun]
  have hset : (LoggingState.setPage { t with logentryId := e.header.logEntryId } i q).pages =
      t.pages.set i q := pages_setPage _ i q
  have hgate : ∀ u : LoggingState, (u.setPage i q).logareaInitialized = u.logareaInitialized ∧
      (u.setPage i q).provisionalLogsEnabled = u.provisionalLogsEnabled ∧
      (u.setPage i q).maxloglevel = u.maxloglevel ∧
      (u.setPage i q).logentryId = u.logentryId := by
    intro u
    unfold LoggingState.setPage
    split_ifs <;> exact ⟨rfl, rfl, rfl, rfl⟩
  obtain ⟨hinitialized, henabled, hlevel, hid⟩ := hgate { t with logentryId := e.header.logEntryId }
  refine ⟨hinitialized.trans h.initialized, henabled.trans h.enabled, hlevel.trans h.level, ?_,
    hid, ?_⟩
  · rw [hset, List.length_set]
    exact h.count
  · intro j other hother
    rw [hset, List.getElem?_set] at hother
    rw [onPage_snoc]
    by_cases hij : i = j
    · subst hij
      rw [if_pos rfl, if_pos (List.getElem?_eq_some_iff.mp hpage).1] at hother
      cases hother
      rw [if_pos rfl, List.foldl_append, List.foldl_cons, List.foldl_nil]
      exact ⟨hq, hsame.trans hindex⟩
    · rw [if_neg hij] at hother
      rw [if_neg hij]
      exact h.pages j other hother

theorem Follows.step (debugAssertions : Bool) (h : Follows s t r) (c : Call) :
    Follows s (c.run debugAssertions t).2 (enter s r c) := by
  unfold enter
  rw [← h.target_eq c]
  unfold target
  by_cases hadmitted : Admitted t c
  · rw [if_pos hadmitted]
    cases hcpu : c.cpu with
    | none =>
      rw [run_unknown debugAssertions hcpu]
      exact h
    | some cpu =>
      cases hpage : t.pages[cpu.toNat]? with
      | some page =>
        have hin : cpu.toNat < t.pages.length := (List.getElem?_eq_some_iff.mp hpage).1
        have hindex : page.vcpuindex = cpu.toNat := by
          have hlt := cpu.toNat_lt
          rw [(h.pages _ _ hpage).2]
          omega
        rw [run_stored debugAssertions hadmitted hcpu hpage hindex, Option.map_some,
          Option.filter_some, decide_eq_true hin, if_pos rfl, Option.elim_some, ← h.id]
        exact h.store debugAssertions (e := c.entry _) hpage (entry_sound _ hadmitted.2) hadmitted.2
      | none =>
        have hout : ¬cpu.toNat < t.pages.length := Nat.not_lt.mpr (List.getElem?_eq_none_iff.mp hpage)
        rw [run_known debugAssertions hadmitted hcpu, hpage, Option.map_some, Option.filter_some,
          decide_eq_false hout]
        exact h
  · rw [run_refused debugAssertions hadmitted, if_neg hadmitted]
    exact h

theorem Fresh.follows (h : Fresh s) : Follows s s (s.logentryId, []) := by
  refine ⟨rfl, rfl, rfl, rfl, rfl, ?_⟩
  intro i page hpage
  obtain ⟨address, content, rfl⟩ := h i page hpage
  obtain ⟨hring, hindex⟩ := ring_areaPage address content (.ofNat i)
  exact ⟨hring, hindex⟩

theorem follows_calls (debugAssertions : Bool) (h : Follows s t r) (calls : List Call) :
    Follows s (runCalls debugAssertions t calls) (calls.foldl (enter s) r) := by
  induction calls generalizing t r with
  | nil => exact h
  | cons c calls ih => exact ih (h.step debugAssertions c)

theorem logged_consecutive (s : LoggingState) (calls : List Call) (r : Ledger)
    (hchain : r.2.IsChain fun a b => b.2.header.logEntryId = nextEntryId a.2.header.logEntryId)
    (hlast : ∀ x ∈ r.2.getLast?, x.2.header.logEntryId = r.1) :
    (calls.foldl (enter s) r).2.IsChain fun a b =>
      b.2.header.logEntryId = nextEntryId a.2.header.logEntryId := by
  induction calls generalizing r with
  | nil => exact hchain
  | cons c calls ih =>
    rw [List.foldl_cons]
    unfold enter
    cases target s c with
    | none => exact ih r hchain hlast
    | some i =>
      refine ih _ (List.isChain_append.mpr ⟨hchain, .singleton _, ?_⟩) ?_
      · intro x hx y hy
        cases hy
        rw [hlast x hx]
        rfl
      · intro x hx
        rw [Option.elim_some, List.getLast?_concat] at hx
        cases hx
        rfl

private theorem foldl_append_suffix (stored : List LogEntry) :
    stored.foldl append [] <:+ stored ∧ (stored.foldl append []).getLast? = stored.getLast? := by
  induction stored using List.reverseRecOn with
  | nil => exact ⟨List.suffix_rfl, rfl⟩
  | append_singleton stored e ih =>
    rw [List.foldl_append, List.foldl_cons, List.foldl_nil, append, List.getLast?_concat]
    split_ifs
    · exact ⟨(List.suffix_append_inj_of_length_eq rfl).mpr ⟨ih.1, rfl⟩, List.getLast?_concat⟩
    · exact ⟨List.suffix_append stored [e], rfl⟩

/-- On every page the offsets lie between 40 and 4096, and the headers lead from the first to the
second along entries that are the newest part of what was stored there, up to the latest. -/
theorem log_chain (debugAssertions : Bool) (s : LoggingState) (hs : Fresh s) (calls : List Call) :
    (logged s calls).IsChain (fun a b =>
      b.2.header.logEntryId = nextEntryId a.2.header.logEntryId) ∧
    ∀ i page, (runCalls debugAssertions s calls).pages[i]? = some page →
      page.startoffset = 40 ∧ 40 ≤ page.endoffset ∧ page.endoffset ≤ 4096 ∧
      ∃ chain, chainOf page = some chain ∧ chain.map Prod.snd <:+ onPage i (logged s calls) ∧
        (chain.map Prod.snd).getLast? = (onPage i (logged s calls)).getLast? := by
  refine ⟨logged_consecutive s calls _ .nil (by simp), ?_⟩
  intro i page hpage
  obtain ⟨hring, -⟩ := (follows_calls debugAssertions hs.follows calls).pages i page hpage
  refine ⟨hring.start, hring.low, hring.high, _, hring.chainOf_eq, ?_⟩
  rw [placed_snd]
  exact foldl_append_suffix _

/-- Two pages without an entry, of which entries go to the one of the processor. -/
def samplePages : LoggingState :=
  { LoggingState.initial with
    provisionalLogsEnabled := true
    provisionalLogareaptr := [areaPage 0 (.zero 4096) 0, areaPage 0 (.zero 4096) 1] }

def sampleCall (cpu : UInt8) (length : Nat) : Call := ⟨some cpu, List.replicate length 65, .info, 7⟩

theorem samplePages_fresh : Fresh samplePages := by
  intro i page hpage
  rcases i with - | - | i
  · cases hpage
    exact ⟨0, _, rfl⟩
  · cases hpage
    exact ⟨0, _, rfl⟩
  · cases hpage

/-- The third message does not fit behind the others any more. -/
def wrapCalls : List Call := [sampleCall 0 10, sampleCall 0 3990, sampleCall 0 1]

theorem log_chain_sample : ∃ page chain,
    (runCalls false samplePages wrapCalls).pages[0]? = some page ∧ page.startoffset = 40 ∧
      chainOf page = some chain ∧
      (chain.map Prod.snd).getLast? = some ⟨⟨3, 7, 3, 1⟩, [65]⟩ := by
  obtain ⟨page, hpage⟩ := Option.isSome_iff_exists.mp
    (show (runCalls false samplePages wrapCalls).pages[0]?.isSome = true by decide +kernel)
  obtain ⟨hstart, -, -, chain, hchain, -, hlast⟩ :=
    (log_chain false samplePages samplePages_fresh _).2 0 page hpage
  refine ⟨page, chain, hpage, hstart, hchain, hlast.trans ?_⟩
  decide +kernel

theorem chainOf_calls (debugAssertions : Bool) (hs : Fresh s)
    (calls : List Call) (hi : i < s.pages.length) :
    ∃ page, (runCalls debugAssertions s calls).pages[i]? = some page ∧
      page.endoffset = 40 + (encode ((onPage i (logged s calls)).foldl append [])).length ∧
      chainOf page = some (placed 40 ((onPage i (logged s calls)).foldl append [])) := by
  have hfollows := follows_calls debugAssertions hs.follows calls
  have hpage := List.getElem?_eq_getElem (hfollows.count ▸ hi)
  have hring := (hfollows.pages i _ hpage).1
  exact ⟨_, hpage, hring.stop_eq, hring.chainOf_eq⟩

/-- A message of 4033 bytes is dropped, and a message of another processor takes an id. -/
theorem log_chain_gaps :
    (∃ page, (runCalls false samplePages [sampleCall 0 1, sampleCall 0 4033]).pages[0]? =
        some page ∧ chainOf page = some [(40, ⟨⟨1, 7, 3, 1⟩, [65]⟩)]) ∧
    ∃ page, (runCalls false samplePages
        [sampleCall 0 1, sampleCall 1 1, sampleCall 0 1]).pages[0]? = some page ∧
      chainOf page = some [(40, ⟨⟨1, 7, 3, 1⟩, [65]⟩), (65, ⟨⟨3, 7, 3, 1⟩, [65]⟩)] := by
  have hchains : placed 40 ((onPage 0 (logged samplePages
        [sampleCall 0 1, sampleCall 0 4033])).foldl append []) =
        [(40, ⟨⟨1, 7, 3, 1⟩, [65]⟩)] ∧
      placed 40 ((onPage 0 (logged samplePages
        [sampleCall 0 1, sampleCall 1 1, sampleCall 0 1])).foldl append []) =
        [(40, ⟨⟨1, 7, 3, 1⟩, [65]⟩), (65, ⟨⟨3, 7, 3, 1⟩, [65]⟩)] := by
    decide +kernel
  rw [← hchains.1, ← hchains.2]
  have hchain (calls : List Call) := chainOf_calls false samplePages_fresh calls (i := 0) (by decide)
  exact ⟨(hchain _).imp fun _ h => ⟨h.1, h.2.2⟩, (hchain _).imp fun _ h => ⟨h.1, h.2.2⟩⟩

theorem placed_append (offset : Nat) (chain : List LogEntry) (e : LogEntry) :
    placed offset (chain ++ [e]) = placed offset chain ++ [(offset + (encode chain).length, e)] := by
  induction chain generalizing offset with
  | nil => rfl
  | cons x chain ih =>
    rw [List.cons_append, placed, placed, ih, encode, encode, List.flatMap_cons, List.length_append,
      entryBytes_length, Nat.add_assoc, List.cons_append]

theorem placed_ordered (offset : Nat) (chain : List LogEntry) :
    (∀ x ∈ placed offset chain, offset ≤ x.1) ∧
      (placed offset chain).Pairwise fun x y => x.1 < y.1 := by
  induction chain generalizing offset with
  | nil => exact ⟨by simp [placed], .nil⟩
  | cons e es ih =>
    obtain ⟨hbelow, hpairs⟩ := ih (offset + (24 + e.value.length))
    refine ⟨?_, List.pairwise_cons.mpr ⟨?_, hpairs⟩⟩
    · intro x hx
      rcases List.mem_cons.mp hx with rfl | hx
      · exact le_rfl
      · have := hbelow x hx
        omega
    · intro x hx
      have := hbelow x hx
      dsimp only
      omega

def Overlap (x y : Nat × LogEntry) : Prop :=
  x.1 < y.1 + (24 + y.2.value.length) ∧ y.1 < x.1 + (24 + x.2.value.length)

/-- What an append makes unreachable is overwritten or older than an overwritten entry, and what
stays reachable keeps its order. -/
structure Retains (before after : List (Nat × LogEntry)) (new : Nat × LogEntry) : Prop where
  lost : ∀ older x newer, before = older ++ x :: newer → x ∉ after → ∃ y ∈ x :: newer, Overlap new y
  order : ∀ x y, [x, y].Sublist before → x ∈ after → y ∈ after → [x, y].Sublist after

theorem retains_append (before : List (Nat × LogEntry)) (new : Nat × LogEntry) :
    Retains before (before ++ [new]) new := by
  constructor
  · rintro older x newer rfl hx
    exact absurd (by simp) hx
  · intro x y hpair _ _
    exact hpair.trans (List.sublist_append_left before [new])

theorem retains_anew (chain : List LogEntry) (e : LogEntry) :
    Retains (placed 40 chain) [(40, e)] (40, e) ↔
      ∀ x ∈ (placed 40 chain).getLast?, x.1 < 40 + (24 + e.value.length) := by
  obtain ⟨hbelow, hpairs⟩ := placed_ordered 40 chain
  constructor
  · intro h x hx
    obtain ⟨older, hsplit⟩ := List.getLast?_eq_some_iff.mp hx
    by_contra hfar
    have hlost : x ∉ [((40 : Nat), e)] := by
      intro hmem
      rw [List.mem_singleton.mp hmem] at hfar
      dsimp only at hfar
      omega
    obtain ⟨y, hy, hoverlap⟩ := h.lost older x [] hsplit hlost
    rw [List.mem_singleton.mp hy] at hoverlap
    exact hfar hoverlap.2
  · intro h
    constructor
    · intro older x newer hsplit _
      refine ⟨(x :: newer).getLast (List.cons_ne_nil x newer), List.getLast_mem _, ?_, ?_⟩
      · have := hbelow ((x :: newer).getLast (List.cons_ne_nil x newer))
          (hsplit ▸ List.mem_append_right older (List.getLast_mem _))
        dsimp only
        omega
      · refine h _ ?_
        rw [hsplit, List.getLast?_append_of_ne_nil _ (List.cons_ne_nil x newer),
          List.getLast?_eq_some_getLast (List.cons_ne_nil x newer)]
        rfl
    · intro x y hpair hx hy
      have hlt := hpairs.sublist hpair
      rw [List.mem_singleton.mp hx, List.mem_singleton.mp hy] at hlt
      simp at hlt

private theorem logged_snoc (calls : List Call) {c : Call}
    (h : target s c = some i) : ∃ e : LogEntry, e.value = c.msg ∧
      logged s (calls ++ [c]) = logged s calls ++ [(i, e)] := by
  refine ⟨c.entry (nextEntryId (calls.foldl (enter s) (s.logentryId, [])).1), rfl, ?_⟩
  rw [logged, List.foldl_append, List.foldl_cons, List.foldl_nil, enter, h]
  rfl

/-- An append keeps to the rule exactly when the entry fits behind the others, or reaches the last
of them from the beginning of the page. -/
theorem log_retention_iff (debugAssertions : Bool) (s : LoggingState) (hs : Fresh s)
    (calls : List Call) (c : Call) (i : Nat) (htarget : target s c = some i) :
    ∃ p q before after new, (runCalls debugAssertions s calls).pages[i]? = some p ∧
      (runCalls debugAssertions s (calls ++ [c])).pages[i]? = some q ∧
      chainOf p = some before ∧ chainOf q = some after ∧ after.getLast? = some new ∧
      new.2.value = c.msg ∧
      (Retains before after new ↔ p.endoffset + (24 + c.msg.length) ≤ 4096 ∨
        ∀ x ∈ before.getLast?, x.1 < 40 + (24 + c.msg.length)) := by
  have hi : i < s.pages.length := by
    unfold target at htarget
    split_ifs at htarget
    exact of_decide_eq_true (Option.filter_eq_some_iff.mp htarget).2
  obtain ⟨p, hp, hstop, hbefore⟩ := chainOf_calls debugAssertions hs calls hi
  obtain ⟨q, hq, -, hafter⟩ := chainOf_calls debugAssertions hs (calls ++ [c]) hi
  obtain ⟨e, he, hlogged⟩ := logged_snoc calls htarget
  rw [hlogged, onPage_snoc, if_pos rfl, List.foldl_append, List.foldl_cons, List.foldl_nil] at hafter
  generalize (onPage i (logged s calls)).foldl append [] = chain at hstop hbefore hafter
  unfold append at hafter
  rw [← hstop, he] at hafter
  split_ifs at hafter with hfits
  · rw [placed_append] at hafter
    exact ⟨p, q, _, _, _, hp, hq, hbefore, hafter, List.getLast?_concat, he,
      iff_of_true (retains_append _ _) (.inl hfits)⟩
  · refine ⟨p, q, _, _, _, hp, hq, hbefore, hafter, rfl, he, ?_⟩
    change Retains _ [(40, e)] (40, e) ↔ _
    rw [retains_anew, he, or_iff_right hfits]

/-- The second message does not fit behind the first one and reaches it from the beginning. -/
theorem log_retention_sample : ∃ p q before after new,
    (runCalls false samplePages [sampleCall 0 4000]).pages[0]? = some p ∧
    (runCalls false samplePages [sampleCall 0 4000, sampleCall 0 100]).pages[0]? = some q ∧
    chainOf p = some before ∧ before.map Prod.fst = [40] ∧ chainOf q = some after ∧
    Retains before after new := by
  obtain ⟨p, q, before, after, new, hp, hq, hbefore, hafter, -, -, hiff⟩ :=
    log_retention_iff false samplePages samplePages_fresh [sampleCall 0 4000] (sampleCall 0 100) 0
      (by decide +kernel)
  have hone : before.map Prod.fst = [40] := by
    obtain ⟨r, hr, -, hchain⟩ := chainOf_calls false samplePages_fresh [sampleCall 0 4000] (i := 0)
      (by decide)
    rw [Option.some.inj (hp.symm.trans hr)] at hbefore
    rw [Option.some.inj (hbefore.symm.trans hchain)]
    decide +kernel
  refine ⟨p, q, before, after, new, hp, hq, hbefore, hone, hafter, hiff.mpr (.inr fun x hx => ?_)⟩
  have hfirst := List.mem_map_of_mem (f := Prod.fst) (List.mem_of_getLast? hx)
  rw [hone] at hfirst
  rw [List.mem_singleton.mp hfirst]
  decide

/-- A short entry at the first wrap makes the entry behind it unreachable and leaves its bytes
alone. -/
theorem log_retention_first_wrap : ∃ p q before after new,
    (runCalls false samplePages [sampleCall 0 10, sampleCall 0 3990]).pages[0]? = some p ∧
    (runCalls false samplePages [sampleCall 0 10, sampleCall 0 3990, sampleCall 0 1]).pages[0]? =
      some q ∧
    chainOf p = some before ∧ chainOf q = some after ∧ after.getLast? = some new ∧
    ¬Retains before after new := by
  have hchain (calls : List Call) := chainOf_calls false samplePages_fresh calls (i := 0) (by decide)
  obtain ⟨p, hp, -, hbefore⟩ := hchain [sampleCall 0 10, sampleCall 0 3990]
  obtain ⟨q, hq, -, hafter⟩ := hchain [sampleCall 0 10, sampleCall 0 3990, sampleCall 0 1]
  have hchains : (onPage 0 (logged samplePages
        [sampleCall 0 10, sampleCall 0 3990, sampleCall 0 1])).foldl append [] =
        [⟨⟨3, 7, 3, 1⟩, [65]⟩] ∧
      (placed 40 ((onPage 0 (logged samplePages
        [sampleCall 0 10, sampleCall 0 3990])).foldl append [])).getLast?.map Prod.fst =
        some 74 := by
    decide +kernel
  rw [hchains.1] at hafter
  refine ⟨p, q, _, _, _, hp, hq, hbefore, hafter, rfl, ?_⟩
  change ¬Retains _ [(40, _)] (40, _)
  rw [retains_anew]
  intro h
  obtain ⟨x, hx, hoffset⟩ := Option.map_eq_some_iff.mp hchains.2
  have := h x hx
  rw [hoffset] at this
  exact absurd this (by decide)

end MigTd.Migration.LogRetention
