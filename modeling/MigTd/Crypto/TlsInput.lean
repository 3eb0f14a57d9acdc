/- source: tls.rs
   digest: The input buffer of a TLS connection against the bytes reported as discarded. -/

import MigTd.Crypto.TlsLedger

set_option autoImplicit false

namespace MigTd.Crypto.TlsInput

open TlsConnection TlsLedger Lib.StateProgram

variable {κ α β : Type} {lag size : Nat} {s t : Connection (κ × Tally)}

/-- The used part of the input is exactly the bytes that were received and that the library has not
reported as discarded. -/
def Exact (s : Connection (κ × Tally)) : Prop :=
  ∃ gone : Octets, gone.length = s.conn.2.reported ∧
    s.transport.received = gone ++ s.input.content

theorem Exact.length_received (h : Exact s) :
    s.transport.received.length = s.conn.2.reported + s.input.content.length := by
  obtain ⟨gone, hgone, hreceived⟩ := h
  rw [hreceived, List.length_append, hgone]

/-- At every request for a status so far, the used part of the input followed the bytes that were
reported until then. -/
def AskedExactly (s : Connection (κ × Tally)) : Prop :=
  ∀ request ∈ s.conn.2.requests, ∃ gone : Octets, gone.length = request.1 ∧
    gone ++ request.2 <+: s.transport.received

def Lags (lag : Nat) (s : Connection (κ × Tally)) : Prop :=
  ∃ gone : Octets, gone.length + lag = s.conn.2.reported ∧
    s.transport.received = gone ++ s.input.content

/-- The input lags behind the reports, which it did at no request if it does not now. -/
structure Owes (lag : Nat) (s : Connection (κ × Tally)) : Prop where
  lags : Lags lag s
  asked : lag = 0 → AskedExactly s

variable {discard : Nat}

theorem Owes.exact_iff (h : Owes lag s) :
    Exact s ∧ AskedExactly s ↔ lag = 0 := by
  obtain ⟨gone, hlag, hreceived⟩ := h.lags
  constructor
  · rintro ⟨⟨gone', hreported, hreceived'⟩, -⟩
    obtain rfl := List.append_cancel_right (hreceived.symm.trans hreceived')
    omega
  · rintro rfl
    exact ⟨⟨gone, hlag, hreceived⟩, h.asked rfl⟩

theorem fresh_owes (isClient : Bool) (k : κ) (reads writes : List (Except IoError Nat))
    (incoming : Octets) : Owes 0 (fresh isClient k reads writes incoming) :=
  ⟨⟨[], rfl, rfl⟩, fun _ _ h => by cases h⟩

/-- A status with so many discardable bytes is being handled. -/
structure Pending (lag size : Nat) (s : Connection (κ × Tally)) : Prop where
  lags : Lags (lag + size) s
  asked : lag = 0 → AskedExactly s
  last : s.conn.2.last = size

def inputView (s : Connection (κ × Tally)) :
    TlsBuffer × Octets × Nat × Nat × List (Nat × Octets) :=
  (s.input, s.transport.received, s.conn.2.reported, s.conn.2.last, s.conn.2.requests)

instance : Ignores .causes (Same (inputView (κ := κ))) := ⟨by rintro _ _ ⟨⟩; rfl⟩

instance : Ignores .sending (Same (inputView (κ := κ))) := ⟨by rintro _ _ ⟨⟩; rfl⟩

instance : Ignores .output (Same (inputView (κ := κ))) := ⟨by rintro _ _ ⟨⟩; rfl⟩

instance : Ignores .queue (Same (inputView (κ := κ))) := ⟨by rintro _ _ ⟨⟩; rfl⟩

instance : Ignores .phase (Same (inputView (κ := κ))) := ⟨by rintro _ _ ⟨⟩; rfl⟩

instance : Ignores .encoder (Same (inputView (κ := κ))) := ⟨by rintro _ _ ⟨⟩; rfl⟩

theorem Lags.same (h : Lags lag s) (hview : Same inputView s t) : Lags lag t := by
  simp only [Same, inputView, Prod.mk.injEq] at hview
  obtain ⟨hinput, hreceived, hreported, -, -⟩ := hview
  unfold Lags at *
  rwa [hinput, hreceived, hreported] at h

theorem AskedExactly.same (h : AskedExactly s) (hview : Same inputView s t) : AskedExactly t := by
  simp only [Same, inputView, Prod.mk.injEq] at hview
  obtain ⟨-, hreceived, -, -, hrequests⟩ := hview
  unfold AskedExactly at *
  rwa [hreceived, hrequests] at h

theorem Owes.same (h : Owes lag s) (hview : Same inputView s t) : Owes lag t :=
  ⟨h.lags.same hview, fun hzero => (h.asked hzero).same hview⟩

theorem Pending.same (h : Pending lag size s) (hview : Same inputView s t) :
    Pending lag size t := by
  refine ⟨h.lags.same hview, fun hzero => (h.asked hzero).same hview, ?_⟩
  simp only [Same, inputView, Prod.mk.injEq] at hview
  obtain ⟨-, -, -, hlast, -⟩ := hview
  exact hlast ▸ h.last

theorem Pending.owes (h : Pending lag size s) : Owes (lag + s.conn.2.last) s := by
  rw [h.last]
  exact ⟨h.lags, fun hzero => h.asked (by omega)⟩

/-- Whether a call ends behind a status whose bytes it has not discarded. A call that is cut off
stands before the next status. -/
def leavesEarly (isWrite : Bool) : Except TlsStop α → Bool
  | .ok _ => isWrite
  | .error .diverged => false
  | .error _ => true

def Ends (isWrite : Bool) (lag : Nat) (r : Except TlsStop α) (t : Connection (κ × Tally)) : Prop :=
  Owes (if leavesEarly isWrite r then lag + t.conn.2.last else lag) t

variable {f : Unit → TlsProgram (κ × Tally) β}

section

variable {isWrite : Bool} {r : Except TlsStop α}

theorem ends_early (h : leavesEarly isWrite r = true)
    (hs : Pending lag size s) : Ends isWrite lag r s := by
  rw [Ends, if_pos h]
  exact hs.owes

theorem ends_in_time (h : leavesEarly isWrite r = false)
    (hs : Owes lag s) : Ends isWrite lag r s := by
  rw [Ends, h]
  exact hs

theorem leavesEarly_error {e : TlsStop} (h : e ≠ .diverged) :
    leavesEarly isWrite (.error e : Except TlsStop α) = true := by
  cases e with
  | diverged => exact absurd rfl h
  | _ => rfl

theorem ne_diverged (m : TlsProgram κ α) [hm : Accounts False m] (s : Connection κ) :
    (m s).1 ≠ .error .diverged := by
  intro h
  have hrun := hm.run s
  rw [Accounted, h] at hrun
  exact hrun.1

variable {m : TlsProgram (κ × Tally) α}

theorem pending_bind {f : α → TlsProgram (κ × Tally) β}
    (hm : Keeps (Same inputView) m) (hstop : (m s).1 ≠ .error .diverged) (hs : Pending lag size s)
    (hf : ∀ a t, m s = (.ok a, t) → Pending lag size t → Post (f a) t (Ends isWrite lag)) :
    Post (m >>= f) s (Ends isWrite lag) := by
  refine post_bind_keeps hm ?_ ?_
  · intro a t hrun hview
    exact hf a t hrun (hs.same hview)
  · intro e t hrun hview
    have he : e ≠ .diverged := by
      rintro rfl
      exact hstop (congrArg Prod.fst hrun)
    exact ends_early (leavesEarly_error he) (hs.same hview)

theorem pending_ends (hm : Keeps (Same inputView) m)
    (hstop : (m s).1 ≠ .error .diverged) (hs : Pending lag size s) :
    Post m s (Ends true lag) := by
  have hend := hs.same (hm.rel s)
  unfold Post
  cases hrun : (m s).1 with
  | ok _ => exact ends_early rfl hend
  | error e =>
    refine ends_early (leavesEarly_error ?_) hend
    rintro rfl
    exact hstop hrun

theorem fail_ends (hs : Pending lag size s) (c : Cause) :
    Post (fail c : TlsProgram (κ × Tally) α) s (Ends isWrite lag) :=
  ends_early (leavesEarly_error c.stop_ne_diverged) (hs.same ((keeps_fail c).rel s))

theorem discardInput_post (hs : Pending lag size s) :
    Post (discardInput size) s fun r t => match r with
      | .ok _ => Owes lag t
      | .error e => e = .panicked ∧ Pending lag size t := by
  unfold Post
  by_cases hheld : size ≤ s.input.content.length
  · rw [discardInput_ok hheld]
    obtain ⟨gone, hlag, hreceived⟩ := hs.lags
    refine ⟨⟨gone ++ s.input.content.take size, ?_, ?_⟩, hs.asked⟩
    · change _ = s.conn.2.reported
      rw [List.length_append, List.length_take_of_le hheld]
      omega
    · change s.transport.received = _ ++ s.input.content.drop size
      rw [List.append_assoc, List.take_append_drop, hreceived]
  · rw [discardInput_panic hheld]
    exact ⟨rfl, hs⟩

theorem discardInput_bind (hs : Pending lag size s)
    (hf : ∀ t, Owes lag t → Post (f ()) t (Ends isWrite lag)) :
    Post (discardInput size >>= f) s (Ends isWrite lag) := by
  refine post_bind_of (discardInput_post hs) (fun _ t ht => hf t ht) ?_
  rintro e t ⟨rfl, ht⟩
  exact ends_early (r := .error .panicked) rfl ht

theorem discardInput_ends (hs : Pending lag size s) :
    Post (discardInput size) s (Ends false lag) := by
  refine (discardInput_post hs).mono ?_
  intro r t ht
  cases r with
  | ok _ => exact ends_in_time (r := .ok ()) rfl ht
  | error e =>
    obtain ⟨rfl, ht⟩ := ht
    exact ends_early (r := .error .panicked) rfl ht

theorem transportRead_pending (hs : Pending lag size s) :
    Post (transportRead s.input.unused) s fun r t => match r with
      | .ok bytes => Pending lag size { t with input := t.input.consume bytes }
      | .error _ => Pending lag size t := by
  unfold Post
  rcases hreads : s.transport.reads with - | ⟨e | n, reads⟩
  · rw [transportRead_none hreads]
    exact hs.same rfl
  · rw [transportRead_error hreads]
    exact hs.same rfl
  · obtain ⟨gone, hlag, hreceived⟩ := hs.lags
    have hfits : (s.transport.incoming.take (min n s.input.unused)).length ≤ s.input.unused :=
      (List.length_take_le _ _).trans (Nat.min_le_right _ _)
    have hcontent : (s.input.consume (s.transport.incoming.take (min n s.input.unused))).content =
        s.input.content ++ s.transport.incoming.take (min n s.input.unused) := by
      simp only [TlsBuffer.consume, List.take_of_length_le hfits]
    rw [transportRead_ok hreads]
    refine ⟨⟨gone, hlag, ?_⟩, ?_, hs.last⟩
    · change s.transport.received ++ _ = gone ++ TlsBuffer.content _
      rw [hcontent, hreceived, List.append_assoc]
    · intro hzero request hrequest
      obtain ⟨gone', hgone', hprefix⟩ := hs.asked hzero request hrequest
      exact ⟨gone', hgone', hprefix.trans (List.prefix_append _ _)⟩

theorem fillInput_bind (hs : Pending lag size s)
    (hf : ∀ t, Pending lag size t → Post (f ()) t (Ends isWrite lag)) :
    Post (fillInput >>= f) s (Ends isWrite lag) := by
  have hfill : Post fillInput s fun _ t => Pending lag size t := by
    unfold fillInput
    rw [post_bind_observe]
    refine post_bind_of (transportRead_pending hs) ?_ ?_
    · intro bytes t ht
      exact ht
    · intro e t ht
      exact ht
  have hstop := ne_diverged (fillInput : TlsProgram (κ × Tally) Unit) s
  unfold Post at hfill
  rw [post_bind]
  unfold Post
  cases hrun : fillInput s with
  | mk r t =>
    rw [hrun] at hfill hstop
    cases r with
    | ok u => exact hf t hfill
    | error e => exact ends_early (leavesEarly_error fun he => hstop (congrArg _ he)) hfill

theorem processTlsRecords_bind {M : Rustls κ} {f : Status → TlsProgram (κ × Tally) β}
    {Q : Except TlsStop β → _ → Prop} (hs : Owes lag s)
    (hf : ∀ status t, Pending lag (discarded status) t → Post (f status) t Q) :
    Post (processTlsRecords (recorded M) >>= f) s Q := by
  obtain ⟨⟨gone, hlag, hreceived⟩, hasked⟩ := hs
  refine hf (M.processTlsRecords s.conn.1 s.input.content).2 _ ⟨⟨gone, ?_, hreceived⟩, ?_, rfl⟩
  · change _ = s.conn.2.reported + _
    omega
  · intro hzero request hrequest
    rcases List.mem_append.mp hrequest with hold | hnew
    · exact hasked hzero request hold
    · obtain rfl := List.mem_singleton.mp hnew
      refine ⟨gone, ?_, ?_⟩
      · change gone.length = s.conn.2.reported
        omega
      · exact ⟨[], (List.append_nil _).trans hreceived.symm⟩

theorem sendLoop_ne_diverged {turns : Nat} {data : Octets} (h : data.length ≤ turns)
    (s : Connection κ) : (sendLoop writeSome turns data s).1 ≠ .error .diverged := by
  induction turns generalizing data s with
  | zero =>
    obtain rfl := List.eq_nil_of_length_eq_zero (Nat.le_zero.mp h)
    intro hrun
    cases hrun
  | succ turns ih =>
    cases data with
    | nil =>
      intro hrun
      cases hrun
    | cons b data =>
      intro hrun
      rw [sendLoop] at hrun
      obtain hfirst | ⟨n, t, hwrite, hrest⟩ := bind_error.mp (Prod.ext hrun rfl)
      · exact ne_diverged (writeSome (b :: data)) s (congrArg Prod.fst hfirst)
      · -- an answer of zero was refused
        have hn : n ≠ 0 := (writeSome_ok hwrite).1
        refine ih ?_ t (congrArg Prod.fst hrest)
        simp only [List.length_drop, List.length_cons] at h ⊢
        omega

theorem flushAll_ne_diverged (s : Connection κ) : (flushAll s).1 ≠ .error .diverged := by
  intro hrun
  unfold flushAll at hrun
  rw [observe_bind] at hrun
  obtain hfirst | ⟨u, t, -, hrest⟩ := bind_error.mp (Prod.ext hrun rfl)
  · exact sendLoop_ne_diverged (Nat.le_refl _) s (congrArg Prod.fst hfirst)
  · cases hrest

end

section

variable {M : Rustls κ}

theorem rejectHandshake_ends {isWrite : Bool} {e : RustlsError} (hs : Pending lag discard s) :
    Post (rejectHandshake (recorded M) e discard : TlsProgram (κ × Tally) α) s
      (Ends isWrite lag) := by
  have htell (t : Connection (κ × Tally)) (ht : Pending lag discard t) :
      Post (tellPeer (recorded M) discard) t (Ends true lag) := by
    unfold tellPeer handleTlsError
    refine discardInput_bind ht fun u hu => ?_
    -- the discard of the second status is not looked at
    refine processTlsRecords_bind hu fun status v hv => ?_
    exact pending_ends inferInstance (ne_diverged _ _) hv
  unfold rejectHandshake
  refine pending_bind inferInstance (fun h => by cases h) hs ?_
  intro _ t _ ht
  refine post_bind_of (htell t ht) ?_ ?_
  · intro _ u hu
    exact hu
  · intro e' u hu
    cases e' <;> exact hu

variable {state : Except RustlsError ConnectionState} {next : TlsProgram (κ × Tally) Unit}

theorem handshakeTurn_ends (hnext : ∀ t, Owes lag t → Post next t (Ends false lag))
    (hs : Pending lag (discarded (discard, state)) s) :
    Post (handshakeTurn (recorded M) next discard state) s (Ends false lag) := by
  have hdiscard (t : Connection (κ × Tally)) (ht : Pending lag discard t) :
      Post (discardInput discard >>= fun _ => next) t (Ends false lag) :=
    discardInput_bind ht hnext
  match state, hs with
  | .error e, hs => exact rejectHandshake_ends hs
  | .ok .encodeTlsData, hs =>
    refine pending_bind inferInstance (ne_diverged _ _) hs ?_
    intro _ t _ ht
    exact hdiscard t ht
  | .ok .transmitTlsData, hs =>
    refine pending_bind inferInstance (ne_diverged _ _) hs ?_
    intro _ t _ ht
    refine pending_bind inferInstance (fun h => by cases h) ht ?_
    intro _ u _ hu
    exact hdiscard u hu
  | .ok .blockedHandshake, hs => exact fillInput_bind hs hdiscard
  | .ok (.readTraffic batch), hs =>
    refine pending_bind inferInstance (ne_diverged _ _) hs ?_
    intro total t hstore ht
    rw [storeRecords_discard hstore]
    refine pending_bind inferInstance (ne_diverged _ _) ht ?_
    intro _ u _ hu
    exact discardInput_ends hu
  | .ok .writeTraffic, hs =>
    refine pending_bind inferInstance (ne_diverged _ _) hs ?_
    intro _ t _ ht
    exact discardInput_ends ht
  | .ok .other, hs => exact fail_ends hs _

private theorem processTlsStatus_ends (turns : Nat) (hs : Owes lag s) :
    Post (processTlsStatus (recorded M) turns) s (Ends false lag) := by
  induction turns generalizing s with
  | zero => exact ends_in_time (r := .error .diverged) rfl hs
  | succ turns ih =>
    unfold processTlsStatus
    refine processTlsRecords_bind hs ?_
    intro status t ht
    exact handshakeTurn_ends (fun u hu => ih hu) ht

private theorem ensureHandshake_ends (turns : Nat) (hs : Owes lag s) :
    Post (ensureHandshake (recorded M) turns) s (Ends false lag) := by
  unfold ensureHandshake
  rw [post_bind_observe]
  split
  · exact processTlsStatus_ends turns hs
  · exact ends_in_time (r := .ok ()) rfl hs

theorem ensureHandshake_bind {isWrite : Bool} {turns : Nat} (hs : Owes lag s)
    (hf : ∀ t, Owes lag t → Post (f ()) t (Ends isWrite lag)) :
    Post (ensureHandshake (recorded M) turns >>= f) s (Ends isWrite lag) := by
  refine post_bind_of (ensureHandshake_ends turns hs) ?_ ?_
  · intro _ t ht
    exact hf t ht
  · intro e t ht
    cases e <;> exact ht

theorem readTurn_ends {next : TlsProgram (κ × Tally) Octets}
    (hnext : ∀ t, Owes lag t → Post next t (Ends false lag)) {room : Nat} {isClient : Bool}
    (hs : Pending lag (discarded (discard, state)) s) :
    Post (readTurn next room isClient discard state) s (Ends false lag) := by
  match state, hs with
  | .error e, hs => exact fail_ends hs _
  | .ok (.readTraffic batch), hs =>
    refine pending_bind inferInstance (ne_diverged _ _) hs ?_
    intro total t hstore ht
    rw [storeRecords_discard hstore]
    refine pending_bind inferInstance (ne_diverged _ _) ht ?_
    intro bytes u _ hu
    exact discardInput_bind hu fun v hv => ends_in_time (r := .ok bytes) rfl hv
  | .ok .writeTraffic, hs =>
    exact fillInput_bind hs fun t ht => discardInput_bind ht hnext
  | .ok .encodeTlsData, hs => exact fail_ends hs _
  | .ok .transmitTlsData, hs => exact fail_ends hs _
  | .ok .blockedHandshake, hs => exact fail_ends hs _
  | .ok .other, hs => exact fail_ends hs _

private theorem readLoop_ends (room turns : Nat) (hs : Owes lag s) :
    Post (readLoop (recorded M) room turns) s (Ends false lag) := by
  induction turns generalizing s with
  | zero => exact ends_in_time (r := .error .diverged) rfl hs
  | succ turns ih =>
    unfold readLoop
    rw [post_bind_observe]
    refine processTlsRecords_bind hs ?_
    intro status t ht
    exact readTurn_ends (fun u hu => ih hu) ht

theorem read_ends (turns room : Nat) (hs : Owes lag s) :
    Post (TlsConnection.read (recorded M) turns room) s (Ends false lag) := by
  unfold TlsConnection.read
  refine ensureHandshake_bind hs ?_
  intro t ht
  rw [post_bind_observe]
  split
  · exact readLoop_ends room turns ht
  · have hview : Same inputView t (readAppData room t).2 := Keeps.rel t
    exact ends_in_time (r := .ok _) rfl (ht.same hview)

theorem writeTurn_ends (hnext : ∀ t, Owes lag t → Post next t (Ends true lag)) {data : Octets}
    (hs : Pending lag (discarded (discard, state)) s) :
    Post (writeTurn (recorded M) next data discard state) s (Ends true lag) := by
  match state, hs with
  | .error e, hs => exact fail_ends hs _
  | .ok (.readTraffic batch), hs =>
    refine pending_bind inferInstance (ne_diverged _ _) hs ?_
    intro total t hstore ht
    rw [storeRecords_discard hstore]
    exact discardInput_bind ht hnext
  | .ok .writeTraffic, hs =>
    refine pending_bind inferInstance (ne_diverged _ _) hs ?_
    intro _ t _ ht
    exact pending_ends inferInstance (flushAll_ne_diverged t) ht
  | .ok .encodeTlsData, hs => exact fail_ends hs _
  | .ok .transmitTlsData, hs => exact fail_ends hs _
  | .ok .blockedHandshake, hs => exact fail_ends hs _
  | .ok .other, hs => exact fail_ends hs _

private theorem writeLoop_ends (data : Octets) (turns : Nat) (hs : Owes lag s) :
    Post (writeLoop (recorded M) data turns) s (Ends true lag) := by
  induction turns generalizing s with
  | zero => exact ends_in_time (r := .error .diverged) rfl hs
  | succ turns ih =>
    unfold writeLoop
    refine processTlsRecords_bind hs ?_
    intro status t ht
    exact writeTurn_ends (fun u hu => ih hu) ht

theorem write_ends (turns : Nat) (data : Octets) (hs : Owes lag s) :
    Post (TlsConnection.write (recorded M) turns data) s (Ends true lag) := by
  unfold TlsConnection.write
  refine ensureHandshake_bind hs ?_
  intro t ht
  refine post_bind_of (writeLoop_ends data turns ht) ?_ ?_
  · intro _ u hu
    exact hu
  · intro e u hu
    cases e <;> exact hu

end

def LeavesEarly (step : Step (κ × Tally)) : Prop :=
  leavesEarly step.call.isWrite step.result = true
  deriving Decidable

section

variable {M : Rustls κ}

private theorem perform_ends (hs : Owes lag s) (call : Call) :
    Post (perform (recorded M) call) s (Ends call.isWrite lag) := by
  cases call with
  | handshake turns =>
    refine ensureHandshake_bind hs ?_
    intro t ht
    exact ends_in_time (r := .ok []) rfl ht
  | read turns room => exact read_ends turns room hs
  | write turns data =>
    refine post_bind_of (write_ends turns data hs) ?_ ?_
    · intro _ t ht
      exact ht
    · intro e t ht
      cases e <;> exact ht

private theorem step_owes (hs : Owes lag s) (call : Call) :
    ∃ lag', Owes lag' (step (recorded M) s call).after ∧
      (lag' = 0 ↔ lag = 0 ∧ (LeavesEarly (step (recorded M) s call) →
        (step (recorded M) s call).after.conn.2.last = 0)) := by
  have hends : Owes (if LeavesEarly (step (recorded M) s call) then
      lag + (step (recorded M) s call).after.conn.2.last else lag)
      (step (recorded M) s call).after := perform_ends hs call
  by_cases hearly : LeavesEarly (step (recorded M) s call)
  · rw [if_pos hearly] at hends
    refine ⟨_, hends, ?_⟩
    simp only [hearly, forall_const]
    exact Nat.add_eq_zero_iff
  · rw [if_neg hearly] at hends
    refine ⟨lag, hends, ?_⟩
    simp only [hearly, false_implies, and_true]

private theorem run_owes (hs : Owes lag s) (calls : List Call) :
    ∃ lag', Owes lag' (run (recorded M) s calls) ∧
      (lag' = 0 ↔ lag = 0 ∧ ∀ step ∈ trace (recorded M) s calls,
        LeavesEarly step → step.after.conn.2.last = 0) := by
  induction calls generalizing lag s with
  | nil => exact ⟨lag, hs, by simp [trace]⟩
  | cons call calls ih =>
    obtain ⟨mid, hmid, hstep⟩ := step_owes hs call
    obtain ⟨final, hfinal, hrest⟩ := ih hmid
    refine ⟨final, hfinal, ?_⟩
    rw [hrest, hstep, trace, List.forall_mem_cons, and_assoc]

/-- After any calls, of which each may be cut off where it would ask for the next status, the input
holds exactly the received bytes that were not reported as discarded, and did at every request for a
status, if and only if no call has left with bytes of its last status. -/
theorem input_exact_iff (isClient : Bool) (k : κ) (reads writes : List (Except IoError Nat))
    (incoming : Octets) (calls : List Call) :
    Exact (run (recorded M) (fresh isClient k reads writes incoming) calls) ∧
        AskedExactly (run (recorded M) (fresh isClient k reads writes incoming) calls) ↔
      ∀ step ∈ trace (recorded M) (fresh isClient k reads writes incoming) calls,
        LeavesEarly step → step.after.conn.2.last = 0 := by
  obtain ⟨lag, hlag, hiff⟩ :=
    run_owes (fresh_owes isClient k reads writes incoming) calls
  rw [hlag.exact_iff, hiff]
  exact and_iff_right rfl

end

/-- A handshake of one byte and a record of two, in one delivery with what a script adds. -/
def delivered (rest : List Status) (incoming : Octets) : Connection (Script × Tally) :=
  fresh true ⟨[(0, .ok .blockedHandshake), (1, .ok .writeTraffic),
      (0, .ok (.readTraffic [.ok ⟨2, [9]⟩]))] ++ rest, []⟩
    [.ok 16] [.ok 16] incoming

theorem input_exact_iff_whole :
    Exact (run (recorded playback) (delivered [] [1, 2, 3]) [.read 3 8, .write 1 [7]]) ∧
      AskedExactly (run (recorded playback) (delivered [] [1, 2, 3]) [.read 3 8, .write 1 [7]]) :=
  (input_exact_iff true _ _ _ _ _).mpr (by decide +kernel)

/-- A session ticket comes behind the record. The write reports it as discarded and leaves it. -/
theorem input_keeps_ticket :
    (trace (recorded playback) (delivered [(2, .ok .writeTraffic)] [1, 2, 3, 4, 5])
      [.read 3 8, .write 1 [7]]).map Step.result = [.ok [9], .ok []] ∧
    ¬Exact (run (recorded playback) (delivered [(2, .ok .writeTraffic)] [1, 2, 3, 4, 5])
      [.read 3 8, .write 1 [7]]) := by
  constructor
  · decide +kernel
  · intro hexact
    have hlength := hexact.length_received
    revert hlength
    decide +kernel

end MigTd.Crypto.TlsInput
