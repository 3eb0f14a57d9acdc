/- source: tls.rs
   digest: The bytes that a TLS connection hands to its transport against what the library wrote. -/

import MigTd.Crypto.TlsLedger

set_option autoImplicit false

namespace MigTd.Crypto.TlsOutput

open TlsConnection TlsLedger Lib.StateProgram

variable {κ α β : Type}

/-- What the transport has taken and what the output holds is what the library has encoded or
encrypted, in order. -/
def Whole (s : Connection (κ × Tally)) : Prop :=
  s.transport.sent ++ s.output.content = s.conn.2.produced

def Flushed (s : Connection (κ × Tally)) : Prop :=
  s.output.content = [] ∧ s.transport.sent = s.conn.2.produced

theorem Flushed.whole {s : Connection (κ × Tally)} (h : Flushed s) : Whole s := by
  unfold Whole
  rw [h.1, List.append_nil, h.2]

/-- The tally of an encoder grows by the bytes that the encoder writes, which fit. -/
structure Tallies {ε : Type} (f : κ × Tally → Nat → (κ × Tally) × Except ε Octets) :
    Prop where
  writes : ∀ k room bytes, (f k room).2 = .ok bytes →
    bytes.length ≤ room ∧ (f k room).1.2.produced = k.2.produced ++ bytes
  refuses : ∀ k room e, (f k room).2 = .error e → (f k room).1.2.produced = k.2.produced

variable {data : Octets}

section

variable {ε : Type} {f : κ × Tally → Nat → (κ × Tally) × Except ε Octets} {M : Rustls κ}

theorem tallies_encode (hM : Fits M) : Tallies (recorded M).encode := by
  constructor
  · intro k room bytes hok
    refine ⟨hM.encodes k.1 room bytes hok, ?_⟩
    change (k.2.addBytes (M.encode k.1 room).2).produced = _
    rw [show (M.encode k.1 room).2 = .ok bytes from hok]
    rfl
  · intro k room e herror
    change (k.2.addBytes (M.encode k.1 room).2).produced = _
    rw [show (M.encode k.1 room).2 = .error e from herror]
    rfl

theorem tallies_encrypt (hM : Fits M) (data : Octets) : Tallies ((recorded M).encrypt data) := by
  constructor
  · intro k room bytes hok
    refine ⟨hM.encrypts data k.1 room bytes hok, ?_⟩
    change (k.2.addBytes (M.encrypt data k.1 room).2).produced = _
    rw [show (M.encrypt data k.1 room).2 = .ok bytes from hok]
    rfl
  · intro k room e herror
    change (k.2.addBytes (M.encrypt data k.1 room).2).produced = _
    rw [show (M.encrypt data k.1 room).2 = .error e from herror]
    rfl

theorem content_consume {b : TlsBuffer} {bytes : Octets} (h : bytes.length ≤ b.unused) :
    (b.consume bytes).content = b.content ++ bytes := by
  simp only [TlsBuffer.consume, List.take_of_length_le h]

theorem retry_appends (hf : Tallies f) (requiredSize : ε → Option Nat) (cause : Cause)
    (s : Connection (κ × Tally)) :
    ∃ bytes, (tryOrResizeAndRetry f requiredSize cause s).2.output.content =
        s.output.content ++ bytes ∧
      (tryOrResizeAndRetry f requiredSize cause s).2.conn.2.produced = s.conn.2.produced ++ bytes ∧
      (tryOrResizeAndRetry f requiredSize cause s).2.transport = s.transport ∧
      (tryOrResizeAndRetry f requiredSize cause s).2.isHandshaking = s.isHandshaking := by
  have hwrites := hf.writes s.conn s.output.unused
  have hrefuses := hf.refuses s.conn s.output.unused
  cases hfirst : f s.conn s.output.unused with
  | mk k r =>
    rw [hfirst] at hwrites hrefuses
    cases r with
    | ok bytes =>
      obtain ⟨hfits, hproduced⟩ := hwrites bytes rfl
      rw [retry_ok hfirst]
      exact ⟨bytes, content_consume hfits, hproduced, rfl, rfl⟩
    | error e =>
      have hsame := hrefuses e rfl
      cases hsize : requiredSize e with
      | none =>
        rw [retry_none hfirst hsize]
        exact ⟨[], (List.append_nil _).symm, hsame.trans (List.append_nil _).symm, rfl, rfl⟩
      | some size =>
        have hwrites' := hf.writes k (s.output.resize size).unused
        have hrefuses' := hf.refuses k (s.output.resize size).unused
        cases hsecond : f k (s.output.resize size).unused with
        | mk k' r' =>
          rw [hsecond] at hwrites' hrefuses'
          cases r' with
          | ok bytes =>
            obtain ⟨hfits, hproduced⟩ := hwrites' bytes rfl
            rw [retry_again hfirst hsize hsecond]
            refine ⟨bytes, content_consume hfits, ?_, rfl, rfl⟩
            exact hproduced.trans (congrArg (· ++ bytes) hsame)
          | error e' =>
            have hsame' := (hrefuses' e' rfl).trans hsame
            rw [retry_refused hfirst hsize hsecond]
            exact ⟨[], (List.append_nil _).symm, hsame'.trans (List.append_nil _).symm, rfl, rfl⟩

end

variable {turns : Nat} {u : Unit}

section

variable {s t : Connection (κ × Tally)} {n : Nat} {answers : List (Except IoError Nat)}

theorem flushOnce_ok (h : s.transport.writes = .ok n :: answers) : flushOnce s = (.ok (), { s with
      output := s.output.reset
      transport := { s.transport with
        writes := answers, sent := s.transport.sent ++ s.output.content.take n } }) := by
  unfold flushOnce
  rw [observe_bind, run_bind_ok (transportWrite_ok h)]
  rfl

theorem flushOnce_flushed_iff (hs : Whole s) (h : s.transport.writes = .ok n :: answers) :
    Flushed (flushOnce s).2 ↔ s.output.content.length ≤ n := by
  rw [flushOnce_ok h]
  constructor
  · rintro ⟨-, hsent⟩
    have hsame : s.transport.sent ++ s.output.content.take n =
        s.transport.sent ++ s.output.content := hsent.trans hs.symm
    have hlength := congrArg List.length (List.append_cancel_left hsame)
    rw [List.length_take] at hlength
    omega
  · intro hle
    refine ⟨rfl, ?_⟩
    change s.transport.sent ++ s.output.content.take n = s.conn.2.produced
    rw [List.take_of_length_le hle, hs]

theorem sendLoop_ok (h : sendLoop writeSome turns data s = (.ok u, t)) :
    t.transport.sent = s.transport.sent ++ data ∧ t.conn = s.conn := by
  induction turns generalizing data s with
  | zero =>
    cases data with
    | nil =>
      cases h
      exact ⟨(List.append_nil _).symm, rfl⟩
    | cons b data => cases h
  | succ turns ih =>
    cases data with
    | nil =>
      cases h
      exact ⟨(List.append_nil _).symm, rfl⟩
    | cons b data =>
      rw [sendLoop] at h
      obtain ⟨m, mid, hwrite, hrest⟩ := bind_ok.mp h
      obtain ⟨-, hwrite⟩ := writeSome_ok hwrite
      obtain ⟨hsent, hconn⟩ := ih hrest
      rcases hwrites : s.transport.writes with - | ⟨e | n, answers⟩
      · rw [transportWrite_none hwrites] at hwrite
        cases hwrite
      · rw [transportWrite_error hwrites] at hwrite
        cases hwrite
      · rw [transportWrite_ok hwrites] at hwrite
        cases hwrite
        refine ⟨?_, hconn⟩
        rw [hsent]
        change s.transport.sent ++ (b :: data).take n ++ (b :: data).drop (min n _) = _
        rcases Nat.le_total n (b :: data).length with hle | hle
        · rw [Nat.min_eq_left hle, List.append_assoc, List.take_append_drop]
        · rw [Nat.min_eq_right hle, List.drop_length, List.take_of_length_le hle, List.append_nil]

theorem flushAll_ok (h : flushAll s = (.ok u, t)) :
    t.output.content = [] ∧ (Whole s → Flushed t) := by
  unfold flushAll at h
  rw [observe_bind] at h
  obtain ⟨v, mid, hloop, hreset⟩ := bind_ok.mp h
  obtain ⟨hsent, hconn⟩ := sendLoop_ok hloop
  cases hreset
  refine ⟨rfl, fun hs => ⟨rfl, ?_⟩⟩
  change mid.transport.sent = mid.conn.2.produced
  rw [hsent, hconn]
  exact hs

end

/-- Every write takes at least so many bytes, or fails. -/
def Generous (room : Nat) (s : Connection (κ × Tally)) : Prop :=
  ∀ n, .ok n ∈ s.transport.writes → room ≤ n

/-- The output is whole as long as the library has not written more than every write takes. -/
def Kept (room : Nat) (s : Connection (κ × Tally)) : Prop :=
  Generous room s ∧ (s.conn.2.produced.length ≤ room → Whole s)

section

variable {room : Nat}

instance (data : Octets) : Keeps (Preserved (Generous room))
    (transportWrite data : TlsProgram (κ × Tally) Nat) := by
  constructor
  intro s hs
  rcases hwrites : s.transport.writes with - | ⟨e | n, answers⟩
  · rw [transportWrite_none hwrites]
    exact hs
  · rw [transportWrite_error hwrites]
    intro m hm
    exact hs m (hwrites ▸ List.mem_cons_of_mem _ hm)
  · rw [transportWrite_ok hwrites]
    intro m hm
    exact hs m (hwrites ▸ List.mem_cons_of_mem _ hm)

instance : Ignores .causes (Preserved (Generous (κ := κ) room)) :=
  ⟨by rintro _ _ ⟨⟩ hs; exact hs⟩

instance : Ignores .output (Preserved (Generous (κ := κ) room)) :=
  ⟨by rintro _ _ ⟨⟩ hs; exact hs⟩

instance : Ignores .causes (Preserved (Kept (κ := κ) room)) := ⟨by rintro _ _ ⟨⟩ hs; exact hs⟩

instance : Ignores .receiving (Preserved (Kept (κ := κ) room)) := ⟨by rintro _ _ ⟨⟩ hs; exact hs⟩

instance : Ignores .input (Preserved (Kept (κ := κ) room)) := ⟨by rintro _ _ ⟨⟩ hs; exact hs⟩

instance : Ignores .queue (Preserved (Kept (κ := κ) room)) := ⟨by rintro _ _ ⟨⟩ hs; exact hs⟩

instance : Ignores .phase (Preserved (Kept (κ := κ) room)) := ⟨by rintro _ _ ⟨⟩ hs; exact hs⟩

instance : Ignores .decoder (Preserved (Kept (κ := κ) room)) := ⟨by rintro _ _ ⟨⟩ hs; exact hs⟩

end

section

variable {room : Nat} {s t : Connection (κ × Tally)} {e : TlsStop}

theorem Whole.content_le (hs : Whole s) (hroom : s.conn.2.produced.length ≤ room) :
    s.output.content.length ≤ room := by
  rw [← hs, List.length_append] at hroom
  omega

abbrev library : Connection (κ × Tally) → κ × Tally := Connection.conn

instance : Ignores .causes (Same (library (κ := κ))) := ⟨by rintro _ _ ⟨⟩; rfl⟩

instance : Ignores .sending (Same (library (κ := κ))) := ⟨by rintro _ _ ⟨⟩; rfl⟩

instance : Ignores .output (Same (library (κ := κ))) := ⟨by rintro _ _ ⟨⟩; rfl⟩

abbrev buffer : Connection (κ × Tally) → TlsBuffer := Connection.output

instance : Ignores .causes (Same (buffer (κ := κ))) := ⟨by rintro _ _ ⟨⟩; rfl⟩

instance : Ignores .sending (Same (buffer (κ := κ))) := ⟨by rintro _ _ ⟨⟩; rfl⟩

theorem flushOnce_whole (hgenerous : Generous room s) (hs : Whole s)
    (hroom : s.conn.2.produced.length ≤ room) : Whole (flushOnce s).2 := by
  rcases hwrites : s.transport.writes with - | ⟨e | n, answers⟩
  · unfold flushOnce
    rw [observe_bind, run_bind_error (transportWrite_none hwrites)]
    exact hs
  · unfold flushOnce
    rw [observe_bind, run_bind_error (transportWrite_error hwrites)]
    exact hs
  · have hn : room ≤ n := hgenerous n (hwrites ▸ List.mem_cons_self)
    exact ((flushOnce_flushed_iff hs hwrites).mpr ((hs.content_le hroom).trans hn)).whole

theorem writeSome_error
    (h : writeSome data s = (.error e, t)) : t.transport.sent = s.transport.sent := by
  rcases hwrites : s.transport.writes with - | ⟨e' | n, answers⟩
  · unfold writeSome at h
    rw [run_bind_error (transportWrite_none hwrites)] at h
    cases h
    rfl
  · unfold writeSome at h
    rw [run_bind_error (transportWrite_error hwrites)] at h
    cases h
    rfl
  · unfold writeSome at h
    rw [run_bind_ok (transportWrite_ok hwrites)] at h
    split at h
    · rename_i hzero
      cases h
      change s.transport.sent ++ data.take n = s.transport.sent
      rcases Nat.min_eq_zero_iff.mp hzero with rfl | hempty
      · rw [List.take_zero, List.append_nil]
      · rw [List.eq_nil_of_length_eq_zero hempty, List.take_nil, List.append_nil]
    · cases h

theorem sendLoop_error (hgenerous : Generous room s) (hroom : data.length ≤ room)
    (h : sendLoop writeSome turns data s = (.error e, t)) :
    t.transport.sent = s.transport.sent := by
  cases turns with
  | zero =>
    cases data with
    | nil => cases h
    | cons b data =>
      cases h
      rfl
  | succ turns =>
    cases data with
    | nil => cases h
    | cons b data =>
      rw [sendLoop] at h
      obtain hfirst | ⟨m, mid, hwrite, hrest⟩ := bind_error.mp h
      · exact writeSome_error hfirst
      · obtain ⟨-, hwrite⟩ := writeSome_ok hwrite
        exfalso
        rcases hwrites : s.transport.writes with - | ⟨e' | n, answers⟩
        · rw [transportWrite_none hwrites] at hwrite
          cases hwrite
        · rw [transportWrite_error hwrites] at hwrite
          cases hwrite
        · have hn : room ≤ n := hgenerous n (hwrites ▸ List.mem_cons_self)
          rw [transportWrite_ok hwrites] at hwrite
          cases hwrite
          rw [Nat.min_eq_right (hroom.trans hn), List.drop_length, sendLoop] at hrest
          cases hrest

theorem flushAll_whole (hgenerous : Generous room s) (hs : Whole s)
    (hroom : s.conn.2.produced.length ≤ room) : Whole (flushAll s).2 := by
  cases hrun : flushAll s with
  | mk r t =>
    cases r with
    | ok u => exact ((flushAll_ok hrun).2 hs).whole
    | error e =>
      unfold flushAll at hrun
      rw [observe_bind] at hrun
      obtain hfirst | ⟨u, mid, -, hreset⟩ := bind_error.mp hrun
      · have hbuffer : s.output = t.output :=
          Keeps.of_ok (R := Same buffer) inferInstance hfirst
        have hlibrary : s.conn = t.conn := Keeps.of_ok (R := Same library) inferInstance hfirst
        have hsent := sendLoop_error hgenerous (hs.content_le hroom) hfirst
        change t.transport.sent ++ t.output.content = t.conn.2.produced
        rw [hsent, ← hbuffer, ← hlibrary]
        exact hs
      · cases hreset

theorem keeps_kept {m : TlsProgram (κ × Tally) α} (hgenerous : Keeps (Preserved (Generous room)) m)
    (hlibrary : Keeps (Same library) m)
    (hwhole : ∀ s, Generous room s → Whole s → s.conn.2.produced.length ≤ room → Whole (m s).2) :
    Keeps (Preserved (Kept room)) m := by
  constructor
  intro s hs
  refine ⟨hgenerous.rel s hs.1, ?_⟩
  intro hroom
  have hsame : s.conn = (m s).2.conn := hlibrary.rel s
  rw [← hsame] at hroom
  exact hwhole s hs.1 (hs.2 hroom) hroom

instance : Keeps (Preserved (Kept room)) (flushOnce : TlsProgram (κ × Tally) Unit) :=
  keeps_kept inferInstance inferInstance fun _ => flushOnce_whole

instance : Keeps (Preserved (Kept room)) (flushAll : TlsProgram (κ × Tally) Unit) :=
  keeps_kept inferInstance inferInstance fun _ => flushAll_whole

theorem keeps_encoder {ε : Type} {f : κ × Tally → Nat → (κ × Tally) × Except ε Octets}
    (hf : Tallies f) (requiredSize : ε → Option Nat) (cause : Cause) :
    Keeps (Preserved (Kept room)) (tryOrResizeAndRetry f requiredSize cause) := by
  constructor
  intro s hs
  obtain ⟨bytes, hcontent, hproduced, htransport, -⟩ := retry_appends hf requiredSize cause s
  refine ⟨?_, ?_⟩
  · unfold Generous
    rw [htransport]
    exact hs.1
  · intro hroom
    rw [hproduced, List.length_append] at hroom
    have hwhole : Whole s := hs.2 (by omega)
    unfold Whole
    rw [htransport, hcontent, hproduced, ← List.append_assoc, hwhole]

end

section

variable {M : Rustls κ} (hM : Fits M) {room : Nat}

instance : Keeps (Preserved (Kept room)) (update fun s : Connection (κ × Tally) =>
    { s with conn := (recorded M).done s.conn } : TlsProgram (κ × Tally) Unit) :=
  keeps_update fun _ hs => hs

include hM

theorem keeps_encodeOutput : Keeps (Preserved (Kept room)) (encodeOutput (recorded M)) :=
  keeps_encoder (tallies_encode hM) _ _

theorem keeps_rejectHandshake (e : RustlsError) (discard : Nat) : Keeps (Preserved (Kept room))
      (rejectHandshake (recorded M) e discard : TlsProgram (κ × Tally) α) := by
  have hencode : Keeps (Preserved (Kept room)) (encodeOutput (recorded M)) := keeps_encodeOutput hM
  have halert (state : Except RustlsError ConnectionState) :
      Keeps (Preserved (Kept room)) (alertOn (recorded M) state) := by
    unfold alertOn
    split <;> infer_instance
  unfold rejectHandshake tellPeer handleTlsError
  infer_instance

private theorem keeps_handshakeTurn {next : TlsProgram (κ × Tally) Unit}
    (hnext : Keeps (Preserved (Kept room)) next) (discard : Nat)
    (state : Except RustlsError ConnectionState) :
    Keeps (Preserved (Kept room)) (handshakeTurn (recorded M) next discard state) := by
  have hencode : Keeps (Preserved (Kept room)) (encodeOutput (recorded M)) := keeps_encodeOutput hM
  unfold handshakeTurn
  split
  · exact keeps_rejectHandshake hM _ _
  all_goals infer_instance

theorem keeps_ensureHandshake (turns : Nat) :
    Keeps (Preserved (Kept room)) (ensureHandshake (recorded M) turns) := by
  have hloop : Keeps (Preserved (Kept room)) (processTlsStatus (recorded M) turns) := by
    induction turns with
    | zero => exact keeps_raise TlsStop.diverged
    | succ turns ih =>
      have hturn := keeps_handshakeTurn hM ih
      unfold processTlsStatus
      infer_instance
  unfold ensureHandshake
  infer_instance

theorem keeps_writeLoop (data : Octets) (turns : Nat) :
    Keeps (Preserved (Kept room)) (writeLoop (recorded M) data turns) := by
  have hencrypt : Keeps (Preserved (Kept room)) (encryptOutput (recorded M) data) :=
    keeps_encoder (tallies_encrypt hM data) _ _
  induction turns with
  | zero => exact keeps_raise TlsStop.diverged
  | succ turns ih =>
    have hturn (discard : Nat) (state : Except RustlsError ConnectionState) :
        Keeps (Preserved (Kept room))
          (writeTurn (recorded M) (writeLoop (recorded M) data turns) data discard state) := by
      unfold writeTurn
      split <;> infer_instance
    unfold writeLoop
    infer_instance

theorem keeps_perform (call : Call) :
    Keeps (Preserved (Kept room)) (perform (recorded M) call) := by
  have hgreet (turns : Nat) : Keeps (Preserved (Kept room)) (ensureHandshake (recorded M) turns) :=
    keeps_ensureHandshake hM turns
  have hwrite (data : Octets) (turns : Nat) :
      Keeps (Preserved (Kept room)) (writeLoop (recorded M) data turns) :=
    keeps_writeLoop hM data turns
  unfold perform TlsConnection.read TlsConnection.write
  split <;> infer_instance

end

def Settled (s : Connection (κ × Tally)) : Prop := s.isHandshaking = false ∧ Whole s

instance : Ignores .causes (Preserved (Settled (κ := κ))) := ⟨by rintro _ _ ⟨⟩ hs; exact hs⟩

instance : Ignores .receiving (Preserved (Settled (κ := κ))) := ⟨by rintro _ _ ⟨⟩ hs; exact hs⟩

instance : Ignores .input (Preserved (Settled (κ := κ))) := ⟨by rintro _ _ ⟨⟩ hs; exact hs⟩

instance : Ignores .queue (Preserved (Settled (κ := κ))) := ⟨by rintro _ _ ⟨⟩ hs; exact hs⟩

instance : Ignores .decoder (Preserved (Settled (κ := κ))) := ⟨by rintro _ _ ⟨⟩ hs; exact hs⟩

abbrev phase : Connection (κ × Tally) → Bool := Connection.isHandshaking

instance : Ignores .causes (Same (phase (κ := κ))) := ⟨by rintro _ _ ⟨⟩; rfl⟩

instance : Ignores .sending (Same (phase (κ := κ))) := ⟨by rintro _ _ ⟨⟩; rfl⟩

instance : Ignores .output (Same (phase (κ := κ))) := ⟨by rintro _ _ ⟨⟩; rfl⟩

section

variable {M : Rustls κ} (hM : Fits M) {s t : Connection (κ × Tally)}

theorem settles_encoder {ε : Type} {f : κ × Tally → Nat → (κ × Tally) × Except ε Octets}
    (hf : Tallies f) (requiredSize : ε → Option Nat) (cause : Cause) :
    Keeps (Preserved Settled) (tryOrResizeAndRetry f requiredSize cause) := by
  constructor
  intro s hs
  obtain ⟨bytes, hcontent, hproduced, htransport, hphase⟩ :=
    retry_appends hf requiredSize cause s
  refine ⟨hphase.trans hs.1, ?_⟩
  unfold Whole
  rw [htransport, hcontent, hproduced, ← List.append_assoc, hs.2]

include hM

theorem writeLoop_ok (h : writeLoop (recorded M) data turns s = (.ok u, t)) :
    t.output.content = [] ∧ (Settled s → Settled t) := by
  induction turns generalizing s with
  | zero => cases h
  | succ turns ih =>
    unfold writeLoop at h
    obtain ⟨status, mid, hstatus, hturn⟩ := bind_ok.mp h
    have hmid : Preserved Settled s mid := Keeps.of_ok inferInstance hstatus
    obtain ⟨discard, state⟩ := status
    match state, hturn with
    | .ok (.readTraffic batch), hturn =>
      obtain ⟨total, t₁, hstore, hturn⟩ := bind_ok.mp hturn
      obtain ⟨_, t₂, hdiscard, hnext⟩ := bind_ok.mp hturn
      have hstored : Preserved Settled mid t₁ := Keeps.of_ok inferInstance hstore
      have hdiscarded : Preserved Settled t₁ t₂ := Keeps.of_ok inferInstance hdiscard
      obtain ⟨hempty, hsettled⟩ := ih hnext
      exact ⟨hempty, fun hs => hsettled (hdiscarded (hstored (hmid hs)))⟩
    | .ok .writeTraffic, hturn =>
      obtain ⟨_, t₁, hencrypt, hflush⟩ := bind_ok.mp hturn
      obtain ⟨hempty, hflushed⟩ := flushAll_ok hflush
      have hencrypted : Preserved Settled mid t₁ :=
        Keeps.of_ok (settles_encoder (tallies_encrypt hM data) _ _) hencrypt
      have hphase : t₁.isHandshaking = t.isHandshaking :=
        Keeps.of_ok (R := Same phase) inferInstance hflush
      refine ⟨hempty, fun hs => ?_⟩
      have hs₁ := hencrypted (hmid hs)
      exact ⟨hphase ▸ hs₁.1, (hflushed hs₁.2).whole⟩

theorem write_ok {n : Nat} (h : TlsConnection.write (recorded M) turns data s = (.ok n, t)) :
    t.output.content = [] ∧ (Settled s → Settled t) := by
  obtain ⟨_, mid, hgreet, hrest⟩ := bind_ok.mp h
  obtain ⟨_, t', hloop, hpure⟩ := bind_ok.mp hrest
  obtain ⟨-, rfl⟩ := pure_ok.mp hpure
  obtain ⟨hempty, hsettled⟩ := writeLoop_ok hM hloop
  refine ⟨hempty, fun hs => ?_⟩
  rw [ensureHandshake_done _ _ hs.1] at hgreet
  cases hgreet
  exact hsettled hs

omit hM in
theorem write_of_step (h : (step (recorded M) s (.write turns data)).result.isOk = true) :
    ∃ n, TlsConnection.write (recorded M) turns data s =
      (.ok n, (step (recorded M) s (.write turns data)).after) := by
  obtain ⟨bytes, hbytes⟩ := exists_ok_of_isOk h
  have hrun : perform (recorded M) (.write turns data) s =
      (.ok bytes, (step (recorded M) s (.write turns data)).after) := Prod.ext hbytes rfl
  obtain ⟨n, mid, hwrite, hpure⟩ := bind_ok.mp hrun
  obtain ⟨-, rfl⟩ := pure_ok.mp hpure
  exact ⟨n, hwrite⟩

theorem flushed_of_write {calls : List Call} {one : Step (κ × Tally)}
    (hone : one ∈ trace (recorded M) s calls) (hwrite : one.call.isWrite = true)
    (hok : one.result.isOk = true) (hwhole : Whole one.after) : Flushed one.after := by
  obtain ⟨before, heq⟩ := mem_trace hone
  generalize one.call = call at heq hwrite
  subst heq
  cases call with
  | handshake turns => cases hwrite
  | read turns room => cases hwrite
  | write turns data =>
    obtain ⟨n, hrun⟩ := write_of_step hok
    have hempty := (write_ok hM hrun).1
    refine ⟨hempty, ?_⟩
    unfold Whole at hwhole
    rwa [hempty, List.append_nil] at hwhole

theorem step_settled (call : Call) (hs : Settled s)
    (hok : call.isWrite = true → (step (recorded M) s call).result.isOk = true) :
    Settled (step (recorded M) s call).after := by
  cases call with
  | handshake turns =>
    change Settled ((ensureHandshake (recorded M) turns >>= fun _ => pure []) s).2
    rw [run_bind_ok (ensureHandshake_done _ turns hs.1)]
    exact hs
  | read turns room =>
    have hread : Keeps (Preserved Settled) (do
        let isEmpty ← observe fun s : Connection (κ × Tally) => s.receivedAppData.isEmpty
        if isEmpty then readLoop (recorded M) room turns else readAppData room) := inferInstance
    change Settled (TlsConnection.read (recorded M) turns room s).2
    unfold TlsConnection.read
    rw [run_bind_ok (ensureHandshake_done _ turns hs.1)]
    exact hread.rel s hs
  | write turns data =>
    obtain ⟨n, hwrite⟩ := write_of_step (hok rfl)
    exact (write_ok hM hwrite).2 hs

end

section

variable {M : Rustls κ} (hM : Fits M)

include hM

/-- In every run over a transport that takes all it is offered, what was sent is what the library
has produced, up to what the output still holds, and all of it when a write returns. After the
handshake the same holds over any transport while no write fails. A flight or an alert, which is
offered once, is sent whole if and only if that one write takes all of it. -/
theorem output_complete (isClient : Bool) (k : κ) (reads writes : List (Except IoError Nat))
    (incoming : Octets) :
    (∀ room, (∀ n, .ok n ∈ writes → room ≤ n) → ∀ calls,
      ∀ step ∈ trace (recorded M) (fresh isClient k reads writes incoming) calls,
        step.after.conn.2.produced.length ≤ room →
          Whole step.after ∧ (step.call.isWrite → step.result.isOk → Flushed step.after)) ∧
    (∀ s, s.isHandshaking = false → Whole s → ∀ calls,
      (∀ step ∈ trace (recorded M) s calls, step.call.isWrite → step.result.isOk) →
      ∀ step ∈ trace (recorded M) s calls,
        Whole step.after ∧ (step.call.isWrite → Flushed step.after)) ∧
    ∀ (s : Connection (κ × Tally)) n answers, Whole s → s.transport.writes = .ok n :: answers →
      (flushOnce s).1 = .ok () ∧ (Flushed (flushOnce s).2 ↔ s.output.content.length ≤ n) := by
  refine ⟨?_, ?_, ?_⟩
  · intro room hwrites calls one hone hroom
    have hfresh : Kept room (fresh isClient k reads writes incoming) := ⟨hwrites, fun _ => rfl⟩
    have hkept := trace_invariant hfresh
      (fun before hbefore call _ => (keeps_perform hM call).rel before hbefore) one hone
    have hwhole := hkept.2 hroom
    exact ⟨hwhole, fun hwrite hok => flushed_of_write hM hone hwrite hok hwhole⟩
  · intro s hdone hs calls hok one hone
    have hsettled := trace_invariant (P := Settled) ⟨hdone, hs⟩
      (fun before hbefore call hmem => step_settled hM call hbefore (hok _ hmem)) one hone
    refine ⟨hsettled.2, fun hwrite => ?_⟩
    exact flushed_of_write hM hone hwrite (hok one hone hwrite) hsettled.2
  · intro s n answers hs hwrites
    exact ⟨congrArg Prod.fst (flushOnce_ok hwrites), flushOnce_flushed_iff hs hwrites⟩

end

def flight (writes : List (Except IoError Nat)) : Connection (Script × Tally) :=
  fresh true
    ⟨[(0, .ok .encodeTlsData), (0, .ok .transmitTlsData), (0, .ok .writeTraffic)], [[1, 2, 3, 4]]⟩
    [] writes []

theorem output_complete_flight :
    Flushed (run (recorded playback) (flight [.ok 16, .ok 16]) [.handshake 3, .write 1 [7]]) := by
  have hwrites : ∀ n, (.ok n : Except IoError Nat) ∈ [.ok 16, .ok 16] → 16 ≤ n := by simp
  have hone := (output_complete playback_fits true
    ⟨[(0, .ok .encodeTlsData), (0, .ok .transmitTlsData), (0, .ok .writeTraffic)], [[1, 2, 3, 4]]⟩
    [] [.ok 16, .ok 16] []).1 16 hwrites [.handshake 3, .write 1 [7]]
    (step (recorded playback)
      (step (recorded playback) (flight [.ok 16, .ok 16]) (.handshake 3)).after (.write 1 [7]))
    (.tail _ (.head _)) (by decide +kernel)
  exact hone.2 rfl (by decide +kernel)

/-- A handshake is reported done when the transport took two bytes of its flight. A write that
returns after a failed one repeats what the failed one had sent. -/
theorem output_loses_and_repeats :
    ((trace (recorded playback) (flight [.ok 2]) [.handshake 3]).map Step.result = [.ok []] ∧
      (run (recorded playback) (flight [.ok 2]) [.handshake 3]).transport.sent = [1, 2] ∧
      (run (recorded playback) (flight [.ok 2]) [.handshake 3]).conn.2.produced = [1, 2, 3, 4]) ∧
    (trace (recorded playback) (flight [.ok 16, .ok 1, .error ⟨.other, ""⟩, .ok 16])
        [.handshake 3, .write 1 [7, 8], .write 1 [9]]).map Step.result =
      [.ok [], .error (.failed .transport), .ok []] ∧
    (run (recorded playback) (flight [.ok 16, .ok 1, .error ⟨.other, ""⟩, .ok 16])
      [.handshake 3, .write 1 [7, 8], .write 1 [9]]).transport.sent = [1, 2, 3, 4, 7, 7, 8, 9] ∧
    (run (recorded playback) (flight [.ok 16, .ok 1, .error ⟨.other, ""⟩, .ok 16])
      [.handshake 3, .write 1 [7, 8], .write 1 [9]]).conn.2.produced = [1, 2, 3, 4, 7, 8, 9] := by
  decide +kernel

end MigTd.Crypto.TlsOutput
