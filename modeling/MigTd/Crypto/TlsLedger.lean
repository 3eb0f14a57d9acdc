/- source: tls.rs
   digest: A TLS library that keeps a tally of what it reports, and runs of a connection over it. -/

import MigTd.Crypto.TlsConnection

set_option autoImplicit false

namespace MigTd.Crypto.TlsLedger

open TlsConnection Lib.StateProgram

variable {κ α β : Type}

abbrev Status := Nat × Except RustlsError ConnectionState

/-- The records of a batch that are handed out, up to its first error. -/
def handedOut : List (Except RustlsError AppDataRecord) → List AppDataRecord
  | .ok record :: records => record :: handedOut records
  | _ => []

def records : Status → List AppDataRecord
  | (_, .ok (.readTraffic batch)) => handedOut batch
  | _ => []

def payloads (status : Status) : List Octets := (records status).map AppDataRecord.payload

/-- The bytes that a status makes discardable, with those of its records. -/
def discarded (status : Status) : Nat :=
  status.1 + ((records status).map AppDataRecord.discard).sum

structure Tally where
  /-- Bytes of the input that are discardable. -/
  reported : Nat
  /-- How many of them the last status reported. -/
  last : Nat
  /-- The input of each request for a status, with what was reported before it. -/
  requests : List (Nat × Octets)
  /-- The payloads of the records, one batch for each status. -/
  batches : List (List Octets)
  /-- The bytes that were encoded or encrypted. -/
  produced : Octets

namespace Tally

def zero : Tally := ⟨0, 0, [], [], []⟩

def addStatus (t : Tally) (input : Octets) (status : Status) : Tally :=
  { t with
    reported := t.reported + discarded status
    last := discarded status
    requests := t.requests ++ [(t.reported, input)]
    batches := t.batches ++ [payloads status] }

def addBytes {ε : Type} (t : Tally) : Except ε Octets → Tally
  | .ok bytes => { t with produced := t.produced ++ bytes }
  | .error _ => t

end Tally

/-- The library with a tally beside its state, which is written and never read. -/
def recorded (M : Rustls κ) : Rustls (κ × Tally) where
  processTlsRecords k input :=
    let out := M.processTlsRecords k.1 input
    ((out.1, k.2.addStatus input out.2), out.2)
  encode k room :=
    let out := M.encode k.1 room
    ((out.1, k.2.addBytes out.2), out.2)
  done k := (M.done k.1, k.2)
  encrypt data k room :=
    let out := M.encrypt data k.1 room
    ((out.1, k.2.addBytes out.2), out.2)

/-- The encoders of the library write only into the room that they are given. -/
structure Fits (M : Rustls κ) : Prop where
  encodes : ∀ k room bytes, (M.encode k room).2 = .ok bytes → bytes.length ≤ room
  encrypts : ∀ data k room bytes, (M.encrypt data k room).2 = .ok bytes → bytes.length ≤ room

/-! The outcomes of transfers, and of an encoder, which is asked once more after a resize. -/

variable {discard : Nat} {batch : List (Except RustlsError AppDataRecord)}
  {dropWhenFull : Bool}

section

variable {s : Connection κ} {data : Octets} {room n : Nat} {e : IoError}
  {answers : List (Except IoError Nat)}

theorem transportWrite_none (h : s.transport.writes = []) :
    transportWrite data s = fail .timeout s := by
  simp only [transportWrite, h]

theorem transportWrite_error (h : s.transport.writes = .error e :: answers) :
    transportWrite data s =
      fail (.io e) { s with transport := { s.transport with writes := answers } } := by
  simp only [transportWrite, h]

theorem transportWrite_ok (h : s.transport.writes = .ok n :: answers) :
    transportWrite data s = (.ok (min n data.length), { s with
      transport := { s.transport with
        writes := answers, sent := s.transport.sent ++ data.take n } }) := by
  simp only [transportWrite, h]

theorem writeSome_ok {t : Connection κ} (h : writeSome data s = (.ok n, t)) :
    n ≠ 0 ∧ transportWrite data s = (.ok n, t) := by
  obtain ⟨m, u, hwrite, hm⟩ := bind_ok.mp h
  split at hm
  · cases hm
  · rename_i hzero
    obtain ⟨rfl, rfl⟩ := pure_ok.mp hm
    exact ⟨hzero, hwrite⟩

theorem transportRead_none (h : s.transport.reads = []) :
    transportRead room s = fail .timeout s := by
  simp only [transportRead, h]

theorem transportRead_error (h : s.transport.reads = .error e :: answers) : transportRead room s =
      fail (.io e) { s with transport := { s.transport with reads := answers } } := by
  simp only [transportRead, h]

theorem transportRead_ok (h : s.transport.reads = .ok n :: answers) :
    transportRead room s = (.ok (s.transport.incoming.take (min n room)), { s with
      transport := { s.transport with
        reads := answers
        incoming := s.transport.incoming.drop (s.transport.incoming.take (min n room)).length
        received := s.transport.received ++ s.transport.incoming.take (min n room) } }) := by
  simp only [transportRead, h]

theorem discardInput_ok {size : Nat} (h : size ≤ s.input.content.length) :
    discardInput size s = (.ok (), { s with input := s.input.discard size }) := by
  unfold discardInput
  rw [observe_bind, run_bind_ok (a := ()) (ensure_ok.mpr ⟨h, rfl⟩)]
  rfl

theorem discardInput_panic {size : Nat} (h : ¬size ≤ s.input.content.length) :
    discardInput size s = (.error .panicked, s) := by
  unfold discardInput ensure
  rw [observe_bind, if_neg h]
  rfl

theorem ensureHandshake_done (M : Rustls κ) (turns : Nat) (h : s.isHandshaking = false) :
    ensureHandshake M turns s = (.ok (), s) := by
  unfold ensureHandshake
  rw [observe_bind, h]
  rfl

theorem storeRecords_discard {total : Nat} {t : Connection κ}
    (h : storeRecords dropWhenFull batch discard s = (.ok total, t)) :
    total = discarded (discard, .ok (.readTraffic batch)) := by
  induction batch generalizing discard s with
  | nil =>
    cases h
    rfl
  | cons record batch ih =>
    cases record with
    | error e => cases h
    | ok record =>
      have hrest := ih h
      simp only [discarded, records, handedOut, List.map_cons, List.sum_cons] at hrest ⊢
      omega

end

section

variable {ε : Type} {f : κ → Nat → κ × Except ε Octets} {requiredSize : ε → Option Nat}
  {cause : Cause} {s : Connection κ} {k k' : κ} {bytes : Octets} {e e' : ε} {size : Nat}

theorem retry_ok (h : f s.conn s.output.unused = (k, .ok bytes)) :
    tryOrResizeAndRetry f requiredSize cause s =
      (.ok (), { s with conn := k, output := s.output.consume bytes }) := by
  simp only [tryOrResizeAndRetry, h]

theorem retry_none (h : f s.conn s.output.unused = (k, .error e)) (hsize : requiredSize e = none) :
    tryOrResizeAndRetry f requiredSize cause s = fail cause { s with conn := k } := by
  simp only [tryOrResizeAndRetry, h, hsize]

theorem retry_again (h : f s.conn s.output.unused = (k, .error e))
    (hsize : requiredSize e = some size)
    (h' : f k (s.output.resize size).unused = (k', .ok bytes)) :
    tryOrResizeAndRetry f requiredSize cause s =
      (.ok (), { s with conn := k', output := (s.output.resize size).consume bytes }) := by
  simp only [tryOrResizeAndRetry, h, hsize, h']

theorem retry_refused (h : f s.conn s.output.unused = (k, .error e))
    (hsize : requiredSize e = some size)
    (h' : f k (s.output.resize size).unused = (k', .error e')) :
    tryOrResizeAndRetry f requiredSize cause s =
      fail .encode { s with conn := k', output := s.output.resize size } := by
  simp only [tryOrResizeAndRetry, h, hsize, h']

end

variable {state : Except RustlsError ConnectionState} {next : TlsProgram (κ × Tally) Octets}
  {c : Cause}

/-- A call on a connection, with a bound on the turns of its loops. -/
inductive Call where
  | handshake (turns : Nat)
  | read (turns room : Nat)
  | write (turns : Nat) (data : Octets)
  deriving DecidableEq, Repr

def Call.turns : Call → Nat
  | handshake turns => turns
  | read turns _ => turns
  | write turns _ => turns

def Call.isWrite : Call → Bool
  | write _ _ => true
  | _ => false

def perform (M : Rustls κ) : Call → TlsProgram κ Octets
  | .handshake turns => do
    ensureHandshake M turns
    return []
  | .read turns room => TlsConnection.read M turns room
  | .write turns data => do
    let _ ← TlsConnection.write M turns data
    return []

/-- A call of a run: its outcome, and the connection before it, behind its handshake and after
it. -/
structure Step (κ : Type) where
  call : Call
  before : Connection κ
  greeted : Connection κ
  result : Except TlsStop Octets
  after : Connection κ

def step (M : Rustls κ) (s : Connection κ) (call : Call) : Step κ where
  call := call
  before := s
  greeted := (ensureHandshake M call.turns s).2
  result := (perform M call s).1
  after := (perform M call s).2

def trace (M : Rustls κ) : Connection κ → List Call → List (Step κ)
  | _, [] => []
  | s, call :: calls => step M s call :: trace M (step M s call).after calls

def run (M : Rustls κ) : Connection κ → List Call → Connection κ :=
  List.foldl fun s call => (step M s call).after

theorem mem_trace {M : Rustls κ} {s : Connection κ} {calls : List Call} {one : Step κ}
    (h : one ∈ trace M s calls) : ∃ before, one = step M before one.call := by
  induction calls generalizing s with
  | nil => cases h
  | cons call calls ih =>
    rcases List.mem_cons.mp h with rfl | hrest
    · exact ⟨s, rfl⟩
    · exact ih hrest

theorem trace_invariant {M : Rustls κ} {P : Connection κ → Prop} {s : Connection κ}
    {calls : List Call} (hs : P s)
    (hstep : ∀ before, P before → ∀ call, step M before call ∈ trace M s calls →
      P (step M before call).after) :
    ∀ one ∈ trace M s calls, P one.after := by
  induction calls generalizing s with
  | nil => simp [trace]
  | cons call calls ih =>
    have hfirst := hstep s hs call List.mem_cons_self
    rw [trace, List.forall_mem_cons]
    refine ⟨hfirst, ih hfirst ?_⟩
    intro before hbefore one hone
    exact hstep before hbefore one (List.mem_cons_of_mem _ hone)

def bytesOf : Except TlsStop Octets → Octets
  | .ok bytes => bytes
  | .error _ => []

/-- The bytes that the reads of a run have returned. -/
def returned (steps : List (Step κ)) : Octets := steps.flatMap fun step => bytesOf step.result

/-- A connection over a transport that no byte has passed, with an empty tally. -/
def fresh (isClient : Bool) (k : κ) (reads writes : List (Except IoError Nat))
    (incoming : Octets) : Connection (κ × Tally) :=
  .new isClient (k, .zero) ⟨reads, writes, incoming, [], []⟩

/-! The parts of a connection, and the programs that leave a relation alone because they change
only parts that do not matter to it. -/

inductive Part where
  | causes
  | sending
  | receiving
  | input
  | output
  | queue
  | phase
  | encoder
  | decoder
  deriving DecidableEq, Repr

inductive Changes : Part → Connection (κ × Tally) → Connection (κ × Tally) → Prop where
  | causes (s causes) : Changes .causes s { s with causes }
  | sending (s writes sent) :
    Changes .sending s { s with transport := { s.transport with writes, sent } }
  | receiving (s reads incoming received) :
    Changes .receiving s { s with transport := { s.transport with reads, incoming, received } }
  | input (s input) : Changes .input s { s with input }
  | output (s output) : Changes .output s { s with output }
  | queue (s receivedAppData) : Changes .queue s { s with receivedAppData }
  | phase (s isHandshaking) : Changes .phase s { s with isHandshaking }
  | encoder (s k produced) : Changes .encoder s { s with conn := (k, { s.conn.2 with produced }) }
  | decoder (s k reported last requests batches) :
    Changes .decoder s { s with conn := (k, { s.conn.2 with reported, last, requests, batches }) }

/-- The relation holds across a change of the part. -/
class Ignores (part : Part) (R : Connection (κ × Tally) → Connection (κ × Tally) → Prop) :
    Prop where
  rel : ∀ s t, Changes part s t → R s t

section

variable {R : Connection (κ × Tally) → Connection (κ × Tally) → Prop}

instance [Ignores .causes R] : Keeps R (note c : TlsProgram (κ × Tally) Unit) :=
  keeps_update fun s => Ignores.rel s _ (.causes s _)

variable {f : Connection (κ × Tally) → TlsBuffer}

instance [Ignores .input R] :
    Keeps R (update fun s => { s with input := f s } : TlsProgram (κ × Tally) Unit) :=
  keeps_update fun s => Ignores.rel s _ (.input s _)

instance [Ignores .output R] :
    Keeps R (update fun s => { s with output := f s } : TlsProgram (κ × Tally) Unit) :=
  keeps_update fun s => Ignores.rel s _ (.output s _)

instance [Ignores .queue R] (f : Connection (κ × Tally) → ChunkVecBuffer) :
    Keeps R (update fun s => { s with receivedAppData := f s } : TlsProgram (κ × Tally) Unit) :=
  keeps_update fun s => Ignores.rel s _ (.queue s _)

instance [Ignores .phase R] : Keeps R (handshakeDone : TlsProgram (κ × Tally) Unit) :=
  keeps_update fun s => Ignores.rel s _ (.phase s _)

instance [Ignores .decoder R] (M : Rustls κ) : Keeps R (processTlsRecords (recorded M)) :=
  ⟨fun s => Ignores.rel s _ (.decoder s _ _ _ _ _)⟩

instance [Ignores .encoder R] (M : Rustls κ) : Keeps R (update fun s : Connection (κ × Tally) =>
    { s with conn := (recorded M).done s.conn } : TlsProgram (κ × Tally) Unit) :=
  keeps_update fun s => Ignores.rel s _ (.encoder s _ s.conn.2.produced)

variable [Std.Refl R] [IsTrans (Connection (κ × Tally)) R] {ε : Type}

instance keeps_fail [Ignores .causes R] (c : Cause) :
    Keeps R (fail c : TlsProgram (κ × Tally) α) := by
  unfold fail
  infer_instance

theorem rel_fail [Ignores .causes R] {s t : Connection (κ × Tally)} (h : R s t) (c : Cause) :
    R s ((fail c : TlsProgram (κ × Tally) α) t).2 :=
  trans_of R h ((keeps_fail c).rel t)

instance [Ignores .causes R] [Ignores .sending R] (data : Octets) :
    Keeps R (transportWrite data : TlsProgram (κ × Tally) Nat) := by
  constructor
  intro s
  rcases h : s.transport.writes with - | ⟨e | n, answers⟩
  · rw [transportWrite_none h]
    exact rel_fail (refl_of R s) _
  · rw [transportWrite_error h]
    exact rel_fail (Ignores.rel s _ (.sending s _ s.transport.sent)) _
  · rw [transportWrite_ok h]
    exact Ignores.rel s _ (.sending s _ _)

instance [Ignores .causes R] [Ignores .receiving R] (room : Nat) :
    Keeps R (transportRead room : TlsProgram (κ × Tally) Octets) := by
  constructor
  intro s
  rcases h : s.transport.reads with - | ⟨e | n, answers⟩
  · rw [transportRead_none h]
    exact rel_fail (refl_of R s) _
  · rw [transportRead_error h]
    exact rel_fail (Ignores.rel s _ (.receiving s _ s.transport.incoming s.transport.received)) _
  · rw [transportRead_ok h]
    exact Ignores.rel s _ (.receiving s _ _ _)

instance keeps_sendLoop [Ignores .causes R]
    [∀ data, Keeps R (transportWrite data : TlsProgram (κ × Tally) Nat)] (turns : Nat)
    (data : Octets) :
    Keeps R (sendLoop writeSome turns data : TlsProgram (κ × Tally) Unit) := by
  induction turns generalizing data with
  | zero => cases data <;> (unfold sendLoop; infer_instance)
  | succ turns ih => cases data <;> (unfold sendLoop; infer_instance)

theorem keeps_retry [Ignores .causes R] [Ignores .encoder R] [Ignores .output R]
    {f : κ × Tally → Nat → (κ × Tally) × Except ε Octets}
    (h : ∀ k room, ∃ k' produced, (f k room).1 = (k', { k.2 with produced }))
    (requiredSize : ε → Option Nat) (cause : Cause) :
    Keeps R (tryOrResizeAndRetry f requiredSize cause) := by
  have hencode (s : Connection (κ × Tally)) (k : κ × Tally) (room : Nat)
      (r : Except ε Octets) (hf : f s.conn room = (k, r)) : R s { s with conn := k } := by
    obtain ⟨k', produced, hk⟩ := h s.conn room
    rw [hf] at hk
    subst hk
    exact Ignores.rel s _ (.encoder s k' produced)
  constructor
  intro s
  cases hf : f s.conn s.output.unused with
  | mk k r =>
    have hfirst := hencode s k _ r hf
    cases r with
    | ok bytes =>
      rw [retry_ok hf]
      exact trans_of R hfirst (Ignores.rel _ _ (.output _ _))
    | error e =>
      cases hsize : requiredSize e with
      | none =>
        rw [retry_none hf hsize]
        exact rel_fail hfirst _
      | some size =>
        cases hf' : f k (s.output.resize size).unused with
        | mk k' r' =>
          have hsecond := hencode { s with conn := k } k' _ r' hf'
          cases r' with
          | ok bytes =>
            rw [retry_again hf hsize hf']
            exact trans_of R (trans_of R hfirst hsecond) (Ignores.rel _ _ (.output _ _))
          | error e' =>
            rw [retry_refused hf hsize hf']
            exact rel_fail
              (trans_of R (trans_of R hfirst hsecond) (Ignores.rel _ _ (.output _ _))) _

theorem addBytes_eq (t : Tally) (r : Except ε Octets) :
    ∃ produced, t.addBytes r = { t with produced } := by
  cases r with
  | ok bytes => exact ⟨_, rfl⟩
  | error e => exact ⟨t.produced, rfl⟩

variable (M : Rustls κ)

instance [Ignores .causes R] [Ignores .encoder R] [Ignores .output R] :
    Keeps R (encodeOutput (recorded M)) := by
  refine keeps_retry (fun k room => ?_) _ _
  obtain ⟨produced, h⟩ := addBytes_eq k.2 (M.encode k.1 room).2
  exact ⟨_, produced, Prod.ext rfl h⟩

instance [Ignores .causes R] [Ignores .encoder R] [Ignores .output R] (data : Octets) :
    Keeps R (encryptOutput (recorded M) data) := by
  refine keeps_retry (fun k room => ?_) _ _
  obtain ⟨produced, h⟩ := addBytes_eq k.2 (M.encrypt data k.1 room).2
  exact ⟨_, produced, Prod.ext rfl h⟩

instance [Ignores .causes R] [Ignores .queue R] :
    Keeps R (storeRecords dropWhenFull batch discard : TlsProgram (κ × Tally) Nat) := by
  induction batch generalizing discard with
  | nil => exact keeps_pure discard
  | cons record batch ih =>
    cases record with
    | error e => exact keeps_fail (.library e)
    | ok record =>
      have hstore : Keeps R (update fun s : Connection (κ × Tally) =>
          if dropWhenFull && ChunkVecBuffer.isFull s.receivedAppData then s
          else { s with
            receivedAppData := ChunkVecBuffer.append s.receivedAppData record.payload } :
          TlsProgram (κ × Tally) Unit) := by
        refine keeps_update fun s => ?_
        split
        · exact refl_of R s
        · exact Ignores.rel s _ (.queue s _)
      unfold storeRecords
      infer_instance

instance [Ignores .causes R] [Ignores .encoder R] [Ignores .output R] [Ignores .sending R] :
    Keeps R (alertOn (recorded M) state) := by
  unfold alertOn
  split <;> infer_instance

instance [Ignores .causes R] [Ignores .receiving R] [Ignores .input R] [Ignores .queue R]
    [Keeps R next] (room : Nat) (isClient : Bool) :
    Keeps R (readTurn next room isClient discard state) := by
  unfold readTurn
  split <;> infer_instance

instance keeps_readLoop [Ignores .causes R] [Ignores .receiving R] [Ignores .input R]
    [Ignores .queue R] [Keeps R (processTlsRecords (recorded M))] (room turns : Nat) :
    Keeps R (readLoop (recorded M) room turns) := by
  induction turns with
  | zero => exact keeps_raise TlsStop.diverged
  | succ turns ih =>
    unfold readLoop
    infer_instance

end

/-- The statuses that the library will report and the flights that it will encode. -/
structure Script where
  statuses : List Status
  flights : List Octets

/-- The library reports a status when it has the bytes for it, and nothing of interest behind an
error or behind the end of the script. It encrypts by copying. -/
def playback : Rustls Script where
  processTlsRecords script input :=
    match script.statuses with
    | [] => (script, 0, .ok .writeTraffic)
    | status :: statuses =>
      if discarded status ≤ input.length then
        ({ script with statuses := if status.2.isOk then statuses else [] }, status)
      else (script, 0, .ok .writeTraffic)
  encode script room :=
    match script.flights with
    | [] => (script, .error .alreadyEncoded)
    | flight :: flights =>
      if flight.length ≤ room then ({ script with flights }, .ok flight)
      else (script, .error (.insufficientSize flight.length))
  done := id
  encrypt data script room :=
    if data.length ≤ room then (script, .ok data)
    else (script, .error (.insufficientSize data.length))

theorem playback_fits : Fits playback := by
  constructor
  · intro script room bytes
    simp only [playback]
    split
    · simp
    · split
      · rintro ⟨⟩
        assumption
      · simp
  · intro data script room bytes
    simp only [playback]
    split
    · rintro ⟨⟩
      assumption
    · simp

end MigTd.Crypto.TlsLedger
