/- source: tls.rs, vmcall_raw/src/lib.rs
   digest: Handshake, read and write of a TLS connection over an unbuffered TLS library. -/

import MigTd.Lib.StateProgram
import MigTd.Migration.Information

set_option autoImplicit false

namespace MigTd.Crypto.TlsConnection

open Lib.StateProgram Migration.Information

inductive VmcallRawError where
  | initialization
  | deviceNotAvailable
  | transportError
  | truncated
  | malformed
  | illegal
  | refused
  | noAvailablePort
  | addressAlreadyUsed
  | notReady
  | tdVmcallErr
  | vmmCanceled
  | interrupt
  deriving DecidableEq, Repr

/-- The kinds of `io::Error` that some function tells apart; the others are one. -/
inductive ErrorKind where
  | connectionAborted
  | invalidData
  | other
  deriving DecidableEq, Repr

structure IoError where
  kind : ErrorKind
  desc : String
  deriving DecidableEq, Repr

namespace VmcallRawError

def fmt : VmcallRawError → String
  | initialization => "Initialization"
  | deviceNotAvailable => "DeviceNotAvailable"
  | transportError => "TransportError"
  | truncated => "Truncated"
  | malformed => "Malformed"
  | illegal => "Illegal"
  | refused => "REFUSED"
  | noAvailablePort => "NoAvailablePort"
  | addressAlreadyUsed => "AddressAlreadyUsed"
  | notReady => "NotReady"
  | tdVmcallErr => "TdVmcallErr"
  | vmmCanceled => "VmmCanceled"
  | interrupt => "Interrupt"

def intoIo (e : VmcallRawError) : IoError :=
  { kind := if e = vmmCanceled then .connectionAborted else .other, desc := e.fmt }

end VmcallRawError

inductive RustlsError where
  | general (desc : String)
  | other (code : Nat)
  deriving DecidableEq, Repr

inductive EncodeError where
  | insufficientSize (requiredSize : Nat)
  | alreadyEncoded
  deriving DecidableEq, Repr

inductive EncryptError where
  | insufficientSize (requiredSize : Nat)
  | encryptExhausted
  deriving DecidableEq, Repr

inductive TlsConnectionError where
  | encode
  | encrypt
  | unexpectedState
  | tlsLib (e : RustlsError)
  | transport
  deriving DecidableEq, Repr

/-- What went wrong inside a connection, before any conversion of errors. -/
inductive Cause where
  | io (e : IoError)
  /-- No answer came before the timeout of the caller. -/
  | timeout
  | library (e : RustlsError)
  | encode
  | encrypt
  | unexpectedState
  deriving DecidableEq, Repr

inductive TlsStop where
  | failed (e : TlsConnectionError)
  | waiting
  | panicked
  /-- The bound on the number of loop turns was reached. -/
  | diverged
  deriving DecidableEq, Repr

/-- The conversions into `TlsConnectionError`; the one of an `io::Error` drops the error. -/
def Cause.stop : Cause → TlsStop
  | io _ => .failed .transport
  | timeout => .waiting
  | library e => .failed (.tlsLib e)
  | encode => .failed .encode
  | encrypt => .failed .encrypt
  | unexpectedState => .failed .unexpectedState

theorem Cause.stop_ne_diverged (c : Cause) : c.stop ≠ .diverged := by
  cases c <;> simp [Cause.stop]

/-! The text that carries a verdict of the local verifier through the TLS library. -/

def TLS_CUSTOM_CALLBACK_ERROR : List Char := "TlsCustomCallbackError".toList

/-- What `Verifier::verify_server_cert` and `verify_client_cert` make of the callback's error. -/
def callbackError : CryptoError → RustlsError
  | .tlsVerifyPeerCert e =>
    .general (String.ofList (TLS_CUSTOM_CALLBACK_ERROR ++ '(' :: e.toList ++ [')']))
  | _ => .general "Unexpected"

/-- The text behind the first occurrence of a pattern. -/
def behind (pattern : List Char) : List Char → Option (List Char)
  | [] => if pattern = [] then some [] else none
  | c :: text =>
    if pattern.isPrefixOf (c :: text) then some ((c :: text).drop pattern.length)
    else behind pattern text

/-- The slice starts one byte behind the marker, so that the marker must not end the text and
must not have a longer character behind it. -/
def handleStreamError : TlsConnectionError → Except (Stop Unit) CryptoError
  | .tlsLib (.general desc) =>
    match behind TLS_CUSTOM_CALLBACK_ERROR desc.toList with
    | none => .ok .tlsStream
    | some [] => .error .panicked
    | some (c :: text) =>
      if c.utf8Size ≠ 1 then .error .panicked
      else if ')' ∈ text then
        .ok (.tlsVerifyPeerCert (String.ofList (text.takeWhile (· ≠ ')'))))
      else .ok .tlsStream
  | _ => .ok .tlsStream

/-- A buffer of `size` bytes, of which the first ones are in use. -/
structure TlsBuffer where
  content : Octets
  size : Nat
  fits : content.length ≤ size

namespace TlsBuffer

def TLS_BUFFER_SIZE : Nat := 0x1000 * 16

def new : TlsBuffer := ⟨[], TLS_BUFFER_SIZE, Nat.zero_le _⟩

def unused (b : TlsBuffer) : Nat := b.size - b.content.length

def consume (b : TlsBuffer) (bytes : Octets) : TlsBuffer where
  content := b.content ++ bytes.take b.unused
  size := b.size
  fits := by
    have h := b.fits
    have ht := List.length_take_le b.unused bytes
    rw [List.length_append]
    unfold unused at *
    omega

def resize (b : TlsBuffer) (requiredSize : Nat) : TlsBuffer where
  content := b.content
  size := b.content.length + requiredSize
  fits := Nat.le_add_right _ _

def reset (b : TlsBuffer) : TlsBuffer := ⟨[], b.size, Nat.zero_le _⟩

def discard (b : TlsBuffer) (size : Nat) : TlsBuffer where
  content := b.content.drop size
  size := b.size
  fits := Nat.le_trans (by simp) b.fits

end TlsBuffer

def APP_DATA_BUFFER_LIMIT : Nat := 0x1000

abbrev ChunkVecBuffer := List Octets

namespace ChunkVecBuffer

def length (chunks : ChunkVecBuffer) : Nat := (chunks.map List.length).sum

def isFull (chunks : ChunkVecBuffer) : Bool := APP_DATA_BUFFER_LIMIT < length chunks

def append (chunks : ChunkVecBuffer) (bytes : Octets) : ChunkVecBuffer :=
  if bytes.isEmpty then chunks else chunks ++ [bytes]

def read : Nat → ChunkVecBuffer → Octets × ChunkVecBuffer
  | _, [] => ([], [])
  | room, chunk :: rest =>
    if room = 0 then ([], chunk :: rest)
    else if chunk.length ≤ room then
      let (bytes, left) := read (room - chunk.length) rest
      (chunk ++ bytes, left)
    else (chunk.take room, chunk.drop room :: rest)

end ChunkVecBuffer

structure AppDataRecord where
  discard : Nat
  payload : Octets
  deriving DecidableEq, Repr

inductive ConnectionState where
  | encodeTlsData
  | transmitTlsData
  | blockedHandshake
  | readTraffic (records : List (Except RustlsError AppDataRecord))
  | writeTraffic
  | other
  deriving DecidableEq

/-- The unbuffered interface of the TLS library, over the state it keeps for a connection. The
encoders are told how much room there is and return the bytes they write. -/
structure Rustls (κ : Type) where
  processTlsRecords : κ → Octets → κ × Nat × Except RustlsError ConnectionState
  encode : κ → Nat → κ × Except EncodeError Octets
  done : κ → κ
  encrypt : Octets → κ → Nat → κ × Except EncryptError Octets

/-- The answers that the transport will give to the next calls, and what has passed. -/
structure Transport where
  reads : List (Except IoError Nat)
  writes : List (Except IoError Nat)
  incoming : Octets
  sent : Octets
  received : Octets

/-- The server and the client connection differ only in one check of `read`. The failures are
recorded in the order in which they happen. -/
structure Connection (κ : Type) where
  isClient : Bool
  conn : κ
  input : TlsBuffer
  output : TlsBuffer
  transport : Transport
  isHandshaking : Bool
  receivedAppData : ChunkVecBuffer
  causes : List Cause

variable {κ : Type}

def Connection.new (isClient : Bool) (conn : κ) (transport : Transport) : Connection κ where
  isClient := isClient
  conn := conn
  input := .new
  output := .new
  transport := transport
  isHandshaking := true
  receivedAppData := []
  causes := []

abbrev TlsProgram (κ α : Type) := Program (Connection κ) TlsStop α

def note (c : Cause) : TlsProgram κ Unit := update fun s => { s with causes := s.causes ++ [c] }

def fail {α : Type} (c : Cause) : TlsProgram κ α := do
  note c
  raise c.stop

/-- Offer bytes to the transport, which takes as many as its answer says. -/
def transportWrite (data : Octets) : TlsProgram κ Nat := fun s =>
  match s.transport.writes with
  | [] => fail .timeout s
  | .error e :: writes => fail (.io e) { s with transport := { s.transport with writes } }
  | .ok n :: writes =>
    let sent := s.transport.sent ++ data.take n
    (.ok (min n data.length), { s with transport := { s.transport with writes, sent } })

def transportRead (room : Nat) : TlsProgram κ Octets := fun s =>
  match s.transport.reads with
  | [] => fail .timeout s
  | .error e :: reads => fail (.io e) { s with transport := { s.transport with reads } }
  | .ok n :: reads =>
    let bytes := s.transport.incoming.take (min n room)
    let incoming := s.transport.incoming.drop bytes.length
    let received := s.transport.received ++ bytes
    (.ok bytes, { s with transport := { s.transport with reads, incoming, received } })

abbrev fillInput : TlsProgram κ Unit := do
  let room ← observe fun s => s.input.unused
  let bytes ← transportRead room
  update fun s => { s with input := s.input.consume bytes }

abbrev discardInput (size : Nat) : TlsProgram κ Unit := do
  let used ← observe fun s => s.input.content.length
  ensure (size ≤ used) .panicked
  update fun s => { s with input := s.input.discard size }

abbrev resetOutput : TlsProgram κ Unit := update fun s => { s with output := s.output.reset }

/-- Offer the used part of the output once; the answer is not looked at. -/
abbrev flushOnce : TlsProgram κ Unit := do
  let data ← observe fun s => s.output.content
  let _ ← transportWrite data
  resetOutput

/-- A loop `while sent < data.len()` around a call that tells how much it took. -/
def sendLoop (call : Octets → TlsProgram κ Nat) : Nat → Octets → TlsProgram κ Unit
  | _, [] => pure ()
  | 0, _ :: _ => raise .diverged
  | turns + 1, b :: data => do
    let n ← call (b :: data)
    sendLoop call turns ((b :: data).drop n)

/-- An answer of zero is refused, so that the number of bytes bounds the loop around it. -/
abbrev writeSome (data : Octets) : TlsProgram κ Nat := do
  let n ← transportWrite data
  if n = 0 then fail .unexpectedState else pure n

abbrev flushAll : TlsProgram κ Unit := do
  let data ← observe fun s => s.output.content
  sendLoop writeSome data.length data
  resetOutput

/-- Run an encoder on the unused output, once more after a resize when it asks for room. -/
def tryOrResizeAndRetry {ε : Type} (f : κ → Nat → κ × Except ε Octets)
    (requiredSize : ε → Option Nat) (cause : Cause) : TlsProgram κ Unit := fun s =>
  match f s.conn s.output.unused with
  | (conn, .ok bytes) => (.ok (), { s with conn, output := s.output.consume bytes })
  | (conn, .error e) =>
    match requiredSize e with
    | none => fail cause { s with conn }
    | some size =>
      let output := s.output.resize size
      match f conn output.unused with
      | (conn, .ok bytes) => (.ok (), { s with conn, output := output.consume bytes })
      | (conn, .error _) => fail .encode { s with conn, output }

def EncodeError.requiredSize : EncodeError → Option Nat
  | insufficientSize size => some size
  | alreadyEncoded => none

def EncryptError.requiredSize : EncryptError → Option Nat
  | insufficientSize size => some size
  | encryptExhausted => none

section

variable (M : Rustls κ)

abbrev encodeOutput : TlsProgram κ Unit :=
  tryOrResizeAndRetry M.encode EncodeError.requiredSize .encode

abbrev encryptOutput (data : Octets) : TlsProgram κ Unit :=
  tryOrResizeAndRetry (M.encrypt data) EncryptError.requiredSize .encrypt

def processTlsRecords : TlsProgram κ (Nat × Except RustlsError ConnectionState) := fun s =>
  let (conn, status) := M.processTlsRecords s.conn s.input.content
  (.ok status, { s with conn })

/-- Store the records of a batch, and the bytes that they make discardable. Only `read` of the
client drops records while too much is waiting. -/
def storeRecords (dropWhenFull : Bool) :
    List (Except RustlsError AppDataRecord) → Nat → TlsProgram κ Nat
  | [], discard => pure discard
  | .error e :: _, _ => fail (.library e)
  | .ok record :: records, discard => do
    update fun s =>
      if dropWhenFull && ChunkVecBuffer.isFull s.receivedAppData then s
      else { s with receivedAppData := ChunkVecBuffer.append s.receivedAppData record.payload }
    storeRecords dropWhenFull records (discard + record.discard)

abbrev handshakeDone : TlsProgram κ Unit := update fun s => { s with isHandshaking := false }

def alertOn : Except RustlsError ConnectionState → TlsProgram κ Unit
  | .error e => fail (.library e)
  | .ok .encodeTlsData => do
    encodeOutput M
    flushOnce
  | .ok _ => pure ()

abbrev handleTlsError : TlsProgram κ Unit := do
  let (_, state) ← processTlsRecords M
  alertOn M state

abbrev tellPeer (discard : Nat) : TlsProgram κ Unit := do
  discardInput discard
  handleTlsError M

/-- The handshake fails, after an attempt to tell the peer. -/
def rejectHandshake {α : Type} (e : RustlsError) (discard : Nat) : TlsProgram κ α := do
  note (.library e)
  tellPeer M discard
  raise (Cause.library e).stop

/-- One turn of the handshake loop, with what follows it. -/
def handshakeTurn (next : TlsProgram κ Unit) (discard : Nat) :
    Except RustlsError ConnectionState → TlsProgram κ Unit
  | .error e => rejectHandshake M e discard
  | .ok .encodeTlsData => do
    encodeOutput M
    discardInput discard
    next
  | .ok .transmitTlsData => do
    flushOnce
    update fun s => { s with conn := M.done s.conn }
    discardInput discard
    next
  | .ok .blockedHandshake => do
    fillInput
    discardInput discard
    next
  | .ok (.readTraffic records) => do
    let discard ← storeRecords false records discard
    handshakeDone
    discardInput discard
  | .ok .writeTraffic => do
    handshakeDone
    discardInput discard
  | .ok .other => fail .unexpectedState

def processTlsStatus : Nat → TlsProgram κ Unit
  | 0 => raise .diverged
  | turns + 1 => do
    let (discard, state) ← processTlsRecords M
    handshakeTurn M (processTlsStatus turns) discard state

def ensureHandshake (turns : Nat) : TlsProgram κ Unit := do
  let isHandshaking ← observe Connection.isHandshaking
  if isHandshaking then processTlsStatus M turns else pure ()

abbrev readAppData (room : Nat) : TlsProgram κ Octets := do
  let bytes ← observe fun s => (ChunkVecBuffer.read room s.receivedAppData).1
  update fun s => { s with receivedAppData := (ChunkVecBuffer.read room s.receivedAppData).2 }
  return bytes

def readTurn (next : TlsProgram κ Octets) (room : Nat) (isClient : Bool) (discard : Nat) :
    Except RustlsError ConnectionState → TlsProgram κ Octets
  | .error e => fail (.library e)
  | .ok (.readTraffic records) => do
    let discard ← storeRecords isClient records discard
    let bytes ← readAppData room
    discardInput discard
    return bytes
  | .ok .writeTraffic => do
    fillInput
    discardInput discard
    next
  | .ok _ => fail .unexpectedState

def readLoop (room : Nat) : Nat → TlsProgram κ Octets
  | 0 => raise .diverged
  | turns + 1 => do
    let isClient ← observe Connection.isClient
    let (discard, state) ← processTlsRecords M
    readTurn (readLoop room turns) room isClient discard state

/-- The bytes that a read puts into a buffer of `room` bytes. -/
def read (turns room : Nat) : TlsProgram κ Octets := do
  ensureHandshake M turns
  let isEmpty ← observe fun s => s.receivedAppData.isEmpty
  if isEmpty then readLoop M room turns else readAppData room

def writeTurn (next : TlsProgram κ Unit) (data : Octets) (discard : Nat) :
    Except RustlsError ConnectionState → TlsProgram κ Unit
  | .error e => fail (.library e)
  | .ok (.readTraffic records) => do
    let discard ← storeRecords false records discard
    discardInput discard
    next
  | .ok .writeTraffic => do
    encryptOutput M data
    -- The loop is left before the discard of its last turn.
    flushAll
  | .ok _ => fail .unexpectedState

def writeLoop (data : Octets) : Nat → TlsProgram κ Unit
  | 0 => raise .diverged
  | turns + 1 => do
    let (discard, state) ← processTlsRecords M
    writeTurn M (writeLoop data turns) data discard state

def write (turns : Nat) (data : Octets) : TlsProgram κ Nat := do
  ensureHandshake M turns
  writeLoop M data turns
  return data.length

end

/-- A call that returns records no failure, and a call that fails ends as its last failure says.
The loops, and only they, can go on without an end, and then have recorded no failure. -/
def Accounted {α : Type} (loops : Prop) (s : Connection κ)
    (run : Except TlsStop α × Connection κ) : Prop :=
  match run.1 with
  | .ok _ => run.2.causes = s.causes
  | .error .panicked => True
  | .error .diverged => loops ∧ run.2.causes = s.causes
  | .error stop => ∃ before c, run.2.causes = s.causes ++ (before ++ [c]) ∧ c.stop = stop

class Accounts {α : Type} (loops : Prop) (m : TlsProgram κ α) : Prop where
  run : ∀ s, Accounted loops s (m s)

section

variable {α β : Type} {loops : Prop}

theorem Accounted.of_causes {s s' : Connection κ} {run : Except TlsStop α × Connection κ}
    (h : Accounted loops s' run) (hs : s'.causes = s.causes) : Accounted loops s run := by
  unfold Accounted at *
  rwa [hs] at h

theorem accounted_stop {s t : Connection κ} {c : Cause} (before : List Cause)
    (h : t.causes = s.causes ++ (before ++ [c])) :
    Accounted (α := α) loops s (.error c.stop, t) := by
  have hlast : ∃ before' c', t.causes = s.causes ++ (before' ++ [c']) ∧ c'.stop = c.stop :=
    ⟨before, c, h, rfl⟩
  cases c <;> exact hlast

theorem accounted_fail (c : Cause) (s : Connection κ) :
    Accounted loops s ((fail c : TlsProgram κ α) s) :=
  accounted_stop [] rfl

instance (c : Cause) : Accounts loops (fail c : TlsProgram κ α) := ⟨accounted_fail c⟩

instance (a : α) : Accounts loops (pure a : TlsProgram κ α) := ⟨fun _ => rfl⟩

instance (f : Connection κ → α) : Accounts loops (observe f : TlsProgram κ α) := ⟨fun _ => rfl⟩

instance : Accounts True (raise .diverged : TlsProgram κ α) := ⟨fun _ => ⟨trivial, rfl⟩⟩

instance (c : Prop) [Decidable c] : Accounts loops (ensure c .panicked : TlsProgram κ Unit) := by
  constructor
  intro s
  unfold ensure
  split
  · rfl
  · trivial

theorem accounts_update {f : Connection κ → Connection κ} (h : ∀ s, (f s).causes = s.causes) :
    Accounts loops (update f : TlsProgram κ Unit) := ⟨h⟩

instance (c : Prop) [Decidable c] (m n : TlsProgram κ α) [Accounts loops m] [Accounts loops n] :
    Accounts loops (if c then m else n) := by
  split <;> assumption

instance accounts_bind (m : TlsProgram κ α) (f : α → TlsProgram κ β) [hm : Accounts loops m]
    [hf : ∀ a, Accounts loops (f a)] : Accounts loops (m >>= f) := by
  constructor
  intro s
  have hs := hm.run s
  refine post_bind_of (Q := fun r t => Accounted loops s (r, t))
    (H := fun r t => Accounted loops s (r, t)) hs ?_ ?_
  · intro a t h
    exact ((hf a).run t).of_causes h
  · intro e t h
    cases e <;> exact h

variable {data : Octets}

instance : Accounts loops (transportWrite data : TlsProgram κ Nat) := by
  constructor
  intro s
  simp only [transportWrite]
  split
  · exact accounted_fail .timeout s
  · exact (accounted_fail _ _).of_causes rfl
  · rfl

variable {room discard turns : Nat}

instance : Accounts loops (transportRead room : TlsProgram κ Octets) := by
  constructor
  intro s
  simp only [transportRead]
  split
  · exact accounted_fail .timeout s
  · exact (accounted_fail _ _).of_causes rfl
  · rfl

section

variable (f : Connection κ → TlsBuffer)

instance : Accounts loops (update fun s => { s with input := f s }) := accounts_update fun _ => rfl

instance : Accounts loops (update fun s => { s with output := f s }) := accounts_update fun _ => rfl

instance (f : Connection κ → κ) : Accounts loops (update fun s => { s with conn := f s }) :=
  accounts_update fun _ => rfl

instance (f : Connection κ → Bool) :
    Accounts loops (update fun s => { s with isHandshaking := f s }) := accounts_update fun _ => rfl

instance (f : Connection κ → ChunkVecBuffer) :
    Accounts loops (update fun s => { s with receivedAppData := f s }) :=
  accounts_update fun _ => rfl

end

instance accounts_sendLoop (call : Octets → TlsProgram κ Nat)
    [∀ data, Accounts True (call data)] (turns : Nat) (data : Octets) :
    Accounts True (sendLoop call turns data) := by
  induction turns generalizing data with
  | zero => cases data <;> (unfold sendLoop; infer_instance)
  | succ turns ih => cases data <;> (unfold sendLoop; infer_instance)

instance {ε : Type} (f : κ → Nat → κ × Except ε Octets) (requiredSize : ε → Option Nat)
    (cause : Cause) : Accounts loops (tryOrResizeAndRetry f requiredSize cause) := by
  constructor
  intro s
  simp only [tryOrResizeAndRetry]
  split
  · rfl
  · split
    · exact (accounted_fail _ _).of_causes rfl
    · split
      · rfl
      · exact (accounted_fail _ _).of_causes rfl

variable (M : Rustls κ)

instance : Accounts loops (processTlsRecords M) := ⟨fun _ => rfl⟩

instance accounts_storeRecords (dropWhenFull : Bool)
    (records : List (Except RustlsError AppDataRecord)) (discard : Nat) :
    Accounts loops (storeRecords dropWhenFull records discard : TlsProgram κ Nat) := by
  induction records generalizing discard with
  | nil => exact inferInstanceAs (Accounts loops (pure discard))
  | cons record records ih =>
    cases record with
    | error e => exact inferInstanceAs (Accounts loops (fail (.library e)))
    | ok record =>
      have hstore : Accounts loops (update fun s : Connection κ =>
          if dropWhenFull && ChunkVecBuffer.isFull s.receivedAppData then s
          else { s with
            receivedAppData := ChunkVecBuffer.append s.receivedAppData record.payload }) := by
        refine accounts_update fun s => ?_
        split <;> rfl
      unfold storeRecords
      infer_instance

variable {state : Except RustlsError ConnectionState}

instance : Accounts loops (alertOn M state) := by
  unfold alertOn
  split <;> infer_instance

/-- The alert comes behind the failure of the handshake, and can fail on its own. -/
instance (e : RustlsError) : Accounts loops (rejectHandshake M e discard : TlsProgram κ α) := by
  constructor
  intro s
  let noted : Connection κ := { s with causes := s.causes ++ [.library e] }
  have halert : Accounted False noted (tellPeer M discard noted) := Accounts.run noted
  change Post (tellPeer M discard >>= fun _ => raise (Cause.library e).stop) noted
    fun r t => Accounted loops s (r, t)
  refine post_bind_of (H := fun r t => Accounted False noted (r, t)) halert ?_ ?_
  · intro _ t h
    have hstop : Accounted (α := α) loops s (.error (Cause.library e).stop, t) :=
      accounted_stop [] h
    exact hstop
  · intro stop t h
    match stop, h with
    | .failed _, ⟨before, c, hc, hstop⟩ =>
      exact ⟨.library e :: before, c, by simpa [noted] using hc, hstop⟩
    | .waiting, ⟨before, c, hc, hstop⟩ =>
      exact ⟨.library e :: before, c, by simpa [noted] using hc, hstop⟩
    | .panicked, _ => trivial

instance (next : TlsProgram κ Unit) [Accounts True next] :
    Accounts True (handshakeTurn M next discard state) := by
  unfold handshakeTurn
  split <;> infer_instance

instance accounts_processTlsStatus (turns : Nat) : Accounts True (processTlsStatus M turns) := by
  induction turns with
  | zero => exact inferInstanceAs (Accounts True (raise .diverged))
  | succ turns ih =>
    unfold processTlsStatus
    infer_instance

instance : Accounts True (ensureHandshake M turns) := by
  unfold ensureHandshake
  infer_instance

instance (next : TlsProgram κ Octets) [Accounts True next] (isClient : Bool) :
    Accounts True (readTurn next room isClient discard state) := by
  unfold readTurn
  split <;> infer_instance

instance accounts_readLoop (room turns : Nat) : Accounts True (readLoop M room turns) := by
  induction turns with
  | zero => exact inferInstanceAs (Accounts True (raise .diverged))
  | succ turns ih =>
    unfold readLoop
    infer_instance

instance : Accounts True (read M turns room) := by
  unfold read
  infer_instance

instance (next : TlsProgram κ Unit) [Accounts True next] :
    Accounts True (writeTurn M next data discard state) := by
  unfold writeTurn
  split <;> infer_instance

instance accounts_writeLoop (data : Octets) (turns : Nat) :
    Accounts True (writeLoop M data turns) := by
  induction turns with
  | zero => exact inferInstanceAs (Accounts True (raise .diverged))
  | succ turns ih =>
    unfold writeLoop
    infer_instance

instance : Accounts True (write M turns data) := by
  unfold write
  infer_instance

end

end MigTd.Crypto.TlsConnection
