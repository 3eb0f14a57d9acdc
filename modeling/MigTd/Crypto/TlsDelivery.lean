/- source: tls.rs
   digest: The application data that a TLS connection hands out against what the library yields. -/

import MigTd.Crypto.TlsLedger

set_option autoImplicit false

namespace MigTd.Crypto.TlsDelivery

open TlsConnection TlsLedger Lib.StateProgram

variable {κ α β : Type} {dropWhenFull : Bool}

theorem flatten_append (q : ChunkVecBuffer) (bytes : Octets) :
    (ChunkVecBuffer.append q bytes).flatten = q.flatten ++ bytes := by
  unfold ChunkVecBuffer.append
  split
  · rename_i hempty
    rw [List.isEmpty_iff.mp hempty, List.append_nil]
  · simp

theorem read_flatten (room : Nat) (q : ChunkVecBuffer) :
    (ChunkVecBuffer.read room q).1 = q.flatten.take room ∧
      (ChunkVecBuffer.read room q).2.flatten = q.flatten.drop room := by
  induction q generalizing room with
  | nil => simp [ChunkVecBuffer.read]
  | cons chunk rest ih =>
    simp only [ChunkVecBuffer.read]
    split
    · rename_i hzero
      simp [hzero]
    · split
      · rename_i hfits
        obtain ⟨htake, hdrop⟩ := ih (room - chunk.length)
        refine ⟨?_, ?_⟩
        · simp only [htake, List.flatten_cons, List.take_append, List.take_of_length_le hfits]
        · simp only [hdrop, List.flatten_cons, List.drop_append, List.drop_of_length_le hfits,
            List.nil_append]
      · rename_i hlong
        have hle : room ≤ chunk.length := by omega
        refine ⟨?_, ?_⟩
        · rw [List.flatten_cons, List.take_append_of_le_length hle]
        · rw [List.flatten_cons, List.flatten_cons, List.drop_append_of_le_length hle]

def stored (dropWhenFull : Bool) : ChunkVecBuffer → List Octets → ChunkVecBuffer :=
  List.foldl fun q payload =>
    if dropWhenFull && ChunkVecBuffer.isFull q then q else ChunkVecBuffer.append q payload

theorem storeRecords_queue (dropWhenFull : Bool) (batch : List (Except RustlsError AppDataRecord))
    (discard : Nat) (s : Connection κ) :
    (storeRecords dropWhenFull batch discard s).2.receivedAppData =
      stored dropWhenFull s.receivedAppData ((handedOut batch).map AppDataRecord.payload) := by
  induction batch generalizing discard s with
  | nil => rfl
  | cons record batch ih =>
    cases record with
    | error e => rfl
    | ok record =>
      refine (ih _ _).trans ?_
      simp only [handedOut, List.map_cons, stored, List.foldl_cons]
      congr 1
      split <;> rfl

/-- Nothing is dropped without the check, or from a batch of one record for an empty queue. -/
def Takes (dropWhenFull : Bool) (q : ChunkVecBuffer) (payloads : List Octets) : Prop :=
  dropWhenFull = false ∨ q = [] ∧ payloads.length ≤ 1

theorem stored_flatten {q : ChunkVecBuffer} {payloads : List Octets}
    (h : Takes dropWhenFull q payloads) :
    (stored dropWhenFull q payloads).flatten = q.flatten ++ payloads.flatten := by
  rcases h with rfl | ⟨rfl, hone⟩
  · induction payloads generalizing q with
    | nil => simp [stored]
    | cons payload payloads ih =>
      refine ih.trans ?_
      simp [flatten_append]
  · match payloads, hone with
    | [], _ => rfl
    | [payload], _ =>
      have hnot : ChunkVecBuffer.isFull [] = false := rfl
      simp [stored, hnot, flatten_append]

/-- The bytes that the next reads will return. -/
def waiting (s : Connection κ) : Octets := s.receivedAppData.flatten

/-- The decrypted application data, in the order of the records. -/
def yielded (s : Connection (κ × Tally)) : Octets := s.conn.2.batches.flatten.flatten

/-- The bytes that a call returned, those that its connection holds and the payloads of a status
that is being handled are all that the library has yielded. -/
structure Delivered (isClient : Bool) (returned : Octets) (payloads : List Octets)
    (s : Connection (κ × Tally)) : Prop where
  role : s.isClient = isClient
  whole : returned ++ waiting s ++ payloads.flatten = yielded s

variable {discard : Nat} {r : Octets} {s t : Connection (κ × Tally)} {isClient : Bool}

/-- The library yields no application data in the status behind an error. -/
def Silent (M : Rustls κ) : Prop :=
  ∀ k input e, (M.processTlsRecords k input).2.2 = .error e →
    ∀ input', payloads (M.processTlsRecords (M.processTlsRecords k input).1 input').2 = []

/-- The library hands out one record with a status. -/
def OneRecord (M : Rustls κ) : Prop :=
  ∀ k input discard batch,
    (M.processTlsRecords k input).2 = (discard, .ok (.readTraffic batch)) → batch.length ≤ 1

private theorem handedOut_length (batch : List (Except RustlsError AppDataRecord)) :
    (handedOut batch).length ≤ batch.length := by
  induction batch with
  | nil => exact le_rfl
  | cons record batch ih =>
    cases record with
    | error e => exact Nat.zero_le _
    | ok record => exact Nat.succ_le_succ ih

theorem OneRecord.payloads_length {M : Rustls κ} (h : OneRecord M) (k : κ) (input : Octets) :
    (payloads (M.processTlsRecords k input).2).length ≤ 1 := by
  rcases hstatus : (M.processTlsRecords k input).2 with ⟨discard, _ | state⟩
  · exact Nat.zero_le _
  · cases state with
    | readTraffic batch =>
      rw [payloads, List.length_map]
      exact (handedOut_length batch).trans (h k input discard batch hstatus)
    | _ => exact Nat.zero_le _

section

variable {returned : Octets} {ps : List Octets}

def dataView (s : Connection (κ × Tally)) : Bool × ChunkVecBuffer × List (List Octets) :=
  (s.isClient, s.receivedAppData, s.conn.2.batches)

theorem Delivered.same (hs : Delivered isClient returned ps s) (h : Same dataView s t) :
    Delivered isClient returned ps t := by
  simp only [Same, dataView, Prod.mk.injEq] at h
  obtain ⟨hrole, hqueue, hbatches⟩ := h
  have hwhole := hs.whole
  unfold waiting yielded at hwhole
  rw [hqueue, hbatches] at hwhole
  exact ⟨hrole ▸ hs.role, hwhole⟩

instance : Ignores .causes (Same (dataView (κ := κ))) := ⟨by rintro _ _ ⟨⟩; rfl⟩

instance : Ignores .sending (Same (dataView (κ := κ))) := ⟨by rintro _ _ ⟨⟩; rfl⟩

instance : Ignores .receiving (Same (dataView (κ := κ))) := ⟨by rintro _ _ ⟨⟩; rfl⟩

instance : Ignores .input (Same (dataView (κ := κ))) := ⟨by rintro _ _ ⟨⟩; rfl⟩

instance : Ignores .output (Same (dataView (κ := κ))) := ⟨by rintro _ _ ⟨⟩; rfl⟩

instance : Ignores .phase (Same (dataView (κ := κ))) := ⟨by rintro _ _ ⟨⟩; rfl⟩

instance : Ignores .encoder (Same (dataView (κ := κ))) := ⟨by rintro _ _ ⟨⟩; rfl⟩

abbrev Level (isClient : Bool) (returned : Octets) :
    Connection (κ × Tally) → Connection (κ × Tally) → Prop :=
  Preserved (Delivered isClient returned [])

instance (part : Part) [Ignores part (Same (dataView (κ := κ)))] :
    Ignores part (Level (κ := κ) isClient returned) :=
  ⟨fun s t h hs => hs.same (Ignores.rel s t h)⟩

end

variable {batch : List (Except RustlsError AppDataRecord)}

section

variable {M : Rustls κ} {returned : Octets}

theorem processTlsRecords_delivered (hs : Delivered isClient returned [] s) :
    Delivered isClient returned (payloads (M.processTlsRecords s.conn.1 s.input.content).2)
      (processTlsRecords (recorded M) s).2 := by
  have hyielded : yielded (processTlsRecords (recorded M) s).2 =
      yielded s ++ (payloads (M.processTlsRecords s.conn.1 s.input.content).2).flatten := by
    change List.flatten (List.flatten (s.conn.2.batches ++ [_])) = _
    simp [yielded]
  have hwhole := hs.whole
  rw [List.flatten_nil, List.append_nil] at hwhole
  refine ⟨hs.role, ?_⟩
  rw [hyielded, ← hwhole]
  rfl

def besides (s : Connection (κ × Tally)) : Bool × (κ × Tally) := (s.isClient, s.conn)

instance : Ignores .causes (Same (besides (κ := κ))) := ⟨by rintro _ _ ⟨⟩; rfl⟩

instance : Ignores .queue (Same (besides (κ := κ))) := ⟨by rintro _ _ ⟨⟩; rfl⟩

theorem storeRecords_delivered
    (htakes : Takes dropWhenFull s.receivedAppData (payloads (discard, .ok (.readTraffic batch))))
    (hs : Delivered isClient returned (payloads (discard, .ok (.readTraffic batch))) s) :
    Delivered isClient returned [] (storeRecords dropWhenFull batch discard s).2 := by
  have hview : Same besides s (storeRecords dropWhenFull batch discard s).2 := Keeps.rel s
  have hwaiting : waiting (storeRecords dropWhenFull batch discard s).2 =
      waiting s ++ (payloads (discard, .ok (.readTraffic batch))).flatten :=
    (congrArg List.flatten (storeRecords_queue dropWhenFull batch discard s)).trans
      (stored_flatten htakes)
  simp only [Same, besides, Prod.mk.injEq] at hview
  obtain ⟨hrole, hconn⟩ := hview
  refine ⟨hrole ▸ hs.role, ?_⟩
  have hwhole := hs.whole
  rw [hwaiting, List.flatten_nil, List.append_nil, ← List.append_assoc, hwhole, yielded, yielded, hconn]

end

variable {m : TlsProgram (κ × Tally) α}

section

variable {M : Rustls κ} {returned : Octets}

theorem delivered_bind {f : α → TlsProgram (κ × Tally) β}
    (hm : Delivered isClient returned [] (m s).2)
    (hf : ∀ a, Keeps (Level isClient returned) (f a)) :
    Delivered isClient returned [] ((m >>= f) s).2 := by
  have hpost : Post m s fun _ t => Delivered isClient returned [] t := hm
  refine post_bind_of (Q := fun _ t => Delivered isClient returned [] t) hpost ?_ ?_
  · intro a t ht
    exact (hf a).rel t ht
  · intro _ t ht
    exact ht

/-- The account, in front of a status that is known to yield nothing. -/
def Hushed (M : Rustls κ) (isClient : Bool) (returned : Octets)
    (s : Connection (κ × Tally)) : Prop :=
  Delivered isClient returned [] s ∧ ∀ input, payloads (M.processTlsRecords s.conn.1 input).2 = []

instance : Ignores .causes (Preserved (Hushed M isClient returned)) := by
  constructor
  rintro _ _ ⟨⟩ hs
  exact ⟨hs.1.same rfl, hs.2⟩

instance : Ignores .input (Preserved (Hushed M isClient returned)) := by
  constructor
  rintro _ _ ⟨⟩ hs
  exact ⟨hs.1.same rfl, hs.2⟩

private theorem handleTlsError_delivered (hs : Hushed M isClient returned s) :
    Delivered isClient returned [] (handleTlsError (recorded M) s).2 := by
  have hstatus := processTlsRecords_delivered (M := M) hs.1
  rw [hs.2] at hstatus
  have halert : Keeps (Level isClient returned)
      (alertOn (recorded M) (M.processTlsRecords s.conn.1 s.input.content).2.2) := inferInstance
  exact halert.rel _ hstatus

theorem rejectHandshake_delivered {e : RustlsError} (hs : Hushed M isClient returned s) :
    Delivered isClient returned []
      ((rejectHandshake (recorded M) e discard : TlsProgram (κ × Tally) α) s).2 := by
  have hnote : Keeps (Preserved (Hushed M isClient returned))
      (note (.library e) : TlsProgram (κ × Tally) Unit) := inferInstance
  have hdiscard : Keeps (Preserved (Hushed M isClient returned))
      (discardInput discard : TlsProgram (κ × Tally) Unit) := inferInstance
  have htell (t : Connection (κ × Tally)) (ht : Hushed M isClient returned t) :
      Post (tellPeer (recorded M) discard) t fun _ u => Delivered isClient returned [] u := by
    unfold tellPeer
    refine post_bind_keeps hdiscard ?_ ?_
    · intro _ u _ hu
      exact handleTlsError_delivered (hu ht)
    · intro _ u _ hu
      exact (hu ht).1
  unfold rejectHandshake
  refine post_bind_keeps (Q := fun _ t => Delivered isClient returned [] t) hnote ?_ ?_
  · intro _ t _ ht
    refine post_bind_of (htell t (ht hs)) ?_ ?_
    · intro _ u hu
      exact hu
    · intro _ u hu
      exact hu
  · intro _ t _ ht
    exact (ht hs).1

variable {state : Except RustlsError ConnectionState} {next : TlsProgram (κ × Tally) Unit}

theorem handshakeTurn_delivered
    (hnext : Keeps (Level isClient returned) next) (hsilent : ∀ e, state = .error e →
      ∀ input, payloads (M.processTlsRecords s.conn.1 input).2 = [])
    (hs : Delivered isClient returned (payloads (discard, state)) s) :
    Delivered isClient returned [] (handshakeTurn (recorded M) next discard state s).2 := by
  have hquiet {m : TlsProgram (κ × Tally) Unit} (hm : Keeps (Level isClient returned) m)
      (ht : Delivered isClient returned [] s) : Delivered isClient returned [] (m s).2 :=
    hm.rel s ht
  match state, hs, hsilent with
  | .error e, hs, hsilent => exact rejectHandshake_delivered ⟨hs, hsilent e rfl⟩
  | .ok .encodeTlsData, hs, _ =>
    unfold handshakeTurn
    exact hquiet inferInstance hs
  | .ok .transmitTlsData, hs, _ =>
    unfold handshakeTurn
    exact hquiet inferInstance hs
  | .ok .blockedHandshake, hs, _ =>
    unfold handshakeTurn
    exact hquiet inferInstance hs
  | .ok (.readTraffic batch), hs, _ =>
    exact delivered_bind (storeRecords_delivered (.inl rfl) hs) fun _ => inferInstance
  | .ok .writeTraffic, hs, _ =>
    unfold handshakeTurn
    exact hquiet inferInstance hs
  | .ok .other, hs, _ =>
    unfold handshakeTurn
    exact hquiet inferInstance hs

private theorem keeps_processTlsStatus (hM : Silent M) (turns : Nat) :
    Keeps (Level isClient returned) (processTlsStatus (recorded M) turns) := by
  induction turns with
  | zero => exact keeps_raise TlsStop.diverged
  | succ turns ih =>
    constructor
    intro s hs
    exact handshakeTurn_delivered ih (fun e he => hM _ _ e he) (processTlsRecords_delivered hs)

theorem keeps_ensureHandshake (hM : Silent M) (turns : Nat) :
    Keeps (Level isClient returned) (ensureHandshake (recorded M) turns) := by
  have hloop : Keeps (Level isClient returned) (processTlsStatus (recorded M) turns) :=
    keeps_processTlsStatus hM turns
  unfold ensureHandshake
  infer_instance

theorem writeTurn_delivered (hnext : Keeps (Level isClient returned) next) {data : Octets}
    (hs : Delivered isClient returned (payloads (discard, state)) s) :
    Delivered isClient returned [] (writeTurn (recorded M) next data discard state s).2 := by
  have hfail (c : Cause) (ht : Delivered isClient returned [] s) :
      Delivered isClient returned [] ((fail c : TlsProgram (κ × Tally) Unit) s).2 :=
    rel_fail (R := Level isClient returned) (refl_of _ s) c ht
  match state, hs with
  | .error e, hs => exact hfail _ hs
  | .ok (.readTraffic batch), hs =>
    exact delivered_bind (storeRecords_delivered (.inl rfl) hs) fun _ => inferInstance
  | .ok .writeTraffic, hs =>
    have hwrite : Keeps (Level isClient returned) (do
        encryptOutput (recorded M) data
        flushAll) := inferInstance
    exact hwrite.rel s hs
  | .ok .encodeTlsData, hs => exact hfail _ hs
  | .ok .transmitTlsData, hs => exact hfail _ hs
  | .ok .blockedHandshake, hs => exact hfail _ hs
  | .ok .other, hs => exact hfail _ hs

theorem keeps_writeLoop (data : Octets) (turns : Nat) :
    Keeps (Level isClient returned) (writeLoop (recorded M) data turns) := by
  induction turns with
  | zero => exact keeps_raise TlsStop.diverged
  | succ turns ih =>
    constructor
    intro s hs
    exact writeTurn_delivered ih (processTlsRecords_delivered hs)

theorem keeps_write (hM : Silent M) (turns : Nat) (data : Octets) :
    Keeps (Level isClient returned) (TlsConnection.write (recorded M) turns data) := by
  have hgreet : Keeps (Level isClient returned) (ensureHandshake (recorded M) turns) :=
    keeps_ensureHandshake hM turns
  have hloop : Keeps (Level isClient returned) (writeLoop (recorded M) data turns) :=
    keeps_writeLoop data turns
  unfold TlsConnection.write
  infer_instance

theorem readAppData_run (room : Nat) (s : Connection κ) :
    readAppData room s = (.ok ((waiting s).take room),
      { s with receivedAppData := (ChunkVecBuffer.read room s.receivedAppData).2 }) :=
  Prod.ext (congrArg Except.ok (read_flatten room s.receivedAppData).1) rfl

theorem readAppData_delivered (room : Nat) (hs : Delivered isClient returned [] s) :
    Delivered isClient (returned ++ (waiting s).take room) [] (readAppData room s).2 := by
  have hwaiting : waiting (readAppData room s).2 = (waiting s).drop room :=
    (read_flatten room s.receivedAppData).2
  refine ⟨hs.role, ?_⟩
  rw [hwaiting, List.append_assoc returned, List.take_append_drop]
  exact hs.whole

theorem Delivered.stopped (hs : Delivered isClient returned [] s) (e : TlsStop) :
    Delivered isClient (returned ++ bytesOf (.error e)) [] s := by
  rwa [bytesOf, List.append_nil]

/-- The outcome of a loop of `read` that does not panic. -/
def Delivers (isClient : Bool) (returned : Octets) (result : Except TlsStop Octets)
    (t : Connection (κ × Tally)) : Prop :=
  result ≠ .error .panicked → Delivered isClient (returned ++ bytesOf result) [] t

variable {next : TlsProgram (κ × Tally) Octets} {room : Nat}

theorem readTraffic_delivers
    (htakes : Takes isClient s.receivedAppData (payloads (discard, .ok (.readTraffic batch))))
    (hs : Delivered isClient returned (payloads (discard, .ok (.readTraffic batch))) s) :
    Post (readTurn next room isClient discard (.ok (.readTraffic batch))) s
      (Delivers isClient returned) := by
  have hstored : Post (storeRecords isClient batch discard) s fun _ t =>
      Delivered isClient returned [] t := storeRecords_delivered htakes hs
  refine post_bind_of hstored ?_ fun e t ht _ => ht.stopped e
  intro total t ht
  have hread := readAppData_delivered room ht
  refine post_bind_run (readAppData_run room t) ?_
  by_cases hfits : total ≤ t.input.content.length
  · exact post_bind_run (discardInput_ok hfits) fun _ => hread.same rfl
  · -- the bytes have left the queue and are not returned
    exact post_bind_stop (discardInput_panic hfits) fun hresult => absurd rfl hresult

theorem readTurn_delivers (hnext : ∀ t, t.receivedAppData = [] → Delivered isClient returned [] t →
      Post next t (Delivers isClient returned)) (hempty : s.receivedAppData = [])
    (hone : (payloads (discard, state)).length ≤ 1)
    (hs : Delivered isClient returned (payloads (discard, state)) s) :
    Post (readTurn next room isClient discard state) s (Delivers isClient returned) := by
  have hfail (c : Cause) (ht : Delivered isClient returned [] s) :
      Post (fail c) s (Delivers isClient returned) := by
    have hdelivered : Delivered isClient returned []
        ((fail c : TlsProgram (κ × Tally) Octets) s).2 := ht.same rfl
    exact fun _ => hdelivered.stopped c.stop
  match state, hone, hs with
  | .error e, _, hs => exact hfail _ hs
  | .ok (.readTraffic batch), hone, hs => exact readTraffic_delivers (.inr ⟨hempty, hone⟩) hs
  | .ok .writeTraffic, _, hs =>
    have hfill : Keeps (Same dataView) (fillInput : TlsProgram (κ × Tally) Unit) := inferInstance
    have hdiscard : Keeps (Same dataView)
        (discardInput discard : TlsProgram (κ × Tally) Unit) := inferInstance
    have hstop (e : TlsStop) (u : Connection (κ × Tally)) (hu : Same dataView s u) :
        Delivers isClient returned (.error e) u := fun _ => (hs.same hu).stopped e
    refine post_bind_keeps hfill (fun _ u _ hu => ?_) (fun e u _ hu => hstop e u hu)
    refine post_bind_keeps hdiscard (fun _ v _ hv => ?_)
      (fun e v _ hv => hstop e v (trans_of _ hu hv))
    have hview := trans_of (Same dataView) hu hv
    have hdelivered := hs.same hview
    simp only [Same, dataView, Prod.mk.injEq] at hview
    exact hnext v (hview.2.1 ▸ hempty) hdelivered
  | .ok .encodeTlsData, _, hs => exact hfail _ hs
  | .ok .transmitTlsData, _, hs => exact hfail _ hs
  | .ok .blockedHandshake, _, hs => exact hfail _ hs
  | .ok .other, _, hs => exact hfail _ hs

theorem readLoop_delivers (one : OneRecord M) (room turns : Nat) (hempty : s.receivedAppData = [])
    (hs : Delivered isClient returned [] s) :
    Post (readLoop (recorded M) room turns) s (Delivers isClient returned) := by
  induction turns generalizing s with
  | zero => exact fun _ => hs.stopped .diverged
  | succ turns ih =>
    have hturn : Post (readTurn (readLoop (recorded M) room turns) room isClient
        (M.processTlsRecords s.conn.1 s.input.content).2.1
        (M.processTlsRecords s.conn.1 s.input.content).2.2)
        (processTlsRecords (recorded M) s).2 (Delivers isClient returned) :=
      readTurn_delivers (fun t ht hdelivered => ih ht hdelivered) hempty (one.payloads_length _ _)
        (processTlsRecords_delivered hs)
    change Post (readTurn _ room s.isClient _ _) (processTlsRecords (recorded M) s).2 _
    rw [hs.role]
    exact hturn

theorem read_waiting (M : Rustls κ) {s : Connection κ} (hdone : s.isHandshaking = false)
    (hqueue : s.receivedAppData ≠ []) (turns room : Nat) :
    ∃ t, TlsConnection.read M turns room s = (.ok ((waiting s).take room), t) ∧
      t.isHandshaking = false ∧ waiting t = (waiting s).drop room := by
  refine ⟨(readAppData room s).2, ?_, hdone, (read_flatten room s.receivedAppData).2⟩
  unfold TlsConnection.read
  rw [run_bind_ok (ensureHandshake_done M turns hdone), observe_bind,
    if_neg (by simpa using hqueue), readAppData_run]

theorem read_delivers (hM : Silent M) (one : OneRecord M) (turns room : Nat)
    (hs : Delivered isClient returned [] s) :
    Post (TlsConnection.read (recorded M) turns room) s (Delivers isClient returned) := by
  have hgreet : Keeps (Level isClient returned) (ensureHandshake (recorded M) turns) :=
    keeps_ensureHandshake hM turns
  unfold TlsConnection.read
  refine post_bind_keeps hgreet (fun _ t _ ht => ?_) fun e t _ ht _ => (ht hs).stopped e
  rw [post_bind_observe]
  split
  · rename_i hempty
    exact readLoop_delivers one room turns (List.isEmpty_iff.mp hempty) (ht hs)
  · have hread := readAppData_delivered room (ht hs)
    unfold Post
    rw [readAppData_run] at hread ⊢
    exact fun _ => hread

end

theorem void_delivered (hm : Keeps (Level isClient r) m) (hs : Delivered isClient r [] s) :
    Post (m >>= fun _ => pure []) s fun result t =>
      Delivered isClient (r ++ bytesOf result) [] t := by
  refine post_bind_keeps hm ?_ ?_
  · intro _ t _ ht
    rw [post_pure, bytesOf, List.append_nil]
    exact ht hs
  · intro e t _ ht
    exact (ht hs).stopped e

section

variable {M : Rustls κ} (silent : Silent M) (one : OneRecord M) {isClient : Bool}

include silent one

private theorem step_delivers (hs : Delivered isClient r [] s) {call : Call}
    (hstep : (step (recorded M) s call).result ≠ .error .panicked) :
    Delivered isClient (r ++ bytesOf (step (recorded M) s call).result) []
      (step (recorded M) s call).after := by
  cases call with
  | handshake turns => exact void_delivered (keeps_ensureHandshake silent turns) hs
  | read turns room => exact read_delivers silent one turns room hs hstep
  | write turns data => exact void_delivered (keeps_write silent turns data) hs

theorem run_delivers (hs : Delivered isClient r [] s) {calls : List Call}
    (hrun : ∀ step ∈ trace (recorded M) s calls, step.result ≠ .error .panicked) :
    Delivered isClient (r ++ returned (trace (recorded M) s calls)) []
      (run (recorded M) s calls) := by
  induction calls generalizing r s with
  | nil => simpa [trace, returned, run] using hs
  | cons call calls ih =>
    rw [trace, List.forall_mem_cons] at hrun
    have hrest := ih (step_delivers silent one hs hrun.1) hrun.2
    rwa [List.append_assoc] at hrest

/-- Over a library that hands out one record at a time, what the reads of a run without a panic
return and what is waiting is everything the library has yielded, in order, and the next reads
return what is waiting. -/
theorem delivery_without_loss (k : κ) (reads writes : List (Except IoError Nat)) (incoming : Octets) (calls : List Call)
    (hrun : ∀ step ∈ trace (recorded M) (fresh isClient k reads writes incoming) calls,
      step.result ≠ .error .panicked) :
    returned (trace (recorded M) (fresh isClient k reads writes incoming) calls) ++
        waiting (run (recorded M) (fresh isClient k reads writes incoming) calls) =
      yielded (run (recorded M) (fresh isClient k reads writes incoming) calls) ∧
    ∀ s : Connection (κ × Tally), s.isHandshaking = false → s.receivedAppData ≠ [] →
      ∀ turns room, ∃ t,
        TlsConnection.read (recorded M) turns room s = (.ok ((waiting s).take room), t) ∧
          t.isHandshaking = false ∧ waiting t = (waiting s).drop room := by
  have hfresh : Delivered isClient [] [] (fresh isClient k reads writes incoming) := ⟨rfl, rfl⟩
  have hwhole := (run_delivers silent one hfresh hrun).whole
  rw [List.nil_append, List.flatten_nil, List.append_nil] at hwhole
  exact ⟨hwhole, fun s hdone hqueue turns room => read_waiting (recorded M) hdone hqueue turns room⟩

end

/-- A library that waits for bytes and then hands out these records. -/
def oneByOne : Rustls (Bool × List Octets) where
  processTlsRecords
    | (false, records), input =>
      if input.isEmpty then ((false, records), 0, .ok .blockedHandshake)
      else ((true, records), 0, .ok .writeTraffic)
    | (true, []), _ => ((true, []), 0, .ok .writeTraffic)
    | (true, record :: records), _ =>
      ((true, records), 0, .ok (.readTraffic [.ok ⟨record.length + 22, record⟩]))
  encode k _ := (k, .error .alreadyEncoded)
  done := id
  encrypt data k _ := (k, .ok data)

theorem oneByOne_status (k : Bool × List Octets) (input : Octets) :
    (∃ state, (oneByOne.processTlsRecords k input).2 = (0, .ok state) ∧
      ∀ batch, state = .readTraffic batch → batch.length ≤ 1) := by
  match k with
  | (false, records) =>
    simp only [oneByOne]
    split
    · exact ⟨_, rfl, nofun⟩
    · exact ⟨_, rfl, nofun⟩
  | (true, []) => exact ⟨_, rfl, nofun⟩
  | (true, record :: records) =>
    refine ⟨_, rfl, ?_⟩
    rintro batch ⟨⟩
    exact le_rfl

private theorem oneByOne_silent : Silent oneByOne := by
  intro k input e herror
  obtain ⟨state, hstatus, -⟩ := oneByOne_status k input
  rw [hstatus] at herror
  cases herror

private theorem oneByOne_one : OneRecord oneByOne := by
  intro k input discard batch h
  obtain ⟨state, hstatus, hone⟩ := oneByOne_status k input
  rw [hstatus] at h
  cases h
  exact hone batch rfl

def flooded : Connection ((Bool × List Octets) × Tally) :=
  fresh true (false, [List.replicate 5000 1, [2], [3]]) [.ok 6000] [] (List.replicate 5068 0)

/-- A client with a record over the limit and two short ones in one delivery. -/
theorem delivery_without_loss_flooded :
    let calls : List Call := [.read 3 4000, .read 1 8192, .read 1 8192, .read 1 8192]
    let library := recorded oneByOne
    returned (trace library flooded calls) ++ waiting (run library flooded calls) =
        yielded (run library flooded calls) ∧
      (returned (trace library flooded calls)).length = 5002 :=
  ⟨(delivery_without_loss oneByOne_silent oneByOne_one _ _ _ _ _ (by decide +kernel)).1,
    by decide +kernel⟩

end MigTd.Crypto.TlsDelivery
