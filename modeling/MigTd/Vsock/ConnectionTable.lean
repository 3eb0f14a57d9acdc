/- source: vsock/src/stream.rs
   digest: The entries of the connection table against the states of the streams. -/

import MigTd.Vsock.Delivery
import Mathlib.Data.List.Induction

set_option autoImplicit false

namespace MigTd.Vsock.ConnectionTable

open Lib.Maintained Lib.StateProgram Vsock.Alignment ByteStream Delivery Protocol Vsock.Stream
  StreamMoves Transports

variable {p : VsockAddrPair}

section

variable {τ : Type}

def HasEntry (net : Net τ) (addr : VsockAddrPair) : Prop :=
  (net.connectionPktQueues addr).isSome = true
  deriving Decidable

/-- The same connections have entries, and the same ports are in use. -/
structure SameTable (net net' : Net τ) : Prop where
  entries : ∀ addr, HasEntry net' addr ↔ HasEntry net addr
  ports : net'.usedPort = net.usedPort

instance : Std.Refl (SameTable (τ := τ)) := ⟨fun _ => ⟨fun _ => Iff.rfl, rfl⟩⟩

instance : IsTrans (Net τ) SameTable :=
  ⟨fun _ _ _ h h' => ⟨fun addr => (h'.entries addr).trans (h.entries addr), h'.ports.trans h.ports⟩⟩

theorem sameTable_update {net : Net τ} {addrs : VsockAddrPair} {queue : List Octets}
    (h : net.connectionPktQueues addrs = some queue) (new : List Octets) :
    SameTable net { net with
      connectionPktQueues := Function.update net.connectionPktQueues addrs (some new) } := by
  refine ⟨?_, rfl⟩
  intro addr
  unfold HasEntry
  by_cases haddr : addr = addrs
  · subst haddr
    simp [h]
  · simp [haddr]

private theorem sameTable_push (addrs : VsockAddrPair) (buf : Octets) (net : Net τ) :
    SameTable net (pushStreamQueues addrs buf net) := by
  unfold pushStreamQueues
  by_cases hempty : buf = []
  · rw [if_pos hempty]
    exact refl_of SameTable net
  rw [if_neg hempty]
  cases hconnection : net.connectionPktQueues addrs with
  | some queue => exact sameTable_update hconnection _
  | none =>
    cases net.bindingPktQueues addrs.localAddr with
    | some queue => exact ⟨fun _ => Iff.rfl, rfl⟩
    | none => exact refl_of SameTable net

theorem sameTable_stable (net : Net τ) : Stable (SameTable net) fun _ => True where
  host _ _ h := ⟨h.entries, h.ports⟩
  arrive _ _ _ h := ⟨h.entries, h.ports⟩
  push addrs buf t _ h := trans_of SameTable h (sameTable_push addrs buf t)
  pop addrs := by
    intro t h
    unfold popStreamQueues
    rw [post_bind_observe]
    simp only [id_eq]
    rcases hconnection : t.connectionPktQueues addrs with - | - | ⟨front, queue⟩
    · rcases t.bindingPktQueues addrs.localAddr with - | - | ⟨front, queue⟩
      · exact ⟨h, by simp⟩
      · exact ⟨h, by simp⟩
      · exact ⟨⟨h.entries, h.ports⟩, by simp⟩
    · exact ⟨h, by simp⟩
    · exact ⟨trans_of SameTable h (sameTable_update hconnection queue), by simp⟩

theorem keeps_sameTable {α : Type} {P : α → Prop} {m : NetProgram τ α}
    (h : ∀ net, Maintains (SameTable net) P m) : Keeps SameTable m :=
  ⟨fun net => (h net).state (refl_of SameTable net)⟩

structure KeepsTable (T : Transport τ) : Prop where
  enqueue : ∀ context hdr buf, Keeps SameTable (T.enqueue context hdr buf)
  dequeue : ∀ addrs context, Keeps SameTable (T.dequeue addrs context)

end

theorem vmcall_keepsTable : KeepsTable vmcall where
  enqueue context hdr buf :=
    keeps_sameTable fun net => (sameTable_stable net).vmcall_enqueue context hdr buf
  dequeue addrs context :=
    keeps_sameTable fun net => (sameTable_stable net).vmcall_dequeue addrs context

theorem virtio_keepsTable (overflowChecks : Bool) : KeepsTable (virtio overflowChecks) where
  enqueue context hdr buf :=
    keeps_sameTable fun net => (sameTable_stable net).virtio_enqueue overflowChecks context hdr buf
  dequeue addrs context :=
    keeps_sameTable fun net => (sameTable_stable net).virtio_dequeue overflowChecks addrs context

def Active (state : State) : Prop :=
  state = .requestSend ∨ state = .established ∨ state = .closing
  deriving Decidable

/-- A stream that requests no connection touches only its own entry, and keeps it in step with its
state. -/
structure Evolves {τ : Type} (s t : Socket τ) : Prop where
  addr : t.stream.addr = s.stream.addr
  ports : t.net.usedPort = s.net.usedPort
  others : ∀ p, p ≠ s.stream.addr → (HasEntry t.net p ↔ HasEntry s.net p)
  own : (HasEntry s.net s.stream.addr ↔ Active s.stream.state) →
    (HasEntry t.net s.stream.addr ↔ Active t.stream.state)

section

variable {τ : Type} {T : Transport τ} {s t u : Socket τ}

theorem Evolves.refl (s : Socket τ) : Evolves s s := ⟨rfl, rfl, fun _ _ => Iff.rfl, id⟩

theorem Evolves.trans (h : Evolves s t) (h' : Evolves t u) : Evolves s u where
  addr := h'.addr.trans h.addr
  ports := h'.ports.trans h.ports
  others p hp := (h'.others p (h.addr ▸ hp)).trans (h.others p hp)
  own hs := by
    have ht := h.own hs
    rw [← h.addr] at ht ⊢
    exact h'.own ht

theorem evolves_of_same (haddr : t.stream.addr = s.stream.addr)
    (hstate : Active t.stream.state ↔ Active s.stream.state) (htable : SameTable s.net t.net) :
    Evolves s t where
  addr := haddr
  ports := htable.ports
  others p _ := htable.entries p
  own hs := (htable.entries _).trans (hs.trans hstate.symm)

theorem closeConnection_evolves (s : Socket τ) : Evolves s (closeConnection s) where
  addr := rfl
  ports := rfl
  others p hp := by
    unfold HasEntry closeConnection removeConnection
    simp [hp]
  own _ := by
    unfold HasEntry closeConnection removeConnection Active
    simp

theorem move_evolves (hT : KeepsTable T) (h : Move T false s t) : Evolves s t := by
  have hsame : ∀ net : Net τ, SameTable net net := refl_of SameTable
  cases h with
  | bound _ allowed => cases allowed
  | listening _ allowed => cases allowed
  | accepted _ allowed => cases allowed
  | requestFailed _ allowed => cases allowed
  | requested _ allowed => cases allowed
  | unlistened hstate =>
    refine evolves_of_same rfl ?_ ⟨fun _ => Iff.rfl, rfl⟩
    change Active .closed ↔ Active s.stream.state
    rw [hstate]
    decide
  | enqueue header data =>
    exact evolves_of_same rfl Iff.rfl
      ((hT.enqueue s.stream.transportContext header.bytes data).rel s.net)
  | dequeue =>
    exact evolves_of_same rfl Iff.rfl
      ((hT.dequeue s.stream.addr s.stream.transportContext).rel s.net)
  | connected bufAlloc fwdCnt hstate =>
    refine evolves_of_same rfl ?_ (hsame _)
    change Active .established ↔ Active s.stream.state
    rw [hstate]
    decide
  | closing hstate =>
    refine evolves_of_same rfl ?_ ((hT.enqueue s.stream.transportContext _ []).rel s.net)
    change Active .closing ↔ Active s.stream.state
    rw [hstate]
    decide
  | closed hstate =>
    have hreset : Evolves s (afterReset T s) := evolves_of_same rfl Iff.rfl
      ((hT.enqueue s.stream.transportContext _ []).rel s.net)
    exact hreset.trans (closeConnection_evolves _)
  | credit bufAlloc fwdCnt => exact evolves_of_same rfl Iff.rfl (hsame _)
  | received packet => exact evolves_of_same rfl Iff.rfl (hsame _)
  | payload _ dataLen buffer _ outcome =>
    refine outcome.preserves (I := Evolves s) ?_ ?_ ?_ ?_
    · exact evolves_of_same rfl Iff.rfl (hsame _)
    · exact fun u hu => hu.trans (evolves_of_same rfl Iff.rfl (hsame _))
    · exact fun u hu => hu.trans (evolves_of_same rfl Iff.rfl
        ((hT.enqueue u.stream.transportContext _ []).rel u.net))
    · exact fun u hu => hu.trans (evolves_of_same rfl Iff.rfl (hsame _))
  | sent n => exact evolves_of_same rfl Iff.rfl (hsame _)
  | drained room => exact evolves_of_same rfl Iff.rfl (hsame _)

theorem moves_evolves (hT : KeepsTable T) (h : Moves T false s t) : Evolves s t := by
  induction h with
  | refl => exact .refl s
  | tail _ hlast ih => exact ih.trans (move_evolves hT hlast)

/-- A stream behind a `connect` that its state allowed. -/
structure Requested (remote : VsockAddr) (s t : Socket τ) : Prop where
  addr : t.stream.addr = { s.stream.addr with remoteAddr := remote }
  ports : t.net.usedPort = s.net.usedPort
  entries : ∀ p, HasEntry t.net p ↔
    p = { s.stream.addr with remoteAddr := remote } ∨ HasEntry s.net p

private theorem afterRequest_requested (hT : KeepsTable T) (addr : VsockAddr) (s : Socket τ) :
    Requested addr s (afterRequest T addr s) := by
  have hkept := (hT.enqueue s.stream.transportContext (request addr s).bytes []).rel
    (startConnection addr s).net
  refine ⟨rfl, hkept.ports, fun p => (hkept.entries p).trans ?_⟩
  unfold HasEntry startConnection addConnection
  by_cases hp : p = { s.stream.addr with remoteAddr := addr }
  · subst hp
    simp
  · simp [hp]

theorem connect_closed (hT : KeepsTable T) (addr : VsockAddr) (s : Socket τ)
    (hstate : s.stream.state = .closed) : Requested addr s (connect T addr s).2 ∧
      ((connect T addr s).1 = .ok () ↔
        takes T (startConnection addr s) (request addr s) [] = true ∧
        ∃ answer, Answers T (afterRequest T addr s) answer ∧
          Accepts (startConnection addr s).stream answer) ∧
      ((connect T addr s).1 = .ok () → (connect T addr s).2.stream.state = .established) := by
  have hfirst := afterRequest_requested hT addr s
  have hkept := (hT.dequeue { s.stream.addr with remoteAddr := addr }
    s.stream.transportContext).rel (afterRequest T addr s).net
  have hsecond : Requested addr s
      (afterDequeue T (setState .requestSend (afterRequest T addr s))) :=
    ⟨rfl, hkept.ports.trans hfirst.ports, fun p => (hkept.entries p).trans (hfirst.entries p)⟩
  have houtcome : ConnectOutcome T addr s (connect T addr s).1 (connect T addr s).2 :=
    connect_post T addr s
  generalize connect T addr s = out at houtcome ⊢
  obtain ⟨r, t⟩ := out
  cases houtcome with
  | refusedHere hother => exact absurd hstate hother
  | unsent _ hrefused => exact ⟨hfirst, by simp [hrefused], nofun⟩
  | unanswered _ _ hnone =>
    refine ⟨hsecond, iff_of_false nofun ?_, nofun⟩
    rintro ⟨-, answer, hanswers, haccepts⟩
    exact hnone answer hanswers haccepts
  | established _ htaken answer hanswers haccepts =>
    exact ⟨⟨hsecond.addr, hsecond.ports, hsecond.entries⟩,
      iff_of_true rfl ⟨htaken, answer, hanswers, haccepts⟩, fun _ => rfl⟩

theorem connect_refused (addr : VsockAddr) (s : Socket τ) (hstate : s.stream.state ≠ .closed) :
    (connect T addr s).2 = s := by
  have houtcome : ConnectOutcome T addr s (connect T addr s).1 (connect T addr s).2 :=
    connect_post T addr s
  generalize connect T addr s = out at houtcome ⊢
  obtain ⟨r, t⟩ := out
  cases houtcome with
  | refusedHere => rfl
  | unsent hclosed => exact absurd hclosed hstate
  | unanswered hclosed => exact absurd hclosed hstate
  | established hclosed => exact absurd hclosed hstate

end

section

variable {τ : Type} {T : Transport τ} {w : World τ} {i : Nat} {e e' : Endpoint} {net : Net τ}

def IsClient : Op → Prop
  | .newWithCid .. => True
  | .call _ (.connect _) => True
  | .call _ (.send ..) => True
  | .call _ (.recv ..) => True
  | .call _ .shutdown => True
  | .call _ _ => False

def HasStream (w : World τ) (p : VsockAddrPair) : Prop :=
  ∃ e ∈ w.ends, e.stream.addr = p ∧ Active e.stream.state

/-- The table has an entry for exactly the addresses of active streams. -/
def Matches (w : World τ) : Prop := ∀ p, HasEntry w.net p ↔ HasStream w p

def ports (w : World τ) : List UInt32 := w.ends.map fun e => e.stream.addr.localAddr.port

/-- The streams have ports of their own, and these are in use. -/
structure OwnPorts (w : World τ) : Prop where
  used : ∀ port ∈ ports w, port ∈ w.net.usedPort
  distinct : (ports w).Nodup

def HasOther (w : World τ) (i : Nat) (p : VsockAddrPair) : Prop :=
  ∃ (j : Nat) (f : Endpoint), j ≠ i ∧ w.ends[j]? = some f ∧ f.stream.addr = p ∧
    Active f.stream.state

theorem hasStream_split (hi : w.ends[i]? = some e) :
    HasStream w p ↔ (e.stream.addr = p ∧ Active e.stream.state) ∨ HasOther w i p := by
  constructor
  · rintro ⟨f, hf, haddr, hactive⟩
    obtain ⟨j, hj⟩ := List.mem_iff_getElem?.mp hf
    by_cases hij : j = i
    · subst hij
      cases hi.symm.trans hj
      exact .inl ⟨haddr, hactive⟩
    · exact .inr ⟨j, f, hij, hj, haddr, hactive⟩
  · rintro (⟨haddr, hactive⟩ | ⟨j, f, -, hj, haddr, hactive⟩)
    · exact ⟨e, List.mem_of_getElem? hi, haddr, hactive⟩
    · exact ⟨f, List.mem_of_getElem? hj, haddr, hactive⟩

theorem getElem?_ports (hi : w.ends[i]? = some e) :
    (ports w)[i]? = some e.stream.addr.localAddr.port := by
  rw [ports, List.getElem?_map, hi]
  rfl

theorem OwnPorts.not_hasOther (h : OwnPorts w) (hi : w.ends[i]? = some e)
    (hp : p.localAddr.port = e.stream.addr.localAddr.port) : ¬HasOther w i p := by
  rintro ⟨j, f, hne, hj, rfl, -⟩
  have hlt := (List.getElem?_eq_some_iff.mp (getElem?_ports hj)).1
  refine hne ((List.getElem?_inj hlt h.distinct).mp ?_)
  rw [getElem?_ports hj, getElem?_ports hi, hp]

def World.socket (w : World τ) (e : Endpoint) : Socket τ := ⟨e.stream, e.log, w.net⟩

def put (w : World τ) (i : Nat) (e : Endpoint) (net : Net τ) : World τ := ⟨w.ends.set i e, net⟩

theorem getElem?_put_self (hi : w.ends[i]? = some e) : (put w i e' net).ends[i]? = some e' := by
  have hlt : i < w.ends.length := (List.getElem?_eq_some_iff.mp hi).1
  exact List.getElem?_set_self hlt

theorem getElem?_put_of_ne {j : Nat} (hij : j ≠ i) : (put w i e' net).ends[j]? = w.ends[j]? :=
  List.getElem?_set_ne (Ne.symm hij)

theorem hasOther_put : HasOther (put w i e' net) i p ↔ HasOther w i p := by
  constructor
  · rintro ⟨j, f, hij, hj, hrest⟩
    exact ⟨j, f, hij, (getElem?_put_of_ne hij).symm.trans hj, hrest⟩
  · rintro ⟨j, f, hij, hj, hrest⟩
    exact ⟨j, f, hij, (getElem?_put_of_ne hij).trans hj, hrest⟩

theorem OwnPorts.put (h : OwnPorts w) (hi : w.ends[i]? = some e)
    (hport : e'.stream.addr.localAddr.port = e.stream.addr.localAddr.port)
    (hused : net.usedPort = w.net.usedPort) : OwnPorts (put w i e' net) := by
  have hsame : ports (ConnectionTable.put w i e' net) = ports w := by
    refine List.ext_getElem? fun j => ?_
    by_cases hij : j = i
    · rw [hij, getElem?_ports (getElem?_put_self hi), getElem?_ports hi, hport]
    · simp only [ports, List.getElem?_map, getElem?_put_of_ne hij]
  exact ⟨by rw [hsame, ConnectionTable.put, hused]; exact h.used, by rw [hsame]; exact h.distinct⟩

theorem Matches.own (h : Matches w) (hports : OwnPorts w) (hi : w.ends[i]? = some e) :
    HasEntry w.net e.stream.addr ↔ Active e.stream.state := by
  rw [h, hasStream_split hi]
  simp [hports.not_hasOther hi rfl]

theorem matches_evolves (h : Matches w) (hports : OwnPorts w) (hi : w.ends[i]? = some e)
    {t : Socket τ} (hevolves : Evolves (World.socket w e) t) :
    Matches (put w i ⟨t.stream, t.log⟩ t.net) := by
  intro p
  change HasEntry t.net p ↔ _
  rw [hasStream_split (getElem?_put_self hi), hasOther_put, hevolves.addr]
  by_cases hp : e.stream.addr = p
  · subst hp
    have hown := hevolves.own (h.own hports hi)
    simpa [World.socket, hports.not_hasOther hi rfl] using hown
  · have hkept := hevolves.others p (Ne.symm hp)
    refine hkept.trans ((h p).trans ?_)
    rw [hasStream_split hi]
    simp [World.socket, hp]

theorem matches_requested (h : Matches w) (hi : w.ends[i]? = some e)
    (hclosed : e.stream.state = .closed) {remote : VsockAddr} {t : Socket τ}
    (hrequested : Requested remote (World.socket w e) t) (hstate : t.stream.state = .established) :
    Matches (put w i ⟨t.stream, t.log⟩ t.net) := by
  have hidle : ¬Active e.stream.state := by
    rw [hclosed]
    decide
  have hactive : Active t.stream.state := .inr (.inl hstate)
  intro p
  change HasEntry t.net p ↔ _
  rw [hasStream_split (getElem?_put_self hi), hasOther_put, hrequested.addr, hrequested.entries]
  have hold : HasEntry (World.socket w e).net p ↔ HasStream w p := h p
  rw [hold, hasStream_split hi]
  simp [hidle, hactive, eq_comm]

/-- The request of a `connect` is taken and answered by a response to it, and the packet that
answers a `shutdown` is an RST. -/
def CallAnswered (T : Transport τ) (w : World τ) : Op → Prop
  | .call i (.connect addr) => ∀ e, w.ends[i]? = some e → e.stream.state = .closed →
      takes T (startConnection addr (World.socket w e)) (request addr (World.socket w e)) [] = true ∧
      ∃ answer, Answers T (afterRequest T addr (World.socket w e)) answer ∧
        Accepts (startConnection addr (World.socket w e)).stream answer
  | .call i .shutdown => ∀ e, w.ends[i]? = some e → e.stream.state = .established →
      takes T (World.socket w e) (VsockStream.shutdownHeader e.stream) [] = true →
      ∀ answer, Answers T (afterShutdown T (World.socket w e)) answer → Packet.op answer = OP_RST
  | _ => True

private theorem skipUsed_unused {used : List UInt32} {turns : Nat} {port free : UInt32}
    (h : skipUsed used turns port = some free) : free ∉ used := by
  induction turns generalizing port with
  | zero => cases h
  | succ turns ih =>
    unfold skipUsed at h
    by_cases hused : port ∈ used
    · rw [if_pos hused] at h
      split at h
      · exact ih h
      · cases h
    · rw [if_neg hused] at h
      cases h
      exact hused

theorem getUnusedPort_unused {used : List UInt32} {counter port : UInt32}
    (h : getUnusedPort used counter = some port) : port ∉ used := by
  unfold getUnusedPort at h
  split at h
  · exact skipUsed_unused h
  · cases h

theorem ownPorts_snoc {ends : List Endpoint} (h : OwnPorts ⟨ends, net⟩) {net' : Net τ}
    {fresh : Endpoint} (hfresh : fresh.stream.addr.localAddr.port ∉ net.usedPort)
    (hused : net'.usedPort = fresh.stream.addr.localAddr.port :: net.usedPort) :
    OwnPorts ⟨ends ++ [fresh], net'⟩ := by
  have hports : ports ⟨ends ++ [fresh], net'⟩ =
      ports ⟨ends, net⟩ ++ [fresh.stream.addr.localAddr.port] := List.map_append
  constructor
  · rw [hports, hused]
    intro port hport
    rcases List.mem_append.mp hport with hold | hnew
    · exact List.mem_cons_of_mem _ (h.used port hold)
    · rw [List.mem_singleton.mp hnew]
      exact List.mem_cons_self
  · rw [hports, List.nodup_append]
    refine ⟨h.distinct, List.pairwise_singleton _ _, ?_⟩
    rintro port hport _ hnew rfl
    rw [List.mem_singleton.mp hnew] at hport
    exact hfresh (h.used _ hport)

theorem newWithCid_step (overflowChecks : Bool) (cid context : UInt64) (hports : OwnPorts w) :
    OwnPorts (step T overflowChecks w (.newWithCid cid context)) ∧
      (Matches w → Matches (step T overflowChecks w (.newWithCid cid context))) := by
  simp only [step]
  rcases newWithCid_cases cid context w.net with ⟨_, heq⟩ | ⟨port, hport, heq⟩
  · rw [heq]
    exact ⟨hports, id⟩
  · rw [heq]
    refine ⟨ownPorts_snoc hports (getUnusedPort_unused hport) rfl, ?_⟩
    intro h p
    refine (h p).trans ?_
    constructor
    · rintro ⟨e, he, haddr, hactive⟩
      exact ⟨e, List.mem_append_left _ he, haddr, hactive⟩
    · rintro ⟨e, he, haddr, hactive⟩
      rcases List.mem_append.mp he with hold | hfresh
      · exact ⟨e, hold, haddr, hactive⟩
      · rw [List.mem_singleton.mp hfresh] at hactive
        exact absurd hactive (by change ¬Active .closed; decide)

variable {overflowChecks : Bool}

theorem step_call {c : Call} (hi : w.ends[i]? = some e)
    (hnone : (invoke T overflowChecks c (World.socket w e)).2 = none) :
    step T overflowChecks w (.call i c) =
      put w i ⟨(invoke T overflowChecks c (World.socket w e)).1.stream,
        (invoke T overflowChecks c (World.socket w e)).1.log⟩
        (invoke T overflowChecks c (World.socket w e)).1.net := by
  unfold World.socket at hnone ⊢
  simp only [step, hi, hnone]
  simp [put]

theorem evolves_step {c : Call} (hT : KeepsTable T) (hports : OwnPorts w)
    (hnone : ∀ s, (invoke T overflowChecks c s).2 = none)
    (hmoves : ∀ s, Moves T false s (invoke T overflowChecks c s).1) :
    OwnPorts (step T overflowChecks w (.call i c)) ∧ (Matches w →
      CallAnswered T w (.call i c) → Matches (step T overflowChecks w (.call i c))) := by
  cases hi : w.ends[i]? with
  | none =>
    simp only [step, hi]
    exact ⟨hports, fun h _ => h⟩
  | some e =>
    rw [step_call hi (hnone _)]
    have hevolves := moves_evolves hT (hmoves (World.socket w e))
    have hport := congrArg (fun a => a.localAddr.port) hevolves.addr
    exact ⟨hports.put hi hport hevolves.ports, fun h _ => matches_evolves h hports hi hevolves⟩

theorem connect_step {addr : VsockAddr} (hT : KeepsTable T) (hports : OwnPorts w) :
    OwnPorts (step T overflowChecks w (.call i (.connect addr))) ∧
      (Matches w → CallAnswered T w (.call i (.connect addr)) →
        Matches (step T overflowChecks w (.call i (.connect addr)))) := by
  cases hi : w.ends[i]? with
  | none =>
    simp only [step, hi]
    exact ⟨hports, fun h _ => h⟩
  | some e =>
    have hinvoke : (invoke T overflowChecks (.connect addr) (World.socket w e)).1 =
        (connect T addr (World.socket w e)).2 := rfl
    rw [step_call hi rfl, hinvoke]
    by_cases hclosed : e.stream.state = .closed
    · obtain ⟨hrequested, hreturns, hstate⟩ := connect_closed hT addr (World.socket w e) hclosed
      have hport := congrArg (fun a => a.localAddr.port) hrequested.addr
      refine ⟨hports.put hi hport hrequested.ports, fun h hanswered => ?_⟩
      exact matches_requested h hi hclosed hrequested
        (hstate (hreturns.mpr (hanswered e hi hclosed)))
    · rw [connect_refused addr (World.socket w e) hclosed]
      exact ⟨hports.put hi rfl rfl, fun h _ => matches_evolves h hports hi (.refl _)⟩

theorem client_step (hT : KeepsTable T) (overflowChecks : Bool) {op : Op} (hop : IsClient op)
    (hports : OwnPorts w) :
    OwnPorts (step T overflowChecks w op) ∧
      (Matches w → CallAnswered T w op → Matches (step T overflowChecks w op)) := by
  cases op with
  | newWithCid cid context =>
    have hstep := newWithCid_step (T := T) overflowChecks cid context hports
    exact ⟨hstep.1, fun h _ => hstep.2 h⟩
  | call i c =>
    cases c with
    | bind addr => exact hop.elim
    | listen backlog => exact hop.elim
    | accept => exact hop.elim
    | connect addr => exact connect_step hT hports
    | send turns buf =>
      exact evolves_step hT hports (fun _ => rfl) (keeps_send T false overflowChecks turns buf).rel
    | recv turns room =>
      exact evolves_step hT hports (fun _ => rfl) (keeps_recv T false turns room).rel
    | shutdown => exact evolves_step hT hports (fun _ => rfl) (keeps_shutdown T false).rel

theorem initial_matches (host : τ) :
    OwnPorts (World.initial host) ∧ Matches (World.initial host) := by
  refine ⟨⟨List.forall_mem_nil _, List.nodup_nil⟩, fun p => ?_⟩
  refine iff_of_false (fun h => by cases h) ?_
  rintro ⟨e, he, -⟩
  cases he

end

section

variable {τ : Type} {T : Transport τ} {overflowChecks : Bool} {w : World τ} {i : Nat}
  {e : Endpoint} {s t : Socket τ}

/-- A `connect` that fails leaves no entry that it did not find, and a `shutdown` that returns
leaves none for its stream. -/
def CallKept (T : Transport τ) (overflowChecks : Bool) (w : World τ) : Op → Prop
  | .call i (.connect addr) => ∀ e, w.ends[i]? = some e →
      (connect T addr (World.socket w e)).1 ≠ .ok () →
      ∀ p, HasEntry (step T overflowChecks w (.call i (.connect addr))).net p → HasEntry w.net p
  | .call i .shutdown => ∀ e, w.ends[i]? = some e →
      (shutdown T (World.socket w e)).1 = .ok () →
      ¬HasEntry (step T overflowChecks w (.call i .shutdown)).net e.stream.addr
  | _ => True

theorem Matches.no_entry (h : Matches w) (hports : OwnPorts w) (hi : w.ends[i]? = some e)
    (hclosed : e.stream.state = .closed) (addr : VsockAddr) :
    ¬HasEntry w.net { e.stream.addr with remoteAddr := addr } := by
  rw [h, hasStream_split hi]
  rintro (⟨-, hactive⟩ | hother)
  · rw [hclosed] at hactive
    exact absurd hactive (by decide)
  · exact hports.not_hasOther (p := { e.stream.addr with remoteAddr := addr }) hi rfl hother

theorem connect_kept_iff {addr : VsockAddr} (hT : KeepsTable T) (hports : OwnPorts w)
    (h : Matches w) : CallKept T overflowChecks w (.call i (.connect addr)) ↔
      CallAnswered T w (.call i (.connect addr)) := by
  cases hi : w.ends[i]? with
  | none => simp [CallKept, CallAnswered, hi]
  | some e =>
    have hnet : (step T overflowChecks w (.call i (.connect addr))).net =
        (connect T addr (World.socket w e)).2.net := by
      rw [step_call hi rfl]
      rfl
    simp only [CallKept, CallAnswered, hi, Option.some.injEq, forall_eq', hnet]
    by_cases hclosed : e.stream.state = .closed
    · obtain ⟨hrequested, hreturns, -⟩ := connect_closed hT addr (World.socket w e) hclosed
      rw [← hreturns]
      constructor
      · intro hkept _
        by_contra hfails
        exact h.no_entry hports hi hclosed addr
          (hkept hfails _ ((hrequested.entries _).mpr (.inl rfl)))
      · intro hok hfails
        exact absurd (hok hclosed) hfails
    · rw [connect_refused addr (World.socket w e) hclosed]
      exact iff_of_true (fun _ _ hp => hp) fun hstate => absurd hstate hclosed

theorem shutdown_established (hstate : s.stream.state = .established) :
    Post (shutdown T) s fun r t =>
      (takes T s (VsockStream.shutdownHeader s.stream) [] = false ∧ r ≠ .ok ()) ∨
      takes T s (VsockStream.shutdownHeader s.stream) [] = true ∧
        ResetOutcome T (setState .closing (afterShutdown T s)) r t := by
  unfold shutdown
  rw [post_bind_observe, if_neg (by rw [hstate]; decide), if_pos hstate]
  refine post_enqueue (fun _ htaken _ => ?_) fun e hrefused => .inl ⟨hrefused, nofun⟩
  rw [post_bind_update]
  exact (reset_post T (s := setState .closing (afterShutdown T s)) rfl).mono
    fun r t houtcome => .inr ⟨htaken, houtcome⟩

theorem shutdown_listening (hstate : s.stream.state ≠ .established)
    (hreturns : (shutdown T s).1 = .ok ()) : s.stream.state = .listening ∧
      (shutdown T s).2.net.connectionPktQueues = s.net.connectionPktQueues := by
  unfold shutdown at hreturns ⊢
  rw [observe_bind, if_neg hstate] at hreturns ⊢
  by_cases hlistening : s.stream.state = .listening
  · rw [if_pos hlistening]
    exact ⟨hlistening, rfl⟩
  · rw [if_neg hlistening] at hreturns
    cases hreturns

theorem afterShutdown_entry (hT : KeepsTable T) (s : Socket τ) (p : VsockAddrPair) :
    HasEntry (afterDequeue T (setState .closing (afterShutdown T s))).net p ↔ HasEntry s.net p :=
  (((hT.dequeue _ _).rel _).entries p).trans (((hT.enqueue _ _ _).rel _).entries p)

theorem shutdown_kept_iff (hT : KeepsTable T) (hports : OwnPorts w) (h : Matches w) :
    CallKept T overflowChecks w (.call i .shutdown) ↔ CallAnswered T w (.call i .shutdown) := by
  cases hi : w.ends[i]? with
  | none => simp [CallKept, CallAnswered, hi]
  | some e =>
    have hnet : (step T overflowChecks w (.call i .shutdown)).net =
        (shutdown T (World.socket w e)).2.net := by
      rw [step_call hi rfl]
      rfl
    have hown := h.own hports hi
    simp only [CallKept, CallAnswered, hi, Option.some.injEq, forall_eq', hnet]
    by_cases hstate : e.stream.state = .established
    · have hentry : HasEntry w.net e.stream.addr := hown.mpr (by rw [hstate]; decide)
      have houtcome : _ ∨ _ := shutdown_established (T := T) (s := World.socket w e) hstate
      generalize shutdown T (World.socket w e) = out at houtcome ⊢
      obtain ⟨r, t⟩ := out
      rcases houtcome with ⟨hrefused, hfails⟩ | ⟨htaken, houtcome⟩
      · refine iff_of_true (fun hr => absurd hr hfails) fun _ htaken => ?_
        cases hrefused.symm.trans htaken
      cases houtcome with
      | unanswered hnone =>
        exact iff_of_true nofun fun _ _ answer hanswer => absurd hanswer (hnone answer)
      | stays answer hanswers hother =>
        refine iff_of_false (fun hkept => ?_) fun hall => hother (hall hstate htaken answer hanswers)
        exact hkept rfl ((afterShutdown_entry hT (World.socket w e) _).mpr hentry)
      | unclosed answer hanswers hrst =>
        refine iff_of_true nofun fun _ _ other hother => ?_
        rw [Answers.unique T hother hanswers]
        exact hrst
      | closed answer hanswers hrst =>
        refine iff_of_true (fun _ => ?_) fun _ _ other hother => ?_
        · unfold HasEntry removeConnection
          simp [afterReset, afterEnqueue, afterDequeue, setState, withStream, afterShutdown,
            World.socket]
        · rw [Answers.unique T hother hanswers]
          exact hrst
    · refine iff_of_true (fun hreturns => ?_) fun hestablished => absurd hestablished hstate
      obtain ⟨hlistening, hqueues⟩ := shutdown_listening (s := World.socket w e) hstate hreturns
      have hlistens : e.stream.state = .listening := hlistening
      unfold HasEntry
      rw [hqueues]
      refine fun hentry => absurd (hown.mp hentry) ?_
      rw [hlistens]
      decide

theorem calls_kept_iff (hT : KeepsTable T) (hports : OwnPorts w) (h : Matches w) (op : Op) :
    CallKept T overflowChecks w op ↔ CallAnswered T w op := by
  cases op with
  | newWithCid => exact Iff.rfl
  | call i c =>
    cases c with
    | connect addr => exact connect_kept_iff hT hports h
    | shutdown => exact shutdown_kept_iff hT hports h
    | bind => exact Iff.rfl
    | listen => exact Iff.rfl
    | accept => exact Iff.rfl
    | send => exact Iff.rfl
    | recv => exact Iff.rfl

/-- The last thing that happened to the stream is that an RST came in while it was established. -/
def lastRst (log : List StreamEvent) : Bool :=
  match log.getLast? with
  | some (.received .established packet) => Packet.op packet == OP_RST
  | _ => false

/-- Such a stream is closed and has no entry. -/
def RstCloses (w : World τ) : Prop :=
  ∀ e ∈ w.ends, lastRst e.log = true →
    e.stream.state = .closed ∧ ¬HasEntry w.net e.stream.addr

def RstStays (e : Endpoint) : Prop := lastRst e.log = true → e.stream.state = .established

theorem rstStays_snoc {stream : VsockStream} {log : List StreamEvent} {event : StreamEvent}
    (h : ∀ packet, event = .received .established packet → stream.state = .established) :
    RstStays ⟨stream, log ++ [event]⟩ := by
  intro hlast
  simp only [lastRst, List.getLast?_concat] at hlast
  split at hlast
  · next packet hevent => exact h packet (Option.some.inj hevent)
  · cases hlast

theorem rstStays_move (s t : Socket τ) (hmove : Move T true s t)
    (h : RstStays ⟨s.stream, s.log⟩) : RstStays ⟨t.stream, t.log⟩ := by
  cases hmove with
  | bound => exact h
  | listening _ _ hstate => exact fun hlast => absurd (h hlast) (by rw [hstate]; decide)
  | accepted => exact h
  | requestFailed => exact rstStays_snoc fun _ => nofun
  | requested => exact rstStays_snoc fun _ => nofun
  | unlistened hstate => exact fun hlast => absurd (h hlast) (by rw [hstate]; decide)
  | enqueue => exact rstStays_snoc fun _ => nofun
  | dequeue => exact h
  | connected => exact rstStays_snoc fun _ => nofun
  | closing => exact rstStays_snoc fun _ => nofun
  | closed => exact rstStays_snoc fun _ => nofun
  | credit => exact rstStays_snoc fun _ => nofun
  | received packet =>
    refine rstStays_snoc fun _ hevent => ?_
    exact (StreamEvent.received.inj hevent).1
  | payload _ _ _ _ outcome =>
    refine outcome.preserves (I := fun u => RstStays ⟨u.stream, u.log⟩) ?_ ?_ ?_ ?_
    · exact rstStays_snoc fun _ => nofun
    · exact fun _ hu => hu
    · exact fun _ _ => rstStays_snoc fun _ => nofun
    · exact fun _ hu => hu
  | sent => exact rstStays_snoc fun _ => nofun
  | drained => exact rstStays_snoc fun _ => nofun

theorem rstCloses_iff (host : τ) (ops : List Op) :
    RstCloses (run T overflowChecks (.initial host) ops) ↔
      ∀ e ∈ (run T overflowChecks (.initial host) ops).ends, lastRst e.log = false := by
  have hstays := run_endpoints (T := T) (P := RstStays) (fun _ _ => nofun) (fun _ _ _ => nofun)
    rstStays_move overflowChecks host ops
  constructor
  · intro hcloses e he
    by_contra hlast
    have hrst : lastRst e.log = true := by simpa using hlast
    have hclosed := (hcloses e he hrst).1
    rw [hstays e he hrst] at hclosed
    cases hclosed
  · intro hnone e he hlast
    cases (hnone e he).symm.trans hlast

end

section

variable {τ : Type} (T : Transport τ) (overflowChecks : Bool) (host : τ) (ops : List Op)

/-- Throughout a run the table matches the states of the streams, an RST on an established stream
closes it, a `connect` that fails leaves no entry and a `shutdown` that returns leaves none. -/
structure Consistent : Prop where
  table : ∀ before, before <+: ops → Matches (run T overflowChecks (.initial host) before)
  rst : ∀ before, before <+: ops → RstCloses (run T overflowChecks (.initial host) before)
  calls : ∀ before op, before ++ [op] <+: ops →
    CallKept T overflowChecks (run T overflowChecks (.initial host) before) op

/-- The transport takes every request, the peer answers requests with responses and shutdowns with
an RST, and no RST comes in on an established stream. -/
structure Cooperative : Prop where
  answered : ∀ before op, before ++ [op] <+: ops →
    CallAnswered T (run T overflowChecks (.initial host) before) op
  noRst : ∀ before, before <+: ops →
    ∀ e ∈ (run T overflowChecks (.initial host) before).ends, lastRst e.log = false

variable {T overflowChecks host ops}

theorem run_ownPorts (hT : KeepsTable T) (hops : ∀ op ∈ ops, IsClient op) :
    OwnPorts (run T overflowChecks (.initial host) ops) :=
  run_invariant (I := OwnPorts) (initial_matches host).1 fun _ op hop hw =>
    (client_step hT overflowChecks (hops op hop) hw).1

theorem matches_throughout (hT : KeepsTable T) (hops : ∀ op ∈ ops, IsClient op)
    (h : ∀ before op, before ++ [op] <+: ops →
      CallAnswered T (run T overflowChecks (.initial host) before) op) (before : List Op)
    (hpre : before <+: ops) : Matches (run T overflowChecks (.initial host) before) := by
  induction before using List.reverseRecOn with
  | nil => exact (initial_matches host).2
  | append_singleton before op ih =>
    have hbefore : before <+: ops := (List.prefix_append before [op]).trans hpre
    have hports : OwnPorts (run T overflowChecks (.initial host) before) :=
      run_ownPorts hT fun o ho => hops o (hbefore.subset ho)
    rw [run_snoc]
    exact (client_step hT overflowChecks (hops op (hpre.subset (by simp))) hports).2 (ih hbefore)
      (h before op hpre)

theorem consistent_iff (hT : KeepsTable T) (hops : ∀ op ∈ ops, IsClient op) :
    Consistent T overflowChecks host ops ↔ Cooperative T overflowChecks host ops := by
  have hcalls : (∀ before, before <+: ops → Matches (run T overflowChecks (.initial host) before)) →
      ∀ before op, before ++ [op] <+: ops →
        (CallKept T overflowChecks (run T overflowChecks (.initial host) before) op ↔
          CallAnswered T (run T overflowChecks (.initial host) before) op) := by
    intro hmatches before op hpre
    have hbefore : before <+: ops := (List.prefix_append before [op]).trans hpre
    exact calls_kept_iff hT (run_ownPorts hT fun o ho => hops o (hbefore.subset ho))
      (hmatches before hbefore) op
  constructor
  · intro h
    refine ⟨fun before op hpre => (hcalls h.table before op hpre).mp (h.calls before op hpre), ?_⟩
    intro before hpre
    exact (rstCloses_iff host before).mp (h.rst before hpre)
  · intro h
    have htable := matches_throughout hT hops h.answered
    refine ⟨htable, fun before hpre => (rstCloses_iff host before).mpr (h.noRst before hpre), ?_⟩
    intro before op hpre
    exact (hcalls htable before op hpre).mpr (h.answered before op hpre)

end

/-- Over any transport that leaves the table alone, and so over both of them: the table matches the
states of the streams throughout a run, and failed connects, resets and shutdowns leave no entry
behind, exactly if every request is taken and answered by a response, no RST comes in on an
established stream and the answer to each shutdown is an RST. -/
theorem connection_table_iff (overflowChecks : Bool) :
    KeepsTable vmcall ∧ KeepsTable (virtio overflowChecks) ∧
    ∀ (τ : Type) (T : Transport τ), KeepsTable T → ∀ (host : τ) (ops : List Op),
      (∀ op ∈ ops, IsClient op) →
        (Consistent T overflowChecks host ops ↔ Cooperative T overflowChecks host ops) :=
  ⟨vmcall_keepsTable, virtio_keepsTable overflowChecks, fun _ _ hT _ _ => consistent_iff hT⟩

def pair : VsockAddrPair := ⟨⟨33, 40001⟩, ⟨2, 1234⟩⟩

def answered : List Vmcall.ServiceCall :=
  [served Vmcall.COMMAND_SEND [], served Vmcall.COMMAND_RECV (fromPeer OP_RESPONSE 0 64 0)]

def session : List Op := [.newWithCid 33 7, .call 0 (.connect ⟨2, 1234⟩), .call 0 .shutdown]

/-- The peer answers the request with a response and the shutdown with an RST. -/
def friendly : List Vmcall.ServiceCall :=
  answered ++ [served Vmcall.COMMAND_SEND [], served Vmcall.COMMAND_RECV (fromPeer OP_RST 0 64 0),
    served Vmcall.COMMAND_SEND []]

/-- The worlds in which the stream connects and shuts down. -/
def beforeConnect : World (List Vmcall.ServiceCall) :=
  run vmcall false (.initial friendly) (session.take 1)

def beforeShutdown : World (List Vmcall.ServiceCall) :=
  run vmcall false (.initial friendly) (session.take 2)

theorem friendly_answers :
    (∀ k < 4, ∀ e ∈ (run vmcall false (.initial friendly) (session.take k)).ends,
      lastRst e.log = false) ∧
    (∀ e ∈ beforeConnect.ends,
      takes vmcall (startConnection ⟨2, 1234⟩ (World.socket beforeConnect e))
        (request ⟨2, 1234⟩ (World.socket beforeConnect e)) [] = true ∧
      Answers vmcall (afterRequest vmcall ⟨2, 1234⟩ (World.socket beforeConnect e))
        (fromPeer OP_RESPONSE 0 64 0) ∧
      Accepts (startConnection ⟨2, 1234⟩ (World.socket beforeConnect e)).stream
        (fromPeer OP_RESPONSE 0 64 0)) ∧
    (∀ e ∈ beforeShutdown.ends,
      Answers vmcall (afterShutdown vmcall (World.socket beforeShutdown e))
        (fromPeer OP_RST 0 64 0)) ∧
    (run vmcall false (.initial friendly) session).ends.map (fun e => e.stream.state) =
      [.closed] := by
  decide +kernel

theorem friendly_cooperative : Cooperative vmcall false friendly session := by
  obtain ⟨hrst, hconnect, hshutdown, -⟩ := friendly_answers
  refine ⟨fun before op hpre => ?_, fun before hpre => ?_⟩
  · rcases before with - | ⟨first, - | ⟨second, - | ⟨third, rest⟩⟩⟩
    · obtain ⟨rfl, -⟩ := List.cons_prefix_cons.mp hpre
      trivial
    · obtain ⟨hfirst, hrest⟩ := List.cons_prefix_cons.mp hpre
      obtain ⟨rfl, -⟩ := List.cons_prefix_cons.mp hrest
      subst hfirst
      intro e hi _
      obtain ⟨htaken, hanswers, haccepts⟩ := hconnect e (List.mem_of_getElem? hi)
      exact ⟨htaken, _, hanswers, haccepts⟩
    · obtain ⟨hfirst, hrest⟩ := List.cons_prefix_cons.mp hpre
      obtain ⟨hsecond, hlast⟩ := List.cons_prefix_cons.mp hrest
      obtain ⟨rfl, -⟩ := List.cons_prefix_cons.mp hlast
      subst hfirst hsecond
      intro e hi _ _ answer hanswer
      rw [Answers.unique vmcall hanswer (hshutdown e (List.mem_of_getElem? hi))]
      decide
    · have hlength := hpre.length_le
      simp only [session, List.length_append, List.length_cons, List.length_nil] at hlength
      omega
  · have hlength : before.length < 4 := Nat.lt_succ_of_le hpre.length_le
    rw [List.prefix_iff_eq_take.mp hpre]
    exact hrst _ hlength

theorem connection_table_iff_session : (∀ op ∈ session, IsClient op) ∧
    Cooperative vmcall false friendly session ∧ Consistent vmcall false friendly session ∧
    (run vmcall false (.initial friendly) session).ends.map (fun e => e.stream.state) =
      [.closed] := by
  have hclient : ∀ op ∈ session, IsClient op := by
    unfold session
    simp [IsClient]
  obtain ⟨hvmcall, -, hall⟩ := connection_table_iff false
  have hiff := hall _ vmcall hvmcall friendly session hclient
  exact ⟨hclient, friendly_cooperative, hiff.mpr friendly_cooperative, friendly_answers.2.2.2⟩

def opening : List Op := session.take 2

def unsent : World (List Vmcall.ServiceCall) :=
  run vmcall false (.initial [⟨false, true, []⟩]) opening

/-- The stream will connect, and the peer will answer the request with an RST. -/
def refusing : World (List Vmcall.ServiceCall) :=
  run vmcall false (.initial [served Vmcall.COMMAND_SEND [],
    served Vmcall.COMMAND_RECV (fromPeer OP_RST 0 64 0)]) (session.take 1)

/-- The peer answers and then sends an RST, while the stream waits for data. -/
def hungUp : World (List Vmcall.ServiceCall) :=
  run vmcall false (.initial (answered ++ [served Vmcall.COMMAND_RECV (fromPeer OP_RST 0 64 0)]))
    (opening ++ [.call 0 (.recv 1 64)])

/-- The stream is established, and the peer will answer the next packet with a credit update. -/
def established : World (List Vmcall.ServiceCall) :=
  run vmcall false (.initial (answered ++ [served Vmcall.COMMAND_SEND [],
    served Vmcall.COMMAND_RECV (fromPeer OP_CREDIT_UPDATE 0 64 0)])) opening

/-- A closed stream with an entry; a refused connect that leaves one; an RST that closes nothing;
and a shutdown that returns and leaves the entry. -/
theorem connection_table_mismatch : ¬Matches unsent ∧
    ¬CallKept vmcall false refusing (.call 0 (.connect ⟨2, 1234⟩)) ∧ ¬RstCloses hungUp ∧
    ¬CallKept vmcall false established (.call 0 .shutdown) := by
  have hfacts : ((∀ e ∈ unsent.ends, ¬Active e.stream.state) ∧ HasEntry unsent.net pair) ∧
      ((∀ e ∈ refusing.ends,
          (connect vmcall ⟨2, 1234⟩ (World.socket refusing e)).1 ≠ .ok ()) ∧
        ¬HasEntry refusing.net pair ∧
        HasEntry (step vmcall false refusing (.call 0 (.connect ⟨2, 1234⟩))).net pair) ∧
      (∀ e ∈ hungUp.ends, lastRst e.log = true ∧ e.stream.state = .established) ∧
      ((∀ e ∈ established.ends, e.stream.addr = pair ∧
          (shutdown vmcall (World.socket established e)).1 = .ok ()) ∧
        HasEntry (step vmcall false established (.call 0 .shutdown)).net pair) ∧
      0 < refusing.ends.length ∧ 0 < hungUp.ends.length ∧ 0 < established.ends.length := by
    decide +kernel
  obtain ⟨⟨hclosed, hentry⟩, ⟨hrefused, hnone, hleft⟩, hrst, ⟨hreturns, hstays⟩, hone, hsome, hlast⟩ :=
    hfacts
  refine ⟨?_, ?_, ?_, ?_⟩
  · intro h
    obtain ⟨e, he, -, hactive⟩ := (h pair).mp hentry
    exact hclosed e he hactive
  · intro h
    have hmem := List.getElem_mem hone
    exact hnone (h _ (List.getElem?_eq_getElem hone) (hrefused _ hmem) pair hleft)
  · intro h
    obtain ⟨hreset, hstate⟩ := hrst _ (List.getElem_mem hsome)
    exact absurd (hstate.symm.trans (h _ (List.getElem_mem hsome) hreset).1) (by decide)
  · intro h
    obtain ⟨haddr, hok⟩ := hreturns _ (List.getElem_mem hlast)
    have hgone := h _ (List.getElem?_eq_getElem hlast) hok
    rw [haddr] at hgone
    exact hgone hstays

end MigTd.Vsock.ConnectionTable
