/- source: spdm_rsp.rs
   digest: What each request handler leaves alone and which TDCALLs it may issue. -/

import MigTd.Spdm.Responder

-- The frame of a handler is one search over all of its steps.
set_option synthInstance.maxSize 100000

set_option autoImplicit false

namespace MigTd.Spdm.ResponderFrames

open Lib.ByteCodec Lib.StateProgram Migration.Information Migration.ServtdRecord
  Migration.MskExchange Status Status.SpdmStatus Vdm Context Responder Tdx.Module

/-- What no handler changes, except that it may tear sessions down. -/
structure Frame (b : Build) (s t : RspState) : Prop where
  info : t.info = s.info
  peerData : t.peerData = s.peerData
  negotiateInfo : t.negotiateInfo = s.negotiateInfo
  lastSessionId : t.lastSessionId = s.lastSessionId
  sessions : ∀ sid, t.sessions sid = s.sessions sid ∨ t.sessions sid = none
  holds : ∀ i, SpdmAppContextData.Holds b i s.appContextDataBuffer →
    SpdmAppContextData.Holds b i t.appContextDataBuffer

instance (b : Build) : Std.Refl (Frame b) :=
  ⟨fun _ => ⟨rfl, rfl, rfl, rfl, fun _ => .inl rfl, fun _ h => h⟩⟩

instance (b : Build) : IsTrans RspState (Frame b) := ⟨by
  intro s t u hst htu
  refine ⟨htu.info.trans hst.info, htu.peerData.trans hst.peerData,
    htu.negotiateInfo.trans hst.negotiateInfo, htu.lastSessionId.trans hst.lastSessionId, ?_,
    fun i h => htu.holds i (hst.holds i h)⟩
  intro sid
  rcases htu.sessions sid with h | h
  · rw [h]
    exact hst.sessions sid
  · exact .inr h⟩

/-- The calls added to the log all satisfy a predicate. -/
abbrev Calls (P : TdCall → Prop) : RspState → RspState → Prop := Order.Preimage RspState.log (Issues P)

abbrev Same {α : Type} (f : RspState → α) : RspState → RspState → Prop := Order.Preimage f Eq

abbrev SameExt := Same fun s => s.servtdExt
abbrev SameFlag := Same fun s => s.migInfoExchanged
abbrev SameSessions := Same fun s => s.sessions

variable {my peer buffer : Octets} {sid : UInt32} {ext : Option ServtdExt}

section

variable (b : Build) (Q : TdCall → Prop)

instance : Keeps (Frame b) (teardown sid) := keeps_update fun s =>
  ⟨rfl, rfl, rfl, rfl, fun x => by
    by_cases hx : x = sid
    · right
      simp [hx]
    · left
      simp [Function.update_of_ne hx], fun _ h => h⟩

instance : Keeps (Frame b) (setServtdExt ext) := keeps_update fun _ =>
  ⟨rfl, rfl, rfl, rfl, fun _ => .inl rfl, fun _ h => h⟩

instance : Keeps (Frame b) (provisionPubKeys my peer) :=
  keeps_update fun _ => ⟨rfl, rfl, rfl, rfl, fun _ => .inl rfl, fun _ h => h⟩

instance : Keeps (Frame b) setMigInfoExchanged := keeps_update fun _ =>
  ⟨rfl, rfl, rfl, rfl, fun _ => .inl rfl, fun _ h => h⟩

variable {α : Type} {m : TdProgram α}

instance : Keeps (Frame b) (tdCalls m) := by
  have hm : Keeps (fun _ _ => True) m := ⟨fun _ => trivial⟩
  exact keeps_embed hm fun t _ _ => ⟨rfl, rfl, rfl, rfl, fun _ => .inl rfl, fun _ h => h⟩

instance : Keeps (Calls Q) (teardown sid) :=
  keeps_update fun s => refl_of (Issues Q) s.log

instance : Keeps (Calls Q) (setServtdExt ext) :=
  keeps_update fun s => refl_of (Issues Q) s.log

instance : Keeps (Calls Q) (provisionPubKeys my peer) :=
  keeps_update fun s => refl_of (Issues Q) s.log

instance : Keeps (Calls Q) (setAppContext buffer) :=
  keeps_update fun s => refl_of (Issues Q) s.log

instance : Keeps SameExt (teardown sid) := keeps_update fun _ => rfl

instance : Keeps SameExt (provisionPubKeys my peer) :=
  keeps_update fun _ => rfl

instance : Keeps SameExt setMigInfoExchanged := keeps_update fun _ => rfl

instance : Keeps SameExt (setAppContext buffer) := keeps_update fun _ => rfl

instance : Keeps SameExt (tdCalls m) := by
  have hm : Keeps (fun _ _ => True) m := ⟨fun _ => trivial⟩
  exact keeps_embed hm fun _ _ _ => rfl

instance : Keeps SameFlag (teardown sid) := keeps_update fun _ => rfl

instance : Keeps SameFlag (setServtdExt ext) := keeps_update fun _ => rfl

instance : Keeps SameFlag (provisionPubKeys my peer) :=
  keeps_update fun _ => rfl

instance : Keeps SameFlag (setAppContext buffer) := keeps_update fun _ => rfl

instance : Keeps SameFlag (tdCalls m) := by
  have hm : Keeps (fun _ _ => True) m := ⟨fun _ => trivial⟩
  exact keeps_embed hm fun _ _ _ => rfl

instance : Keeps SameSessions (provisionPubKeys my peer) :=
  keeps_update fun _ => rfl

instance : Keeps SameSessions (setAppContext buffer) :=
  keeps_update fun _ => rfl

end

/-! The shared steps, for every relation that their updates keep. -/

section

variable {R : RspState → RspState → Prop} [Std.Refl R] [IsTrans RspState R] (P : Platform)

instance (sv : Services) (opCode : VdmMessageOpCode) (count : UInt8)
    (evidenceType : VdmMessageElementType) (evidence : Except SpdmStatus Octets) :
    Keeps R (attestResponse P sv opCode count evidenceType evidence) := by
  unfold attestResponse
  infer_instance

instance (verdict : Except Refusal Unit) [Keeps R (teardown sid)] :
    Keeps R (accept sid verdict) := by
  unfold accept
  split <;> infer_instance

instance (sv : Services) (quote : Octets) [Keeps R (teardown sid)] :
    Keeps R (verifyOwnQuote P sv sid quote) := by
  unfold verifyOwnQuote
  split
  · infer_instance
  · split <;> infer_instance

instance [∀ e, Keeps R (tdCalls (approve P e))] : Keeps R (approveStored P ext) := by
  cases ext with
  | none => exact keeps_pure ()
  | some e =>
    unfold approveStored
    infer_instance

instance (key : PrivateKeyDer) [∀ buffer, Keeps R (setAppContext buffer)] :
    Keeps R (storePrivateKey P key) := by
  unfold storePrivateKey
  infer_instance

end

theorem readAppContext_ok {P : Platform} {s t : RspState} {d : SpdmAppContextData}
    (h : readAppContext P s = (.ok d, t)) :
    t = s ∧ ∃ rest, SpdmAppContextData.read P.build s.appContextDataBuffer = some (d, rest) := by
  obtain ⟨buffer, u, ho, hl⟩ := bind_ok.mp h
  obtain ⟨rfl, rfl⟩ := observe_ok.mp ho
  obtain ⟨hr, rfl⟩ := lift_ok.mp hl
  obtain ⟨⟨d', rest⟩, hread, rfl⟩ := Option.map_eq_some_iff.mp (orElse_ok.mp hr)
  exact ⟨rfl, rest, hread⟩

/-- The new key is written next to the information that was read from the same buffer. -/
instance (P : Platform) (key : PrivateKeyDer) : Keeps (Frame P.build) (storePrivateKey P key) := by
  refine keeps_bind_of inferInstance ?_
  intro s context t hread
  obtain ⟨rfl, rest, hbuffer⟩ := readAppContext_ok hread
  have hset (written : Bool × Octets)
      (hw : ∀ i, SpdmAppContextData.Holds P.build i t.appContextDataBuffer →
        SpdmAppContextData.Holds P.build i written.2) :
      Frame P.build t ((do
        setAppContext written.2
        ensure (written.1 = true) SPDM_STATUS_BUFFER_FULL : RspProgram Unit) t).2 := by
    have hu : Frame P.build t { t with appContextDataBuffer := written.2 } :=
      ⟨rfl, rfl, rfl, rfl, fun _ => .inl rfl, hw⟩
    exact trans_of _ hu ((keeps_ensure (written.1 = true) SPDM_STATUS_BUFFER_FULL).rel _)
  refine hset (overwrite t.appContextDataBuffer
    (SpdmAppContextData.encode P.build { context with privateKey := key })) ?_
  intro i hi
  have hinfo : context.migrationInfo = SpdmAppContextData.carried P.build i :=
    hi.read P.build hbuffer
  exact hi.store P.build hinfo

section

variable (P : Platform)

def MskCall (info : MigtdMigrationInformation) (call : TdCall) : Prop :=
  ReadsOnly call ∨ WritesMig info.bindingHandle info.targetTdUuid call

theorem readsOnly_of_readsTarget {h : UInt64} {u : TargetTdUuid} {call : TdCall}
    (hc : ReadsTarget h u call) : ReadsOnly call := by
  obtain ⟨f, rfl⟩ := hc
  exact .inl ⟨h, f, u, rfl⟩

instance (info : MigtdMigrationInformation) (remote : ExchangeInformation) :
    Keeps (Issues (MskCall info)) (installMsk P info remote) := by
  have hattr : Keeps (Issues ReadsOnly)
      (verifyServtdAttr P.tdx info.bindingHandle info.targetTdUuid) :=
    keeps_verifyServtdAttr.mono fun _ _ hi => hi.mono fun _ hc => readsOnly_of_readsTarget hc
  unfold MskCall installMsk
  infer_instance

end

section

variable (P : Platform) (sv : Services) (sessionId : Option UInt32) (vdm : VdmMessage)
  (r : Octets)

instance : Keeps (Frame P.build) (handleExchangePubKeyReq P sv vdm r) := by
  unfold handleExchangePubKeyReq
  infer_instance

instance : Keeps (Frame P.build) (handleExchangeMigAttestInfoReq P sv sessionId vdm r) := by
  unfold handleExchangeMigAttestInfoReq
  infer_instance

instance : Keeps (Frame P.build) (handleExchangeMigInfoReq P sessionId vdm r) := by
  unfold handleExchangeMigInfoReq
  infer_instance

instance : Keeps (Frame P.build) (handleExchangeRebindAttestInfoReq P sv sessionId vdm r) := by
  unfold handleExchangeRebindAttestInfoReq
  infer_instance

instance : Keeps (Frame P.build) (handleExchangeRebindInfoReq P sessionId vdm r) := by
  unfold handleExchangeRebindInfoReq
  infer_instance

abbrev NoCall : RspState → RspState → Prop := Calls fun _ => False

instance : Keeps NoCall (handleExchangePubKeyReq P sv vdm r) := by
  unfold handleExchangePubKeyReq
  infer_instance

instance : Keeps NoCall (handleExchangeMigAttestInfoReq P sv sessionId vdm r) := by
  unfold handleExchangeMigAttestInfoReq
  infer_instance

instance : Keeps NoCall (handleExchangeRebindAttestInfoReq P sv sessionId vdm r) := by
  unfold handleExchangeRebindAttestInfoReq
  infer_instance

instance : Keeps SameExt (handleExchangePubKeyReq P sv vdm r) := by
  unfold handleExchangePubKeyReq
  infer_instance

instance : Keeps SameExt (handleExchangeMigInfoReq P sessionId vdm r) := by
  unfold handleExchangeMigInfoReq
  infer_instance

instance : Keeps SameExt (handleExchangeRebindInfoReq P sessionId vdm r) := by
  unfold handleExchangeRebindInfoReq
  infer_instance

instance : Keeps SameSessions (handleExchangePubKeyReq P sv vdm r) := by
  unfold handleExchangePubKeyReq
  infer_instance

instance : Keeps SameFlag (handleExchangePubKeyReq P sv vdm r) := by
  unfold handleExchangePubKeyReq
  infer_instance

instance : Keeps SameFlag (handleExchangeMigAttestInfoReq P sv sessionId vdm r) := by
  unfold handleExchangeMigAttestInfoReq
  infer_instance

instance : Keeps SameFlag (handleExchangeRebindAttestInfoReq P sv sessionId vdm r) := by
  unfold handleExchangeRebindAttestInfoReq
  infer_instance

instance : Keeps SameFlag (handleExchangeRebindInfoReq P sessionId vdm r) := by
  unfold handleExchangeRebindInfoReq
  infer_instance

end

end MigTd.Spdm.ResponderFrames
