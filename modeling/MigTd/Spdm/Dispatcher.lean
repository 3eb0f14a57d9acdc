/- source: spdm_vdm.rs
   digest: Unwrapping a request, running its handler, wrapping the response, recording transcripts. -/

import MigTd.Spdm.ResponderSpecs

set_option autoImplicit false

namespace MigTd.Spdm.Dispatcher

open Lib.ByteCodec Lib.StateProgram Status Status.SpdmStatus Vdm Context Responder ResponderFrames
  ResponderSpecs

/-- A request as the library hands it over: the session it arrived in, its bytes and the room for
the response, with the answers of the platform while it is served. -/
structure Delivery where
  services : Services
  sessionId : Option UInt32
  reqBytes : Octets
  rspCapacity : Nat

/-- The header, the frame and the application header of a request; the rest are its elements. -/
def openRequest (n : NegotiateInfo) (reqBytes : Octets) :
    Except (SpdmErrorCode × SpdmStatus) (VdmMessage × Octets) :=
  match SpdmMessageHeader.read reqBytes with
  | none => .error (.invalidRequest, SPDM_STATUS_INVALID_MSG_FIELD)
  | some (messageHeader, r) =>
    if messageHeader.version ≠ n.spdmVersionSel then
      .error (.versionMismatch, SPDM_STATUS_INVALID_MSG_FIELD)
    else match VdmPayload.spdmRead n r with
      | none => .error (.invalidRequest, SPDM_STATUS_INVALID_MSG_FIELD)
      | some (reqPayload, _) =>
        if reqPayload.standardId ≠ STANDARD_ID_IANA ∨
            reqPayload.vendorId.1 ≠ VDM_MESSAGE_VENDOR_ID then
          .error (.invalidRequest, SPDM_STATUS_INVALID_MSG_FIELD)
        else orElse (VdmMessage.read (reqPayload.payload.take reqPayload.length.toNat))
          (.invalidRequest, SPDM_STATUS_INVALID_MSG_SIZE)

/-- `write_spdm_error` into a writer that already used some bytes. -/
def writeSpdmError (n : NegotiateInfo) (code : SpdmErrorCode) (data : UInt8) (capacity : Nat)
    (used : Octets) : Octets :=
  used ++ (spdmError n.spdmVersionSel code data).take (capacity - used.length)

def sealResponse (n : NegotiateInfo) (capacity : Nat) (rspPayload : Octets) :
    Except (SpdmStatus × Octets) Octets :=
  let responseHeader : SpdmMessageHeader :=
    ⟨n.spdmVersionSel, SPDM_RESPONSE_VENDOR_DEFINED_RESPONSE⟩
  match write capacity [] responseHeader.encode with
  | .error used => .error
      (SPDM_STATUS_INVALID_STATE_LOCAL, writeSpdmError n .unspecified 0 capacity used)
  | .ok used => match (VdmPayload.ofVendor rspPayload).spdmEncode n capacity used with
    | .error (_, used) => .error
        (SPDM_STATUS_INVALID_STATE_LOCAL, writeSpdmError n .unspecified 0 capacity used)
    | .ok rspBytes => .ok rspBytes

section

variable (P : Platform) (d : Delivery)

def handle (vdmRequest : VdmMessage) (r : Octets) : RspProgram Octets :=
  match vdmRequest.opCode with
  | .exchangePubKeyReq => handleExchangePubKeyReq P d.services vdmRequest r
  | .exchangeMigrationAttestInfoReq =>
    handleExchangeMigAttestInfoReq P d.services d.sessionId vdmRequest r
  | .exchangeMigrationInfoReq => handleExchangeMigInfoReq P d.sessionId vdmRequest r
  | .exchangeRebindAttestInfoReq =>
    if P.build.rebinding then
      handleExchangeRebindAttestInfoReq P d.services d.sessionId vdmRequest r
    else raise SPDM_STATUS_INVALID_MSG_FIELD
  | .exchangeRebindInfoReq =>
    if P.build.rebinding then handleExchangeRebindInfoReq P d.sessionId vdmRequest r
    else raise SPDM_STATUS_INVALID_MSG_FIELD
  | _ => raise SPDM_STATUS_INVALID_MSG_FIELD

/-- The result of the dispatcher: a status with the bytes to send, or only the bytes. -/
abbrev DispatchProgram := Program RspState (SpdmStatus × Octets)

def setTranscriptBeforeKeyExchange (transcript : Octets) : DispatchProgram Unit :=
  update fun s => { s with vdmMessageTranscriptBeforeKeyExchange := some transcript }

def markSession (s : RspState) (sid : UInt32) (transcript : Octets) : RspState :=
  { s with sessions := Function.update s.sessions sid ((s.sessions sid).map fun session =>
      { session with vdmMessageTranscriptBeforeFinish := some transcript }) }

/-- The marker goes to the latest session, whichever session the request arrived in. -/
def markLastSession (s : RspState) (transcript : Octets) : RspState :=
  match s.lastSessionId with
  | some sid => markSession s sid transcript
  | none => s

def setTranscriptBeforeFinish (transcript : Octets) : DispatchProgram Unit :=
  update fun s => markLastSession s transcript

/-- A completed key or attestation request leaves its transcript in the library's context. -/
def recordTranscript (opCode : VdmMessageOpCode) (rspBytes : Octets) : DispatchProgram Unit :=
  match opCode with
  | .exchangePubKeyReq => do
    let transcript ← lift (Except.mapError (·, rspBytes) (vdmTranscript P d.reqBytes rspBytes))
    setTranscriptBeforeKeyExchange transcript
  | .exchangeMigrationAttestInfoReq | .exchangeRebindAttestInfoReq => do
    let transcript ← lift (Except.mapError (·, rspBytes) (vdmTranscript P d.reqBytes rspBytes))
    setTranscriptBeforeFinish transcript
  | _ => pure ()

def dispatch : DispatchProgram Octets := do
  let n ← observe fun s => s.negotiateInfo
  let request ← lift (Except.mapError
    (fun e => (e.2, writeSpdmError n e.1 0 d.rspCapacity [])) (openRequest n d.reqBytes))
  let rspPayload ← embed id (fun _ s => s)
    (fun e => (e, writeSpdmError n .vendorDefined e.appError d.rspCapacity []))
    (handle P d request.1 request.2)
  let rspBytes ← lift (sealResponse n d.rspCapacity rspPayload)
  recordTranscript P d request.1.opCode rspBytes
  return rspBytes

end

inductive HandleEffect (P : Platform) (d : Delivery) (vdm : VdmMessage) (r : Octets)
    (s : RspState) : Except SpdmStatus Octets → RspState → Prop
  | other {x : Except SpdmStatus Octets} {t : RspState}
      (op : vdm.opCode.isAttest = false) (log : t.log = s.log) (ext : t.servtdExt = s.servtdExt)
      (flag : t.migInfoExchanged = s.migInfoExchanged) (sessions : t.sessions = s.sessions)
      (info : vdm.opCode.isInfo = false) : HandleEffect P d vdm r s x t
  | attest {x : Except SpdmStatus Octets} {t : RspState} (op : vdm.opCode.isAttest = true)
      (effect : AttestEffect P d.services vdm.opCode d.sessionId r s x t) (log : t.log = s.log)
      (flag : t.migInfoExchanged = s.migInfoExchanged) :
      HandleEffect P d vdm r s x t
  | migInfo {x : Except SpdmStatus Octets} {t : RspState}
      (op : vdm.opCode = .exchangeMigrationInfoReq)
      (effect : MigInfoEffect P d.sessionId vdm r s x t) (ext : t.servtdExt = s.servtdExt) :
      HandleEffect P d vdm r s x t
  | rebindInfo {x : Except SpdmStatus Octets} {t : RspState}
      (op : vdm.opCode = .exchangeRebindInfoReq)
      (effect : RebindInfoEffect P d.sessionId vdm r s x t) (ext : t.servtdExt = s.servtdExt)
      (flag : t.migInfoExchanged = s.migInfoExchanged)
      (build : t.log = s.log ∨ P.build.rebinding = true) :
      HandleEffect P d vdm r s x t

variable {s : RspState}

section

variable (P : Platform) (d : Delivery) (vdm : VdmMessage) (r : Octets)

instance : Keeps (Frame P.build) (handle P d vdm r) := by
  unfold handle
  split <;> infer_instance

theorem log_of_noCall {t : RspState} (h : NoCall s t) : t.log = s.log := by
  obtain ⟨added, hadded, hnone⟩ := h
  cases added with
  | nil => rw [hadded, List.append_nil]
  | cons e _ => exact (hnone e List.mem_cons_self).elim

variable {m : RspProgram Octets}

theorem attest_effect
    (op : vdm.opCode.isAttest = true) [hcall : Keeps NoCall m] [hflag : Keeps SameFlag m]
    (h : Post m s (AttestEffect P d.services vdm.opCode d.sessionId r s)) :
    Post m s (HandleEffect P d vdm r s) :=
  .attest op h (log_of_noCall (hcall.rel s)) (hflag.rel s).symm

theorem rebindInfo_effect
    (op : vdm.opCode = .exchangeRebindInfoReq) [hext : Keeps SameExt m] [hflag : Keeps SameFlag m]
    (build : P.build.rebinding = true) (h : Post m s (RebindInfoEffect P d.sessionId vdm r s)) :
    Post m s (HandleEffect P d vdm r s) :=
  .rebindInfo op h (hext.rel s).symm (hflag.rel s).symm (.inr build)

theorem handle_effect (s : RspState) : Post (handle P d vdm r) s (HandleEffect P d vdm r s) := by
  unfold handle
  split
  · rename_i op
    have hcall : Keeps NoCall (handleExchangePubKeyReq P d.services vdm r) := inferInstance
    have hext : Keeps SameExt (handleExchangePubKeyReq P d.services vdm r) := inferInstance
    have hflag : Keeps SameFlag (handleExchangePubKeyReq P d.services vdm r) := inferInstance
    have hses : Keeps SameSessions (handleExchangePubKeyReq P d.services vdm r) := inferInstance
    exact .other (by rw [op]; rfl) (log_of_noCall (hcall.rel s)) (hext.rel s).symm
      (hflag.rel s).symm (hses.rel s).symm (by rw [op]; rfl)
  · rename_i op
    refine attest_effect P d vdm r (by rw [op]; rfl) ?_
    rw [op]
    exact handleExchangeMigAttestInfoReq_effect P d.services d.sessionId vdm r s
  · rename_i op
    have hext : Keeps SameExt (handleExchangeMigInfoReq P d.sessionId vdm r) := inferInstance
    exact .migInfo op (handleExchangeMigInfoReq_effect d.sessionId vdm r s) (hext.rel s).symm
  · rename_i op
    split
    · refine attest_effect P d vdm r (by rw [op]; rfl) ?_
      rw [op]
      exact handleExchangeRebindAttestInfoReq_effect P d.services d.sessionId vdm r s
    · exact .attest (by rw [op]; rfl) .refused rfl rfl
  · rename_i op
    split
    · rename_i hbuild
      exact rebindInfo_effect P d vdm r op hbuild
        (handleExchangeRebindInfoReq_effect d.sessionId vdm r s)
    · exact .rebindInfo op (.refused rfl (.inl rfl)) rfl rfl (.inl rfl)
  · rename_i h1 h2 h3 h4 h5
    refine .other ?_ rfl rfl rfl rfl ?_
    · unfold VdmMessageOpCode.isAttest
      split
      · exact (h2 ‹_›).elim
      · exact (h4 ‹_›).elim
      · rfl
    · unfold VdmMessageOpCode.isInfo
      split
      · exact (h3 ‹_›).elim
      · exact (h5 ‹_›).elim
      · rfl

end

/-- The state that a dispatch leaves, and how it came about. -/
inductive Served (P : Platform) (d : Delivery) (s : RspState) :
    Except (SpdmStatus × Octets) Octets → RspState → Prop
  | unreadable {e : SpdmErrorCode × SpdmStatus}
      (opened : openRequest s.negotiateInfo d.reqBytes = .error e) :
      Served P d s (.error (e.2, writeSpdmError s.negotiateInfo e.1 0 d.rspCapacity [])) s
  | failed {vdm : VdmMessage} {r : Octets} {e : SpdmStatus} {u : RspState}
      (opened : openRequest s.negotiateInfo d.reqBytes = .ok (vdm, r))
      (handled : handle P d vdm r s = (.error e, u)) :
      Served P d s (.error
        (e, writeSpdmError s.negotiateInfo .vendorDefined e.appError d.rspCapacity [])) u
  /-- The handler succeeded, but no transcript of an attestation was stored. -/
  | served {vdm : VdmMessage} {r rspPayload : Octets} {u t : RspState}
      {out : Except (SpdmStatus × Octets) Octets}
      (opened : openRequest s.negotiateInfo d.reqBytes = .ok (vdm, r))
      (handled : handle P d vdm r s = (.ok rspPayload, u))
      (rest : t = u ∨ vdm.opCode = .exchangePubKeyReq ∧
        ∃ transcript, t = { u with vdmMessageTranscriptBeforeKeyExchange := transcript })
      (response : ∀ bytes, out = .ok bytes →
        sealResponse s.negotiateInfo d.rspCapacity rspPayload = .ok bytes ∧
          vdm.opCode.isAttest = false) :
      Served P d s out t
  | marked {vdm : VdmMessage} {r rspPayload rspBytes transcript : Octets} {u : RspState}
      (opened : openRequest s.negotiateInfo d.reqBytes = .ok (vdm, r))
      (handled : handle P d vdm r s = (.ok rspPayload, u))
      (response : sealResponse s.negotiateInfo d.rspCapacity rspPayload = .ok rspBytes)
      (attest : vdm.opCode.isAttest = true) :
      Served P d s (.ok rspBytes) (markLastSession u transcript)

theorem recordTranscript_post {P : Platform} {d : Delivery} (opCode : VdmMessageOpCode)
    (rspBytes : Octets) (u : RspState) :
    Post (recordTranscript P d opCode rspBytes) u fun x t =>
      (t = u ∧ ((∃ e, x = .error e) ∨ opCode.isAttest = false)) ∨
      (opCode = .exchangePubKeyReq ∧
        ∃ transcript, t = { u with vdmMessageTranscriptBeforeKeyExchange := transcript }) ∨
      (opCode.isAttest = true ∧ x = .ok () ∧ ∃ transcript, t = markLastSession u transcript) := by
  unfold recordTranscript
  split
  · refine post_bind_lift.mpr ⟨?_, ?_⟩
    · intro transcript _
      exact .inr (.inl ⟨rfl, some transcript, rfl⟩)
    · intro e _
      exact .inl ⟨rfl, .inl ⟨e, rfl⟩⟩
  · refine post_bind_lift.mpr ⟨?_, ?_⟩
    · intro transcript _
      exact .inr (.inr ⟨rfl, rfl, transcript, rfl⟩)
    · intro e _
      exact .inl ⟨rfl, .inl ⟨e, rfl⟩⟩
  · refine post_bind_lift.mpr ⟨?_, ?_⟩
    · intro transcript _
      exact .inr (.inr ⟨rfl, rfl, transcript, rfl⟩)
    · intro e _
      exact .inl ⟨rfl, .inl ⟨e, rfl⟩⟩
  · rename_i h1 h2 h3
    refine .inl ⟨rfl, .inr ?_⟩
    cases opCode <;> simp_all [VdmMessageOpCode.isAttest]

theorem dispatch_served (P : Platform) (d : Delivery) (s : RspState) :
    Post (dispatch P d) s (Served P d s) := by
  refine post_bind.mpr (post_observe.mpr ?_)
  refine post_bind_lift.mpr ⟨?_, ?_⟩
  · rintro ⟨vdm, r⟩ hopen
    have opened : openRequest s.negotiateInfo d.reqBytes = .ok (vdm, r) := mapError_ok.mp hopen
    refine post_bind_embed (fun rspPayload u handled => ?_) fun e u handled => .failed opened handled
    refine post_bind_lift.mpr ⟨?_, ?_⟩
    · intro rspBytes hseal
      refine post_bind.mpr ((recordTranscript_post vdm.opCode rspBytes u).mono ?_)
      rintro y t (⟨rfl, hy⟩ | ⟨hop, transcript, ht⟩ | ⟨hop, rfl, transcript, rfl⟩)
      · cases y with
        | error e => exact .served opened handled (.inl rfl) fun _ h => by cases h
        | ok _ =>
          rcases hy with ⟨e, he⟩ | hop
          · cases he
          · refine .served opened handled (.inl rfl) ?_
            intro bytes hbytes
            cases hbytes
            exact ⟨hseal, hop⟩
      · cases y with
        | error e =>
          exact .served opened handled (.inr ⟨hop, transcript, ht⟩) fun _ h => by cases h
        | ok _ =>
          refine .served opened handled (.inr ⟨hop, transcript, ht⟩) ?_
          intro bytes hbytes
          cases hbytes
          exact ⟨hseal, by rw [hop]; rfl⟩
      · exact .marked opened handled hseal hop
    · intro e _
      exact .served opened handled (.inl rfl) fun _ h => by cases h
  · intro e hopen
    obtain ⟨x, hx, rfl⟩ := mapError_error.mp hopen
    exact .unreadable hx

theorem dispatch_answered {P : Platform} {d : Delivery} {bytes : Octets}
    (h : (dispatch P d s).1 = .ok bytes) :
    ∃ vdm r out u, openRequest s.negotiateInfo d.reqBytes = .ok (vdm, r) ∧
      HandleEffect P d vdm r s (.ok out) u ∧
      sealResponse s.negotiateInfo d.rspCapacity out = .ok bytes ∧
      (dispatch P d s).2.log = u.log ∧
      (dispatch P d s).2.migInfoExchanged = u.migInfoExchanged := by
  have hserved : Served P d s (dispatch P d s).1 (dispatch P d s).2 := dispatch_served P d s
  have effect {vdm : VdmMessage} {r out : Octets} {u : RspState}
      (handled : handle P d vdm r s = (.ok out, u)) : HandleEffect P d vdm r s (.ok out) u := by
    have heffect := handle_effect P d vdm r s
    unfold Post at heffect
    rwa [handled] at heffect
  rw [h] at hserved
  generalize (dispatch P d s).2 = t at hserved ⊢
  cases hserved with
  | served opened handled rest response =>
    refine ⟨_, _, _, _, opened, effect handled, (response bytes rfl).1, ?_⟩
    rcases rest with rfl | ⟨-, transcript, rfl⟩ <;> exact ⟨rfl, rfl⟩
  | marked opened handled response =>
    refine ⟨_, _, _, _, opened, effect handled, response, ?_⟩
    unfold markLastSession
    split <;> exact ⟨rfl, rfl⟩

end MigTd.Spdm.Dispatcher
