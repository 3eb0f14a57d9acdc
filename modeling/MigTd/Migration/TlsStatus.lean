/- source: migration/mod.rs, session.rs, rebinding.rs, pre_session_data.rs
   digest: The status that a TLS build reports for a failed transport or channel operation. -/

import MigTd.Crypto.TlsConnection
import MigTd.Ratls.Verification

set_option autoImplicit false

namespace MigTd.Migration.TlsStatus

open Crypto.TlsConnection Lib.StateProgram Information Ratls.Verification

def ofCryptoError : CryptoError → MigrationResult
  | .tlsVerifyPeerCert desc =>
    if desc = MIG_POLICY_UNSATISFIED_ERROR then .policyUnsatisfiedError
    else if desc = INVALID_MIG_POLICY_ERROR then .invalidPolicyError
    else if desc = MUTUAL_ATTESTATION_ERROR then .mutualAttestationError
    else .secureSessionError
  | _ => .secureSessionError

def ofTimeoutError : MigrationResult := .networkError

inductive Operation where
  | sendPreSessionData (data : Octets)
  | receivePreSessionData (size : Nat)
  /-- The write and the read of the MSK exchange, by either side. -/
  | exchangeWrite (data : Octets)
  | exchangeRead (size : Nat)
  | tlsSessionWriteAll (data : Octets)
  | tlsSessionReadExact (size : Nat)
  deriving DecidableEq, Repr

/-- The operations that hand the error of the channel to `From<CryptoError>`. -/
def Operation.isExchange : Operation → Bool
  | exchangeWrite _ | exchangeRead _ => true
  | _ => false

/-- What the host sees of an operation that does not succeed. -/
inductive Report where
  | status (r : MigrationResult)
  | panicked
  | diverged
  deriving DecidableEq, Repr

section

variable {κ : Type}

/-- A loop `while recvd < data.len()` around a call that fills some of the buffer. -/
def receiveLoop (call : Nat → TlsProgram κ Octets) :
    Nat → Nat → Octets → TlsProgram κ Octets
  | _, 0, buffer => pure buffer
  | 0, _ + 1, _ => raise .diverged
  | turns + 1, missing + 1, buffer => do
    let bytes ← call (missing + 1)
    receiveLoop call turns (missing + 1 - bytes.length) (buffer ++ bytes)

variable (M : Rustls κ) (turns : Nat)

def perform : Operation → TlsProgram κ Octets
  | .sendPreSessionData data => do
    sendLoop transportWrite turns data
    return []
  | .receivePreSessionData size => receiveLoop transportRead turns size []
  | .exchangeWrite data => do
    let _ ← write M turns data
    return []
  | .exchangeRead size => read M turns size
  | .tlsSessionWriteAll data => do
    sendLoop (write M turns) turns data
    return []
  | .tlsSessionReadExact size => receiveLoop (read M turns) turns size []

/-- An error of the channel, which passes `handle_stream_error` before its caller sees it. -/
def channelReport (convert : CryptoError → MigrationResult) (e : TlsConnectionError) : Report :=
  match handleStreamError e with
  | .ok error => .status (convert error)
  | .error _ => .panicked

def failureReport : Operation → TlsConnectionError → Report
  | .sendPreSessionData _, _ => .status .networkError
  | .receivePreSessionData _, _ => .status .networkError
  | .exchangeWrite _, e => channelReport ofCryptoError e
  | .exchangeRead _, e => channelReport ofCryptoError e
  | .tlsSessionWriteAll _, e => channelReport (fun _ => .secureSessionError) e
  | .tlsSessionReadExact _, e => channelReport (fun _ => .networkError) e

def report (op : Operation) : TlsStop → Report
  | .failed e => failureReport op e
  | .waiting => .status ofTimeoutError
  | .panicked => .panicked
  | .diverged => .diverged

/-- A read of the MSK exchange that fills less than the buffer is refused. -/
def complete : Operation → Octets → Bool
  | .exchangeRead size, bytes => size ≤ bytes.length
  | _, _ => true

abbrev Session (κ α : Type) := Program (Connection κ) (Operation × Report) α

def runOperation (op : Operation) : Session κ Octets := do
  let bytes ← embed id (fun _ t => t) (fun stop => (op, report op stop)) (perform M turns op)
  ensure (complete op bytes) (op, .status .networkError)
  return bytes

/-- A session runs its operations up to the first one that fails. -/
def session : List Operation → Session κ Unit
  | [] => pure ()
  | op :: ops => do
    let _ ← runOperation M turns op
    session ops

end

theorem ofCryptoError_ne_vmmCanceled (e : CryptoError) : ofCryptoError e ≠ .vmmCanceled := by
  unfold ofCryptoError
  split
  · split_ifs <;> simp
  · simp

variable {m r : MigrationResult}

theorem channelReport_status {convert : CryptoError → MigrationResult} {e : TlsConnectionError}
    :
    channelReport convert e = .status r ↔
      ∃ error, handleStreamError e = .ok error ∧ convert error = r := by
  unfold channelReport
  split
  · rename_i error herror
    simp [herror]
  · rename_i stop hstop
    simp [hstop]

theorem report_ne_vmmCanceled (op : Operation) (stop : TlsStop) :
    report op stop ≠ .status .vmmCanceled := by
  intro h
  cases stop with
  | failed e =>
    cases op with
    | sendPreSessionData _ => cases h
    | receivePreSessionData _ => cases h
    | exchangeWrite _ | exchangeRead _ =>
      obtain ⟨error, -, herror⟩ := channelReport_status.mp h
      exact ofCryptoError_ne_vmmCanceled error herror
    | tlsSessionWriteAll _ | tlsSessionReadExact _ =>
      obtain ⟨error, -, herror⟩ := channelReport_status.mp h
      cases herror
  | waiting => cases h
  | panicked => cases h
  | diverged => cases h

private theorem channelReport_ne_diverged (convert : CryptoError → MigrationResult)
    (e : TlsConnectionError) : channelReport convert e ≠ .diverged := by
  unfold channelReport
  split <;> simp

variable {op : Operation} {e : CryptoError} {stop : TlsStop}

private theorem report_eq_diverged (h : report op stop = .diverged) : stop = .diverged := by
  cases stop with
  | failed e =>
    cases op with
    | sendPreSessionData _ | receivePreSessionData _ => cases h
    | exchangeWrite _ | exchangeRead _ | tlsSessionWriteAll _ | tlsSessionReadExact _ =>
      exact absurd h (channelReport_ne_diverged _ e)
  | waiting | panicked => cases h
  | diverged => rfl

theorem report_status (c : Cause) (h : report op c.stop ≠ .panicked) :
    ∃ r, report op c.stop = .status r := by
  cases hr : report op c.stop with
  | status r => exact ⟨r, rfl⟩
  | panicked => exact absurd hr h
  | diverged => exact absurd (report_eq_diverged hr) c.stop_ne_diverged

/-- The verdict that the text of the local verifier stands for. -/
def standsFor : CryptoError → Option MigrationResult
  | .tlsVerifyPeerCert desc =>
    if desc = MIG_POLICY_UNSATISFIED_ERROR then some .policyUnsatisfiedError
    else if desc = INVALID_MIG_POLICY_ERROR then some .invalidPolicyError
    else if desc = MUTUAL_ATTESTATION_ERROR then some .mutualAttestationError
    else none
  | _ => none

/-- The transport error of a request that the VMM cancels. -/
def cancellation : Cause := .io VmcallRawError.vmmCanceled.intoIo

inductive Deserves : Cause → MigrationResult → Prop where
  | cancelled : Deserves cancellation .vmmCanceled
  | refused (e : CryptoError) (r : MigrationResult) (h : standsFor e = some r) :
    Deserves (.library (callbackError e)) r

/-- The reported status is the one that each failure asks for. -/
def KeepsMeaning (causes : List Cause) (r : MigrationResult) : Prop :=
  ∀ c ∈ causes, ∀ m, Deserves c m → r = m

/-- The status that `handle_stream_error` and `From<CryptoError>` read off an error of the TLS
library. -/
def channelVerdict : Cause → Option MigrationResult
  | .library e => (handleStreamError (.tlsLib e)).toOption.map ofCryptoError
  | _ => none

/-- No failure is a cancellation, and each verdict of the local verifier comes up in the MSK
exchange and can be read off the last failure. -/
def Readable (op : Operation) (causes : List Cause) : Prop :=
  cancellation ∉ causes ∧ ∀ e m, Cause.library (callbackError e) ∈ causes → standsFor e = some m →
      op.isExchange ∧ ∃ last, causes.getLast? = some last ∧ channelVerdict last = some m

theorem standsFor_verdict (h : standsFor e = some m) :
    m = .policyUnsatisfiedError ∨ m = .invalidPolicyError ∨ m = .mutualAttestationError := by
  unfold standsFor at h
  split at h
  · split_ifs at h <;> simp_all
  · cases h

theorem report_of_exchange (hop : op.isExchange) (e : TlsConnectionError) :
    report op (.failed e) = channelReport ofCryptoError e := by
  cases op with
  | exchangeWrite _ | exchangeRead _ => rfl
  | _ => cases hop

theorem report_of_other (hop : ¬op.isExchange) (h : report op stop = .status r) :
    r = .networkError ∨ r = .secureSessionError := by
  cases stop with
  | failed e =>
    cases op with
    | sendPreSessionData _ | receivePreSessionData _ => exact .inl (Report.status.inj h).symm
    | exchangeWrite _ | exchangeRead _ => exact absurd rfl hop
    | tlsSessionWriteAll _ =>
      obtain ⟨-, -, hr⟩ := channelReport_status.mp h
      exact .inr hr.symm
    | tlsSessionReadExact _ =>
      obtain ⟨-, -, hr⟩ := channelReport_status.mp h
      exact .inl hr.symm
  | waiting => exact .inl (Report.status.inj h).symm
  | panicked | diverged => cases h

theorem report_of_exchange_library (hop : op.isExchange) (e : RustlsError) (m : MigrationResult) :
    report op (Cause.library e).stop = .status m ↔ channelVerdict (.library e) = some m := by
  rw [Cause.stop, report_of_exchange hop, channelReport_status, channelVerdict]
  cases handleStreamError (.tlsLib e) <;> simp [Except.toOption]

theorem report_verdict {c : Cause}
    (hm : m = .policyUnsatisfiedError ∨ m = .invalidPolicyError ∨ m = .mutualAttestationError) :
    report op c.stop = .status m ↔ op.isExchange ∧ channelVerdict c = some m := by
  have hnetwork : MigrationResult.networkError ≠ m := by rcases hm with rfl | rfl | rfl <;> decide
  have hsecure : MigrationResult.secureSessionError ≠ m := by
    rcases hm with rfl | rfl | rfl <;> decide
  by_cases hop : op.isExchange
  · cases c with
    | library e => simp [hop, report_of_exchange_library hop e m]
    | timeout => simp [Cause.stop, report, ofTimeoutError, channelVerdict, hnetwork]
    | io _ | encode | encrypt | unexpectedState =>
      simp [Cause.stop, report_of_exchange hop, channelReport, handleStreamError, ofCryptoError,
        channelVerdict, hsecure]
  · constructor
    · intro h
      rcases report_of_other hop h with hr | hr
      · exact absurd hr.symm hnetwork
      · exact absurd hr.symm hsecure
    · intro h
      exact absurd h.1 hop

/-! The text of a verdict survives its way through the TLS library. -/

theorem behind_append (pattern text : List Char) :
    behind pattern (pattern ++ text) = some text := by
  cases h : pattern ++ text with
  | nil =>
    obtain ⟨rfl, rfl⟩ := List.append_eq_nil_iff.mp h
    rfl
  | cons c rest =>
    have hstart : pattern.isPrefixOf (c :: rest) := by
      rw [List.isPrefixOf_iff_prefix, ← h]
      exact List.prefix_append pattern text
    rw [behind, if_pos hstart, ← h, List.drop_left]

theorem handleStreamError_callbackError {desc : String} (h : ')' ∉ desc.toList) :
    handleStreamError (.tlsLib (callbackError (.tlsVerifyPeerCert desc))) =
      .ok (.tlsVerifyPeerCert desc) := by
  have hmarker : behind TLS_CUSTOM_CALLBACK_ERROR
      (TLS_CUSTOM_CALLBACK_ERROR ++ '(' :: desc.toList ++ [')']) =
      some ('(' :: (desc.toList ++ [')'])) := by
    rw [List.append_assoc]
    exact behind_append _ _
  have htext : (desc.toList ++ [')']).takeWhile (· ≠ ')') = desc.toList := by
    rw [List.takeWhile_append_of_pos]
    · simp
    · intro c hc
      have hne : c ≠ ')' := fun heq => h (heq ▸ hc)
      simpa using hne
  have hsize : '('.utf8Size = 1 := by decide
  simp only [callbackError, handleStreamError, String.toList_ofList, hmarker, hsize, htext]
  simp

theorem channelVerdict_of_standsFor
    (h : standsFor e = some m) : channelVerdict (.library (callbackError e)) = some m := by
  cases e with
  | tlsVerifyPeerCert desc =>
    have htext : ')' ∉ desc.toList ∧ ofCryptoError (.tlsVerifyPeerCert desc) = m := by
      simp only [standsFor] at h
      simp only [ofCryptoError]
      split_ifs at h ⊢ with hpolicy hinvalid hmutual
      · exact ⟨hpolicy ▸ by decide, Option.some.inj h⟩
      · exact ⟨hinvalid ▸ by decide, Option.some.inj h⟩
      · exact ⟨hmutual ▸ by decide, Option.some.inj h⟩
    simp [channelVerdict, handleStreamError_callbackError htext.1, Except.toOption, htext.2]
  | _ => cases h

section

variable {κ : Type}

instance accounts_receiveLoop (call : Nat → TlsProgram κ Octets)
    [∀ room, Accounts True (call room)] (turns missing : Nat) (buffer : Octets) :
    Accounts True (receiveLoop call turns missing buffer) := by
  induction turns generalizing missing buffer with
  | zero =>
    cases missing with
    | zero => exact inferInstanceAs (Accounts True (pure buffer))
    | succ missing => exact inferInstanceAs (Accounts True (raise .diverged))
  | succ turns ih =>
    cases missing with
    | zero => exact inferInstanceAs (Accounts True (pure buffer))
    | succ missing =>
      unfold receiveLoop
      infer_instance

variable (M : Rustls κ) (turns : Nat)

instance (op : Operation) : Accounts True (perform M turns op) := by
  cases op <;> (unfold perform; infer_instance)

/-- How the failure of an operation shows in the record of failures. -/
inductive Ends (op : Operation) : List Cause → Report → Prop where
  | failed (before : List Cause) (c : Cause) : Ends op (before ++ [c]) (report op c.stop)
  | short : Ends op [] (.status .networkError)
  | diverged : Ends op [] .diverged

variable {M turns} {s t : Connection κ} {o : Report}

theorem accounted_perform {r : Except TlsStop Octets} (h : perform M turns op s = (r, t)) :
    Accounted True s (r, t) :=
  h ▸ Accounts.run s

theorem runOperation_ok {bytes : Octets}
    (h : runOperation M turns op s = (.ok bytes, t)) : t.causes = s.causes := by
  obtain ⟨bytes', u, hcall, hcheck⟩ := bind_ok.mp h
  obtain ⟨_, _, hensure, hpure⟩ := bind_ok.mp hcheck
  obtain ⟨-, rfl⟩ := ensure_ok.mp hensure
  obtain ⟨-, rfl⟩ := pure_ok.mp hpure
  obtain ⟨v, hperform, rfl⟩ := embed_ok.mp hcall
  exact accounted_perform hperform

theorem runOperation_error {op' : Operation}
    (h : runOperation M turns op s = (.error (op', o), t)) (ho : o ≠ .panicked) :
    op' = op ∧ ∃ causes, t.causes = s.causes ++ causes ∧ Ends op causes o := by
  rcases bind_error.mp h with hcall | ⟨bytes, u, hcall, hcheck⟩
  · obtain ⟨stop, v, hperform, heq, rfl⟩ := embed_error.mp hcall
    obtain ⟨rfl, rfl⟩ := Prod.mk.inj heq
    refine ⟨rfl, ?_⟩
    match stop, accounted_perform hperform with
    | .failed _, ⟨before, c, hc, hstop⟩ => exact ⟨_, hc, hstop ▸ .failed before c⟩
    | .waiting, ⟨before, c, hc, hstop⟩ => exact ⟨_, hc, hstop ▸ .failed before c⟩
    | .diverged, ⟨_, hc⟩ => exact ⟨[], hc.trans (List.append_nil _).symm, .diverged⟩
    | .panicked, _ => exact absurd rfl ho
  · obtain ⟨v, hperform, rfl⟩ := embed_ok.mp hcall
    have hrun : v.causes = s.causes := accounted_perform hperform
    rcases bind_error.mp hcheck with hensure | ⟨_, _, _, hpure⟩
    · unfold ensure at hensure
      split at hensure
      · cases hensure
      · obtain ⟨heq, rfl⟩ := Prod.mk.inj hensure
        obtain ⟨rfl, rfl⟩ := Prod.mk.inj (Except.error.inj heq)
        exact ⟨rfl, [], hrun.trans (List.append_nil _).symm, .short⟩
    · cases hpure

private theorem session_error {ops : List Operation}
    (h : session M turns ops s = (.error (op, o), t)) (ho : o ≠ .panicked) :
    ∃ causes, t.causes = s.causes ++ causes ∧ Ends op causes o := by
  induction ops generalizing s with
  | nil => cases h
  | cons first ops ih =>
    rw [session, bind_error] at h
    rcases h with h | ⟨bytes, u, hfirst, hrest⟩
    · obtain ⟨rfl, hends⟩ := runOperation_error h ho
      exact hends
    · obtain ⟨causes, hcauses, hends⟩ := ih hrest
      exact ⟨causes, by rw [hcauses, runOperation_ok hfirst], hends⟩

/-- Every run of a TLS session: a recorded failure is reported to the host, unless the program
panics, and the report keeps the meaning of the failures exactly when they are readable. -/
theorem tls_status_keeps_meaning_iff {ops : List Operation} {op : Operation} {s t : Connection κ}
    {o : Report} {causes : List Cause} (h : session M turns ops s = (.error (op, o), t))
    (ho : o ≠ .panicked) (hcauses : t.causes = s.causes ++ causes) :
    (causes ≠ [] → ∃ r, o = .status r) ∧
      ∀ r, o = .status r → (KeepsMeaning causes r ↔ Readable op causes) := by
  obtain ⟨causes', hcauses', hends⟩ := session_error h ho
  obtain rfl : causes = causes' := List.append_cancel_left (hcauses.symm.trans hcauses')
  cases hends with
  | short =>
    refine ⟨fun hne => absurd rfl hne, fun r _ => ?_⟩
    simp [KeepsMeaning, Readable]
  | diverged => exact ⟨fun hne => absurd rfl hne, fun r hr => by cases hr⟩
  | failed before c =>
    refine ⟨fun _ => ?_, fun r hr => ?_⟩
    · exact report_status c ho
    constructor
    · intro hkeeps
      refine ⟨fun hcancelled => ?_, fun e m hmem hm => ?_⟩
      · have hr' := hkeeps _ hcancelled _ .cancelled
        exact report_ne_vmmCanceled op c.stop (hr' ▸ hr)
      · have hr' := hkeeps _ hmem m (.refused e m hm)
        obtain ⟨hop, hverdict⟩ := (report_verdict (standsFor_verdict hm)).mp (hr' ▸ hr)
        exact ⟨hop, c, by simp, hverdict⟩
    · rintro ⟨hcancelled, hverdicts⟩ d hd m hdeserves
      cases hdeserves with
      | cancelled => exact absurd hd hcancelled
      | refused e _ hm =>
        obtain ⟨hop, last, hlast, hverdict⟩ := hverdicts e m hd hm
        obtain rfl : c = last := by simpa using hlast
        have hstatus := (report_verdict (standsFor_verdict hm)).mpr ⟨hop, hverdict⟩
        exact Report.status.inj (hr.symm.trans hstatus)

end

def scripted : Rustls (List (Nat × Except RustlsError ConnectionState)) where
  processTlsRecords
    | [], _ => ([], 0, .ok .other)
    | (discard, state) :: script, _ => (script, discard, state)
  encode script _ := (script, .ok [0x15])
  done := id
  encrypt data script _ := (script, .ok data)

def refusedPolicy : RustlsError :=
  callbackError (.tlsVerifyPeerCert MIG_POLICY_UNSATISFIED_ERROR)

def refusing : Connection (List (Nat × Except RustlsError ConnectionState)) :=
  .new true [(0, .error refusedPolicy), (0, .ok .encodeTlsData)] ⟨[], [.ok 1], [], [], []⟩

def cancelling : Connection (List (Nat × Except RustlsError ConnectionState)) :=
  .new true [(0, .ok .blockedHandshake)]
    ⟨[.error VmcallRawError.vmmCanceled.intoIo], [], [], [], []⟩

theorem tls_status_keeps_policy_verdict : ∃ t, session scripted 1 [.exchangeWrite [1]] refusing =
        (.error (.exchangeWrite [1], .status .policyUnsatisfiedError), t) ∧
      t.causes = [.library refusedPolicy] ∧
      KeepsMeaning [.library refusedPolicy] .policyUnsatisfiedError := by
  obtain ⟨t, hrun⟩ := run_of_result (show (session scripted 1 [.exchangeWrite [1]] refusing).1 =
    .error (.exchangeWrite [1], .status .policyUnsatisfiedError) by decide +kernel)
  have hcauses : t.causes = [.library refusedPolicy] := by
    have ht : t = (session scripted 1 [.exchangeWrite [1]] refusing).2 := by rw [hrun]
    rw [ht]
    decide +kernel
  have hreadable : Readable (.exchangeWrite [1]) [.library refusedPolicy] := by
    refine ⟨by decide +kernel, fun e m hmem hm => ⟨rfl, .library refusedPolicy, rfl, ?_⟩⟩
    rw [← List.mem_singleton.mp hmem]
    exact channelVerdict_of_standsFor hm
  refine ⟨t, hrun, hcauses, ?_⟩
  exact ((tls_status_keeps_meaning_iff hrun (by simp) hcauses).2 _ rfl).mpr hreadable

/-- A cancelled handshake and a cancelled pre-session read are reported as other errors, and a
rebinding does not report the verdict of the local verifier. -/
theorem tls_status_loses_meaning : (∃ t, session scripted 1 [.exchangeWrite [1]] cancelling =
        (.error (.exchangeWrite [1], .status .secureSessionError), t) ∧
      t.causes = [cancellation] ∧ ¬KeepsMeaning [cancellation] .secureSessionError) ∧
    (∃ t, session scripted 1 [.receivePreSessionData 8] cancelling =
        (.error (.receivePreSessionData 8, .status .networkError), t) ∧
      t.causes = [cancellation] ∧ ¬KeepsMeaning [cancellation] .networkError) ∧
    (∃ t, session scripted 1 [.tlsSessionReadExact 32] refusing =
        (.error (.tlsSessionReadExact 32, .status .networkError), t) ∧
      t.causes = [.library refusedPolicy] ∧
      ¬KeepsMeaning [.library refusedPolicy] .networkError) := by
  have hcancelled (r : MigrationResult) (hr : r ≠ .vmmCanceled) :
      ¬KeepsMeaning [cancellation] r := fun hkeeps =>
    hr (hkeeps _ (List.mem_singleton.mpr rfl) _ .cancelled)
  refine ⟨?_, ?_, ?_⟩
  · refine ⟨_, Prod.ext ?_ rfl, ?_, hcancelled _ (by decide)⟩
    · decide +kernel
    · decide +kernel
  · refine ⟨_, Prod.ext ?_ rfl, ?_, hcancelled _ (by decide)⟩
    · decide +kernel
    · decide +kernel
  · refine ⟨_, Prod.ext ?_ rfl, ?_, fun hkeeps => ?_⟩
    · decide +kernel
    · decide +kernel
    · have hverdict := hkeeps _ (List.mem_singleton.mpr rfl) .policyUnsatisfiedError
        (.refused _ _ (by decide))
      cases hverdict

end MigTd.Migration.TlsStatus
