/- source: session.rs, spdm_req.rs, spdm_rsp.rs
   digest: In all four migration flows the attribute check comes before the writes to the target. -/

import MigTd.Migration.TlsExchange
import MigTd.Spdm.KeyInstallation
import MigTd.Spdm.RequesterFrames

-- The law for a requester run is one search over all of its steps.
set_option synthInstance.maxSize 100000

set_option autoImplicit false

namespace MigTd.Migration.AttrFlows

open Lib.ByteCodec Lib.EventLog Lib.RunHistory Lib.StateProgram AttrOrder Information MskExchange
  ServtdRecord Spdm.Installation Spdm.Requester Spdm.RequesterFrames Spdm.ResponderRun Spdm.Status
  Spdm.Vdm Tdx.Module Spdm.Responder
open TlsExchange (TlsChannel TlsRun exchangeMsk exchangeOver migrationSrcExchangeMsk
  migrationDstExchangeMsk)
open Spdm.Context (Platform RspState)

abbrev TlsAttr : TlsRun → TlsRun → Prop := Order.Preimage TlsRun.log (AttrKept [])

variable {α : Type} {m : TdProgram α}

section

variable (tdx : TdxModule) (net : TlsChannel) (info : MigtdMigrationInformation)

instance [hm : Keeps (AttrKept []) m] : Keeps TlsAttr (TlsExchange.tdCalls m) :=
  keeps_embed hm fun _ _ h => h

instance (own : ExchangeInformation) : Keeps TlsAttr (exchangeOver net own) := by
  have hsend : Keeps TlsAttr
      (update fun t => { t with sent := t.sent ++ own.asBytes } : TlsExchange.TlsProgram Unit) :=
    keeps_update fun t => refl_of (AttrKept []) t.log
  unfold exchangeOver
  infer_instance

instance (migVer : UInt16) (key : MigrationSessionKey) : Keeps (AttrKept []) (do
    verifyServtdAttr tdx info.bindingHandle info.targetTdUuid
    setMigVersion tdx info migVer
    writeMsk tdx info key) :=
  keeps_grows_bind inferInstance (fun _ _ _ h => verifyServtdAttr_holds h)
    fun _ => keeps_attr_install tdx info migVer key

theorem keeps_attr_exchangeMsk (b : Build) : Keeps TlsAttr (exchangeMsk b tdx net info) := by
  unfold exchangeMsk migrationSrcExchangeMsk migrationDstExchangeMsk
  infer_instance

end

/-- The law of the log, for a requester that holds these checks. -/
abbrev ReqAttr (held : TdLog) : ReqState → ReqState → Prop :=
  OnTrace (Order.Preimage Prod.fst (AttrKept held))

section

variable (P : Platform) (sv : Services) (lib : SpdmLibrary) (info : MigtdMigrationInformation)
  (held : TdLog)

instance (sid : Option UInt32) (request : Octets) :
    Keeps (ReqAttr held) (handOver sid request) :=
  keeps_update fun s => refl_of (AttrKept held) s.log

instance (status : MigrationResult → SpdmStatus)
    [hm : Keeps (AttrKept held) m] : Keeps (ReqAttr held) (tdCallsOr status m) :=
  keeps_embed hm fun _ _ h => h

instance [Keeps (AttrKept held) m] : Keeps (ReqAttr held) (tdCalls m) := by
  unfold tdCalls
  infer_instance

instance : Keeps (ReqAttr held) (ownServtdExt P info) := by
  unfold ownServtdExt
  infer_instance

/-- The exchange relies on a check that was made before it. -/
instance (sid : Option UInt32) : Keeps (ReqAttr [attrChecked info.bindingHandle info.targetTdUuid])
      (sendAndReceiveSdmExchangeMigrationInfo P lib info sid) := by
  have hinstall (own remote : ExchangeInformation) :
      Keeps (AttrKept [attrChecked info.bindingHandle info.targetTdUuid])
        (installPeerKey P info own remote) := by
    have hwrites (migVer : UInt16) := keeps_attr_install P.tdx info migVer remote.key
    unfold installPeerKey
    infer_instance
  unfold sendAndReceiveSdmExchangeMigrationInfo
  infer_instance

theorem log_extends {m : ReqProgram α} {s t : ReqState}
    {x : Except SpdmStatus α} [hm : Keeps (ReqAttr []) m] (h : m s = (x, t)) : s.log <+: t.log :=
  (hm.of_ok h).1

theorem migrationAttestInfo_checks {sid : UInt32} {peerData : Octets} {s t : ReqState} {x : Unit}
    (h : sendAndReceiveSdmMigrationAttestInfo P sv lib info sid peerData s = (.ok x, t)) :
    [attrChecked info.bindingHandle info.targetTdUuid] ⊆ t.log := by
  obtain ⟨_, _, hbuilt, h⟩ := bind_ok.mp h
  iterate 11 obtain ⟨_, _, -, hbuilt⟩ := bind_ok.mp hbuilt
  obtain ⟨ext, u, hext, hbuilt⟩ := bind_ok.mp hbuilt
  unfold ownServtdExt tdCallsOr at hext
  obtain ⟨log, hread, rfl⟩ := embed_ok.mp hext
  have hchecked := readServtdExt_checks hread
  have hgrown := (log_extends hbuilt).trans (log_extends h)
  intro event hevent
  obtain rfl := List.mem_singleton.mp hevent
  exact hgrown.subset hchecked

theorem keeps_attr_spdmRequesterTransferMskInner (peerData : Octets) :
    Keeps (ReqAttr []) (spdmRequesterTransferMskInner P sv lib info peerData) := by
  have hattest (sid : UInt32) : Keeps (ReqAttr [])
      (sendAndReceiveSdmMigrationAttestInfo P sv lib info sid peerData) := inferInstance
  have hexchange (sid : UInt32) : Keeps (ReqAttr [attrChecked info.bindingHandle info.targetTdUuid])
      (do
        lift (lib.finish sid)
        sendAndReceiveSdmExchangeMigrationInfo P lib info (some sid)
        lift (lib.endSession sid) : ReqProgram Unit) := inferInstance
  refine keeps_bind_of inferInstance ?_
  intro _ sid t _
  exact (keeps_logged_bind (g := ReqState.log) (hattest sid)
    (fun _ _ _ h => migrationAttestInfo_checks P sv lib info h) fun _ => hexchange sid).rel t

end

section

variable (P : Platform)

theorem keeps_attr_approve (ext : ServtdExt) (held : TdLog) :
    Keeps (AttrKept held) (approve P ext) := by
  have hk : Keeps (Issues WritesApproved) (approve P ext) := inferInstance
  refine keeps_attr_of_vmWrites hk ?_
  rintro c ⟨i, value, rfl⟩
  exact ⟨_, _, _, rfl⟩

private theorem keeps_attr_installRebind (token : Bytes 32) (ext : ServtdExt) (held : TdLog) :
    Keeps (AttrKept held) (installRebind P token ext) := by
  have hk : Keeps (Issues fun c => WritesApproved c ∨ WritesRebind c)
    (installRebind P token ext) := inferInstance
  refine keeps_attr_of_vmWrites hk ?_
  rintro c (⟨i, value, rfl⟩ | ⟨i, value, rfl⟩ | ⟨value, rfl⟩) <;> exact ⟨_, _, _, rfl⟩

private theorem step_attr (s : RspState) (m : Message) : AttrKept [] s.log (step P s m).log := by
  cases step_callEffect P s m with
  | silent log =>
    rw [log]
    exact refl_of _ s.log
  | keyFailed opened op request install => exact (keeps_attr_installMsk _ _).of_ok install
  | keyInstalled opened op request install approval =>
    refine trans_of _ ((keeps_attr_installMsk _ _).of_ok install) ?_
    rcases approval with hlog | ⟨-, ext, x, -, happrove⟩
    · rw [hlog]
      exact refl_of _ _
    · exact (keeps_attr_approve P ext []).of_ok happrove
  | rebind opened op request install => exact (keeps_attr_installRebind P _ _ []).of_ok install

theorem walk_attr {s t : RspState} {h : List (Visit RspState Message)} (w : Walk (step P) s h t)
    (start : AttrFirst s.log) : AttrFirst t.log := by
  refine (w.always (P := fun u => AttrFirst u.log) start ?_).1
  intro u m hu
  exact (step_attr P u m).2 (List.nil_subset _) hu

end

/-- In every migration flow each write of version or key comes after the passed attribute check of
the same target, whatever the module and the peer do. -/
theorem attr_checked_first :
    (∀ (b : Build) (tdx : TdxModule) (net : TlsChannel) (info : MigtdMigrationInformation),
      AttrFirst (exchangeMsk b tdx net info TlsRun.start).2.log) ∧
    (∀ (P : Platform) (sv : Services) (lib : SpdmLibrary) (info : MigtdMigrationInformation)
      (peerData : Octets) (n : NegotiateInfo) (size : Nat),
      AttrFirst (spdmRequesterTransferMsk P sv lib info peerData (spdmRequester n size)).2.log) ∧
    ∀ (P : Platform) (s : RspState) (info : MigtdMigrationInformation) (peerData : Octets)
      (messages : List Message),
      AttrFirst (spdmResponderTransferMsk P { s with log := [] } info peerData messages).state.log := by
  refine ⟨?_, ?_, ?_⟩
  · intro b tdx net info
    exact ((keeps_attr_exchangeMsk tdx net info b).rel TlsRun.start).2 (List.nil_subset _)
      preceded_nil
  · intro P sv lib info peerData n size
    exact ((keeps_attr_spdmRequesterTransferMskInner P sv lib info peerData).rel
      (spdmRequester n size)).2 (List.nil_subset _) preceded_nil
  · intro P s info peerData messages
    unfold spdmResponderTransferMsk
    obtain ⟨u, hwalk, hstate⟩ := serve_visits (P := P)
    rw [hstate]
    have hfirst := walk_attr P hwalk preceded_nil
    exact hfirst

end MigTd.Migration.AttrFlows
