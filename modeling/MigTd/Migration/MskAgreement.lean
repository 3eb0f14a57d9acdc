/- source: session.rs, spdm_req.rs, spdm_rsp.rs
   digest: Both sides of a completed exchange hold one version and each the other side's key. -/

import MigTd.Spdm.ExchangePeers

set_option autoImplicit false

namespace MigTd.Migration.MskAgreement

open Lib.ByteCodec Lib.StateProgram Information MskExchange ServtdRecord TlsAgreement Spdm
  Spdm.Dispatcher Spdm.ExchangePeers Spdm.Requester Spdm.ResponderRun Spdm.Status Tdx.Module
  TlsExchange Spdm.Context Spdm.Responder

/-- Over a channel that delivers what was sent, both sides of a completed exchange have installed
the greatest version that the source's export range and the destination's import range share, and
each the other side's key; and no write of version or key is issued unless the ranges share one. -/
theorem msk_agreement : (∀ src dst : TlsSide, src.info.isSrc = true → dst.info.isSrc = false →
      src.Hears dst → dst.Hears src →
      (src.run.1 = .ok () → dst.run.1 = .ok () → Agrees src.info dst.info src.log dst.log) ∧
      (Writes src.log ∨ Writes dst.log → Compatible src.info dst.info src.log dst.log)) ∧
    ∀ (src : SpdmSource) (dst : SpdmDestination), Secured src dst →
      (src.run.1 = .ok () → Agrees src.info dst.info src.log dst.log) ∧
      (Writes src.log → Compatible src.info dst.info src.log dst.log) ∧
      ∀ v ∈ dst.run.visits, Writes (newEvents v) →
        Compatible src.info dst.info src.log (newEvents v) := by
  constructor
  · intro src dst hsrc hdst hears heard
    constructor
    · intro hs hd
      obtain ⟨x, remote, sent, hheard, hsettled⟩ := src.effect.settled (.inr hs)
      obtain ⟨y, remote', sent', hheard', hsettled'⟩ := dst.effect.settled (.inr hd)
      obtain rfl := TlsSide.heard_eq hears sent' hheard
      obtain rfl := TlsSide.heard_eq heard sent hheard'
      rw [hsrc] at hsettled
      rw [hdst] at hsettled'
      exact agrees_of_settled hsettled hsettled' hs hd
    · rintro (hw | hw)
      · obtain ⟨x, remote, -, hheard, hsettled⟩ := src.effect.settled (.inl hw)
        have hoffer := TlsSide.heard_offered hears hheard
        rw [hsrc] at hsettled
        rw [hdst] at hoffer
        exact hsettled.compatible_src hw hoffer
      · obtain ⟨y, remote, -, hheard, hsettled⟩ := dst.effect.settled (.inl hw)
        have hoffer := TlsSide.heard_offered heard hheard
        rw [hdst] at hsettled
        rw [hsrc] at hoffer
        exact hsettled.compatible_dst hw hoffer
  · intro src dst secured
    refine ⟨?_, ?_, fun v hv hw => secured.compatible_round hv hw⟩
    · intro hs
      obtain ⟨x, y, hsettled, hsettled'⟩ := secured.settled (.inr hs)
      exact agrees_of_settled hsettled hsettled' hs trivial
    · intro hw
      obtain ⟨x, y, hsettled, hsettled'⟩ := secured.settled (.inl hw)
      exact hsettled.compatible_src hw hsettled'.offered

def moduleOf (key lo hi : UInt64) : TdxModule := fun _ call =>
  match call with
  | .servtdRd _ field _ => if field = TDCS_FIELD_SERVTD_ATTR then .ok 0 else .ok key
  | .sysRd field =>
    if field = GSM_FIELD_MIN_EXPORT_VERSION ∨ field = GSM_FIELD_MIN_IMPORT_VERSION then .ok lo
    else .ok hi
  | _ => .ok 0

def offerOf (key : UInt64) (lo hi : UInt16) : ExchangeInformation :=
  ⟨⟨[key, key, key, key], rfl⟩, lo, hi, Bytes.zero 4⟩

def sourceInfo : MigtdMigrationInformation :=
  { MigtdMigrationInformation.default with migrationSource := 1 }

def openChannel (received : Octets) : TlsChannel where
  verifyInitMigtdDataPolicyBinding := fun _ => true
  setupTransport := .ok ()
  preSessionDataExchange := .ok []
  client := fun _ => .ok ()
  server := fun _ => .ok ()
  write := .ok ()
  read := .ok received
  shutdownTransport := .ok ()

def tlsSource : TlsSide :=
  ⟨Reference.platform.build, moduleOf 5 1 3, openChannel (offerOf 6 2 4).asBytes, sourceInfo⟩

def tlsDestination : TlsSide :=
  ⟨Reference.platform.build, moduleOf 6 2 4, openChannel (offerOf 5 1 3).asBytes, .default⟩

def platformOf (tdx : TdxModule) : Platform :=
  { Reference.platform with
    build := ⟨false, true⟩
    sha384 := fun _ => List.replicate 48 0
    tdx }

def plainServices : Services := { Reference.services with localInitTdInfo := some [] }

def offerRequest : Octets :=
  Reference.vdmRequest 0x05 2 (Reference.element .migrationExportVersion (putU16 1 ++ putU16 3) ++
    Reference.element .forwardMigrationSessionKey (putWords [5, 5, 5, 5]))

def offerDelivery : Delivery := ⟨plainServices, some 7, offerRequest, 8192⟩

def spdmDestination : SpdmDestination :=
  ⟨platformOf (moduleOf 6 2 4), Reference.attestedContext, .default, [],
    [.vdm offerDelivery none, Reference.endSession 7]⟩

def plainResponse (opCode elementCount : UInt8) (elements : Octets) : Octets :=
  [0x12, 0x7E, 0, 0, 4, 0, 4, 0x57, 1, 0, 0] ++ putU16 (elements.length + 4).toUInt16 ++
    [0, 0, opCode, elementCount] ++ elements

def destinationAnswer (sid : UInt32) (request : Octets) : Except SpdmStatus Octets :=
  Except.mapError Prod.fst (dispatch spdmDestination.platform
    ⟨plainServices, some sid, request, 8192⟩ spdmDestination.start).1

def pairedLibrary : SpdmLibrary where
  version := .ok ()
  capability := .ok ()
  algorithm := .ok Reference.negotiated
  keyExchange := .ok (7, Reference.th1Of 1)
  vendorRequest := fun sid request => match sid with
    | none =>
      if request.length < 100 then .ok (plainResponse 0x02 1 (Reference.element .pubKeyMy [1]))
      else .ok (plainResponse 0x04 3 (Reference.element .quoteMy (List.replicate 64 0) ++
        Reference.element .eventLogMy [] ++ Reference.element .migPolicyMy []))
    | some sid => destinationAnswer sid request
  sessionsAfter := fun _ sessions => sessions
  finish := fun _ => .ok ()
  endSession := fun _ => .ok ()

def spdmSource : SpdmSource :=
  ⟨platformOf (moduleOf 5 1 3), plainServices, pairedLibrary, sourceInfo, [],
    Reference.negotiated, 400⟩

-- stated for variables: on the literals of the run, unification would evaluate the dispatcher
theorem destination_answers {sid : UInt32} {request response : Octets}
    (replied : spdmSource.library.vendorRequest (some sid) request = .ok response) :
    (dispatch spdmDestination.platform ⟨plainServices, some sid, request, 8192⟩
      spdmDestination.start).1 = .ok response := by
  change destinationAnswer sid request = .ok response at replied
  exact mapError_ok.mp replied

/-- The run ended well and sent only the offer in a session. -/
def sentOffer : Except SpdmStatus Unit × ReqState → Bool
  | (.ok _, t) => inSession t.sent == [(some 7, offerRequest)]
  | _ => false

private theorem sentOffer_iff {r : Except SpdmStatus Unit × ReqState} :
    sentOffer r = true ↔ r.1 = .ok () ∧ inSession r.2.sent = [(some 7, offerRequest)] := by
  obtain ⟨x, t⟩ := r
  cases x with
  | ok _ => simp [sentOffer]
  | error e => simp [sentOffer]

/-- The message is the delivery of the offer, or none of a request. -/
def deliversOffer : Message → Bool
  | .vdm d _ => d.sessionId == some 7 && d.reqBytes == offerRequest
  | _ => true

theorem paired_runs : (tlsSource.run.2.sent = (offerOf 5 1 3).asBytes ∧
      tlsDestination.run.2.sent = (offerOf 6 2 4).asBytes) ∧
    (tlsSource.run.1 = .ok () ∧ tlsDestination.run.1 = .ok ()) ∧
    sentOffer spdmSource.run = true ∧
    (∀ v ∈ spdmDestination.run.visits, deliversOffer v.input = true) ∧
    (overwrite spdmDestination.context.appContextDataBuffer
      (SpdmAppContextData.encode spdmDestination.platform.build
        ⟨spdmDestination.info, PrivateKeyDer.default⟩)).1 = true := by
  decide +kernel

theorem source_sent :
    spdmSource.run.1 = .ok () ∧ inSession spdmSource.run.2.sent = [(some 7, offerRequest)] :=
  sentOffer_iff.mp paired_runs.2.2.1

theorem paired_secured : Secured spdmSource spdmDestination := by
  obtain ⟨-, -, -, hvisits, hroom⟩ := paired_runs
  have hsent := source_sent.2
  constructor
  · intro v hv d sendError sid hinput haddressed
    have hoffer := hvisits v hv
    rw [hinput, deliversOffer, Bool.and_eq_true, beq_iff_eq, beq_iff_eq] at hoffer
    rw [hoffer.1] at haddressed
    have hmem : (some 7, offerRequest) ∈ inSession spdmSource.run.2.sent := by
      rw [hsent]
      exact List.mem_cons_self
    rw [← haddressed, hoffer.2]
    exact (List.mem_filter.mp hmem).1
  · intro sid request response hrequest replied
    have hmem : (some sid, request) ∈ inSession spdmSource.run.2.sent :=
      List.mem_filter.mpr ⟨hrequest, rfl⟩
    rw [hsent, List.mem_singleton, Prod.mk.injEq, Option.some.injEq] at hmem
    have hanswer := destination_answers replied
    rw [hmem.1, hmem.2] at hanswer
    rw [hmem.2]
    have hfirst := SpdmDestination.first_visit (p := spdmDestination) rfl hroom
    exact ⟨_, hfirst, offerDelivery, none, rfl, rfl, hanswer⟩

theorem msk_agreement_paired : Agrees sourceInfo .default tlsSource.log tlsDestination.log ∧
    Agrees sourceInfo .default spdmSource.log spdmDestination.log := by
  obtain ⟨⟨hsource, hdestination⟩, ⟨hok, hok'⟩, -⟩ := paired_runs
  constructor
  · have hears : tlsSource.Hears tlsDestination := by
      intro received hread
      cases hread
      rw [hdestination]
    have heard : tlsDestination.Hears tlsSource := by
      intro received hread
      cases hread
      rw [hsource]
    exact (msk_agreement.1 tlsSource tlsDestination rfl rfl hears heard).1 hok hok'
  · exact (msk_agreement.2 spdmSource spdmDestination paired_secured).1 source_sent.1

end MigTd.Migration.MskAgreement
