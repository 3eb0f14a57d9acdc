/- source: spdm_req.rs, spdm_rebind.rs, rebinding.rs
   digest: The SPDM requester of a migration source and of an old MigTD, against any library. -/

import MigTd.Spdm.Responder

set_option autoImplicit false

namespace MigTd.Spdm.Requester

open Lib.ByteCodec Lib.StateProgram Migration.Information Migration.MskExchange
  Migration.ServtdRecord Context Status Status.SpdmStatus Vdm Tdx.Module Responder

/-- What the SPDM library and the peer behind it do in one run. -/
structure SpdmLibrary where
  version : Except SpdmStatus Unit
  capability : Except SpdmStatus Unit
  /-- The parameters in force once the negotiation is complete. -/
  algorithm : Except SpdmStatus NegotiateInfo
  /-- The identifier of the new session and its TH1. -/
  keyExchange : Except SpdmStatus (UInt32 × SpdmDigestStruct)
  /-- The response to a vendor-defined request, sent in a session or outside of one. -/
  vendorRequest : Option UInt32 → Octets → Except SpdmStatus Octets
  /-- The sessions that the library still knows after that request. -/
  sessionsAfter : Octets → (UInt32 → Option SpdmSession) → UInt32 → Option SpdmSession
  finish : UInt32 → Except SpdmStatus Unit
  endSession : UInt32 → Except SpdmStatus Unit

/-- The parts of the library's context that the requester uses, the TDCALLs issued so far, and the
vendor-defined requests handed to the library so far, each with the session it is sent in. -/
structure ReqState where
  negotiateInfo : NegotiateInfo
  sessions : UInt32 → Option SpdmSession
  myPubKey : Option Octets
  peerPubKey : Option Octets
  vdmMessageTranscriptBeforeKeyExchange : Option Octets
  appContextDataBuffer : Octets
  log : TdLog
  sent : List (Option UInt32 × Octets)

abbrev ReqProgram := Program ReqState SpdmStatus

section

variable (P : Platform)

def tdCallsOr {α : Type} (status : MigrationResult → SpdmStatus) (m : TdProgram α) : ReqProgram α :=
  embed ReqState.log (fun s log => { s with log }) status m

/-- TDCALLs whose failure is reported as `?` converts it. -/
def tdCalls {α : Type} (m : TdProgram α) : ReqProgram α := tdCallsOr ofMigrationResult m

abbrev getSessionViaId (sessionId : UInt32) : ReqProgram SpdmSession := do
  let session ← observe fun s => s.sessions sessionId
  lift (orElse session SPDM_STATUS_INVALID_STATE_LOCAL)

abbrev setSessions (f : (UInt32 → Option SpdmSession) → UInt32 → Option SpdmSession) :
    ReqProgram Unit :=
  update fun s => { s with sessions := f s.sessions }

abbrev refuseSession {α : Type} (sessionId : UInt32) (status : SpdmStatus) : ReqProgram α := do
  let _ ← getSessionViaId sessionId
  setSessions fun sessions => Function.update sessions sessionId none
  raise status

def accept (sessionId : UInt32) (verdict : Except Refusal Unit) : ReqProgram Unit :=
  match verdict with
  | .ok () => pure ()
  | .error ⟨status, false⟩ => raise status
  | .error ⟨status, true⟩ => refuseSession sessionId status

abbrev setNegotiateInfo (n : NegotiateInfo) : ReqProgram Unit :=
  update fun s => { s with negotiateInfo := n }

abbrev setAppContext (buffer : Octets) : ReqProgram Unit :=
  update fun s => { s with appContextDataBuffer := buffer }

abbrev provisionPubKeys (myPubKey peerPubKey : Octets) : ReqProgram Unit :=
  update fun s => { s with myPubKey := some myPubKey, peerPubKey := some peerPubKey }

abbrev setTranscriptBeforeKeyExchange (transcript : Octets) : ReqProgram Unit :=
  update fun s => { s with vdmMessageTranscriptBeforeKeyExchange := some transcript }

abbrev requirePubKeys : ReqProgram Unit := do
  let provisioned ← observe fun s => s.myPubKey.isSome && s.peerPubKey.isSome
  ensure (provisioned = true) SPDM_STATUS_UNSUPPORTED_CAP

abbrev handOver (sessionId : Option UInt32) (request : Octets) : ReqProgram Unit :=
  update fun s => { s with sent := s.sent ++ [(sessionId, request)] }

abbrev setTranscriptBeforeFinish (sessionId : UInt32) (transcript : Octets) : ReqProgram Unit := do
  let session ← getSessionViaId sessionId
  setSessions fun sessions => Function.update sessions sessionId
    (some { session with vdmMessageTranscriptBeforeFinish := some transcript })

end

def sealRequest (n : NegotiateInfo) (capacity : Nat) (reqPayload : Octets) :
    Except SpdmStatus Octets := do
  let requestHeader : SpdmMessageHeader := ⟨n.spdmVersionSel, SPDM_REQUEST_VENDOR_DEFINED_REQUEST⟩
  let used ← Except.mapError (fun _ => SPDM_STATUS_BUFFER_FULL)
    (write capacity [] requestHeader.encode)
  Except.mapError Prod.fst ((VdmPayload.ofVendor reqPayload).spdmEncode n capacity used)

/-- The header, the frame and the application header of a response; the rest are its elements. -/
abbrev openResponse (n : NegotiateInfo) (response : Octets) (opCode : VdmMessageOpCode)
    (elementCount : UInt8) : Except SpdmStatus Octets := do
  let header ← orElse (SpdmMessageHeader.read response) SPDM_STATUS_INVALID_MSG_SIZE
  let frame ← orElse (VdmPayload.spdmRead n header.2) SPDM_STATUS_INVALID_MSG_SIZE
  let message ← orElse (VdmMessage.read (frame.1.payload.take frame.1.length.toNat))
    SPDM_STATUS_INVALID_MSG_SIZE
  message.1.check opCode elementCount
  return message.2

structure Answered where
  request : Octets
  response : Octets
  elements : Octets

structure AttestRspElements where
  evidence : Octets
  eventLog : Octets
  migPolicyHash : Octets

abbrev attestRspElements (evidenceType : VdmMessageElementType) :
    ElementReader AttestRspElements := do
  let evidence ← takeElement evidenceType
  let eventLog ← takeElement .eventLogMy
  let migPolicyHash ← takeElement .migPolicyMy
  return { evidence, eventLog, migPolicyHash }

/-- The init TDINFO to send: the host's when it supplied one, else the own. -/
def initTdInfo (sv : Services) (policyV2 : Bool) (info : MigtdMigrationInformation) :
    Option Octets :=
  if policyV2 then (info.initTdInfoIfPresent.map Subtype.val).or sv.localInitTdInfo
  else sv.localInitTdInfo

section

variable (P : Platform) (sv : Services) (lib : SpdmLibrary)

/-- Send a payload as a request and unwrap the response to it. -/
def converse (sessionId : Option UInt32) (payload : Octets) (opCode : VdmMessageOpCode)
    (elementCount : UInt8) : ReqProgram Answered := do
  let n ← observe fun s => s.negotiateInfo
  let request ← lift (sealRequest n P.maxSpdmMsgSize payload)
  handOver sessionId request
  setSessions (lib.sessionsAfter request)
  let response ← lift (lib.vendorRequest sessionId request)
  let elements ← lift (openResponse n response opCode elementCount)
  return { request, response, elements }

def sendAndReceivePubKey : ReqProgram Unit := do
  let signingKey ← lift (orElse sv.newSigningKey SPDM_STATUS_CRYPTO_ERROR)
  let myPubKey := signingKey.publicKeySpki
  let buffer ← observe fun s => s.appContextDataBuffer
  let written := overwrite buffer (SpdmAppContextData.encode P.build
    { migrationInfo := .default, privateKey := signingKey.privateKey })
  setAppContext written.2
  ensure (written.1 = true) SPDM_STATUS_BUFFER_FULL
  let payload ← append P SPDM_STATUS_BUFFER_FULL []
    ((VdmMessage.current .exchangePubKeyReq VDM_MESSAGE_EXCHANGE_PUB_KEY_REQ_ELEMENT_COUNT).encode ++
      elementFields .pubKeyMy myPubKey)
  let answered ← converse P lib none payload .exchangePubKeyRsp
    VDM_MESSAGE_EXCHANGE_PUB_KEY_RSP_ELEMENT_COUNT
  let peerPubKey ← parse pubKeyElement answered.elements
  ensure (myPubKey.length ≤ P.maxCertChainDataSize ∧ peerPubKey.length ≤ P.maxCertChainDataSize)
    SPDM_STATUS_BUFFER_FULL
  provisionPubKeys myPubKey peerPubKey
  let transcript ← lift (vdmTranscript P answered.request answered.response)
  setTranscriptBeforeKeyExchange transcript

def verifyOwnQuote (sessionId : UInt32) (quote : Octets) : ReqProgram Octets :=
  if P.build.policyV2 then pure []
  else match sv.verifyQuote quote with
    | some report => pure report
    | none => refuseSession sessionId SPDM_STATUS_INVALID_MSG_FIELD

/-- `verify_peer_attestation_v1` or `verify_peer_attestation_v2`, as the build has it. -/
def verifyPeerAttestation (verifiedReportLocal : Octets) (e : AttestRspElements)
    (peerData : Octets) (th1 : SpdmDigestStruct) : Except Refusal Unit :=
  if P.build.policyV2 then
    verifyAttestationV2 P e.migPolicyHash peerData
      (sv.authenticateRemote true e.evidence peerData e.eventLog)
      fun report => verifyReportDataBinding P.sha384 report RESPONDER_ROLE th1
  else verifyAttestationV1 P sv true RESPONDER_ROLE verifiedReportLocal e.evidence e.eventLog th1

variable (info : MigtdMigrationInformation)

/-- `read_servtd_ext` of the target TD; it insists on the expected SERVTD_ATTR. -/
def ownServtdExt : ReqProgram ServtdExt :=
  tdCallsOr (fun _ => SPDM_STATUS_INVALID_STATE_LOCAL)
    (readServtdExt P.tdx info.bindingHandle info.targetTdUuid)

structure AttestRequest where
  th1 : SpdmDigestStruct
  /-- Empty when no quote was verified. -/
  verifiedReportLocal : Octets
  payload : Octets

/-- The part of `send_and_receive_sdm_migration_attest_info` in which the request is built. -/
def migrationAttestRequest (sessionId : UInt32) : ReqProgram AttestRequest := do
  requirePubKeys
  let out ← append P SPDM_STATUS_BUFFER_FULL [] (VdmMessage.current .exchangeMigrationAttestInfoReq
      VDM_MESSAGE_EXCHANGE_MIGRATION_ATTEST_INFO_REQ_ELEMENT_COUNT).encode
  let session ← getSessionViaId sessionId
  let reportData ← lift (buildReportData REQUESTER_ROLE session.th1)
  let quoteSrc ← lift (Except.mapError ofMigrationResult (genQuoteSpdm P sv reportData))
  let verifiedReportLocal ← verifyOwnQuote P sv sessionId quoteSrc
  let out ← append P SPDM_STATUS_BUFFER_FULL out (elementFields .quoteMy quoteSrc)
  let eventLogSrc ← lift (orElse sv.eventLog SPDM_STATUS_INVALID_STATE_LOCAL)
  let out ← append P SPDM_STATUS_BUFFER_FULL out (elementFields .eventLogMy eventLogSrc)
  let policyHash ← lift (localPolicyHash P sv)
  let out ← append P SPDM_STATUS_BUFFER_FULL out (elementFields .migPolicyMy policyHash)
  let servtdExt ← ownServtdExt P info
  let out ← append P SPDM_STATUS_BUFFER_FULL out (elementFields .serVtdExt servtdExt.asBytes)
  let tdInfo ← lift (orElse (initTdInfo sv P.build.policyV2 info) SPDM_STATUS_INVALID_STATE_LOCAL)
  let payload ← append P SPDM_STATUS_BUFFER_FULL out (elementFields .tdReportInit tdInfo)
  return { th1 := session.th1, verifiedReportLocal, payload }

/-- The end of both attestations: the peer answers, and its answer is accepted. -/
def attestPeer (sessionId : UInt32) (payload : Octets) (opCode : VdmMessageOpCode)
    (elementCount : UInt8) (evidenceType : VdmMessageElementType)
    (verdict : AttestRspElements → Except Refusal Unit) : ReqProgram Unit := do
  let answered ← converse P lib none payload opCode elementCount
  let e ← parse (attestRspElements evidenceType) answered.elements
  accept sessionId (verdict e)
  let transcript ← lift (vdmTranscript P answered.request answered.response)
  setTranscriptBeforeFinish sessionId transcript

def sendAndReceiveSdmMigrationAttestInfo (sessionId : UInt32) (peerData : Octets) :
    ReqProgram Unit := do
  let request ← migrationAttestRequest P sv info sessionId
  attestPeer P lib sessionId request.payload .exchangeMigrationAttestInfoRsp
    VDM_MESSAGE_EXCHANGE_MIGRATION_ATTEST_INFO_RSP_ELEMENT_COUNT .quoteMy fun e =>
      verifyPeerAttestation P sv request.verifiedReportLocal e peerData request.th1

def migInfoReqFields (x : ExchangeInformation) : List Octets :=
  (VdmMessage.current .exchangeMigrationInfoReq
      VDM_MESSAGE_EXCHANGE_MIGRATION_INFO_REQ_ELEMENT_COUNT).encode ++
    VdmMessageElement.encode ⟨.migrationExportVersion, VDM_MESSAGE_MIGRATION_EXPORT_VERSION_SIZE⟩ ++
    [putU16 x.minVer, putU16 x.maxVer] ++
    VdmMessageElement.encode
      ⟨.forwardMigrationSessionKey, VDM_MESSAGE_FORWARD_MIGRATION_SESSION_KEY_SIZE⟩ ++
    [putWords x.key.1]

/-- The version that both sides support, then the key of the peer. -/
abbrev installPeerKey (exchangeInformation remoteInformation : ExchangeInformation) :
    TdProgram Unit := do
  let migVer ← lift (calMigVersion true exchangeInformation remoteInformation)
  setMigVersion P.tdx info migVer
  writeMsk P.tdx info remoteInformation.key

def sendAndReceiveSdmExchangeMigrationInfo (sessionId : Option UInt32) : ReqProgram Unit := do
  let exchangeInformation ← tdCalls (exchangeInfo P.tdx info true)
  let payload ← append P SPDM_STATUS_BUFFER_FULL [] (migInfoReqFields exchangeInformation)
  let answered ← converse P lib sessionId payload .exchangeMigrationInfoRsp
    VDM_MESSAGE_EXCHANGE_MIGRATION_INFO_RSP_ELEMENT_COUNT
  let remoteInformation ← parse migInfoRspElements answered.elements
  tdCalls (installPeerKey P info exchangeInformation remoteInformation)

/-- The same of `send_and_receive_sdm_rebind_attest_info`, which verifies no quote. -/
def rebindAttestRequest (sessionId : UInt32) : ReqProgram AttestRequest := do
  requirePubKeys
  let out ← append P SPDM_STATUS_BUFFER_FULL [] (VdmMessage.current .exchangeRebindAttestInfoReq
      VDM_MESSAGE_EXCHANGE_REBIND_ATTEST_INFO_REQ_WITH_HISTORY_INFO_ELEMENT_COUNT).encode
  let session ← getSessionViaId sessionId
  let reportData ← lift (buildReportData REQUESTER_ROLE session.th1)
  let tdReportSrc ← lift (orElse (sv.genTdreport reportData) SPDM_STATUS_INVALID_STATE_LOCAL)
  let out ← append P SPDM_STATUS_BUFFER_FULL out (elementFields .tdReportMy tdReportSrc)
  let eventLogSrc ← lift (orElse sv.eventLog SPDM_STATUS_INVALID_STATE_LOCAL)
  let out ← append P SPDM_STATUS_BUFFER_FULL out (elementFields .eventLogMy eventLogSrc)
  let policyHash ← lift (localPolicyHash P sv)
  let out ← append P SPDM_STATUS_BUFFER_FULL out (elementFields .migPolicyMy policyHash)
  let tdInfo ← lift (orElse (initTdInfo sv true info) SPDM_STATUS_INVALID_STATE_LOCAL)
  let servtdExt ← ownServtdExt P info
  let out ← append P SPDM_STATUS_BUFFER_FULL out (elementFields .serVtdExt servtdExt.asBytes)
  let payload ← append P SPDM_STATUS_BUFFER_FULL out (elementFields .tdReportInit tdInfo)
  return { th1 := session.th1, verifiedReportLocal := [], payload }

def sendAndReceiveSdmRebindAttestInfo (sessionId : UInt32) (peerData : Octets) :
    ReqProgram Unit := do
  let request ← rebindAttestRequest P sv info sessionId
  attestPeer P lib sessionId request.payload .exchangeRebindAttestInfoRsp
    VDM_MESSAGE_EXCHANGE_REBIND_ATTEST_INFO_RSP_ELEMENT_COUNT .tdReportMy fun e =>
      verifyAttestationV2 P e.migPolicyHash peerData
        (sv.authenticateRebindingNew e.evidence e.eventLog peerData)
        fun report => verifyTdreportDataBinding P.sha384 report RESPONDER_ROLE request.th1

def approveRebinding (token : Bytes 32) : TdProgram Unit := do
  let _ ← tdCall P.tdx (.servtdRebindApprove info.bindingHandle token.1 info.targetTdUuid)

def sendAndReceiveSdmRebindInfo (sessionId : Option UInt32) : ReqProgram Unit := do
  let token ← lift (orElse sv.createRebindToken (ofMigrationResult .invalidParameter))
  let payload ← append P SPDM_STATUS_BUFFER_FULL [] ((VdmMessage.current .exchangeRebindInfoReq
        VDM_MESSAGE_EXCHANGE_REBIND_INFO_ELEMENT_REQ_COUNT).encode ++
      VdmMessageElement.encode ⟨.rebindSessionToken, VDM_MESSAGE_REBIND_SESSION_TOKEN_SIZE⟩ ++
      [token.1])
  let _ ← converse P lib sessionId payload .exchangeRebindInfoRsp
    VDM_MESSAGE_EXCHANGE_REBIND_INFO_ELEMENT_RSP_COUNT
  tdCallsOr (fun _ => SPDM_STATUS_INVALID_STATE_LOCAL) (approveRebinding P info token)

end

section

variable (P : Platform) (sv : Services) (lib : SpdmLibrary)

/-- The opening of both runs, up to a session with the peer. -/
def openSession : ReqProgram UInt32 := do
  lift lib.version
  lift lib.capability
  let n ← lift lib.algorithm
  setNegotiateInfo n
  sendAndReceivePubKey P sv lib
  let started ← lift lib.keyExchange
  setSessions fun sessions => Function.update sessions started.1
    (some ⟨.handshaking, started.2, none⟩)
  return started.1

def spdmRequesterTransferMskInner (migInfo : MigtdMigrationInformation) (peerData : Octets) :
    ReqProgram Unit := do
  let sessionId ← openSession P sv lib
  sendAndReceiveSdmMigrationAttestInfo P sv lib migInfo sessionId peerData
  lift (lib.finish sessionId)
  sendAndReceiveSdmExchangeMigrationInfo P lib migInfo (some sessionId)
  lift (lib.endSession sessionId)

def spdmRequesterRebindOldInner (rebindInfo : MigtdMigrationInformation) (peerData : Octets) :
    ReqProgram Unit := do
  let sessionId ← openSession P sv lib
  sendAndReceiveSdmRebindAttestInfo P sv lib rebindInfo sessionId peerData
  lift (lib.finish sessionId)
  sendAndReceiveSdmRebindInfo P sv lib rebindInfo (some sessionId)
  lift (lib.endSession sessionId)

/-- Wipe the buffer with the private key on every return path. -/
def zeroized {α : Type} (m : ReqProgram α) : ReqProgram α := fun s =>
  let run := m s
  (run.1, { run.2 with
    appContextDataBuffer := List.replicate run.2.appContextDataBuffer.length 0 })

def spdmRequesterTransferMsk (migInfo : MigtdMigrationInformation) (peerData : Octets) :
    ReqProgram Unit :=
  zeroized (spdmRequesterTransferMskInner P sv lib migInfo peerData)

def spdmRequesterRebindOld (rebindInfo : MigtdMigrationInformation) (peerData : Octets) :
    ReqProgram Unit :=
  zeroized (spdmRequesterRebindOldInner P sv lib rebindInfo peerData)

def spdmRequester (negotiateInfo : NegotiateInfo) (appContextDataSize : Nat) : ReqState where
  negotiateInfo := negotiateInfo
  sessions := fun _ => none
  myPubKey := none
  peerPubKey := none
  vdmMessageTranscriptBeforeKeyExchange := none
  appContextDataBuffer := List.replicate appContextDataSize 0
  log := []
  sent := []

end

end MigTd.Spdm.Requester
