/- source: spdm_rsp.rs
   digest: The five request handlers of the SPDM responder, as programs over its context. -/

import MigTd.Spdm.Context

set_option autoImplicit false

namespace MigTd.Spdm.Responder

open Lib.ByteCodec Lib.StateProgram Migration.Information Migration.ServtdRecord
  Migration.ServtdRecord.ServtdExt Migration.MskExchange Status Status.SpdmStatus Vdm Context
  Tdx.Module

structure SigningKey where
  publicKeySpki : Octets
  privateKey : PrivateKeyDer

/-- What the platform and the attestation code answer while one request is made or served. The
authentication functions return the verified report. -/
structure Services where
  newSigningKey : Option SigningKey
  getQuote : Octets → Option Octets
  verifyQuote : Octets → Option Octets
  genTdreport : Octets → Option Octets
  eventLog : Option Octets
  localPeerData : Option Octets
  policy : Option Octets
  localInitTdInfo : Option Octets
  createRebindToken : Option (Bytes 32)
  /-- Role, local report, peer report and peer event log. -/
  authenticatePolicy : Bool → Octets → Octets → Octets → Bool
  /-- Role, quote, peer data and event log. -/
  authenticateRemote : Bool → Octets → Octets → Octets → Option Octets
  /-- Quote, peer data, event log, init TDINFO and SERVTD_EXT. -/
  authenticateMigrationSourceWithInitTdinfo :
    Octets → Octets → Octets → Octets → Octets → Option Octets
  /-- TDREPORT, event log, peer data, init TDINFO and SERVTD_EXT. -/
  authenticateRebindingOld :
    Octets → Octets → Octets → Octets → Octets → Option Octets
  /-- TDREPORT, event log and peer data. -/
  authenticateRebindingNew : Octets → Octets → Octets → Option Octets

section

variable (P : Platform) (sv : Services)

/-- `gen_quote_spdm`: a quote over the digest, padded to the size of REPORTDATA. -/
def genQuoteSpdm (reportData : Octets) : Except MigrationResult Octets := do
  let hash ← sessionDigest P.sha384 reportData
  orElse (sv.getQuote (hash ++ List.replicate (64 - hash.length) 0)) .mutualAttestationError

/-- A failed verification: its status, and whether the session is torn down for it. -/
structure Refusal where
  status : SpdmStatus
  teardown : Bool

def verifyAttestationV1 (isSrc : Bool) (peerRole verifiedReportLocal quotePeer eventLogPeer : Octets)
    (th1 : SpdmDigestStruct) : Except Refusal Unit := do
  let verifiedReportPeer ← orElse (sv.verifyQuote quotePeer) ⟨SPDM_STATUS_INVALID_MSG_FIELD, true⟩
  match verifyReportDataBinding P.sha384 verifiedReportPeer peerRole th1 with
  | .error _ => .error ⟨SPDM_STATUS_INVALID_MSG_FIELD, true⟩
  | .ok () =>
    if sv.authenticatePolicy isSrc verifiedReportLocal verifiedReportPeer eventLogPeer then .ok ()
    else .error ⟨SPDM_STATUS_INVALID_MSG_FIELD, false⟩

def rspVerifyPeerAttestationV1 (verifiedReportLocal quotePeer eventLogPeer : Octets)
    (th1 : SpdmDigestStruct) : Except Refusal Unit :=
  verifyAttestationV1 P sv false REQUESTER_ROLE verifiedReportLocal quotePeer eventLogPeer th1

/-- The peer's policy hash must be the digest of the data received before the session. -/
def checkPeerDataHash (migPolicyHashPeer peerData : Octets) : Except Refusal Unit :=
  match digestSha384 P.sha384 peerData with
  | .error _ => .error ⟨SPDM_STATUS_CRYPTO_ERROR, false⟩
  | .ok peerDataHash =>
    if migPolicyHashPeer ≠ peerDataHash then .error ⟨SPDM_STATUS_INVALID_MSG_FIELD, false⟩
    else .ok ()

/-- The policy-v2 verification of either role and flow, given what the authentication function
answered and how its report is bound to the session. -/
def verifyAttestationV2 (migPolicyHashPeer peerData : Octets) (policyCheck : Option Octets)
    (binding : Octets → Except MigrationResult Unit) : Except Refusal Unit := do
  checkPeerDataHash P migPolicyHashPeer peerData
  let verifiedReportPeer ← orElse policyCheck ⟨ofMigrationResult .policyUnsatisfiedError, true⟩
  match binding verifiedReportPeer with
  | .error _ => .error ⟨ofMigrationResult .mutualAttestationError, true⟩
  | .ok () => .ok ()

structure AttestElements where
  evidence : Octets
  eventLog : Octets
  migPolicyHash : Octets
  servtdExt : Octets

def rspVerifyPeerAttestationV2 (e : AttestElements) (peerInitTdInfo peerData : Octets)
    (th1 : SpdmDigestStruct) : Except Refusal Unit :=
  verifyAttestationV2 P e.migPolicyHash peerData
    (sv.authenticateMigrationSourceWithInitTdinfo e.evidence peerData e.eventLog peerInitTdInfo
      e.servtdExt)
    fun report => verifyReportDataBinding P.sha384 report REQUESTER_ROLE th1

def rspVerifyRebindAttestation (e : AttestElements) (tdReportInit peerData : Octets)
    (th1 : SpdmDigestStruct) : Except Refusal Unit :=
  verifyAttestationV2 P e.migPolicyHash peerData
    (sv.authenticateRebindingOld e.evidence e.eventLog peerData tdReportInit e.servtdExt)
    fun report => verifyTdreportDataBinding P.sha384 report REQUESTER_ROLE th1

end

def attestElements (evidenceType : VdmMessageElementType) : ElementReader AttestElements := do
  let evidence ← takeElement evidenceType
  let eventLog ← takeElement .eventLogMy
  let migPolicyHash ← takeElement .migPolicyMy
  let servtdExt ← takeElement .serVtdExt
  return { evidence, eventLog, migPolicyHash, servtdExt }

/-- The init TDINFO element; only the second policy version fixes its size. -/
def initTdInfoElement (sized : Bool) : ElementReader Octets := do
  let length ← expectElement .tdReportInit
  if sized ∧ length.toNat ≠ TD_INFO_SIZE then refuse SPDM_STATUS_INVALID_MSG_SIZE
  else reading (take length.toNat)

abbrev pubKeyElement : ElementReader Octets := do
  let length ← expectElement .pubKeyMy
  let left ← get
  if length.toNat ≠ left.length then refuse SPDM_STATUS_INVALID_MSG_FIELD
  else reading (take length.toNat)

def tokenElement : ElementReader (Bytes 32) := do
  expectSized .rebindSessionToken VDM_MESSAGE_REBIND_SESSION_TOKEN_SIZE
  reading (array 32)

section

variable (P : Platform)

abbrev append {σ : Type} (status : SpdmStatus) (used : Octets) (fields : List Octets) :
    Program σ SpdmStatus Octets :=
  lift (Except.mapError (fun _ => status) (write P.maxVendorDefinedPayloadSize used fields))

/-- Read elements that end the part of a message in use. -/
abbrev parse {σ α : Type} (reader : ElementReader α) (r : Octets) : Program σ SpdmStatus α :=
  lift ((reader r).map Prod.fst)

/-- A session together with the identifier under which it was found. -/
structure Addressed where
  sid : UInt32
  session : SpdmSession

/-- The session whose attestation a request asks for: its own, or else the latest one. -/
abbrev attestSession (sessionId : Option UInt32) : RspProgram Addressed := do
  let last ← observe fun s => s.lastSessionId
  let sid ← lift (orElse (sessionId.or last) SPDM_STATUS_INVALID_STATE_LOCAL)
  let session ← getSessionViaId sid
  ensure (session.marked = false) SPDM_STATUS_INVALID_STATE_LOCAL
  return { sid, session }

/-- The session in which a secret may be exchanged; any other one is torn down. -/
abbrev attestedSession (sessionId : UInt32) : RspProgram Unit := do
  let session ← getSessionViaId sessionId
  if session.state = .established ∧ session.marked then pure ()
  else refuseSession sessionId SPDM_STATUS_INVALID_STATE_LOCAL

abbrev requirePubKeys : RspProgram Unit := do
  let provisioned ← observe fun s => s.myPubKey.isSome && s.peerPubKey.isSome
  ensure (provisioned = true) SPDM_STATUS_UNSUPPORTED_CAP

def provisionPubKeys (myPubKey peerPubKey : Octets) : RspProgram Unit :=
  update fun s => { s with myPubKey := some myPubKey, peerPubKey := some peerPubKey }

def setMigInfoExchanged : RspProgram Unit := update fun s => { s with migInfoExchanged := true }

def setAppContext (buffer : Octets) : RspProgram Unit :=
  update fun s => { s with appContextDataBuffer := buffer }

def accept (sessionId : UInt32) (verdict : Except Refusal Unit) : RspProgram Unit :=
  match verdict with
  | .ok () => pure ()
  | .error ⟨status, false⟩ => raise status
  | .error ⟨status, true⟩ => refuseSession sessionId status

def setServtdExt (ext : Option ServtdExt) : RspProgram Unit :=
  update fun s => { s with servtdExt := ext }

/-- Only the second policy version keeps the record that a migration request carries. -/
abbrev keepServtdExt (bytes : Octets) : RspProgram Unit :=
  if P.build.policyV2 then setServtdExt (readFromBytes bytes) else pure ()

/-- `write_approved_servtd_ext_hash` of the record's approved digest. -/
abbrev approve (ext : ServtdExt) : TdProgram Unit := do
  let hash ← lift (ext.calculateApprovedServtdExtHash P.sha384)
  writeApprovedServtdExtHash P.tdx hash

/-- The approval that follows an installed key, when attestation left a record. -/
def approveStored : Option ServtdExt → RspProgram Unit
  | some ext => tdCalls (approve P ext)
  | none => pure ()

variable (sv : Services)

abbrev localPolicyHash : Except SpdmStatus Octets := do
  let data ← orElse (if P.build.policyV2 then sv.localPeerData else sv.policy)
    SPDM_STATUS_INVALID_STATE_LOCAL
  Except.mapError (fun _ => SPDM_STATUS_CRYPTO_ERROR) (digestSha384 P.sha384 data)

def attestResponse (opCode : VdmMessageOpCode) (elementCount : UInt8)
    (evidenceType : VdmMessageElementType) (evidence : Except SpdmStatus Octets) :
    RspProgram Octets := do
  let out ← append P SPDM_STATUS_BUFFER_FULL [] (VdmMessage.current opCode elementCount).encode
  let evidence ← lift evidence
  let out ← append P SPDM_STATUS_BUFFER_FULL out (elementFields evidenceType evidence)
  let eventLog ← lift (orElse sv.eventLog SPDM_STATUS_INVALID_STATE_LOCAL)
  let out ← append P SPDM_STATUS_BUFFER_FULL out (elementFields .eventLogMy eventLog)
  let policyHash ← lift (localPolicyHash P sv)
  append P SPDM_STATUS_BUFFER_FULL out (elementFields .migPolicyMy policyHash)

abbrev readAppContext : RspProgram SpdmAppContextData := do
  let buffer ← observe fun s => s.appContextDataBuffer
  lift (orElse ((SpdmAppContextData.read P.build buffer).map Prod.fst) SPDM_STATUS_INVALID_MSG_SIZE)

/-- Replace the stored private key, keeping the migration information next to it. -/
def storePrivateKey (privateKey : PrivateKeyDer) : RspProgram Unit := do
  let context ← readAppContext P
  let buffer ← observe fun s => s.appContextDataBuffer
  let written := overwrite buffer (SpdmAppContextData.encode P.build { context with privateKey })
  setAppContext written.2
  ensure (written.1 = true) SPDM_STATUS_BUFFER_FULL

/-- The policy-v1 check of the own quote, whose report the policy compares with the peer's. -/
def verifyOwnQuote (sessionId : UInt32) (quote : Octets) : RspProgram Octets :=
  if P.build.policyV2 then pure []
  else match sv.verifyQuote quote with
    | some report => pure report
    | none => refuseSession sessionId SPDM_STATUS_INVALID_MSG_FIELD

/-- The verification of a migration attestation request in either policy version. -/
def migVerdict (verifiedReportLocal : Octets) (e : AttestElements)
    (tdReportInit peerData : Octets) (th1 : SpdmDigestStruct) : Except Refusal Unit :=
  if P.build.policyV2 then rspVerifyPeerAttestationV2 P sv e tdReportInit peerData th1
  else rspVerifyPeerAttestationV1 P sv verifiedReportLocal e.evidence e.eventLog th1

end

def SPDM_CONNECTION_NEGOTIATED : UInt8 := 3

section

variable (P : Platform) (sv : Services)

def handleExchangePubKeyReq (vdmRequest : VdmMessage) (r : Octets) :
    RspProgram Octets := do
  let connectionState ← observe fun s => s.connectionState
  ensure (SPDM_CONNECTION_NEGOTIATED ≤ connectionState) SPDM_STATUS_INVALID_STATE_LOCAL
  lift (vdmRequest.check .exchangePubKeyReq VDM_MESSAGE_EXCHANGE_PUB_KEY_REQ_ELEMENT_COUNT)
  let peerPubKey ← parse pubKeyElement r
  let signingKey ← lift (orElse sv.newSigningKey SPDM_STATUS_CRYPTO_ERROR)
  let myPubKey := signingKey.publicKeySpki
  storePrivateKey P signingKey.privateKey
  let out ← append P SPDM_STATUS_BUFFER_FULL []
    ((VdmMessage.current .exchangePubKeyRsp VDM_MESSAGE_EXCHANGE_PUB_KEY_RSP_ELEMENT_COUNT).encode ++
      elementFields .pubKeyMy myPubKey)
  ensure (myPubKey.length ≤ P.maxCertChainDataSize ∧ peerPubKey.length ≤ P.maxCertChainDataSize)
    SPDM_STATUS_BUFFER_FULL
  provisionPubKeys myPubKey peerPubKey
  return out

/-- What a migration attestation request meets behind the check of the mode. -/
abbrev attestMigration (sessionId : Option UInt32) (vdmRequest : VdmMessage) (r : Octets) :
    RspProgram Octets := do
  let target ← attestSession sessionId
  requirePubKeys
  lift (vdmRequest.check .exchangeMigrationAttestInfoReq
    VDM_MESSAGE_EXCHANGE_MIGRATION_ATTEST_INFO_REQ_ELEMENT_COUNT)
  let reportData ← lift (buildReportData RESPONDER_ROLE target.session.th1)
  let quoteDst ← lift (Except.mapError ofMigrationResult (genQuoteSpdm P sv reportData))
  let verifiedReportLocal ← verifyOwnQuote P sv target.sid quoteDst
  let parsed ← lift (attestElements .quoteMy r)
  -- The record is kept for the key exchange before anything about it is verified.
  keepServtdExt P parsed.1.servtdExt
  let tdReportInit ← parse (initTdInfoElement P.build.policyV2) parsed.2
  let peerData ← observe fun s => s.peerData
  accept target.sid
    (migVerdict P sv verifiedReportLocal parsed.1 tdReportInit peerData target.session.th1)
  attestResponse P sv .exchangeMigrationAttestInfoRsp
    VDM_MESSAGE_EXCHANGE_MIGRATION_ATTEST_INFO_RSP_ELEMENT_COUNT .quoteMy (.ok quoteDst)

def handleExchangeMigAttestInfoReq (sessionId : Option UInt32) (vdmRequest : VdmMessage)
    (r : Octets) : RspProgram Octets := do
  let info ← observe fun s => s.info
  ensure (info.isMigration = true) SPDM_STATUS_INVALID_MSG_FIELD
  attestMigration P sv sessionId vdmRequest r

/-- The TDCALLs that install the key: what this side offers, and the checks before the writes. -/
def installMsk (info : MigtdMigrationInformation) (remoteInformation : ExchangeInformation) :
    TdProgram ExchangeInformation := do
  let exchangeInformation ← exchangeInfo P.tdx info false
  verifyServtdAttr P.tdx info.bindingHandle info.targetTdUuid
  let migVer ← lift (calMigVersion false exchangeInformation remoteInformation)
  setMigVersion P.tdx info migVer
  writeMsk P.tdx info remoteInformation.key
  return exchangeInformation

def handleExchangeMigInfoReq (sessionId : Option UInt32) (vdmRequest : VdmMessage)
    (r : Octets) : RspProgram Octets := do
  let sid ← lift (orElse sessionId SPDM_STATUS_INVALID_PARAMETER)
  let exchanged ← observe fun s => s.migInfoExchanged
  if exchanged then do
    teardown sid
    raise SPDM_STATUS_INVALID_STATE_LOCAL
  else do
    attestedSession sid
    lift (vdmRequest.check .exchangeMigrationInfoReq
      VDM_MESSAGE_EXCHANGE_MIGRATION_INFO_REQ_ELEMENT_COUNT)
    let remoteInformation ← parse migInfoReqElements r
    let context ← readAppContext P
    let exchangeInformation ← tdCalls (installMsk P context.migrationInfo remoteInformation)
    setMigInfoExchanged
    let servtdExt ← observe fun s => s.servtdExt
    approveStored P (if P.build.policyV2 then servtdExt else none)
    let out ← append P SPDM_STATUS_BUFFER_FULL [] ((VdmMessage.current .exchangeMigrationInfoRsp
          VDM_MESSAGE_EXCHANGE_MIGRATION_INFO_RSP_ELEMENT_COUNT).encode ++
        VdmMessageElement.encode
          ⟨.migrationImportVersion, VDM_MESSAGE_MIGRATION_IMPORT_VERSION_SIZE⟩ ++
        [putU16 exchangeInformation.minVer, putU16 exchangeInformation.maxVer] ++
        VdmMessageElement.encode
          ⟨.backwardMigrationSessionKey, VDM_MESSAGE_BACKWARD_MIGRATION_SESSION_KEY_SIZE⟩)
    append P SPDM_STATUS_INVALID_MSG_SIZE out [putWords exchangeInformation.key.1]

/-- What a rebinding attestation request meets behind the check of the mode. -/
abbrev attestRebinding (sessionId : Option UInt32) (vdmRequest : VdmMessage) (r : Octets) :
    RspProgram Octets := do
  let target ← attestSession sessionId
  requirePubKeys
  lift (vdmRequest.check .exchangeRebindAttestInfoReq
    VDM_MESSAGE_EXCHANGE_REBIND_ATTEST_INFO_REQ_WITH_HISTORY_INFO_ELEMENT_COUNT)
  let reportData ← lift (buildReportData RESPONDER_ROLE target.session.th1)
  let parsed ← lift (attestElements .tdReportMy r)
  let tdReportInit ← parse (initTdInfoElement true) parsed.2
  let peerData ← observe fun s => s.peerData
  accept target.sid
    (rspVerifyRebindAttestation P sv parsed.1 tdReportInit peerData target.session.th1)
  setServtdExt (readFromBytes parsed.1.servtdExt)
  attestResponse P sv .exchangeRebindAttestInfoRsp
    VDM_MESSAGE_EXCHANGE_REBIND_ATTEST_INFO_RSP_ELEMENT_COUNT .tdReportMy
    (orElse (sv.genTdreport reportData) SPDM_STATUS_INVALID_STATE_LOCAL)

def handleExchangeRebindAttestInfoReq (sessionId : Option UInt32) (vdmRequest : VdmMessage)
    (r : Octets) : RspProgram Octets := do
  let info ← observe fun s => s.info
  ensure (info.isRebind = true) SPDM_STATUS_INVALID_MSG_FIELD
  attestRebinding P sv sessionId vdmRequest r

abbrev installRebind (token : Bytes 32) (ext : ServtdExt) : TdProgram Unit := do
  writeRebindingSessionToken P.tdx token.1
  approve P ext
  writeServtdRebindAttr P.tdx ext.curServtdAttr.1

def handleExchangeRebindInfoReq (sessionId : Option UInt32) (vdmRequest : VdmMessage)
    (r : Octets) : RspProgram Octets := do
  let info ← observe fun s => s.info
  ensure (info.isRebind = true) SPDM_STATUS_INVALID_MSG_FIELD
  let sid ← lift (orElse sessionId SPDM_STATUS_INVALID_PARAMETER)
  attestedSession sid
  lift (vdmRequest.check .exchangeRebindInfoReq VDM_MESSAGE_EXCHANGE_REBIND_INFO_ELEMENT_REQ_COUNT)
  let token ← parse tokenElement r
  let servtdExt ← observe fun s => s.servtdExt
  let ext ← lift (orElse servtdExt SPDM_STATUS_INVALID_STATE_LOCAL)
  tdCalls (installRebind P token ext)
  append P SPDM_STATUS_BUFFER_FULL [] (VdmMessage.current .exchangeRebindInfoRsp
      VDM_MESSAGE_EXCHANGE_REBIND_INFO_ELEMENT_RSP_COUNT).encode

end

end MigTd.Spdm.Responder
