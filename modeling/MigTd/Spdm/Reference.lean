/- source: none (an instance of the model's parameters)
   digest: A small platform with a short stand-in for the digest, on which runs can be evaluated. -/

import MigTd.Spdm.ResponderRun

set_option autoImplicit false

namespace MigTd.Spdm.Reference

open Lib.ByteCodec Migration.ServtdRecord Context Responder ResponderRun Vdm Tdx.Module

/-- The length and the first 47 bytes: as long as a digest, and another one for another short
input. -/
def shortDigest (data : Octets) : Octets :=
  (data.length.toUInt8 :: data ++ List.replicate 47 0).take 48

/-- A module that completes every call, with the expected SERVTD_ATTR and one version. -/
def tdx : TdxModule := fun _ call =>
  match call with
  | .servtdRd _ field _ => if field = TDCS_FIELD_SERVTD_ATTR then .ok 0 else .ok field
  | .sysRd _ => .ok 1
  | _ => .ok 0

def platform : Platform where
  build := ⟨true, true⟩
  sha384 := shortDigest
  tdx := tdx
  maxVendorDefinedPayloadSize := 4096
  managedVdmBufferSize := 256
  maxCertChainDataSize := 1024
  maxSpdmMsgSize := 8192

/-- A verified TDREPORT that carries this digest in its REPORTDATA. -/
def tdreportWith (digest : Octets) : Octets :=
  List.replicate 128 0 ++ digest ++ List.replicate 848 0

/-- Attestation that accepts whatever data the evidence names as its REPORTDATA. -/
def services : Services where
  newSigningKey := some ⟨[1, 2, 3], ⟨[4, 5, 6], by decide⟩⟩
  getQuote := some
  verifyQuote := fun quote => some (List.replicate 520 0 ++ quote)
  genTdreport := some
  eventLog := some [7]
  localPeerData := some [8]
  policy := some [9]
  localInitTdInfo := some (List.replicate 512 0)
  createRebindToken := some (Bytes.zero 32)
  authenticatePolicy := fun _ _ _ _ => true
  authenticateRemote := fun _ quote _ _ => some (List.replicate 520 0 ++ quote)
  authenticateMigrationSourceWithInitTdinfo := fun quote _ _ _ _ =>
    some (List.replicate 520 0 ++ quote)
  authenticateRebindingOld := fun evidence _ _ _ _ => some (tdreportWith (shortDigest evidence))
  authenticateRebindingNew := fun evidence _ _ => some (tdreportWith (shortDigest evidence))

def negotiated : NegotiateInfo := ⟨0x12, false, false⟩

def vdmRequest (opCode elementCount : UInt8) (elements : Octets) : Octets :=
  [0x12, 0xFE, 0, 0, 4, 0, 4, 0x57, 1, 0, 0] ++ putU16 (elements.length + 4).toUInt16 ++
    [0, 0, opCode, elementCount] ++ elements

def element (elementType : VdmMessageElementType) (content : Octets) : Octets :=
  (elementFields elementType content).flatten

def deliver (sessionId : Option UInt32) (request : Octets) : Message :=
  .vdm ⟨services, sessionId, request, 8192⟩ none

def th1Of (b : UInt8) : SpdmDigestStruct := ⟨1, ⟨b :: List.replicate 63 0, rfl⟩⟩

/-- A rebinding attestation request with evidence for this TH1 byte. -/
def rebindAttestRequest (b : UInt8) (servtdExt : Octets) : Octets :=
  vdmRequest 0x07 5 (element .tdReportMy (REQUESTER_ROLE ++ [b]) ++ element .eventLogMy [] ++
    element .migPolicyMy (shortDigest [8]) ++ element .serVtdExt servtdExt ++
    element .tdReportInit (List.replicate 512 0))

/-- The migration attestation request of a source whose session has this TH1 byte. -/
def migAttestRequest (b : UInt8) (servtdExt : Octets) : Octets :=
  vdmRequest 0x03 5 (element .quoteMy (shortDigest (REQUESTER_ROLE ++ [b]) ++ List.replicate 16 0) ++
    element .eventLogMy [] ++ element .migPolicyMy (shortDigest [8]) ++
    element .serVtdExt servtdExt ++ element .tdReportInit (List.replicate 512 0))

def migInfoRequest : Octets :=
  vdmRequest 0x05 2 (element .migrationExportVersion (putU16 1 ++ putU16 1) ++
    element .forwardMigrationSessionKey (putWords [1, 2, 3, 4]))

def rebindInfoRequest : Octets :=
  vdmRequest 0x09 1 (element .rebindSessionToken (List.replicate 32 0))

def pubKeyRequest : Octets := vdmRequest 0x01 1 (element .pubKeyMy [1, 2, 3])

/-- The negotiation and the key exchange that lead to a session. -/
def connect : Message := .library [.negotiated negotiated 3] (.ok ())

def startSession (sid : UInt32) (b : UInt8) : Message :=
  .library [.sessionStarted sid (th1Of b)] (.ok ())

def finishSession (sid : UInt32) : Message :=
  .library [.sessionState sid .established] (.ok ())

def endSession (sid : UInt32) : Message := .library [.sessionEnded sid] (.ok ())

def rebindContext : RspState :=
  { spdmResponder negotiated 400 with
    peerData := [8]
    info := .rebindInformation .default
    appContextDataBuffer := (overwrite (List.replicate 400 0)
      (SpdmAppContextData.encode platform.build ⟨.default, PrivateKeyDer.default⟩)).2 }

/-- A migration context whose session 7 is established and attested. -/
def attestedContext : RspState :=
  { spdmResponder negotiated 400 with
    connectionState := SPDM_CONNECTION_NEGOTIATED
    sessions := fun sid => if sid = 7 then some ⟨.established, th1Of 1, some []⟩ else none
    lastSessionId := some 7
    appContextDataBuffer := (overwrite (List.replicate 400 0)
      (SpdmAppContextData.encode platform.build ⟨.default, PrivateKeyDer.default⟩)).2 }

end MigTd.Spdm.Reference
