/- source: pre_session_data.rs
   digest: Peer-data blobs and the exchange of hello, data and start packets before a session. -/

import MigTd.Lib.ByteLink
import MigTd.Migration.Information

set_option autoImplicit false

namespace MigTd.Migration.PreSession

open Lib.ByteCodec Lib.ByteLink Lib.StateProgram Information

/-- Each part with its length in front; a length that needs more than 32 bits is refused. -/
def encodePeerData (policy issuerChain : Octets) : Option Octets :=
  if policy.length < 2 ^ 32 ∧ issuerChain.length < 2 ^ 32 then
    some (leBytes 4 policy.length ++ policy ++ leBytes 4 issuerChain.length ++ issuerChain)
  else none

/-- The two parts of a blob; bytes behind them are refused. -/
def decodePeerData (data : Octets) : Option (Octets × Octets) :=
  if data.length < 4 then none
  else
    let policyLen := leValue (data.take 4)
    if data.length < 4 + policyLen + 4 then none
    else
      let chainLen := leValue ((data.drop (4 + policyLen)).take 4)
      if data.length ≠ 4 + policyLen + 4 + chainLen then none
      else some ((data.drop 4).take policyLen, (data.drop (4 + policyLen + 4)).take chainLen)

structure PreSessionMessage where
  type : UInt8
  reserved : Bytes 3
  length : UInt32
  deriving DecidableEq

namespace PreSessionMessage

def PRE_SESSION_DATA_TYPE : UInt8 := 1
def START_SESSION_TYPE : UInt8 := 2
def HELLO_PACKET_TYPE : UInt8 := 0xff

def size : Nat := 8

def asBytes (m : PreSessionMessage) : Octets := [m.type] ++ m.reserved.1 ++ putU32 m.length

def layout : Decoder PreSessionMessage := do
  return {
    type := ← u8
    reserved := ← array 3
    length := ← u32 }

/-- Shorter inputs are refused, bytes behind the header are not read. -/
def readFromBytes (bytes : Octets) : Option PreSessionMessage :=
  (layout bytes).map Prod.fst

theorem readFromBytes_asBytes (m : PreSessionMessage) : readFromBytes m.asBytes = some m := by
  have hread : Decodes layout m m.asBytes := by
    unfold layout asBytes
    rw [List.append_assoc]
    exact (decodes_u8 m.type).bind ((decodes_array m.reserved).bind ((decodes_u32 m.length).last _))
  have h := hread []
  rw [List.append_nil] at h
  rw [readFromBytes, h]
  rfl

theorem asBytes_length (m : PreSessionMessage) : m.asBytes.length = size := by
  simp [asBytes, m.reserved.2, putU32, size]

theorem size_le_of_read {bytes : Octets} {m : PreSessionMessage}
    (h : readFromBytes bytes = some m) : size ≤ bytes.length := by
  have hsize : Consumes layout size := by
    unfold layout
    refine consumes_u8.bind (n := 7) (fun _ => ?_) rfl
    refine (consumes_array 3).bind (n := 4) (fun _ => ?_) rfl
    exact consumes_u32.bind (fun _ => consumes_pure _) rfl
  obtain ⟨⟨m', rest⟩, hread, -⟩ := Option.map_eq_some_iff.mp h
  have hlen := hsize bytes m' rest hread
  omega

end PreSessionMessage

/-- The header of a packet whose payload has this length, which is cut to 32 bits. -/
def header (type : UInt8) (length : Nat) : PreSessionMessage :=
  ⟨type, Bytes.zero 3, UInt32.ofNat length⟩

structure HelloPacketPayload where
  magicWord : Bytes 4
  lowestSupportedVersion : UInt16
  highestSupportedVersion : UInt16
  deriving DecidableEq

namespace HelloPacketPayload

def HELLO_PACKET_PAYLOAD_SIZE : Nat := 8
def HELLO_PACKET_MAGIC_WORD : Bytes 4 := ⟨[0x4D, 0x47, 0x54, 0x44], rfl⟩
def LOWEST_VERSION : UInt16 := 0x0100
def HIGHEST_VERSION : UInt16 := 0x0100

def new : HelloPacketPayload := ⟨HELLO_PACKET_MAGIC_WORD, LOWEST_VERSION, HIGHEST_VERSION⟩

def asBytes (p : HelloPacketPayload) : Octets :=
  p.magicWord.1 ++ putU16 p.lowestSupportedVersion ++ putU16 p.highestSupportedVersion

def layout : Decoder HelloPacketPayload := do
  return {
    magicWord := ← array 4
    lowestSupportedVersion := ← u16
    highestSupportedVersion := ← u16 }

def readFromBytes (bytes : Octets) : Option HelloPacketPayload := do
  let (payload, _) ← layout bytes
  if payload.magicWord ≠ HELLO_PACKET_MAGIC_WORD then none else some payload

def negotiateSupportedVersion (p : HelloPacketPayload) : Option UInt16 :=
  let low := max LOWEST_VERSION p.lowestSupportedVersion
  let high := min HIGHEST_VERSION p.highestSupportedVersion
  if low > high then none else some high

end HelloPacketPayload

abbrev Exchange := Program Link (Halt MigrationResult)

def sendPreSessionData (data : Octets) : Exchange Unit := send .networkError data

def receivePreSessionData (size : Nat) : Exchange Octets := receive .networkError size

def expect {α : Type} (x : Option α) (e : MigrationResult) : Exchange α :=
  lift (orElse x (.failed e))

def receiveHeader : Exchange PreSessionMessage := do
  let headerBuffer ← receivePreSessionData PreSessionMessage.size
  expect (PreSessionMessage.readFromBytes headerBuffer) .invalidParameter

def sendPreSessionDataPacket (preSessionData : Octets) : Exchange Unit := do
  sendPreSessionData (header PreSessionMessage.PRE_SESSION_DATA_TYPE preSessionData.length).asBytes
  sendPreSessionData preSessionData

def receivePreSessionDataPacket : Exchange Octets := do
  let header ← receiveHeader
  ensure (header.type = PreSessionMessage.PRE_SESSION_DATA_TYPE) (.failed .invalidParameter)
  receivePreSessionData header.length.toNat

def sendStartSessionPacket : Exchange Unit :=
  sendPreSessionData (header PreSessionMessage.START_SESSION_TYPE 0).asBytes

def receiveStartSessionPacket : Exchange Unit := do
  let packet ← receiveHeader
  ensure (packet.type = PreSessionMessage.START_SESSION_TYPE) (.failed .invalidParameter)
  ensure (packet.length = 0) (.failed .invalidParameter)

def sendHelloPacket : Exchange Unit := do
  sendPreSessionData (header PreSessionMessage.HELLO_PACKET_TYPE 8).asBytes
  sendPreSessionData HelloPacketPayload.new.asBytes

def receiveHelloPacket : Exchange HelloPacketPayload := do
  let header ← receiveHeader
  ensure (header.type = PreSessionMessage.HELLO_PACKET_TYPE) (.failed .invalidParameter)
  ensure (header.length.toNat = HelloPacketPayload.HELLO_PACKET_PAYLOAD_SIZE)
    (.failed .invalidParameter)
  let helloPayload ← receivePreSessionData HelloPacketPayload.HELLO_PACKET_PAYLOAD_SIZE
  expect (HelloPacketPayload.readFromBytes helloPayload) .invalidParameter

def exchangeHelloPacket : Exchange UInt16 := do
  sendHelloPacket
  let remote ← receiveHelloPacket
  expect remote.negotiateSupportedVersion .invalidParameter

structure LocalConfig where
  policy : Option Octets
  issuerChain : Option Octets

def localPeerData (config : LocalConfig) : Option Octets := do
  let policy ← config.policy
  let issuerChain ← config.issuerChain
  encodePeerData policy issuerChain

/-- The own blob goes out, the blob of the peer comes in. -/
def exchangeDataPackets (config : LocalConfig) : Exchange Octets := do
  let localBlob ← expect (localPeerData config) .invalidParameter
  sendPreSessionDataPacket localBlob
  receivePreSessionDataPacket

/-- A blob that passes its checks is answered with a start-session packet. -/
def startSession (peerBlob : Octets) : Exchange Unit := do
  let (peerPolicy, peerIssuerChain) ← expect (decodePeerData peerBlob) .invalidParameter
  ensure (¬(peerPolicy = [] ∨ peerIssuerChain = [])) (.failed .invalidParameter)
  sendStartSessionPacket
  receiveStartSessionPacket

/-- The blob of the peer, and beside it the version that the source only logs. -/
def preSessionDataExchange (config : LocalConfig) : Exchange (UInt16 × Octets) := do
  let version ← exchangeHelloPacket
  let peerBlob ← exchangeDataPackets config
  startSession peerBlob
  return (version, peerBlob)

def helloPacket : Octets :=
  (header PreSessionMessage.HELLO_PACKET_TYPE 8).asBytes ++ HelloPacketPayload.new.asBytes

def dataPacket (blob : Octets) : Octets :=
  (header PreSessionMessage.PRE_SESSION_DATA_TYPE blob.length).asBytes ++ blob

def startPacket : Octets := (header PreSessionMessage.START_SESSION_TYPE 0).asBytes

def preSessionBytes (blob : Octets) : Octets :=
  helloPacket ++ dataPacket blob ++ startPacket

end MigTd.Migration.PreSession
