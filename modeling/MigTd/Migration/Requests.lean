/- source: session.rs, migration/mod.rs, data.rs
   digest: How a buffer of the host becomes an accepted request, in both builds. -/

import MigTd.Lib.StateProgram
import MigTd.Migration.Information
import Mathlib.Data.Finset.Basic

set_option autoImplicit false

namespace MigTd.Migration.Requests

open Lib.ByteCodec Lib.StateProgram Information

inductive Poll (α : Type) where
  | ready (a : α)
  | pending

structure EnableLogAreaInfo where
  migRequestId : UInt64
  logMaxLevel : UInt8
  deriving DecidableEq

structure MigtdDataInfo where
  migRequestId : UInt64
  reportdata : Bytes 64
  deriving DecidableEq

def migInfoHeaderSize (b : Build) : Nat := if b.vmcallRaw then 56 else 72

/-- The structure as `pread` takes it apart, together with its reserved bytes. -/
def migInfoLayout (b : Build) : Decoder (MigtdMigrationInformation × Bytes 6) := do
  let migRequestId ← u64
  let migrationSource ← u8
  let hasInitData ← u8
  let reserved ← array 6
  let targetTdUuid ← wordArray 4
  let bindingHandle ← u64
  let migPolicyId ← if b.vmcallRaw then pure 0 else u64
  let communicationId ← if b.vmcallRaw then pure 0 else u64
  let initTdInfo ← if b.policyV2 then array TD_INFO_SIZE else pure (Bytes.zero TD_INFO_SIZE)
  return ({
    migRequestId := migRequestId
    migrationSource := migrationSource
    hasInitData := hasInitData
    targetTdUuid := targetTdUuid
    bindingHandle := bindingHandle
    migPolicyId := migPolicyId
    communicationId := communicationId
    initTdInfo := initTdInfo }, reserved)

def pread {α : Type} (layout : Decoder α) (payload : Octets) : Except MigrationResult α :=
  orElse ((layout payload).map Prod.fst) .invalidParameter

/-- `MigtdMigrationInformation::read_from_bytes` of the two policy versions. -/
def readMigrationInformation (b : Build) (dataLength : UInt32) (payload : Octets) :
    Except MigrationResult MigtdMigrationInformation := do
  let shortSize := migInfoHeaderSize b
  let fullSize := shortSize + TD_INFO_SIZE
  if b.policyV2 then
    require (dataLength.toNat = shortSize ∨ dataLength.toNat = fullSize) .invalidParameter
    require (dataLength.toNat ≤ payload.length % 2 ^ 32) .invalidParameter
    -- The short form stands for one with zeroes behind the header.
    let bytes := if dataLength.toNat = fullSize then payload
      else payload.take shortSize ++ List.replicate TD_INFO_SIZE 0
    let (parsed, reserved) ← pread (migInfoLayout b) bytes
    require (reserved = Bytes.zero 6) .invalidParameter
    require (parsed.hasInitData ≤ 1) .invalidParameter
    require (parsed.hasInitData = 1 ↔ dataLength.toNat = fullSize) .invalidParameter
    return parsed
  else
    require (dataLength.toNat = shortSize) .invalidParameter
    let (parsed, reserved) ← pread (migInfoLayout b) payload
    require (reserved = Bytes.zero 6) .invalidParameter
    require (parsed.hasInitData = 0) .invalidParameter
    return parsed

def readEnableLogAreaInfo (dataLength : UInt32) (payload : Octets) :
    Except MigrationResult EnableLogAreaInfo := do
  require (dataLength = 16) .invalidParameter
  let layout : Decoder (EnableLogAreaInfo × Bytes 7) := do
    let migRequestId ← u64
    let logMaxLevel ← u8
    let reserved ← array 7
    return (⟨migRequestId, logMaxLevel⟩, reserved)
  let (info, reserved) ← pread layout payload
  require (reserved = Bytes.zero 7) .invalidParameter
  return info

/-- The report data may be left out. -/
def readMigtdDataInfo (dataLength : UInt32) (payload : Octets) :
    Except MigrationResult MigtdDataInfo := do
  require (dataLength = 8 ∨ dataLength = 72) .invalidParameter
  if dataLength = 72 then
    pread (do
      let migRequestId ← u64
      let reportdata ← array 64
      return ⟨migRequestId, reportdata⟩) payload
  else
    let migRequestId ← pread u64 payload
    return ⟨migRequestId, Bytes.zero 64⟩

inductive WaitForRequestResponse where
  | startMigration (info : MigtdMigrationInformation)
  | startRebinding (info : MigtdMigrationInformation)
  | enableLogArea (info : EnableLogAreaInfo)
  | getMigtdData (info : MigtdDataInfo)
  deriving DecidableEq

def WaitForRequestResponse.migRequestId : WaitForRequestResponse → UInt64
  | startMigration info => info.migRequestId
  | startRebinding info => info.migRequestId
  | enableLogArea info => info.migRequestId
  | getMigtdData info => info.migRequestId

def TDX_VMCALL_VMM_SUCCESS : UInt8 := 1

inductive DataStatusOperation where
  | startMigration
  | startRebinding
  | getTDReport
  | enableLogArea
  | getMigtdData

def DataStatusOperation.tryFrom : UInt8 → Option DataStatusOperation
  | 1 => some startMigration
  | 2 => some startRebinding
  | 3 => some getTDReport
  | 4 => some enableLogArea
  | 5 => some getMigtdData
  | _ => none

structure RequestDataBufferHeader where
  datastatus : UInt64
  length : UInt32

def reqbufferhdrlen : Nat := 12

def processBuffer (buffer : Octets) : RequestDataBufferHeader :=
  if buffer.length < reqbufferhdrlen then ⟨0, 0⟩
  else ⟨UInt64.ofNat (leValue (buffer.take 8)), UInt32.ofNat (leValue ((buffer.drop 8).take 4))⟩

def Idle (buffer : Octets) : Prop :=
  (processBuffer buffer).datastatus = 0 ∧ (processBuffer buffer).length = 0
  deriving Decidable

def dataStatusByte (hdr : RequestDataBufferHeader) (i : Nat) : UInt8 :=
  (putU64 hdr.datastatus).getD i 0

def getRequestPayload (buffer : Octets) (dataLength : UInt32) :
    Except MigrationResult Octets :=
  if reqbufferhdrlen + dataLength.toNat ≤ buffer.length then
    .ok ((buffer.drop reqbufferhdrlen).take dataLength.toNat)
  else .error .invalidParameter

/-- The first payload bytes, whatever the request turns out to be. -/
def readRequestId (buffer : Octets) : Option UInt64 :=
  if reqbufferhdrlen + 8 ≤ buffer.length then
    some (UInt64.ofNat (leValue ((buffer.drop reqbufferhdrlen).take 8)))
  else none

/-- The checks of `parse_request` from the status byte to the decoded payload. -/
def decodeRequest (b : Build) (buffer : Octets) :
    Except MigrationResult WaitForRequestResponse := do
  let hdr := processBuffer buffer
  require (dataStatusByte hdr 0 = TDX_VMCALL_VMM_SUCCESS) .vmmInternalError
  let op ← orElse (DataStatusOperation.tryFrom (dataStatusByte hdr 1)) .unsupportedOperationError
  let slice ← getRequestPayload buffer hdr.length
  match op with
  | .startMigration => (readMigrationInformation b hdr.length slice).map .startMigration
  | .startRebinding =>
    if b.rebinding then (readMigrationInformation b hdr.length slice).map .startRebinding
    else .error .unsupportedOperationError
  -- Only emulation builds serve a TDREPORT.
  | .getTDReport => .error .unsupportedOperationError
  | .enableLogArea => (readEnableLogAreaInfo hdr.length slice).map .enableLogArea
  | .getMigtdData =>
    if b.rebinding then (readMigtdDataInfo hdr.length slice).map .getMigtdData
    else .error .unsupportedOperationError

structure Polled where
  result : Poll (Except MigrationResult WaitForRequestResponse)
  requests : Finset UInt64
  pendingErrorReport : Option (UInt64 × MigrationResult)

def tryAcceptRequest (requests : Finset UInt64) (response : WaitForRequestResponse) : Polled :=
  if response.migRequestId ∈ requests then ⟨.pending, requests, none⟩
  else ⟨.ready (.ok response), insert response.migRequestId requests, none⟩

def rejectRequest (requests : Finset UInt64) (requestId : Option UInt64)
    (status : MigrationResult) : Polled :=
  ⟨.ready (.error status), requests, requestId.map (·, status)⟩

def parseRequest (b : Build) (buffer : Octets) (requests : Finset UInt64) : Polled :=
  if Idle buffer then ⟨.pending, requests, none⟩
  else match decodeRequest b buffer with
    | .error status => rejectRequest requests (readRequestId buffer) status
    | .ok response => tryAcceptRequest requests response

def VMCALL_SERVICE_MIGTD_GUID : Octets :=
  [0x30, 0x63, 0x0e, 0xe6, 0x09, 0x1e, 0x87, 0x43, 0xa4, 0x44, 0x8f, 0x32, 0xb8, 0xd6, 0x11, 0xe5]

def MIG_COMMAND_WAIT : UInt8 := 1

def RESPONSE_HEADER_LENGTH : Nat := 24

def tryReadResponse (memory : Octets) : Option Octets :=
  let length := leValue ((memory.drop 16).take 4)
  if RESPONSE_HEADER_LENGTH ≤ memory.length ∧ RESPONSE_HEADER_LENGTH ≤ length ∧
    length ≤ memory.length then some memory else none

/-- The command and the operation of a `ServiceMigWaitForReqResponse`. -/
def readWaitForReq (data : Octets) : Option (UInt8 × UInt8) :=
  if RESPONSE_HEADER_LENGTH + 4 ≤ data.length then some (data.getD 25 0, data.getD 26 0) else none

/-- The request in a response, if there is one yet. The walk over the HOB list in
`read_mig_info` is a parameter. -/
def decodeResponse (readMigInfo : Octets → Option MigtdMigrationInformation)
    (memory : Octets) : Except MigrationResult (Option WaitForRequestResponse) := do
  let rsp ← orElse (tryReadResponse memory) .invalidParameter
  require (rsp.take 16 = VMCALL_SERVICE_MIGTD_GUID) .invalidParameter
  let (command, operation) ← orElse (readWaitForReq rsp) .invalidParameter
  require (command = MIG_COMMAND_WAIT) .invalidParameter
  if operation = 1 then
    let info ← orElse (readMigInfo (memory.drop (RESPONSE_HEADER_LENGTH + 4))) .invalidParameter
    return some (.startMigration info)
  else if operation = 0 then return none
  else .error .invalidParameter

def pollResponse (readMigInfo : Octets → Option MigtdMigrationInformation)
    (memory : Octets) (requests : Finset UInt64) : Polled :=
  match decodeResponse readMigInfo memory with
  | .error status => ⟨.ready (.error status), requests, none⟩
  | .ok none => ⟨.pending, requests, none⟩
  | .ok (some response) => tryAcceptRequest requests response

/-- One poll of `wait_for_request` with the memory that the host has written. -/
def pollRequest (b : Build) (readMigInfo : Octets → Option MigtdMigrationInformation)
    (memory : Octets) (requests : Finset UInt64) : Polled :=
  if b.vmcallRaw then parseRequest b memory requests else pollResponse readMigInfo memory requests

/-- This buffer makes `wait_for_request` report an error for this request. -/
def Rejects (b : Build) (memory : Octets) (id : UInt64) (status : MigrationResult) : Prop :=
  b.vmcallRaw = true ∧ ¬Idle memory ∧ decodeRequest b memory = .error status ∧
    readRequestId memory = some id

theorem pollRequest_cases (b : Build)
    (readMigInfo : Octets → Option MigtdMigrationInformation) (memory : Octets)
    (requests : Finset UInt64) :
    (∃ r, r.migRequestId ∉ requests ∧ (∀ id status, ¬Rejects b memory id status) ∧
      pollRequest b readMigInfo memory requests =
        ⟨.ready (.ok r), insert r.migRequestId requests, none⟩) ∨
    ((∀ id status, ¬Rejects b memory id status) ∧
      (pollRequest b readMigInfo memory requests = ⟨.pending, requests, none⟩ ∨
        ∃ status, pollRequest b readMigInfo memory requests =
          ⟨.ready (.error status), requests, none⟩)) ∨
    ∃ id status, Rejects b memory id status ∧ pollRequest b readMigInfo memory requests =
        ⟨.ready (.error status), requests, some (id, status)⟩ := by
  have haccept : ∀ r : WaitForRequestResponse,
      tryAcceptRequest requests r = ⟨.pending, requests, none⟩ ∨
        r.migRequestId ∉ requests ∧ tryAcceptRequest requests r =
          ⟨.ready (.ok r), insert r.migRequestId requests, none⟩ := by
    intro r
    by_cases hmem : r.migRequestId ∈ requests
    · exact .inl (by rw [tryAcceptRequest, if_pos hmem])
    · exact .inr ⟨hmem, by rw [tryAcceptRequest, if_neg hmem]⟩
  by_cases hraw : b.vmcallRaw = true
  · rw [pollRequest, if_pos hraw, parseRequest]
    by_cases hidle : Idle memory
    · rw [if_pos hidle]
      exact .inr (.inl ⟨fun id status h => h.2.1 hidle, .inl rfl⟩)
    · rw [if_neg hidle]
      cases hdecode : decodeRequest b memory with
      | ok r =>
        have hno : ∀ id status, ¬Rejects b memory id status := by
          intro id status h
          have herr := h.2.2.1
          rw [hdecode] at herr
          cases herr
        rcases haccept r with hpend | ⟨hmem, hok⟩
        · exact .inr (.inl ⟨hno, .inl hpend⟩)
        · exact .inl ⟨r, hmem, hno, hok⟩
      | error status =>
        cases hid : readRequestId memory with
        | none =>
          refine .inr (.inl ⟨?_, .inr ⟨status, rfl⟩⟩)
          intro id status h
          have hread := h.2.2.2
          rw [hid] at hread
          cases hread
        | some id => exact .inr (.inr ⟨id, status, ⟨hraw, hidle, hdecode, hid⟩, rfl⟩)
  · have hno : ∀ id status, ¬Rejects b memory id status := fun id status h => hraw h.1
    rw [pollRequest, if_neg hraw, pollResponse]
    cases hdecode : decodeResponse readMigInfo memory with
    | error status => exact .inr (.inl ⟨hno, .inr ⟨status, rfl⟩⟩)
    | ok response =>
      cases response with
      | none => exact .inr (.inl ⟨hno, .inl rfl⟩)
      | some r =>
        rcases haccept r with hpend | ⟨hmem, hok⟩
        · exact .inr (.inl ⟨hno, .inl hpend⟩)
        · exact .inl ⟨r, hmem, hno, hok⟩

end MigTd.Migration.Requests
