/- source: logging.rs, rebinding.rs
   digest: The log areas, the entries that are stored in them and the operations that do so. -/

import MigTd.Lib.Ascii
import MigTd.Lib.StateProgram
import MigTd.Migration.Information

set_option autoImplicit false

namespace MigTd.Migration.Logging

open Lib.Ascii Lib.ByteCodec Lib.StateProgram Information

def PAGE_SIZE : Nat := 0x1000

def MIGRATION_REQUEST_ID_SENTINEL : UInt64 := 0xFFFF_FFFF_FFFF_FFFF

def LOGAREA_SIGNATURE : Octets :=
  [0x4d, 0x69, 0x67, 0x54, 0x44, 0x20, 0x4c, 0x6f, 0x67, 0x41, 0x72, 0x65, 0x61, 0x20, 0x31, 0x00]

def LOGAREABUFFERHEADERSIZE : Nat := 40

def LOGENTRYHEADERSIZE : Nat := 24

inductive Level where
  | error
  | warn
  | info
  | debug
  | trace
  deriving DecidableEq

def u8ToLoglevel (value : UInt8) : Option Level :=
  match value with
  | 1 => some .error
  | 2 => some .warn
  | 3 => some .info
  | 4 => some .debug
  | 5 => some .trace
  | _ => none

def loglevelToU8 : Level → UInt8
  | .error => 1
  | .warn => 2
  | .info => 3
  | .debug => 4
  | .trace => 5

/-- `LevelFilter`; without a level it lets nothing pass. -/
structure LevelFilter where
  level : Option Level
  deriving DecidableEq

def u8ToLevelfilter (value : UInt8) : LevelFilter :=
  match value with
  | 0 => ⟨none⟩
  | 1 => ⟨some .error⟩
  | 2 => ⟨some .warn⟩
  | 3 => ⟨some .info⟩
  | 4 => ⟨some .debug⟩
  | _ => ⟨some .trace⟩

def LevelFilter.admits (f : LevelFilter) (level : Level) : Bool :=
  match f.level with
  | none => false
  | some most => loglevelToU8 level ≤ loglevelToU8 most

structure LogAreaBufferHeader where
  vcpuindex : UInt32
  startoffset : UInt64
  endoffset : UInt64

/-- The signature in front and four reserved bytes behind the index. -/
def LogAreaBufferHeader.asBytes (h : LogAreaBufferHeader) : Bytes 40 :=
  ⟨LOGAREA_SIGNATURE ++ (putU32 h.vcpuindex ++ (putU32 0 ++ (putU64 h.startoffset ++
    putU64 h.endoffset))), by
    simp only [List.length_append, putU32, putU64, leBytes_length]
    rfl⟩

structure LogEntryHeader where
  logEntryId : UInt64
  migRequestId : UInt64
  loglevel : UInt8
  length : UInt32
  deriving DecidableEq

def LogEntryHeader.asBytes (h : LogEntryHeader) : Octets :=
  putU64 h.logEntryId ++ (putU64 h.migRequestId ++ (h.loglevel :: 0 :: 0 :: 0 :: putU32 h.length))

structure LogEntry where
  header : LogEntryHeader
  value : Octets
  deriving DecidableEq

structure LogPage where
  address : UInt64
  bytes : Bytes 4096

def overwrite (page : Bytes 4096) (offset : Nat) (data : Octets)
    (h : offset + data.length ≤ 4096) : Bytes 4096 :=
  ⟨page.1.take offset ++ (data ++ page.1.drop (offset + data.length)), by
    rw [List.length_append, List.length_append, List.length_take, List.length_drop, page.2]
    omega⟩

namespace LogPage

variable (p : LogPage)

def field (offset size : Nat) : Nat := leValue ((p.bytes.1.drop offset).take size)

def vcpuindex : Nat := p.field 16 4

def startoffset : Nat := p.field 24 8

def endoffset : Nat := p.field 32 8

end LogPage

/-- The panics of the code: an index out of range, or an overflow where it is checked. -/
inductive Panic where
  | index
  | overflow
  deriving DecidableEq

abbrev PageProgram := Program LogPage Panic

/-- `data_buffer[start..stop]` -/
abbrev readSlice (start stop : Nat) : PageProgram Octets := do
  ensure (start ≤ stop ∧ stop ≤ PAGE_SIZE) .index
  observe fun p => (p.bytes.1.drop start).take (stop - start)

/-- `data_buffer[offset..offset + data.len()].copy_from_slice(data)` -/
def copyFromSlice (offset : Nat) (data : Octets) : PageProgram Unit := fun p =>
  if h : offset + data.length ≤ 4096 then
    (.ok (), { p with bytes := overwrite p.bytes offset data h })
  else (.error .index, p)

/-- `data_buffer[start..stop].fill(0)` -/
abbrev fill (start stop : Nat) : PageProgram Unit := do
  ensure (start ≤ stop) .index
  copyFromSlice start (List.replicate (stop - start) 0)

section

variable (debugAssertions : Bool)

abbrev usizeAdd (a b : Nat) : PageProgram Nat :=
  if a + b < 2 ^ 64 then pure (a + b)
  else if debugAssertions then raise .overflow
  else pure ((a + b) % 2 ^ 64)

abbrev entryAt (offset : Nat) : PageProgram Octets := do
  let stop ← usizeAdd debugAssertions offset LOGENTRYHEADERSIZE
  readSlice offset stop

def entryId (header : Octets) : Nat := leValue (header.take 8)

def entryLength (header : Octets) : Nat := leValue (header.drop 20)

/-- The loop that removes old entries until `reqdatasize` bytes are gained. Every turn gains at
least a header, so that `reqdatasize` turns are enough. -/
def evict : Nat → Nat → Nat → PageProgram Nat
  | 0, _, currentstartoffset => pure currentstartoffset
  | turns + 1, reqdatasize, currentstartoffset =>
    if reqdatasize = 0 then pure currentstartoffset
    else do
      let past ← usizeAdd debugAssertions currentstartoffset LOGENTRYHEADERSIZE
      let currentstartoffset :=
        if PAGE_SIZE ≤ past then LOGAREABUFFERHEADERSIZE else currentstartoffset
      let header ← entryAt debugAssertions currentstartoffset
      let totallength := entryLength header + LOGENTRYHEADERSIZE
      let next ← usizeAdd debugAssertions currentstartoffset totallength
      fill currentstartoffset next
      evict turns (reqdatasize - totallength) next

/-- No room at the end of the page: go on behind its header. -/
abbrev wrapOffset (full : Prop) [Decidable full] (offset : Nat) : PageProgram Nat :=
  if full then do
    fill offset PAGE_SIZE
    pure LOGAREABUFFERHEADERSIZE
  else pure offset

/-- Clear what is between the end and the start, and evict what else is in the way. -/
abbrev clearGap (need currentstartoffset currentendoffset : Nat) : PageProgram (Nat × Nat) :=
  if currentendoffset < currentstartoffset then do
    fill currentendoffset currentstartoffset
    let stop ← usizeAdd debugAssertions currentendoffset need
    if currentstartoffset < stop then do
      let reqdatasize := need - (currentstartoffset - currentendoffset)
      let start ← evict debugAssertions reqdatasize reqdatasize currentstartoffset
      pure (start, currentendoffset)
    else pure (currentstartoffset, currentendoffset)
  else pure (currentstartoffset, currentendoffset)

abbrev makeRoom (need currentstartoffset currentendoffset : Nat) : PageProgram (Nat × Nat) := do
  let stop ← usizeAdd debugAssertions currentendoffset need
  if PAGE_SIZE < stop ∨ currentendoffset < currentstartoffset then do
    let currentendoffset ← wrapOffset (PAGE_SIZE < stop) currentendoffset
    clearGap debugAssertions need currentstartoffset currentendoffset
  else pure (currentstartoffset, currentendoffset)

abbrev resetStart (currentstartoffset : Nat) : PageProgram Nat := do
  let past ← usizeAdd debugAssertions currentstartoffset LOGENTRYHEADERSIZE
  let currentstartoffset ← wrapOffset (PAGE_SIZE ≤ past) currentstartoffset
  if currentstartoffset ≠ LOGAREABUFFERHEADERSIZE then do
    let header ← entryAt debugAssertions currentstartoffset
    if entryLength header = 0 ∧ entryId header = 0 then pure LOGAREABUFFERHEADERSIZE
    else pure currentstartoffset
  else pure currentstartoffset

def copyEntry (offset : Nat) (e : LogEntry) : PageProgram Unit := do
  copyFromSlice offset e.header.asBytes
  copyFromSlice (offset + LOGENTRYHEADERSIZE) e.value

/-- The part of `entrylog` that works on the page of the processor. -/
def storeEntry (e : LogEntry) : PageProgram Unit := do
  let need := LOGENTRYHEADERSIZE + e.value.length
  let start ← observe LogPage.startoffset
  let stop ← observe LogPage.endoffset
  let (currentstartoffset, currentendoffset) ← makeRoom debugAssertions need start stop
  let currentstartoffset ← resetStart debugAssertions currentstartoffset
  let stop ← usizeAdd debugAssertions currentendoffset need
  fill currentendoffset stop
  copyEntry currentendoffset e
  copyFromSlice 24 (putU64 (UInt64.ofNat currentstartoffset))
  copyFromSlice 32 (putU64 (UInt64.ofNat stop))

end

structure LoggingState where
  numVcpus : UInt32
  logareaCreated : Bool
  logareaInitialized : Bool
  logentryId : UInt64
  provisionalLogsEnabled : Bool
  maxloglevel : UInt8
  /-- The pages that are shared with the host. -/
  logareaptr : List LogPage
  provisionalLogareaptr : List LogPage
  /-- The logger of the `log` crate is the one of this program. -/
  backendInstalled : Bool
  maxLevel : LevelFilter

def LoggingState.initial : LoggingState where
  numVcpus := 0
  logareaCreated := false
  logareaInitialized := false
  logentryId := 0
  provisionalLogsEnabled := false
  maxloglevel := 0
  logareaptr := []
  provisionalLogareaptr := []
  backendInstalled := false
  maxLevel := ⟨none⟩

def LoggingState.pages (s : LoggingState) : List LogPage :=
  if s.provisionalLogsEnabled then s.provisionalLogareaptr else s.logareaptr

def LoggingState.setPage (s : LoggingState) (i : Nat) (p : LogPage) : LoggingState :=
  if s.provisionalLogsEnabled then
    { s with provisionalLogareaptr := s.provisionalLogareaptr.set i p }
  else { s with logareaptr := s.logareaptr.set i p }

abbrev LogProgram := Program LoggingState Panic

/-- A shared page with what the allocator left in it, and the provisional page beside it. -/
structure NewPages where
  shared : UInt64
  content : Bytes 4096
  provisional : UInt64

def areaPage (address : UInt64) (content : Bytes 4096) (vcpuindex : UInt32) : LogPage where
  address := address
  bytes := overwrite content 0 (LogAreaBufferHeader.asBytes ⟨vcpuindex, 40, 40⟩).1
    (by rw [(LogAreaBufferHeader.asBytes ⟨vcpuindex, 40, 40⟩).2]; decide)

/-- The loop over the processors; a failed allocation frees all pages. -/
def addPages (alloc : Nat → Option NewPages) : List Nat → LogProgram Bool
  | [] => pure true
  | index :: rest =>
    match alloc index with
    | none => do
      update fun s => { s with logareaptr := [], provisionalLogareaptr := [] }
      pure false
    | some new => do
      update fun s => { s with
        logareaptr := s.logareaptr ++ [areaPage new.shared new.content (UInt32.ofNat index)]
        provisionalLogareaptr := s.provisionalLogareaptr ++
          [areaPage new.provisional (Bytes.zero 4096) (UInt32.ofNat index)] }
      addPages alloc rest

/-- `numVcpus` is what the TDX module reports, or nothing when the call fails. -/
def createLogarea (numVcpus : Option UInt32) (alloc : Nat → Option NewPages) :
    LogProgram (Except MigrationResult Unit) :=
  match numVcpus with
  | none => pure (.error .tdxModuleError)
  | some n => do
    let complete ← addPages alloc (List.range n.toNat)
    if complete then do
      update fun s =>
        { s with numVcpus := n, provisionalLogsEnabled := true, logareaCreated := true }
      pure (.ok ())
    else pure (.error .outOfResource)

def freeProvisionalLogarea : LogProgram Unit :=
  update fun s =>
    if s.provisionalLogsEnabled then
      { s with provisionalLogsEnabled := false, provisionalLogareaptr := [] }
    else s

/-- The ids go on at one behind the largest. -/
def nextEntryId (id : UInt64) : UInt64 := if id = 0xFFFF_FFFF_FFFF_FFFF then 1 else id + 1

section

variable (debugAssertions : Bool)

/-- Only the page that has the index of the processor in its header takes the entry. -/
def appendEntry (currvcpuindex : Nat) (page : LogPage) (e : LogEntry) : LogProgram Unit :=
  if currvcpuindex = page.vcpuindex then do
    update fun s => { s with logentryId := e.header.logEntryId }
    embed (fun _ => page) (fun s p => s.setPage currvcpuindex p) (fun e => e)
      (storeEntry debugAssertions e)
  else pure ()

/-- `cpu` is the APIC id of the processor, if it reports one. -/
def entrylog (cpu : Option UInt8) (msg : Octets) (loglevel : Level) (requestId : UInt64) :
    LogProgram Unit := do
  let s ← observe id
  let logLevel := loglevelToU8 loglevel
  if (s.logareaInitialized ∧ logLevel ≤ s.maxloglevel) ∨
      (s.provisionalLogsEnabled ∧ logLevel ≤ loglevelToU8 .trace) then
    if PAGE_SIZE - (LOGAREABUFFERHEADERSIZE + LOGENTRYHEADERSIZE) < msg.length then pure ()
    else match cpu with
      | none => pure ()
      | some cpu => do
        let page ← lift (orElse s.pages[cpu.toNat]? Panic.index)
        appendEntry debugAssertions cpu.toNat page
          ⟨⟨nextEntryId s.logentryId, requestId, logLevel, UInt32.ofNat msg.length⟩, msg⟩
  else pure ()

/-- A record of the `log` crate; a value that is no number has no `u64`. -/
structure Record where
  level : Level
  args : Octets
  keyValues : List (Text × Option UInt64)

/-- `RequestIdVisitor`: the last pair with the key counts. -/
def Record.migRequestId (r : Record) : UInt64 :=
  (r.keyValues.foldl (fun found kv =>
    if kv.1 = ascii "migration_request_id" then
      some (kv.2.getD MIGRATION_REQUEST_ID_SENTINEL)
    else found) none).getD MIGRATION_REQUEST_ID_SENTINEL

def enabled (s : LoggingState) (level : Level) : Bool :=
  let logMaxLevel :=
    if s.logareaInitialized then u8ToLevelfilter s.maxloglevel
    else if s.provisionalLogsEnabled then
      if debugAssertions then ⟨some .trace⟩ else ⟨some .info⟩
    else s.maxLevel
  logMaxLevel.admits level

def backendLog (cpu : Option UInt8) (r : Record) : LogProgram Unit := do
  let s ← observe id
  if enabled debugAssertions s r.level then
    entrylog debugAssertions cpu (r.args ++ ascii "\n") r.level r.migRequestId
  else pure ()

/-- The macros of the `log` crate ask for the maximum level before they call the logger. -/
def logRecord (cpu : Option UInt8) (r : Record) : LogProgram Unit := do
  let s ← observe id
  if s.backendInstalled ∧ s.maxLevel.admits r.level then backendLog debugAssertions cpu r
  else pure ()

/-- Copy the provisional page of a processor over its shared one. -/
def publishPage (index : Nat) (page : LogPage) : LogProgram Unit := do
  let s ← observe id
  let provisional ← lift (orElse s.provisionalLogareaptr[index]? Panic.index)
  update fun s => { s with
    logareaptr := s.logareaptr.set index { page with bytes := provisional.bytes } }

/-- The loop over the processors, with the addresses and sizes for the response. -/
def publishPages (provisionalLogsEnabled : Bool) : List Nat → LogProgram Octets
  | [] => pure []
  | index :: rest => do
    let s ← observe id
    let page ← lift (orElse s.logareaptr[index]? Panic.index)
    if provisionalLogsEnabled then publishPage index page else pure ()
    let data ← publishPages provisionalLogsEnabled rest
    pure (putU64 page.address ++ (putU64 (UInt64.ofNat PAGE_SIZE) ++ data))

/-- The record that `enable_logarea` makes about itself. -/
def enableRecord (level : Level) (text : String) (logMaxLevel : UInt8) (requestId : UInt64) :
    Record :=
  ⟨level, ascii (text ++ String.ofList (Nat.toDigits 10 logMaxLevel.toNat) ++ "\n"),
    [(ascii "migration_request_id", some requestId)]⟩

/-- A release build does not go above Info. -/
def effectiveLevel (requested : UInt8) : UInt8 :=
  if debugAssertions then requested else if requested ≤ 3 then requested else 3

def enableLogarea (cpu : Option UInt8) (requested : UInt8) (requestId : UInt64) :
    LogProgram (Octets × Except MigrationResult Unit) := do
  let logMaxLevel := effectiveLevel debugAssertions requested
  let s ← observe id
  if s.logareaCreated then
    match u8ToLoglevel logMaxLevel with
    | some _ => do
      update fun s => { s with maxloglevel := logMaxLevel }
      let areas ← publishPages s.provisionalLogsEnabled (List.range s.numVcpus.toNat)
      freeProvisionalLogarea
      update fun s =>
        { s with logareaInitialized := true, maxLevel := u8ToLevelfilter logMaxLevel }
      logRecord debugAssertions cpu (enableRecord .info
        "enable_logarea: Logging has been enabled with MaxLevel: " logMaxLevel requestId)
      pure (putU32 s.numVcpus ++ (putU32 0 ++ areas), .ok ())
    | none => do
      logRecord debugAssertions cpu (enableRecord .error
        "enable_logarea: rejected request with invalid MaxLogLevel: " logMaxLevel requestId)
      pure (ascii ("Error: enable_logarea(): Invalid MaxLogLevel: " ++
        String.ofList (Nat.toDigits 16 logMaxLevel.toNat) ++ " requested\n"),
        .error .invalidParameter)
  else
    pure (ascii "Error: LogArea has not been successfuly created by create_logarea()\n",
      .error .unsupportedOperationError)

def initVmmLogger : LogProgram Bool := do
  let s ← observe id
  if s.backendInstalled then pure false
  else do
    update fun s => { s with backendInstalled := true, maxLevel := ⟨some .trace⟩ }
    pure true

/-- What can happen to the log areas, in any order. The program calls `entrylog` itself only at
the end of a rebinding, with the level Info. -/
inductive Operation where
  | initVmmLogger
  | createLogarea (numVcpus : Option UInt32) (alloc : Nat → Option NewPages)
  | enableLogarea (cpu : Option UInt8) (level : UInt8) (requestId : UInt64)
  | record (cpu : Option UInt8) (r : Record)
  | completeRebinding (cpu : Option UInt8) (requestId : UInt64)
  /-- The host writes a page that is shared with it. -/
  | hostWrite (index : Nat) (bytes : Bytes 4096)

def hostWrite (index : Nat) (bytes : Bytes 4096) (s : LoggingState) : LoggingState :=
  { s with logareaptr := s.logareaptr.modify index fun p => { p with bytes := bytes } }

/-- The state after an operation; after a panic it is the one in which the panic happened. -/
def step (s : LoggingState) : Operation → LoggingState
  | .initVmmLogger => (initVmmLogger s).2
  | .createLogarea numVcpus alloc => (createLogarea numVcpus alloc s).2
  | .enableLogarea cpu level requestId => (enableLogarea debugAssertions cpu level requestId s).2
  | .record cpu r => (logRecord debugAssertions cpu r s).2
  | .completeRebinding cpu requestId =>
    (entrylog debugAssertions cpu (ascii "Complete rebinding and report status\n") .info
      requestId s).2
  | .hostWrite index bytes => hostWrite index bytes s

def run (ops : List Operation) : LoggingState := ops.foldl (step debugAssertions) .initial

end

end MigTd.Migration.Logging
