/- source: v1/config.rs, verify.rs, v1/mod.rs, policy/src/lib.rs
   digest: Policy v1 documents and their verification against two reports and two event maps. -/

import MigTd.Attestation.Reports
import MigTd.Measurement.EventLog
import MigTd.Policy.Evaluation

set_option autoImplicit false

namespace MigTd.PolicyV1.Verify

open Attestation.Reports Lib.Ascii Lib.ByteCodec Lib.StateProgram Measurement.EventLog
  Policy.Evaluation

inductive Operation where
  | equal
  | greaterOrEqual
  | subset
  | inRange
  | inTimeRange
  | arrayEqual
  | arrayGreaterOrEqual
  deriving DecidableEq

/-- What a value is compared with: a constant, or the value of the own side. -/
inductive Reference where
  | integer (value : UInt64)
  | string (text : Text)
  | self
  | integerRange (start stop : UInt64)
  | array (bytes : Octets)
  deriving DecidableEq

structure Property where
  operation : Operation
  reference : Reference
  deriving DecidableEq

def formatBytesHex (input : Octets) : Text := bytesToHexString input

/-- A little-endian number of at most 64 bits, for `u64` and `usize`. -/
def sliceToU64 (input : Octets) : Option Nat :=
  if 8 < input.length then none else some (leValue input)

def verifyInteger (value : UInt64) (op : Operation) (peer : Nat) : Bool :=
  match op with
  | .equal => peer == value.toNat
  | .greaterOrEqual => value.toNat ≤ peer
  | _ => false

def verifyString (text : Text) (op : Operation) (peer : Text) : Bool :=
  match op with
  | .equal => peer == text
  | _ => false

/-- `IntegerRange::verify`; the end does not belong to the range. -/
def verifyRange (start stop : UInt64) (op : Operation) (peer : Nat) : Bool :=
  match op with
  | .inRange | .inTimeRange => start.toNat ≤ peer && peer < stop.toNat
  | _ => false

def verifyArray (bytes : Octets) (op : Operation) (peer : Octets) : Bool :=
  if peer.length ≠ bytes.length then false
  else match op with
    | .arrayEqual => bytes == peer
    | .arrayGreaterOrEqual => (bytes.zip peer).all fun x => x.1 ≤ x.2
    | _ => false

/-- `RefLocal::verify`: the destination must be at least what the source is. -/
def verifySelf (isSrc : Bool) (op : Operation) (own peer : Octets) : Bool :=
  if own.length ≠ peer.length then false
  else match op with
    | .equal => peer == own
    | .greaterOrEqual =>
      match sliceToU64 own, sliceToU64 peer with
      | some l, some p => if isSrc then l ≤ p else p ≤ l
      | _, _ => false
    | .arrayEqual => own == peer
    | .arrayGreaterOrEqual =>
      (own.zip peer).all fun x => if isSrc then x.1 ≤ x.2 else x.2 ≤ x.1
    | _ => false

def Property.verify (p : Property) (isSrc : Bool) (own peer : Octets) : Bool :=
  match p.reference with
  | .integer value =>
    match sliceToU64 peer with
    | none => false
    | some n => verifyInteger value p.operation n
  | .string text => verifyString text p.operation (formatBytesHex peer)
  | .self => verifySelf isSrc p.operation own peer
  | .integerRange start stop =>
    match sliceToU64 peer with
    | none => false
    | some n => verifyRange start stop p.operation n
  | .array bytes => verifyArray bytes p.operation peer

/-- A `BTreeMap` from property names, in the order in which it is iterated. -/
structure PropertyMap where
  entries : List (Text × Property)
  sorted : entries.Pairwise fun a b => a.1 < b.1

structure PlatformInfo where
  fmspc : Text
  tcbInfo : PropertyMap

structure QeInfo where
  qeIdentity : PropertyMap

structure TdxModuleInfo where
  tdxModuleIdentity : PropertyMap

structure MigTdInfo where
  tdInfo : PropertyMap
  eventLog : Option PropertyMap

inductive Policy where
  | platform (p : PlatformInfo)
  | qe (q : QeInfo)
  | tdxModule (t : TdxModuleInfo)
  | migtd (m : MigTdInfo)

structure MigPolicy where
  blocks : List Policy

structure Field where
  start : Nat
  size : Nat
  fits : TD_VERIFIED_REPORT_SIZE ≥ start + size

def Field.read (f : Field) (r : VerifiedReport) : Octets := (slice r f.start f.size f.fits).1

/-- The known names and their places; an unknown name has none. -/
def fieldIn (table : List (String × Field)) (name : Text) : Option Field :=
  (table.find? fun row => ascii row.1 == name).map (·.2)

def platformInfoFields : List (String × Field) :=
  [("fmspc", ⟨584, 6, by decide⟩), ("sgxtcbcomponents", ⟨608, 16, by decide⟩),
    ("pcesvn", ⟨606, 2, by decide⟩), ("tdxtcbcomponents", ⟨590, 16, by decide⟩)]

def qeInfoFields : List (String × Field) :=
  [("MISCSELECT", ⟨626, 4, by decide⟩), ("ATTRIBUTES", ⟨634, 16, by decide⟩),
    ("MRSIGNER", ⟨698, 32, by decide⟩), ("ISVPRODID", ⟨730, 2, by decide⟩),
    ("ISVSVN", ⟨732, 2, by decide⟩)]

def tdxModuleInfoFields : List (String × Field) :=
  [("TDXModuleMajorVersion", ⟨624, 1, by decide⟩), ("TDXModuleSVN", ⟨625, 1, by decide⟩),
    ("MRSEAM", ⟨16, 48, by decide⟩), ("MRSIGNERSEAM", ⟨64, 48, by decide⟩),
    ("ATTRIBUTES", ⟨112, 8, by decide⟩)]

def migtdInfoFields : List (String × Field) :=
  [("ATTRIBUTES", ⟨120, 8, by decide⟩), ("XFAM", ⟨128, 8, by decide⟩),
    ("MRTD", ⟨136, 48, by decide⟩), ("MRCONFIGID", ⟨184, 48, by decide⟩),
    ("MROWNER", ⟨232, 48, by decide⟩), ("MROWNERCONFIG", ⟨280, 48, by decide⟩),
    ("RTMR0", ⟨328, 48, by decide⟩), ("RTMR1", ⟨376, 48, by decide⟩),
    ("RTMR2", ⟨424, 48, by decide⟩), ("RTMR3", ⟨472, 48, by decide⟩)]

def getInfoProperty (table : List (String × Field)) (r : VerifiedReport) (name : Text) :
    Except PolicyError Octets :=
  orElse ((fieldIn table name).map (·.read r)) .invalidParameter

def fmspcOf (r : VerifiedReport) : Text := formatBytesHex (slice r 584 6 (by decide)).1

def MIGTD_ATTRIBUTES_MASK : Octets := [0xff, 0xff, 0x00, 0x30, 0x00, 0x00, 0x00, 0x40]

def MIGTD_XFAM_MASK : Octets := [0x03, 0x18, 0x00, 0x00, 0x00, 0x00, 0x00, 0x00]

def maskBytesArray (data mask : Octets) : Octets := List.zipWith (· &&& ·) data mask

/-- Attributes and XFAM of the MigTD are masked. -/
def maskMigtdProperty (name : Text) (data : Octets) : Octets :=
  if name = ascii "ATTRIBUTES" then maskBytesArray data MIGTD_ATTRIBUTES_MASK
  else if name = ascii "XFAM" then maskBytesArray data MIGTD_XFAM_MASK
  else data

abbrev Values := Text → Except PolicyError (Octets × Octets)

/-- The own value is read before the one of the peer. -/
def infoValues (table : List (String × Field)) (own peer : VerifiedReport) : Values :=
  fun name => do
    let l ← getInfoProperty table own name
    let p ← getInfoProperty table peer name
    return (l, p)

def migtdValues (own peer : VerifiedReport) : Values := fun name => do
  let (l, p) ← infoValues migtdInfoFields own peer name
  return (maskMigtdProperty name l, maskMigtdProperty name p)

def verifyProperties (isSrc : Bool) (values : Values) (e : PolicyError) :
    List (Text × Property) → Except PolicyError Unit
  | [] => .ok ()
  | (name, action) :: rest => do
    let (l, p) ← values name
    require (action.verify isSrc l p) e
    verifyProperties isSrc values e rest

def getPlatformInfoPolicy (policy : MigPolicy) : List PlatformInfo :=
  policy.blocks.filterMap fun
    | .platform p => some p
    | _ => none

/-- The platform block that the peer is checked against. -/
def targetPlatform (platforms : List PlatformInfo) (ownFmspc peerFmspc : Text) :
    Except PolicyError PlatformInfo :=
  let byFmspc := orElse (platforms.find? (·.fmspc == peerFmspc)) (.platformNotFound peerFmspc)
  match platforms with
  | [p] =>
    if p.fmspc = ascii "self" then
      if ownFmspc ≠ peerFmspc then .error (.platformNotMatch ownFmspc peerFmspc) else .ok p
    else byFmspc
  | _ => byFmspc

section

variable (isSrc : Bool) (own peer : VerifiedReport)

def verifyPlatformInfo (platforms : List PlatformInfo) : Except PolicyError Unit := do
  let target ← targetPlatform platforms (fmspcOf own) (fmspcOf peer)
  verifyProperties isSrc (infoValues platformInfoFields own peer) .unqualifiedPlatformInfo
    target.tcbInfo.entries

def verifyQeInfo (q : QeInfo) : Except PolicyError Unit :=
  verifyProperties isSrc (infoValues qeInfoFields own peer) .unqualifiedQeInfo q.qeIdentity.entries

/-- The inner loop over one TDX-module block, with the flag that it leaves. -/
def tdxModuleSatisfied : List (Text × Property) → Except PolicyError Bool
  | [] => .ok true
  | (name, action) :: rest => do
    let (l, p) ← infoValues tdxModuleInfoFields own peer name
    if action.verify isSrc l p then tdxModuleSatisfied rest else .ok false

/-- The loop over all blocks with the shared flag; the first satisfied block ends it. -/
def tdxModuleLoop (verifyResult : Bool) : List Policy → Except PolicyError Bool
  | [] => .ok verifyResult
  | .tdxModule t :: rest => do
    let verifyResult ← tdxModuleSatisfied isSrc own peer t.tdxModuleIdentity.entries
    if verifyResult then .ok true else tdxModuleLoop verifyResult rest
  | _ :: rest => tdxModuleLoop verifyResult rest

/-- The values that are logged after a failure, which are read once more. -/
def logTdxModules : List Policy → Except PolicyError Unit
  | [] => .ok ()
  | .tdxModule t :: rest => do
    t.tdxModuleIdentity.entries.forM fun (name, _) => do
      let _ ← infoValues tdxModuleInfoFields own peer name
    logTdxModules rest
  | _ :: rest => logTdxModules rest

def verifyTdxModuleInfo (logging : Bool) (blocks : List Policy) : Except PolicyError Unit := do
  let verifyResult ← tdxModuleLoop isSrc own peer true blocks
  if verifyResult then .ok ()
  else do
    if logging then logTdxModules own peer blocks
    .error .unqualifiedTdxModuleInfo

end

def eventNames : List (String × EventName) :=
  [("Digest.TdShim", .tdShim), ("Digest.SecureBootKey", .secureBootKey),
    ("Digest.MigTdCore", .migTdCore), ("Digest.MigTdCoreSvn", .migTdCoreSvn),
    ("Digest.MigTdPolicy", .migTdPolicy), ("Digest.MigTdSgxRootKey", .sgxRootKey)]

def eventName (name : Text) : EventName :=
  ((eventNames.find? fun row => ascii row.1 == name).map (·.2)).getD .unknown

/-- The own event decides whether the data or the digests are compared. -/
def verifyEvent (isSrc : Bool) (name : EventName) (policy : Property) (own peer : EventMap) :
    Bool :=
  match own name, peer name with
  | some l, some p =>
    match l.data with
    | some data =>
      match p.data with
      | some dataPeer => policy.verify isSrc data dataPeer
      | none => false
    | none => policy.verify isSrc l.header.sha384.1 p.header.sha384.1
  | _, _ => false

def verifyEvents (isSrc : Bool) (own peer : EventMap) :
    List (Text × Property) → Except PolicyError Unit
  | [] => .ok ()
  | (name, value) :: rest => do
    require (eventName name ≠ .unknown) .invalidEventLog
    require (verifyEvent isSrc (eventName name) value own peer) .unqualifiedMigTdInfo
    verifyEvents isSrc own peer rest

structure Side where
  report : VerifiedReport
  events : EventMap

def verifyMigtdInfo (isSrc : Bool) (own peer : Side) (m : MigTdInfo) : Except PolicyError Unit := do
  verifyProperties isSrc (migtdValues own.report peer.report) .unqualifiedMigTdInfo m.tdInfo.entries
  match m.eventLog with
  | some eventLogPolicy => verifyEvents isSrc own.events peer.events eventLogPolicy.entries
  | none => .ok ()

def verifyBlocks (isSrc : Bool) (own peer : Side) : List Policy → Except PolicyError Unit
  | [] => .ok ()
  | .qe q :: rest => do
    verifyQeInfo isSrc own.report peer.report q
    verifyBlocks isSrc own peer rest
  | .migtd m :: rest => do
    verifyMigtdInfo isSrc own peer m
    verifyBlocks isSrc own peer rest
  | .platform _ :: rest => verifyBlocks isSrc own peer rest
  | .tdxModule _ :: rest => verifyBlocks isSrc own peer rest

def verifyMigPolicy (logging isSrc : Bool) (policy : MigPolicy) (own peer : Side) :
    Except PolicyError Unit := do
  verifyPlatformInfo isSrc own.report peer.report (getPlatformInfoPolicy policy)
  verifyTdxModuleInfo isSrc own.report peer.report logging policy.blocks
  verifyBlocks isSrc own peer policy.blocks

/-- `trim_matches(char::from(0))` -/
def trimNul (t : Text) : Text :=
  (((t.dropWhile (· == 0)).reverse).dropWhile (· == 0)).reverse

def newReport (report : Octets) : Except PolicyError VerifiedReport :=
  if h : report.length = TD_VERIFIED_REPORT_SIZE then .ok ⟨report, h⟩
  else .error .invalidParameter

/-- The JSON library and the log feature of the build. -/
structure Library where
  fromStr : Text → Option MigPolicy
  logging : Bool

def parsePolicy (lib : Library) (policy : Octets) : Except PolicyError MigPolicy :=
  if isUtf8 policy then orElse (lib.fromStr (trimNul policy)) .invalidPolicy
  else .error .invalidPolicy

def verifyPolicy (lib : Library) (isSrc : Bool) (policy report : Octets) (events : EventMap)
    (reportPeer : Octets) (eventsPeer : EventMap) : Except PolicyError Unit := do
  require (TD_VERIFIED_REPORT_SIZE ≤ report.length ∧ TD_VERIFIED_REPORT_SIZE ≤ reportPeer.length)
    .invalidParameter
  let policy ← parsePolicy lib policy
  let reportLocal ← newReport report
  let reportPeer ← newReport reportPeer
  verifyMigPolicy lib.logging isSrc policy ⟨reportLocal, events⟩ ⟨reportPeer, eventsPeer⟩

end MigTd.PolicyV1.Verify
