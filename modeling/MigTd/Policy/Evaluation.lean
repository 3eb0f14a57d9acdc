/- source: v2/policy.rs, policy/src/lib.rs
   digest: Policy v2 properties, blocks and their evaluation against evaluation data. -/

import MigTd.Lib.Ascii
import MigTd.Lib.ByteCodec
import MigTd.Lib.StateProgram

set_option autoImplicit false

namespace MigTd.Policy.Evaluation

open Lib.Ascii Lib.ByteCodec Lib.StateProgram

inductive PolicyError where
  | failGetReport
  | invalidParameter
  | invalidPolicy
  | invalidEventLog
  | invalidTdReport
  | platformNotFound (fmspc : Text)
  | platformNotMatch (fmspc fmspcPeer : Text)
  | unqualifiedPlatformInfo
  | unqualifiedQeInfo
  | unqualifiedTdxModuleInfo
  | unqualifiedMigTdInfo
  | crypto
  | signatureVerificationFailed
  | invalidCollateral
  | invalidOperation
  | invalidReference
  | invalidServtdIdentity
  | invalidServtdTcbMapping
  | policyHashMismatch
  | invalidQuote
  | svnMismatch
  | tcbEvaluation
  | crlEvaluation
  | hashCalculation
  | quoteVerification
  | tdReportVerification
  | quoteGeneration
  | getTdxReport
  | peerCertChainValidation
  deriving DecidableEq, Repr

inductive TcbStatus where
  | upToDate
  | swHardeningNeeded
  | configurationNeeded
  | configurationAndSWHardeningNeeded
  | outOfDate
  | outOfDateConfigurationNeeded
  | revoked

namespace TcbStatus

def asStr : TcbStatus → Text
  | upToDate => ascii "UpToDate"
  | swHardeningNeeded => ascii "SWHardeningNeeded"
  | configurationNeeded => ascii "ConfigurationNeeded"
  | configurationAndSWHardeningNeeded => ascii "ConfigurationAndSWHardeningNeeded"
  | outOfDate => ascii "OutOfDate"
  | outOfDateConfigurationNeeded => ascii "OutOfDateConfigurationNeeded"
  | revoked => ascii "Revoked"

def rank : TcbStatus → Nat
  | upToDate | swHardeningNeeded | outOfDate => 2
  | configurationNeeded | configurationAndSWHardeningNeeded | outOfDateConfigurationNeeded => 1
  | revoked => 0

def all : List TcbStatus :=
  [upToDate, swHardeningNeeded, configurationNeeded, configurationAndSWHardeningNeeded, outOfDate,
    outOfDateConfigurationNeeded, revoked]

def tryFrom (value : Text) : Except PolicyError TcbStatus :=
  orElse (all.find? fun s => s.asStr == value) .invalidParameter

/-- Statuses are compared by rank, in `PartialEq` as well. -/
def eq (a b : TcbStatus) : Bool := a.rank == b.rank

def isIn (a : TcbStatus) (l : List TcbStatus) : Bool := l.any fun b => eq b a

end TcbStatus

inductive ServtdTcbStatus where
  | upToDate
  | outOfDate
  | revoked

namespace ServtdTcbStatus

def asStr : ServtdTcbStatus → Text
  | upToDate => ascii "UpToDate"
  | outOfDate => ascii "OutOfDate"
  | revoked => ascii "Revoked"

def rank : ServtdTcbStatus → Nat
  | upToDate | outOfDate => 2
  | revoked => 0

def tryFrom (value : Text) : Except PolicyError ServtdTcbStatus :=
  orElse ([upToDate, outOfDate, revoked].find? fun s => s.asStr == value) .invalidParameter

def eq (a b : ServtdTcbStatus) : Bool := a.rank == b.rank

def isIn (a : ServtdTcbStatus) (l : List ServtdTcbStatus) : Bool := l.any fun b => eq b a

end ServtdTcbStatus

/-- The data that a policy is evaluated on, of the peer or of the own side. -/
structure PolicyEvaluationInfo where
  teeTcbSvn : Option (Bytes 16)
  tcbDate : Option Text
  tcbStatus : Option Text
  tcbEvaluationNumber : Option UInt32
  fmspc : Option (Bytes 6)
  migtdIsvsvn : Option UInt16
  migtdTcbStatus : Option Text
  migtdTcbDate : Option Text
  pckCrlNum : Option UInt32
  rootCaCrlNum : Option UInt32

inductive Reference where
  | integer (n : UInt32)
  | string (t : Text)
  | integerList (l : List UInt32)
  | stringList (l : List Text)

structure PolicyProperty where
  operation : Text
  reference : Reference

/-- The references that stand for the value of the own side. -/
def isRelative (reference : Text) : Bool := reference == ascii "self" || reference == ascii "init"

/-- The closure `is_in_range`: both ends belong to the range. -/
def isInRange (value : UInt32) (range : Text) : Except PolicyError Bool :=
  match splitDots range with
  | [first, last] => do
    let start ← orElse (parseU32 first) .invalidReference
    let stop ← orElse (parseU32 last) .invalidReference
    return start ≤ value && value ≤ stop
  | _ => .error .invalidOperation

namespace PolicyProperty

variable (p : PolicyProperty)

/-- The two comparisons that integers, texts and statuses share. -/
def compare (equal greaterOrEqual : Bool) : Except PolicyError Bool :=
  if p.operation = ascii "equal" then .ok equal
  else if p.operation = ascii "greater-or-equal" then .ok greaterOrEqual
  else .error .invalidOperation

def evaluateInteger (value : UInt32) (relativeReference : Option UInt32) :
    Except PolicyError Bool :=
  match p.reference with
  | .integer reference => p.compare (value == reference) (reference ≤ value)
  | .string reference =>
    if isRelative reference then do
      let relative ← orElse relativeReference .invalidReference
      p.compare (value == relative) (relative ≤ value)
    else if p.operation = ascii "in-range" ∨ p.operation = ascii "in-time-range" then
      isInRange value reference
    else .error .invalidOperation
  | .integerList items =>
    if p.operation = ascii "subset" then .ok (items.contains value) else .error .invalidOperation
  | .stringList _ => .error .invalidReference

/-- Texts are compared lexicographically, which orders ISO-8601 dates. -/
def evaluateString (value : Text) (relativeReference : Option Text) : Except PolicyError Bool :=
  match p.reference with
  | .string reference => do
    let referenceValue ←
      if isRelative reference then orElse relativeReference .invalidReference else .ok reference
    p.compare (value == referenceValue) (referenceValue ≤ value)
  | .stringList reference =>
    if p.operation = ascii "allow-list" then .ok (reference.contains value)
    else if p.operation = ascii "deny-list" then .ok (!reference.contains value)
    else .error .invalidOperation
  | _ => .error .invalidReference

/-- The statuses that an allow list names: only `ConfigurationNeeded` adds any. -/
def policyAllow : List Text → Except PolicyError (List TcbStatus)
  | [] => .ok []
  | item :: rest => do
    let _ ← TcbStatus.tryFrom item
    let allow ← policyAllow rest
    if item = TcbStatus.configurationNeeded.asStr then
      return [.configurationNeeded, .configurationAndSWHardeningNeeded,
        .outOfDateConfigurationNeeded] ++ allow
    else return allow

def evaluateTcbStatus (value : TcbStatus) (relativeReference : Option TcbStatus) :
    Except PolicyError Bool :=
  if value.isIn [.revoked] then .ok false
  else if value.isIn [.upToDate, .outOfDate, .swHardeningNeeded] then .ok true
  else match p.reference with
    | .string reference => do
      let referenceValue ←
        if isRelative reference then orElse relativeReference .invalidReference
        else TcbStatus.tryFrom reference
      p.compare (value.eq referenceValue) (referenceValue.rank ≤ value.rank)
    | .stringList reference =>
      if p.operation = ascii "allow-list" then do
        let allow ← policyAllow reference
        return value.isIn allow
      else if p.operation = ascii "deny-list" then do
        let _ ← reference.mapM TcbStatus.tryFrom
        return false
      else .error .invalidOperation
    | _ => .error .invalidReference

/-- The service-TD statuses are allowed or denied whatever the property refers to. -/
def evaluateServtdTcbStatus (_p : PolicyProperty) (value : ServtdTcbStatus)
    (_relativeReference : Option ServtdTcbStatus) : Except PolicyError Bool :=
  if value.isIn [.revoked] then .ok false
  else .ok (value.isIn [.upToDate, .outOfDate])

end PolicyProperty

def check (property : Option PolicyProperty) (evaluate : PolicyProperty → Except PolicyError Bool)
    (e : PolicyError) : Except PolicyError Unit :=
  match property with
  | none => .ok ()
  | some p => do
    let satisfied ← evaluate p
    require satisfied e

/-- `as_deref().and_then(|s| s.try_into().ok())`. -/
def parsed {α : Type} (tryFrom : Text → Except PolicyError α) (t : Option Text) : Option α :=
  t.bind fun s => (tryFrom s).toOption

structure TcbPolicy where
  tcbDate : Option PolicyProperty
  tcbStatusAccepted : Option PolicyProperty
  tcbEvaluationDataNumber : Option PolicyProperty

def TcbPolicy.evaluate (t : TcbPolicy) (value relative : PolicyEvaluationInfo) :
    Except PolicyError Unit := do
  check t.tcbEvaluationDataNumber (fun p => do
    p.evaluateInteger (← orElse value.tcbEvaluationNumber .tcbEvaluation)
      relative.tcbEvaluationNumber) .tcbEvaluation
  check t.tcbStatusAccepted (fun p => do
    p.evaluateTcbStatus (← orElse (parsed TcbStatus.tryFrom value.tcbStatus) .tcbEvaluation)
      (parsed TcbStatus.tryFrom relative.tcbStatus)) .tcbEvaluation
  check t.tcbDate (fun p => do
    p.evaluateString (← orElse value.tcbDate .tcbEvaluation) relative.tcbDate) .tcbEvaluation

structure PlatformPolicy where
  fmspc : Option PolicyProperty

def PlatformPolicy.evaluate (t : PlatformPolicy) (value relative : PolicyEvaluationInfo) :
    Except PolicyError Unit :=
  check t.fmspc (fun p => do
    let fmspc ← orElse value.fmspc .tcbEvaluation
    p.evaluateString (bytesToHexString fmspc.1)
      (relative.fmspc.map fun s => bytesToHexString s.1)) .tcbEvaluation

structure CrlPolicy where
  pckCrlNum : Option PolicyProperty
  rootCaCrlNum : Option PolicyProperty

def CrlPolicy.evaluate (t : CrlPolicy) (value relative : PolicyEvaluationInfo) :
    Except PolicyError Unit := do
  check t.pckCrlNum (fun p => do
    p.evaluateInteger (← orElse value.pckCrlNum .crlEvaluation) relative.pckCrlNum) .crlEvaluation
  check t.rootCaCrlNum (fun p => do
    p.evaluateInteger (← orElse value.rootCaCrlNum .crlEvaluation) relative.rootCaCrlNum)
    .crlEvaluation

structure GlobalPolicy where
  tcb : Option TcbPolicy
  platform : Option PlatformPolicy
  crl : Option CrlPolicy

def GlobalPolicy.evaluate (g : GlobalPolicy) (value relative : PolicyEvaluationInfo) :
    Except PolicyError Unit := do
  match g.tcb with
  | some tcb => tcb.evaluate value relative
  | none => .ok ()
  match g.platform with
  | some platform => platform.evaluate value relative
  | none => .ok ()
  match g.crl with
  | some crl => crl.evaluate value relative
  | none => .ok ()

structure MigTdIdentityPolicy where
  isvsvn : Option PolicyProperty
  tcbDate : Option PolicyProperty
  tcbStatusAccepted : Option PolicyProperty

structure ServtdPolicy where
  migtdIdentity : MigTdIdentityPolicy

def ServtdPolicy.evaluate (t : ServtdPolicy) (value relative : PolicyEvaluationInfo) :
    Except PolicyError Unit := do
  check t.migtdIdentity.isvsvn (fun p => do
    let svn ← orElse (value.migtdIsvsvn.map UInt16.toUInt32) .unqualifiedMigTdInfo
    p.evaluateInteger svn (relative.migtdIsvsvn.map UInt16.toUInt32)) .svnMismatch
  check t.migtdIdentity.tcbDate (fun p => do
    p.evaluateString (← orElse value.migtdTcbDate .unqualifiedMigTdInfo) relative.migtdTcbDate)
    .svnMismatch
  check t.migtdIdentity.tcbStatusAccepted (fun p => do
    let status ← orElse (parsed ServtdTcbStatus.tryFrom value.migtdTcbStatus) .unqualifiedMigTdInfo
    p.evaluateServtdTcbStatus status (parsed ServtdTcbStatus.tryFrom relative.migtdTcbStatus))
    .svnMismatch

inductive PolicyTypes where
  | global (g : GlobalPolicy)
  | servtd (s : ServtdPolicy)

/-- One entry of a block; a global entry counts only when it is not skipped. -/
def PolicyTypes.evaluate (skipGlobal : Bool) (t : PolicyTypes)
    (value relative : PolicyEvaluationInfo) : Except PolicyError Unit :=
  match t with
  | .global g => if skipGlobal then .ok () else g.evaluate value relative
  | .servtd s => s.evaluate value relative

def evaluatePolicyBlock (value relative : PolicyEvaluationInfo) (skipGlobal : Bool) :
    List PolicyTypes → Except PolicyError Unit
  | [] => .ok ()
  | t :: rest => do
    t.evaluate skipGlobal value relative
    evaluatePolicyBlock value relative skipGlobal rest

def evaluateOptionalBlock (block : Option (List PolicyTypes))
    (value relative : PolicyEvaluationInfo) (skipGlobal : Bool) : Except PolicyError Unit :=
  match block with
  | some policy => evaluatePolicyBlock value relative skipGlobal policy
  | none => .ok ()

theorem evaluatePolicyBlock_ok {value relative : PolicyEvaluationInfo} {skipGlobal : Bool}
    {block : List PolicyTypes} :
    evaluatePolicyBlock value relative skipGlobal block = .ok () ↔
      ∀ t ∈ block, t.evaluate skipGlobal value relative = .ok () := by
  induction block with
  | nil => simp [evaluatePolicyBlock]
  | cons t rest ih =>
    rw [List.forall_mem_cons, evaluatePolicyBlock, except_bind_ok, ← ih]
    constructor
    · rintro ⟨_, ht, hrest⟩
      exact ⟨ht, hrest⟩
    · rintro ⟨ht, hrest⟩
      exact ⟨(), ht, hrest⟩

end MigTd.Policy.Evaluation
