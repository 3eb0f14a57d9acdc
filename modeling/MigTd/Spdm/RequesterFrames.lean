/- source: spdm_req.rs
   digest: What the steps of a requester run may add to its TDCALLs and to the requests it sent. -/

import MigTd.Spdm.Requester

-- The frame of a run is one search over all of its steps.
set_option synthInstance.maxSize 100000

set_option autoImplicit false

namespace MigTd.Spdm.RequesterFrames

open Lib.StateProgram Migration.Information Requester Vdm Tdx.Module Context
open Responder (Services Refusal)

abbrev Trace := TdLog × List (Option UInt32 × Octets)

def history (s : ReqState) : Trace := (s.log, s.sent)

abbrev OnTrace (R : Trace → Trace → Prop) : ReqState → ReqState → Prop := Order.Preimage history R

section

variable {R : ReqState → ReqState → Prop} [Std.Refl R] [IsTrans ReqState R]
  [∀ f, Keeps R (setSessions f)]

instance (sid : UInt32) (verdict : Except Refusal Unit) : Keeps R (accept sid verdict) := by
  unfold accept
  split <;> infer_instance

instance (P : Platform) (sv : Services) (sid : UInt32) (quote : Octets) :
    Keeps R (verifyOwnQuote P sv sid quote) := by
  unfold verifyOwnQuote
  split
  · infer_instance
  · split <;> infer_instance

end

section

variable {R : Trace → Trace → Prop} [Std.Refl R]

instance (f : (UInt32 → Option SpdmSession) → UInt32 → Option SpdmSession) :
    Keeps (OnTrace R) (setSessions f) := keeps_update fun s => refl_of R (history s)

instance (n : NegotiateInfo) : Keeps (OnTrace R) (setNegotiateInfo n) :=
  keeps_update fun s => refl_of R (history s)

instance (buffer : Octets) : Keeps (OnTrace R) (setAppContext buffer) :=
  keeps_update fun s => refl_of R (history s)

instance (my peer : Octets) : Keeps (OnTrace R) (provisionPubKeys my peer) :=
  keeps_update fun s => refl_of R (history s)

instance (transcript : Octets) :
    Keeps (OnTrace R) (setTranscriptBeforeKeyExchange transcript) :=
  keeps_update fun s => refl_of R (history s)

end

/-! The larger steps, for every law that their requests and TDCALLs keep. -/

section

variable {R : Trace → Trace → Prop} [Std.Refl R] [IsTrans Trace R]
  (P : Platform) (sv : Services) (lib : SpdmLibrary) (info : MigtdMigrationInformation)

instance (sid : Option UInt32) (payload : Octets) (opCode : VdmMessageOpCode) (count : UInt8)
    [∀ request, Keeps (OnTrace R) (handOver sid request)] :
    Keeps (OnTrace R) (converse P lib sid payload opCode count) := by
  unfold converse
  infer_instance

variable [∀ request, Keeps (OnTrace R) (handOver none request)]

instance : Keeps (OnTrace R) (openSession P sv lib) := by
  unfold openSession sendAndReceivePubKey
  infer_instance

instance (sid : UInt32) (payload : Octets) (opCode : VdmMessageOpCode) (count : UInt8)
    (evidenceType : VdmMessageElementType) (verdict : AttestRspElements → Except Refusal Unit) :
    Keeps (OnTrace R) (attestPeer P lib sid payload opCode count evidenceType verdict) := by
  unfold attestPeer
  infer_instance

instance (sid : UInt32) (peerData : Octets) [Keeps (OnTrace R) (ownServtdExt P info)] :
    Keeps (OnTrace R) (sendAndReceiveSdmMigrationAttestInfo P sv lib info sid peerData) := by
  unfold sendAndReceiveSdmMigrationAttestInfo migrationAttestRequest
  infer_instance

end

end MigTd.Spdm.RequesterFrames
