/- source: migtd-hash/src/lib.rs, migtd/main.rs, mig_policy.rs
   digest: The offline computation of TDINFO beside the registers of a MigTD that has started. -/

import MigTd.Measurement.Boot
import MigTd.Policy.MaskedTdInfo
import Mathlib.Data.List.Forall2

set_option autoImplicit false

namespace MigTd.Measurement.HashTool

open Attestation.Reports Lib.ByteCodec Lib.StateProgram Boot EventLog EventWriter
  Migration.Information Policy.MigPolicy

structure Manifest where
  attributes : Bytes 8
  xfam : Bytes 8
  mrconfigid : Bytes 48
  mrowner : Bytes 48
  mrownerconfig : Bytes 48

/-- `TdInfoStruct`; its reserved bytes are always zero. -/
structure TdInfoStruct where
  attributes : Bytes 8
  xfam : Bytes 8
  mrtd : Bytes 48
  mrconfigId : Bytes 48
  mrowner : Bytes 48
  mrownerconfig : Bytes 48
  rtmr0 : Bytes 48
  rtmr1 : Bytes 48
  rtmr2 : Bytes 48
  rtmr3 : Bytes 48
  deriving DecidableEq

def TdInfoStruct.pack (i : TdInfoStruct) : TdInfo :=
  ⟨i.attributes.1 ++ (i.xfam.1 ++ (i.mrtd.1 ++ (i.mrconfigId.1 ++ (i.mrowner.1 ++
    (i.mrownerconfig.1 ++ (i.rtmr0.1 ++ (i.rtmr1.1 ++ (i.rtmr2.1 ++ (i.rtmr3.1 ++
      List.replicate 112 0))))))))), by
    simp only [List.length_append, List.length_replicate, i.attributes.2, i.xfam.2, i.mrtd.2,
      i.mrconfigId.2, i.mrowner.2, i.mrownerconfig.2, i.rtmr0.2, i.rtmr1.2, i.rtmr2.2, i.rtmr3.2]⟩

/-- The JSON library, the td-shim helpers, and the size of the configuration volume. -/
structure ShimTools where
  fromSlice : Octets → Except String Manifest
  buildMrtd : Octets → Nat → Bytes 48
  buildIgvmmrtd : Octets → Bytes 48
  /-- `build_rtmr_with_seperator`: RTMR0 and RTMR1. -/
  buildRtmrWithSeperator : UInt32 → Bytes 48 × Bytes 48
  readIgvmcfvdata : Octets → Octets
  getFileFromFv : FileLookup
  configVolumeSize : Nat

def MIGTD_IMAGE_SIZE : Nat := 0x100_0000

/-- A register and room for the digest that it is extended by. -/
structure Rtmr where
  reg : Bytes 96

namespace Rtmr

def newWithValue (value : Bytes 48) : Rtmr :=
  ⟨⟨value.1 ++ List.replicate 48 0, by rw [List.length_append, value.2, List.length_replicate]⟩⟩

def new : Rtmr := newWithValue (Bytes.zero 48)

def asBytes (r : Rtmr) : Bytes 48 := ⟨r.reg.1.take 48, by rw [List.length_take, r.reg.2]; rfl⟩

def extendWithRawData (sha384 : Octets → Octets) (r : Rtmr) (data : Octets) :
    Except String Rtmr := do
  let digest ← calculateDigest sha384 data
  let reg := r.asBytes.1 ++ digest.1
  let value ← calculateDigest sha384 reg
  return ⟨⟨value.1 ++ digest.1, by rw [List.length_append, value.2, digest.2]⟩⟩

end Rtmr

section

variable (sha384 : Octets → Octets) (tools : ShimTools)

/-- The issuer chain is looked for in every image with policy v2. -/
def rtmr1 (cfv : Octets) (value : Bytes 48) (isPolicyV2 : Bool) : Except String (Bytes 48) := do
  let r := Rtmr.newWithValue value
  if isPolicyV2 then do
    let chain ← orElse (tools.getFileFromFv cfv MIGTD_POLICY_ISSUER_CHAIN_FFS_GUID)
      "Unable to get policy issuer chain from image"
    let r ← r.extendWithRawData sha384 chain
    return r.asBytes
  else return r.asBytes

def rtmr2 (cfv : Octets) (isRaDisabled isPolicyV2 : Bool) : Except String (Bytes 48) :=
  if isRaDisabled then do
    let r ← Rtmr.new.extendWithRawData sha384 TEST_DISABLE_RA_AND_ACCEPT_ALL_EVENT
    return r.asBytes
  else do
    let policy ← orElse (tools.getFileFromFv cfv MIGTD_POLICY_FFS_GUID)
      "Unable to get policy from image"
    let r ← Rtmr.new.extendWithRawData sha384 policy
    if isPolicyV2 then return r.asBytes
    else do
      let rootCa ← orElse (tools.getFileFromFv cfv MIGTD_ROOT_CA_FFS_GUID)
        "Unable to get root CA from image"
      let r ← r.extendWithRawData sha384 rootCa
      return r.asBytes

/-- The configuration volume of an image; a short file leaves zeroes at its end. -/
def readCfv (image : Octets) (igvmformat : Bool) : Octets :=
  if igvmformat then tools.readIgvmcfvdata image
  else (image ++ List.replicate tools.configVolumeSize 0).take tools.configVolumeSize

/-- The arguments of `build_td_info` without the attribute. -/
structure Input where
  manifest : Octets
  image : Octets
  isRaDisabled : Bool
  isPolicyV2 : Bool
  igvmformat : Bool

def unmaskedTdInfo (input : Input) : Except String TdInfoStruct := do
  let manifest ← tools.fromSlice input.manifest
  let seperator := tools.buildRtmrWithSeperator 0
  let cfv := readCfv tools input.image input.igvmformat
  let r1 ← rtmr1 sha384 tools cfv seperator.2 input.isPolicyV2
  let r2 ← rtmr2 sha384 tools cfv input.isRaDisabled input.isPolicyV2
  return {
    attributes := manifest.attributes
    xfam := manifest.xfam
    mrtd := if input.igvmformat then tools.buildIgvmmrtd input.image
      else tools.buildMrtd input.image MIGTD_IMAGE_SIZE
    mrconfigId := manifest.mrconfigid
    mrowner := manifest.mrowner
    mrownerconfig := manifest.mrownerconfig
    rtmr0 := seperator.1
    rtmr1 := r1
    rtmr2 := r2
    rtmr3 := Bytes.zero 48 }

/-- The bits of SERVTD_ATTR and the fields that they clear. -/
def maskSteps : List (UInt64 × (TdInfoStruct → TdInfoStruct)) :=
  [(0x1_0000_0000, fun i => { i with attributes := Bytes.zero 8 }),
    (0x2_0000_0000, fun i => { i with xfam := Bytes.zero 8 }),
    (0x4_0000_0000, fun i => { i with mrtd := Bytes.zero 48 }),
    (0x8_0000_0000, fun i => { i with mrconfigId := Bytes.zero 48 }),
    (0x10_0000_0000, fun i => { i with mrowner := Bytes.zero 48 }),
    (0x20_0000_0000, fun i => { i with mrownerconfig := Bytes.zero 48 }),
    (0x40_0000_0000, fun i => { i with rtmr0 := Bytes.zero 48 }),
    (0x80_0000_0000, fun i => { i with rtmr1 := Bytes.zero 48 }),
    (0x100_0000_0000, fun i => { i with rtmr2 := Bytes.zero 48 }),
    (0x200_0000_0000, fun i => { i with rtmr3 := Bytes.zero 48 })]

def maskFields (servtdAttr : UInt64) (i : TdInfoStruct) : TdInfoStruct :=
  maskSteps.foldl (fun i step => if servtdAttr &&& step.1 != 0 then step.2 i else i) i

def buildTdInfo (input : Input) (servtdAttr : UInt64) : Except String TdInfoStruct := do
  let i ← unmaskedTdInfo sha384 tools input
  return maskFields servtdAttr i

def calculateServtdInfoHash (i : TdInfoStruct) : Except String Octets :=
  (digestSha384 sha384 i.pack.1).mapError fun _ => "Calculate digest"

end

variable {cfv : Octets}

section

variable {sha384 : Octets → Octets} {tools : ShimTools}

theorem newWithValue_asBytes (value : Bytes 48) : (Rtmr.newWithValue value).asBytes = value :=
  Subtype.ext (List.take_left' value.2)

theorem extendWithRawData_value (hlen : ∀ d, (sha384 d).length = 48) (r : Rtmr)
    (data : Octets) :
    ∃ r', r.extendWithRawData sha384 data = .ok r' ∧
      r'.asBytes.1 = measured sha384 r.asBytes.1 data := by
  have hdigest : ∀ d, calculateDigest sha384 d = .ok ⟨sha384 d, hlen d⟩ := fun d =>
    calculateDigest_ok.mpr rfl
  refine ⟨⟨⟨measured sha384 r.asBytes.1 data ++ sha384 data, ?_⟩⟩, ?_, ?_⟩
  · rw [List.length_append, measured, hlen, hlen]
  · unfold Rtmr.extendWithRawData
    rw [hdigest]
    change (do
      let value ← calculateDigest sha384 (r.asBytes.1 ++ sha384 data)
      return _) = _
    rw [hdigest]
    rfl
  · exact List.take_left' (hlen _)

variable {after value : Bytes 48}

theorem extend_asBytes (hlen : ∀ d, (sha384 d).length = 48) {r : Rtmr} {data : Octets} :
    (do let r' ← r.extendWithRawData sha384 data; return r'.asBytes) = Except.ok after ↔
      after.1 = measured sha384 r.asBytes.1 data := by
  obtain ⟨r', hr', hvalue⟩ := extendWithRawData_value hlen r data
  rw [hr', ← hvalue, ← Subtype.ext_iff]
  change Except.ok r'.asBytes = Except.ok after ↔ _
  rw [Except.ok.injEq]
  exact eq_comm

theorem rtmr1_v1 : rtmr1 sha384 tools cfv value false = .ok after ↔ after = value := by
  change Except.ok (Rtmr.newWithValue value).asBytes = Except.ok after ↔ _
  rw [newWithValue_asBytes, Except.ok.injEq]
  exact eq_comm

theorem rtmr1_v2 (hlen : ∀ d, (sha384 d).length = 48) :
    rtmr1 sha384 tools cfv value true = .ok after ↔
      ∃ chain, tools.getFileFromFv cfv MIGTD_POLICY_ISSUER_CHAIN_FFS_GUID = some chain ∧
        after.1 = measured sha384 value.1 chain := by
  unfold rtmr1
  rw [if_pos rfl, except_bind_ok]
  refine exists_congr fun chain => and_congr orElse_ok ?_
  rw [extend_asBytes hlen, newWithValue_asBytes]

theorem rtmr2_disabled (hlen : ∀ d, (sha384 d).length = 48) {isPolicyV2 : Bool} :
    rtmr2 sha384 tools cfv true isPolicyV2 = .ok after ↔
      after.1 = measured sha384 (Bytes.zero 48).1 TEST_DISABLE_RA_AND_ACCEPT_ALL_EVENT := by
  unfold rtmr2
  rw [if_pos rfl, extend_asBytes hlen, Rtmr.new, newWithValue_asBytes]

theorem rtmr2_v2 (hlen : ∀ d, (sha384 d).length = 48) :
    rtmr2 sha384 tools cfv false true = .ok after ↔
      ∃ policy, tools.getFileFromFv cfv MIGTD_POLICY_FFS_GUID = some policy ∧
        after.1 = measured sha384 (Bytes.zero 48).1 policy := by
  unfold rtmr2
  rw [if_neg Bool.false_ne_true, except_bind_ok]
  refine exists_congr fun policy => and_congr orElse_ok ?_
  simp only [if_true]
  rw [extend_asBytes hlen, Rtmr.new, newWithValue_asBytes]

theorem rtmr2_v1 (hlen : ∀ d, (sha384 d).length = 48) :
    rtmr2 sha384 tools cfv false false = .ok after ↔
      ∃ policy, tools.getFileFromFv cfv MIGTD_POLICY_FFS_GUID = some policy ∧
        ∃ rootCa, tools.getFileFromFv cfv MIGTD_ROOT_CA_FFS_GUID = some rootCa ∧
          after.1 = measured sha384 (measured sha384 (Bytes.zero 48).1 policy) rootCa := by
  unfold rtmr2
  rw [if_neg Bool.false_ne_true, except_bind_ok]
  refine exists_congr fun policy => and_congr orElse_ok ?_
  obtain ⟨r, hr, hvalue⟩ := extendWithRawData_value hlen Rtmr.new policy
  rw [Rtmr.new, newWithValue_asBytes] at hvalue
  rw [hr, ← hvalue]
  change (do
    let rootCa ← orElse _ _
    let r' ← r.extendWithRawData sha384 rootCa
    return r'.asBytes) = _ ↔ _
  rw [except_bind_ok]
  exact exists_congr fun rootCa => and_congr orElse_ok (extend_asBytes hlen)

theorem unmaskedTdInfo_registers {input : Input} {manifest : Manifest}
    (hmanifest : tools.fromSlice input.manifest = .ok manifest) {a b : Bytes 48} :
    (∃ i, unmaskedTdInfo sha384 tools input = .ok i ∧ i.rtmr1 = a ∧ i.rtmr2 = b) ↔
      rtmr1 sha384 tools (readCfv tools input.image input.igvmformat)
        (tools.buildRtmrWithSeperator 0).2 input.isPolicyV2 = .ok a ∧
      rtmr2 sha384 tools (readCfv tools input.image input.igvmformat) input.isRaDisabled
        input.isPolicyV2 = .ok b := by
  unfold unmaskedTdInfo
  simp only [except_bind_ok, hmanifest]
  constructor
  · rintro ⟨i, ⟨_, -, r1, h1, r2, h2, hret⟩, rfl, rfl⟩
    cases hret
    exact ⟨h1, h2⟩
  · rintro ⟨h1, h2⟩
    exact ⟨_, ⟨manifest, rfl, a, h1, b, h2, rfl⟩, rfl, rfl⟩

end

def clearAt (start size : Nat) (bytes : Octets) : Octets :=
  bytes.take start ++ (List.replicate size 0 ++ bytes.drop (start + size))

theorem clearAt_behind {n start size : Nat} {a : Bytes n} {rest rest' : Octets}
    (hn : n ≤ start) (h : clearAt (start - n) size rest = rest') :
    clearAt start size (a.1 ++ rest) = a.1 ++ rest' := by
  have htake : (a.1 ++ rest).take start = a.1 ++ rest.take (start - n) := by
    rw [List.take_append, a.2, List.take_of_length_le (by rw [a.2]; exact hn)]
  have hdrop : (a.1 ++ rest).drop (start + size) = rest.drop (start - n + size) := by
    rw [List.drop_append, a.2, List.drop_eq_nil_of_le (by rw [a.2]; omega), List.nil_append]
    congr 1
    omega
  rw [clearAt, htake, hdrop, List.append_assoc, ← h, clearAt]

private theorem clearAt_here {n : Nat} {a : Bytes n} {rest : Octets} :
    clearAt 0 n (a.1 ++ rest) = (Bytes.zero n).1 ++ rest := by
  rw [clearAt, List.take_zero, List.nil_append, Nat.zero_add, List.drop_left' a.2]
  rfl

/-- A field of the tool and a field of the check with the same bit and the same place. -/
def SameField (f : IgnorableField) (step : UInt64 × (TdInfoStruct → TdInfoStruct)) : Prop :=
  f.bit = step.1 ∧ ∀ i, clearAt f.start f.size i.pack.1 = (step.2 i).pack.1

theorem maskSteps_fields : List.Forall₂ SameField ignorableFields maskSteps := by
  refine .cons ⟨rfl, fun i => ?_⟩ <| .cons ⟨rfl, fun i => ?_⟩ <| .cons ⟨rfl, fun i => ?_⟩ <|
    .cons ⟨rfl, fun i => ?_⟩ <| .cons ⟨rfl, fun i => ?_⟩ <| .cons ⟨rfl, fun i => ?_⟩ <|
    .cons ⟨rfl, fun i => ?_⟩ <| .cons ⟨rfl, fun i => ?_⟩ <| .cons ⟨rfl, fun i => ?_⟩ <|
    .cons ⟨rfl, fun i => ?_⟩ .nil
  all_goals
    simp only [SERVTD_ATTR_IGNORE_ATTRIBUTES, SERVTD_ATTR_IGNORE_XFAM, SERVTD_ATTR_IGNORE_MRTD,
      SERVTD_ATTR_IGNORE_MRCONFIGID, SERVTD_ATTR_IGNORE_MROWNER, SERVTD_ATTR_IGNORE_MROWNERCONFIG,
      SERVTD_ATTR_IGNORE_RTMR0, SERVTD_ATTR_IGNORE_RTMR1, SERVTD_ATTR_IGNORE_RTMR2,
      SERVTD_ATTR_IGNORE_RTMR3, TdInfoStruct.pack]
    -- Step over the fields in front of the one that is cleared.
    repeat' first
      | exact clearAt_here
      | refine clearAt_behind (by decide) ?_

theorem maskTdInfo_pack (attr : UInt64) (i : TdInfoStruct) :
    maskTdInfo attr i.pack = (maskFields attr i).pack := by
  have hfold : ∀ {fields steps}, List.Forall₂ SameField fields steps → ∀ i : TdInfoStruct,
      fields.foldl (fun t f => if f.ignoredBy attr then f.clear t else t) i.pack =
        (steps.foldl (fun i step => if attr &&& step.1 != 0 then step.2 i else i) i).pack := by
    intro fields steps h
    induction h with
    | nil => exact fun i => rfl
    | @cons f step _ _ hstep _ ih =>
      intro i
      obtain ⟨hbit, hclear⟩ := hstep
      have hsame : f.ignoredBy attr = (attr &&& step.1 != 0) := by
        rw [IgnorableField.ignoredBy, hbit]
      rw [List.foldl_cons, List.foldl_cons, ← ih, hsame]
      by_cases hset : (attr &&& step.1 != 0) = true
      · rw [if_pos hset, if_pos hset, show f.clear i.pack = (step.2 i).pack from
          Subtype.ext (hclear i)]
      · rw [if_neg hset, if_neg hset]
  exact hfold maskSteps_fields i

theorem calculateServtdInfoHash_accepted {sha384 : Octets → Octets}
    (hlen : ∀ d, (sha384 d).length = 48) (attr : UInt64) (i : TdInfoStruct) :
    ∃ hash : Bytes 48, calculateServtdInfoHash sha384 (maskFields attr i) = .ok hash.1 ∧
      verifyServtdInfoHash sha384 i.pack.1 attr hash = .ok (maskFields attr i).pack := by
  have hdigest : ∀ d, digestSha384 sha384 d = .ok (sha384 d) := fun d =>
    if_neg (not_not.mpr (hlen d))
  refine ⟨⟨sha384 (maskFields attr i).pack.1, hlen _⟩, ?_, ?_⟩
  · rw [calculateServtdInfoHash, hdigest]
    rfl
  · have hread : array 512 i.pack.1 = some (i.pack, []) := by
      have hself := decodes_array i.pack []
      rwa [List.append_nil] at hself
    unfold verifyServtdInfoHash
    rw [hread]
    change (do
      let infoHash ← (digestSha384 sha384 (maskTdInfo attr i.pack).1).mapError fun _ => _
      require _ _
      return maskTdInfo attr i.pack) = _
    rw [maskTdInfo_pack, hdigest]
    change (do
      require (sha384 (maskFields attr i).pack.1 = sha384 (maskFields attr i).pack.1) _
      return (maskFields attr i).pack) = _
    rw [require, if_pos rfl]
    rfl

def Input.features (input : Input) (azCvmEmu : Bool) : Features :=
  ⟨input.isPolicyV2, input.isRaDisabled, azCvmEmu⟩

/-- The machine starts with the volume of the image, the RTMR1 of the helpers and an empty
RTMR2. -/
structure StartsFrom (sha384 : Octets → Octets) (tools : ShimTools) (input : Input)
    (m : Machine) (s : LogState) : Prop where
  hash : m.platform.sha384 = sha384
  files : m.getFileFromFv = tools.getFileFromFv
  volume : m.configVolume = readCfv tools input.image input.igvmformat
  rtmr1 : s.rtmrs 1 = (tools.buildRtmrWithSeperator 0).2
  rtmr2 : s.rtmrs 2 = Bytes.zero 48

/-- The image has an issuer chain whose measurement leaves RTMR1 as it is. -/
def ChainInvisible (sha384 : Octets → Octets) (tools : ShimTools) (input : Input) : Prop :=
  ∃ chain, tools.getFileFromFv (readCfv tools input.image input.igvmformat)
    MIGTD_POLICY_ISSUER_CHAIN_FFS_GUID = some chain ∧
    measured sha384 (tools.buildRtmrWithSeperator 0).2.1 chain =
      (tools.buildRtmrWithSeperator 0).2.1

section

variable {sha384 : Octets → Octets} {tools : ShimTools} {input : Input} {m : Machine}
  {s t : LogState} {azCvmEmu : Bool}

theorem rtmr2_agrees (hlen : ∀ d, (sha384 d).length = 48)
    (hstart : StartsFrom sha384 tools input m s)
    (hrun : doMeasurements m (input.features azCvmEmu) s = (.ok (), t)) :
    rtmr2 sha384 tools (readCfv tools input.image input.igvmformat) input.isRaDisabled
      input.isPolicyV2 = .ok (t.rtmrs 2) := by
  cases hra : input.isRaDisabled with
  | true =>
    rw [rtmr2_disabled hlen, (doMeasurements_disabled hra hrun).2, hstart.hash, hstart.rtmr2]
  | false =>
    cases hv2 : input.isPolicyV2 with
    | true =>
      obtain ⟨chain, policy, -, hpolicy, -, h2⟩ := doMeasurements_v2 hra hv2 hrun
      rw [Machine.getPolicy, hstart.files, hstart.volume] at hpolicy
      rw [hstart.hash, hstart.rtmr2] at h2
      exact (rtmr2_v2 hlen).mpr ⟨policy, hpolicy, h2⟩
    | false =>
      obtain ⟨policy, rootCa, hpolicy, hrootCa, -, h2⟩ := doMeasurements_v1 hra hv2 hrun
      rw [Machine.getPolicy, hstart.files, hstart.volume] at hpolicy
      rw [Machine.getRootCa, hstart.files, hstart.volume] at hrootCa
      rw [hstart.hash, hstart.rtmr2] at h2
      exact (rtmr2_v1 hlen).mpr ⟨policy, hpolicy, rootCa, hrootCa, h2⟩

theorem rtmr1_agrees_iff (hlen : ∀ d, (sha384 d).length = 48)
    (hstart : StartsFrom sha384 tools input m s)
    (hrun : doMeasurements m (input.features azCvmEmu) s = (.ok (), t)) :
    rtmr1 sha384 tools (readCfv tools input.image input.igvmformat)
      (tools.buildRtmrWithSeperator 0).2 input.isPolicyV2 = .ok (t.rtmrs 1) ↔
      (input.isRaDisabled = true → input.isPolicyV2 = true →
        ChainInvisible sha384 tools input) := by
  cases hv2 : input.isPolicyV2 with
  | false =>
    have hsame : t.rtmrs 1 = s.rtmrs 1 := by
      cases hra : input.isRaDisabled with
      | true => exact (doMeasurements_disabled hra hrun).1
      | false =>
        obtain ⟨_, _, -, -, h1, -⟩ := doMeasurements_v1 hra hv2 hrun
        exact h1
    rw [rtmr1_v1, hsame, hstart.rtmr1]
    simp
  | true =>
    rw [rtmr1_v2 hlen]
    cases hra : input.isRaDisabled with
    | true =>
      rw [(doMeasurements_disabled hra hrun).1, hstart.rtmr1]
      simp only [true_imp_iff, ChainInvisible]
      exact exists_congr fun chain => and_congr Iff.rfl eq_comm
    | false =>
      obtain ⟨chain, policy, hchain, -, h1, -⟩ := doMeasurements_v2 hra hv2 hrun
      rw [Machine.getPolicyIssuerChain, hstart.files, hstart.volume] at hchain
      rw [hstart.hash, hstart.rtmr1] at h1
      simp only [Bool.false_eq_true, false_imp_iff, iff_true]
      exact ⟨chain, hchain, h1⟩

end

/-- After a start, the tool gives RTMR1 and RTMR2 of the machine exactly when the build is not one
of policy v2 with the attestation disabled, or measuring the chain changes nothing. Its hash is
accepted for every attribute. -/
theorem hash_tool_agrees_iff (sha384 : Octets → Octets)
    (hlen : ∀ d, (sha384 d).length = 48) (tools : ShimTools) (input : Input) :
    (∀ (manifest : Manifest) (m : Machine) (azCvmEmu : Bool) (s t : LogState),
      tools.fromSlice input.manifest = .ok manifest → StartsFrom sha384 tools input m s →
      doMeasurements m (input.features azCvmEmu) s = (.ok (), t) →
      ((∃ i, unmaskedTdInfo sha384 tools input = .ok i ∧ i.rtmr1 = t.rtmrs 1 ∧
          i.rtmr2 = t.rtmrs 2) ↔
        (input.isRaDisabled = true → input.isPolicyV2 = true →
          ChainInvisible sha384 tools input))) ∧
    ∀ (attr : UInt64) (i : TdInfoStruct), buildTdInfo sha384 tools input attr = .ok i →
      ∃ (unmasked : TdInfoStruct) (hash : Bytes 48),
        unmaskedTdInfo sha384 tools input = .ok unmasked ∧
        calculateServtdInfoHash sha384 i = .ok hash.1 ∧
        verifyServtdInfoHash sha384 unmasked.pack.1 attr hash = .ok i.pack := by
  constructor
  · intro manifest m azCvmEmu s t hmanifest hstart hrun
    rw [unmaskedTdInfo_registers hmanifest, rtmr1_agrees_iff hlen hstart hrun]
    exact and_iff_left (rtmr2_agrees hlen hstart hrun)
  · intro attr i h
    unfold buildTdInfo at h
    obtain ⟨unmasked, hunmasked, hret⟩ := except_bind_ok.mp h
    cases hret
    obtain ⟨hash, hhash, haccepted⟩ := calculateServtdInfoHash_accepted hlen attr unmasked
    exact ⟨unmasked, hash, hunmasked, hhash, haccepted⟩

def sampleFiles : FileLookup := fun _ guid =>
  if guid = MIGTD_POLICY_ISSUER_CHAIN_FFS_GUID then some [9]
  else if guid = MIGTD_ROOT_CA_FFS_GUID then some [8]
  else some [7]

def sampleTools : ShimTools where
  fromSlice _ := .ok ⟨Bytes.zero 8, Bytes.zero 8, Bytes.zero 48, Bytes.zero 48, Bytes.zero 48⟩
  buildMrtd _ _ := Bytes.zero 48
  buildIgvmmrtd _ := Bytes.zero 48
  buildRtmrWithSeperator _ := (Bytes.zero 48, Bytes.zero 48)
  readIgvmcfvdata image := image
  getFileFromFv := sampleFiles
  configVolumeSize := 4

def sampleMachine : Machine where
  platform := samplePlatform
  getFileFromFv := sampleFiles
  configVolume := List.replicate 4 0
  hasEventLog := true
  initPolicy _ _ := .ok []
  verifyOwnTdinfo _ := .ok ()
  setCa _ := true

def sampleInput (isRaDisabled isPolicyV2 : Bool) : Input := ⟨[], [], isRaDisabled, isPolicyV2, false⟩

theorem sampleMachine_starts (isRaDisabled isPolicyV2 : Bool) (room : Nat) :
    StartsFrom lastBytes sampleTools (sampleInput isRaDisabled isPolicyV2) sampleMachine
      (sampleArea room) :=
  ⟨rfl, rfl, rfl, rfl, rfl⟩

/-- With policy v2 and the attestation disabled the tool measures the chain and MigTD does not. -/
theorem hash_tool_differs :
    StartsFrom lastBytes sampleTools (sampleInput true true) sampleMachine (sampleArea 110) ∧
      ∃ t, doMeasurements sampleMachine ((sampleInput true true).features false)
          (sampleArea 110) = (.ok (), t) ∧
        ∃ i, unmaskedTdInfo lastBytes sampleTools (sampleInput true true) = .ok i ∧
          i.rtmr1 ≠ t.rtmrs 1 := by
  have heval : (doMeasurements sampleMachine ((sampleInput true true).features false)
        (sampleArea 110)).1 = .ok () ∧
      (unmaskedTdInfo lastBytes sampleTools (sampleInput true true)).isOk = true ∧
      (unmaskedTdInfo lastBytes sampleTools (sampleInput true true)).toOption.map (·.rtmr1) ≠
        some ((doMeasurements sampleMachine ((sampleInput true true).features false)
          (sampleArea 110)).2.rtmrs 1) := by decide +kernel
  obtain ⟨hrun, hok, hne⟩ := heval
  obtain ⟨t, ht⟩ := run_of_result hrun
  obtain ⟨i, hi⟩ := exists_ok_of_isOk hok
  rw [ht, hi] at hne
  exact ⟨sampleMachine_starts true true 110, t, ht, i, hi, fun hsame => hne (congrArg some hsame)⟩

/-- With policy v1 the policy and the root certificate are measured by both. -/
theorem hash_tool_agrees_v1 :
    StartsFrom lastBytes sampleTools (sampleInput false false) sampleMachine (sampleArea 160) ∧
      ∃ t, doMeasurements sampleMachine ((sampleInput false false).features false)
          (sampleArea 160) = (.ok (), t) ∧
        ∃ i, unmaskedTdInfo lastBytes sampleTools (sampleInput false false) = .ok i ∧
          i.rtmr1 = t.rtmrs 1 ∧ i.rtmr2 = t.rtmrs 2 := by
  have hrun : (doMeasurements sampleMachine ((sampleInput false false).features false)
      (sampleArea 160)).1 = .ok () := by decide +kernel
  obtain ⟨t, ht⟩ := run_of_result hrun
  have hstart := sampleMachine_starts false false 160
  refine ⟨hstart, t, ht, ?_⟩
  exact ((hash_tool_agrees_iff lastBytes lastBytes_length sampleTools
    (sampleInput false false)).1 _ sampleMachine false (sampleArea 160) t rfl hstart ht).mpr
    fun hra => absurd hra (by decide)

end MigTd.Measurement.HashTool
