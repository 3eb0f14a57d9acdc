/- source: session.rs, migration/mod.rs
   digest: One call of parse_request on whatever the host wrote, its panics included. -/

import MigTd.Migration.InformationGrammar

set_option autoImplicit false

namespace MigTd.Migration.RequestBuffers

open Lib.ByteCodec Lib.StateProgram Information InformationGrammar Requests

abbrev Panicking (α : Type) : Type := Except (Stop MigrationResult) α

/-- `&bytes[start..stop]` -/
def slice (bytes : Octets) (start stop : Nat) : Panicking Octets :=
  if start ≤ stop ∧ stop ≤ bytes.length then .ok ((bytes.drop start).take (stop - start))
  else .error .panicked

/-- `bytes.split_at(mid)` -/
def splitAt (bytes : Octets) (mid : Nat) : Panicking (Octets × Octets) :=
  if mid ≤ bytes.length then .ok (bytes.take mid, bytes.drop mid) else .error .panicked

/-- `bytes.try_into().unwrap()` -/
def intoArray (n : Nat) (bytes : Octets) : Panicking (Bytes n) :=
  if h : bytes.length = n then .ok ⟨bytes, h⟩ else .error .panicked

/-- `target.copy_from_slice(source)`, for a target at the front of zeroed memory. -/
def copyToZeroed (size count : Nat) (source : Octets) : Panicking Octets := do
  let target ← slice (List.replicate size 0) 0 count
  require (target.length = source.length) .panicked
  return source ++ List.replicate (size - count) 0

def processBuffer (buffer : Octets) : Panicking RequestDataBufferHeader :=
  if buffer.length < reqbufferhdrlen then return ⟨0, 0⟩
  else do
    let (header, _) ← splitAt buffer reqbufferhdrlen
    let datastatus ← slice header 0 8 >>= intoArray 8
    let length ← slice header 8 12 >>= intoArray 4
    return ⟨UInt64.ofNat (leValue datastatus.1), UInt32.ofNat (leValue length.1)⟩

/-- The bytes that are parsed, with the zero padding of the short form. -/
def formBytes (b : Build) (dataLength : UInt32) (payload : Octets) : Panicking Octets :=
  if dataLength.toNat = migInfoHeaderSize b + TD_INFO_SIZE then return payload
  else do
    let source ← slice payload 0 (migInfoHeaderSize b)
    copyToZeroed (migInfoHeaderSize b + TD_INFO_SIZE) (migInfoHeaderSize b) source

def readMigrationInformation (b : Build) (dataLength : UInt32) (payload : Octets) :
    Panicking MigtdMigrationInformation := do
  let shortSize := migInfoHeaderSize b
  let fullSize := shortSize + TD_INFO_SIZE
  if b.policyV2 then
    require (dataLength.toNat = shortSize ∨ dataLength.toNat = fullSize) (.failed .invalidParameter)
    require (dataLength.toNat ≤ payload.length % 2 ^ 32) (.failed .invalidParameter)
    let bytes ← formBytes b dataLength payload
    let (parsed, reserved) ← noPanic (pread (migInfoLayout b) bytes)
    require (reserved = Bytes.zero 6) (.failed .invalidParameter)
    require (parsed.hasInitData ≤ 1) (.failed .invalidParameter)
    require (parsed.hasInitData = 1 ↔ dataLength.toNat = fullSize) (.failed .invalidParameter)
    return parsed
  else noPanic (Requests.readMigrationInformation b dataLength payload)

/-- From the status byte to the decoded payload. -/
def decode (b : Build) (buffer : Octets) (hdr : RequestDataBufferHeader) :
    Panicking WaitForRequestResponse := do
  require (dataStatusByte hdr 0 = TDX_VMCALL_VMM_SUCCESS) (.failed .vmmInternalError)
  let op ← orElse (DataStatusOperation.tryFrom (dataStatusByte hdr 1))
    (.failed .unsupportedOperationError)
  let payload ← noPanic (getRequestPayload buffer hdr.length)
  match op with
  | .startMigration => (readMigrationInformation b hdr.length payload).map .startMigration
  | .startRebinding =>
    if b.rebinding then (readMigrationInformation b hdr.length payload).map .startRebinding
    else .error (.failed .unsupportedOperationError)
  | .getTDReport => .error (.failed .unsupportedOperationError)
  | .enableLogArea =>
    (noPanic (readEnableLogAreaInfo hdr.length payload)).map .enableLogArea
  | .getMigtdData =>
    if b.rebinding then (noPanic (readMigtdDataInfo hdr.length payload)).map .getMigtdData
    else .error (.failed .unsupportedOperationError)

/-- `parse_request`, without a value when it panics. No error report is pending when a poll
begins, because only a returned error sets one. -/
def parseRequest (b : Build) (buffer : Octets) (requests : Finset UInt64) : Option Polled :=
  match processBuffer buffer with
  | .error _ => none
  | .ok hdr =>
    if hdr.datastatus = 0 ∧ hdr.length = 0 then some ⟨.pending, requests, none⟩
    else match decode b buffer hdr with
      | .error .panicked => none
      | .error (.failed status) => some (rejectRequest requests (readRequestId buffer) status)
      | .ok response => some (tryAcceptRequest requests response)

variable {buffer bytes : Octets}

theorem slice_ok {start stop : Nat} (hle : start ≤ stop) (hstop : stop ≤ bytes.length) :
    slice bytes start stop = .ok ((bytes.drop start).take (stop - start)) :=
  if_pos ⟨hle, hstop⟩

theorem intoArray_ok {n : Nat} (h : bytes.length = n) : intoArray n bytes = .ok ⟨bytes, h⟩ :=
  dif_pos h

theorem processBuffer_eq (buffer : Octets) :
    processBuffer buffer = .ok (Requests.processBuffer buffer) := by
  unfold processBuffer Requests.processBuffer
  by_cases hshort : buffer.length < reqbufferhdrlen
  · rw [if_pos hshort, if_pos hshort]
    rfl
  · rw [if_neg hshort, if_neg hshort]
    unfold reqbufferhdrlen at hshort ⊢
    have hheader : (buffer.take 12).length = 12 := by
      rw [List.length_take]
      omega
    have hstatus : ((buffer.take 12).drop 0).take (8 - 0) = buffer.take 8 := by
      rw [List.drop_zero, List.take_take]
      rfl
    have hlength : ((buffer.take 12).drop 8).take (12 - 8) = (buffer.drop 8).take 4 := by
      rw [List.drop_take, List.take_take]
      rfl
    have hstatus8 : (buffer.take 8).length = 8 := by
      rw [List.length_take]
      omega
    have hlength4 : ((buffer.drop 8).take 4).length = 4 := by
      rw [List.length_take, List.length_drop]
      omega
    have hsplit : splitAt buffer 12 = .ok (buffer.take 12, buffer.drop 12) := if_pos (by omega)
    rw [hsplit]
    change (slice (buffer.take 12) 0 8 >>= intoArray 8 >>= fun datastatus =>
      slice (buffer.take 12) 8 12 >>= intoArray 4 >>= fun length =>
        (pure ⟨UInt64.ofNat (leValue datastatus.1), UInt32.ofNat (leValue length.1)⟩ :
          Panicking RequestDataBufferHeader)) = _
    rw [slice_ok (by omega) (by omega), slice_ok (by omega) (by omega), hstatus, hlength]
    change (intoArray 8 (buffer.take 8) >>= fun datastatus =>
      intoArray 4 ((buffer.drop 8).take 4) >>= fun length =>
        (pure ⟨UInt64.ofNat (leValue datastatus.1), UInt32.ofNat (leValue length.1)⟩ :
          Panicking RequestDataBufferHeader)) = _
    rw [intoArray_ok hstatus8, intoArray_ok hlength4]
    rfl

variable {b : Build} {dataLength : UInt32} {payload : Octets}

theorem formBytes_eq (hdeclared : dataLength.toNat = migInfoHeaderSize b ∨
      dataLength.toNat = migInfoHeaderSize b + TD_INFO_SIZE)
    (hseen : dataLength.toNat ≤ payload.length % 2 ^ 32) :
    formBytes b dataLength payload =
      .ok (if dataLength.toNat = migInfoHeaderSize b + TD_INFO_SIZE then payload
        else payload.take (migInfoHeaderSize b) ++ List.replicate TD_INFO_SIZE 0) := by
  have hpresent := hseen.trans (Nat.mod_le payload.length (2 ^ 32))
  unfold formBytes
  by_cases hfull : dataLength.toNat = migInfoHeaderSize b + TD_INFO_SIZE
  · rw [if_pos hfull, if_pos hfull]
    rfl
  · have hshort : migInfoHeaderSize b ≤ payload.length := by omega
    have hsource : (payload.take (migInfoHeaderSize b)).length = migInfoHeaderSize b := by
      rw [List.length_take]
      omega
    have hcopy : copyToZeroed (migInfoHeaderSize b + TD_INFO_SIZE) (migInfoHeaderSize b)
        (payload.take (migInfoHeaderSize b)) =
        .ok (payload.take (migInfoHeaderSize b) ++ List.replicate TD_INFO_SIZE 0) := by
      have htarget : slice (List.replicate (migInfoHeaderSize b + TD_INFO_SIZE) 0) 0
          (migInfoHeaderSize b) = .ok (List.replicate (migInfoHeaderSize b) 0) := by
        rw [slice_ok (Nat.zero_le _) (by rw [List.length_replicate]; omega), List.drop_zero,
          List.take_replicate, Nat.sub_zero, Nat.min_eq_left (by omega)]
      unfold copyToZeroed
      rw [htarget]
      change (require ((List.replicate (migInfoHeaderSize b) (0 : UInt8)).length = _) _ >>=
        fun _ => _) = _
      rw [require, if_pos (by rw [List.length_replicate, hsource]), Nat.add_sub_cancel_left]
      rfl
    rw [if_neg hfull, if_neg hfull, slice_ok (Nat.zero_le _) hshort, List.drop_zero, Nat.sub_zero]
    exact hcopy

theorem readMigrationInformation_eq (b : Build) (dataLength : UInt32) (payload : Octets) :
    readMigrationInformation b dataLength payload =
      noPanic (Requests.readMigrationInformation b dataLength payload) := by
  cases hv2 : b.policyV2 with
  | false =>
    unfold readMigrationInformation
    simp only [hv2, Bool.false_eq_true, ↓reduceIte]
  | true =>
    unfold readMigrationInformation Requests.readMigrationInformation
    simp only [hv2, ↓reduceIte, noPanic_bind, noPanic_require]
    by_cases hdeclared : dataLength.toNat = migInfoHeaderSize b ∨
        dataLength.toNat = migInfoHeaderSize b + TD_INFO_SIZE
    · by_cases hseen : dataLength.toNat ≤ payload.length % 2 ^ 32
      · rw [require, if_pos hdeclared, require, if_pos hseen, formBytes_eq hdeclared hseen]
        refine congrArg (noPanic (pread (migInfoLayout b) _) >>= ·) ?_
        funext x
        obtain ⟨parsed, reserved⟩ := x
        simp only [noPanic_pure]
      · rw [require, if_pos hdeclared, require, if_neg hseen]
        rfl
    · rw [require, if_neg hdeclared]
      rfl

theorem decode_eq (b : Build) (buffer : Octets) :
    decode b buffer (Requests.processBuffer buffer) = noPanic (decodeRequest b buffer) := by
  unfold decode decodeRequest
  simp only [noPanic_bind, noPanic_require, noPanic_orElse]
  refine congrArg (require _ _ >>= ·) (funext fun _ => ?_)
  refine congrArg (orElse _ _ >>= ·) (funext fun op => ?_)
  refine congrArg (noPanic _ >>= ·) (funext fun payload => ?_)
  cases op with
  | startMigration => rw [readMigrationInformation_eq, noPanic_map]
  | startRebinding =>
    cases b.rebinding with
    | true => simp only [↓reduceIte, readMigrationInformation_eq, noPanic_map]
    | false => rfl
  | getTDReport => rfl
  | enableLogArea => rw [noPanic_map]
  | getMigtdData =>
    cases b.rebinding with
    | true => simp only [↓reduceIte, noPanic_map]
    | false => rfl

theorem parseRequest_eq (b : Build) (buffer : Octets) (requests : Finset UInt64) :
    parseRequest b buffer requests = some (Requests.parseRequest b buffer requests) := by
  unfold parseRequest Requests.parseRequest
  rw [processBuffer_eq]
  by_cases hidle : Idle buffer
  · rw [if_pos hidle]
    exact if_pos hidle
  · rw [if_neg hidle]
    refine (if_neg hidle).trans ?_
    rw [decode_eq]
    cases decodeRequest b buffer <;> rfl

def declaredLength (buffer : Octets) : Nat := (Requests.processBuffer buffer).length.toNat

/-- The identifier is the first word of the declared payload. -/
structure LeadsPayload (buffer : Octets) (id : UInt64) : Prop where
  declared : 8 ≤ declaredLength buffer
  word : (buffer.drop reqbufferhdrlen).take 8 = putU64 id

/-- The call returns, and its answer is the one that the buffer and the table ask for. -/
structure Answers (buffer : Octets) (requests : Finset UInt64) (p : Polled) : Prop where
  refused : ∀ status, p.result = .ready (.error status) → p.requests = requests
  waiting : p.result = .pending → p.requests = requests
  accepted : ∀ r, p.result = .ready (.ok r) → r.migRequestId ∉ requests ∧
    p.requests = insert r.migRequestId requests ∧ LeadsPayload buffer r.migRequestId
  recorded : ∀ id status, p.pendingErrorReport = some (id, status) → LeadsPayload buffer id

section

variable {dataLength : UInt32} {payload : Octets}

theorem headerBytes_id (b : Build) (info : MigtdMigrationInformation) (reserved : Bytes 6)
    (rest : Octets) :
    (headerBytes b info reserved ++ rest).take 8 = putU64 info.migRequestId := by
  rw [headerBytes, List.append_assoc, List.take_left' (putU64_length _)]

theorem pread_id {α : Type} {layout : Decoder α} {n : Nat} (put : α → Octets)
    (id : α → UInt64) {a : α} (h : Completes layout n [] put)
    (hput : ∀ a, (put a).take 8 = putU64 (id a)) (hn : payload.length = n)
    (hread : pread layout payload = .ok a) : payload.take 8 = putU64 (id a) := by
  obtain ⟨a', ha, hd⟩ := h payload hn
  have hnil := hd []
  rw [List.append_nil] at hnil
  rw [pread, hnil] at hread
  cases hread
  rw [← hput, ha, List.nil_append]

theorem readMigrationInformation_id {info : MigtdMigrationInformation}
    (hlen : payload.length = dataLength.toNat)
    (h : Requests.readMigrationInformation b dataLength payload = .ok info) :
    8 ≤ dataLength.toNat ∧ payload.take 8 = putU64 info.migRequestId := by
  have hshort : 8 ≤ migInfoHeaderSize b := by
    unfold migInfoHeaderSize
    split <;> omega
  cases hv2 : b.policyV2 with
  | true =>
    refine ⟨?_, ?_⟩
    · rcases (read_ok_checked hv2 h).1 with hd | hd <;> omega
    · have hform := (read_ok_form hv2 h).1
      rw [← hlen, List.take_length, buildMigInfo] at hform
      rw [← hform, headerBytes_id]
  | false =>
    unfold Requests.readMigrationInformation at h
    simp only [hv2, Bool.false_eq_true, ↓reduceIte] at h
    obtain ⟨_, hdeclared, h⟩ := except_bind_ok.mp h
    obtain ⟨⟨parsed, reserved⟩, hread, h⟩ := except_bind_ok.mp h
    obtain ⟨_, -, h⟩ := except_bind_ok.mp h
    obtain ⟨_, -, h⟩ := except_bind_ok.mp h
    cases h
    have hsize := require_ok.mp hdeclared
    refine ⟨by omega, ?_⟩
    refine pread_id _ (fun x => x.1.migRequestId) (completes_migInfoLayout b) ?_ ?_ hread
    · intro x
      rw [layoutBytes, headerBytes_id]
    · rw [hlen, hsize, layoutSize, hv2]
      rfl

theorem readEnableLogAreaInfo_id {info : EnableLogAreaInfo}
    (hlen : payload.length = dataLength.toNat)
    (h : readEnableLogAreaInfo dataLength payload = .ok info) :
    8 ≤ dataLength.toNat ∧ payload.take 8 = putU64 info.migRequestId := by
  unfold readEnableLogAreaInfo at h
  obtain ⟨_, hdeclared, h⟩ := except_bind_ok.mp h
  obtain ⟨⟨parsed, reserved⟩, hread, h⟩ := except_bind_ok.mp h
  obtain ⟨_, -, h⟩ := except_bind_ok.mp h
  cases h
  have hsize : dataLength.toNat = 16 := by
    rw [require_ok.mp hdeclared]
    rfl
  refine ⟨by omega, ?_⟩
  let put : EnableLogAreaInfo × Bytes 7 → Octets := fun x =>
    putU64 x.1.migRequestId ++ (putU8 x.1.logMaxLevel ++ x.2.1)
  refine pread_id put (fun x => x.1.migRequestId) ?_ ?_ (hlen.trans hsize) hread
  · refine Completes.bind (n := 8) completes_u64 (fun migRequestId => ?_) rfl
    refine Completes.bind (n := 7) completes_u8 (fun logMaxLevel => ?_) rfl
    refine Completes.bind (n := 0) (completes_array 7) (fun reserved => ?_) rfl
    refine completes_pure ?_
    simp [put]
  · exact fun x => List.take_left' (putU64_length _)

theorem readMigtdDataInfo_id {info : MigtdDataInfo} (hlen : payload.length = dataLength.toNat)
    (h : readMigtdDataInfo dataLength payload = .ok info) :
    8 ≤ dataLength.toNat ∧ payload.take 8 = putU64 info.migRequestId := by
  unfold readMigtdDataInfo at h
  obtain ⟨_, hdeclared, h⟩ := except_bind_ok.mp h
  by_cases hfull : dataLength = 72
  · rw [if_pos hfull] at h
    have hsize : dataLength.toNat = 72 := by
      rw [hfull]
      rfl
    refine ⟨by omega, ?_⟩
    let put : MigtdDataInfo → Octets := fun x => putU64 x.migRequestId ++ x.reportdata.1
    refine pread_id put (fun x => x.migRequestId) ?_ ?_ (hlen.trans hsize) h
    · refine Completes.bind (n := 64) completes_u64 (fun migRequestId => ?_) rfl
      refine Completes.bind (n := 0) (completes_array 64) (fun reportdata => ?_) rfl
      refine completes_pure ?_
      simp [put]
    · exact fun x => List.take_left' (putU64_length _)
  · rw [if_neg hfull] at h
    have hsize : dataLength.toNat = 8 := by
      rw [(require_ok.mp hdeclared).resolve_right hfull]
      rfl
    obtain ⟨migRequestId, hread, h⟩ := except_bind_ok.mp h
    cases h
    refine ⟨by omega, ?_⟩
    refine pread_id _ (fun v => v) completes_u64 ?_ (hlen.trans hsize) hread
    exact fun v => List.take_of_length_le (by rw [putU64_length])

end

private theorem getRequestPayload_ok (h : getRequestPayload buffer dataLength = .ok payload) :
    payload = (buffer.drop reqbufferhdrlen).take dataLength.toNat ∧
      payload.length = dataLength.toNat := by
  unfold getRequestPayload at h
  split at h
  · rename_i hfits
    cases h
    refine ⟨rfl, ?_⟩
    rw [List.length_take, List.length_drop]
    omega
  · cases h

theorem decodeRequest_leads {r : WaitForRequestResponse}
    (h : decodeRequest b buffer = .ok r) : LeadsPayload buffer r.migRequestId := by
  unfold decodeRequest at h
  obtain ⟨_, -, h⟩ := except_bind_ok.mp h
  obtain ⟨op, -, h⟩ := except_bind_ok.mp h
  obtain ⟨payload, hpayload, h⟩ := except_bind_ok.mp h
  obtain ⟨hbytes, hlen⟩ := getRequestPayload_ok hpayload
  have hleads (id : UInt64) (hid : 8 ≤ (Requests.processBuffer buffer).length.toNat ∧
      payload.take 8 = putU64 id) : LeadsPayload buffer id := by
    refine ⟨hid.1, ?_⟩
    rw [← hid.2, hbytes, List.take_take, Nat.min_eq_left hid.1]
  cases op with
  | startMigration =>
    obtain ⟨info, hread, rfl⟩ := map_ok.mp h
    exact hleads _ (readMigrationInformation_id hlen hread)
  | startRebinding =>
    cases hbuild : b.rebinding with
    | true =>
      simp only [hbuild, ↓reduceIte] at h
      obtain ⟨info, hread, rfl⟩ := map_ok.mp h
      exact hleads _ (readMigrationInformation_id hlen hread)
    | false =>
      simp only [hbuild, Bool.false_eq_true, ↓reduceIte] at h
      cases h
  | getTDReport => cases h
  | enableLogArea =>
    obtain ⟨info, hread, rfl⟩ := map_ok.mp h
    exact hleads _ (readEnableLogAreaInfo_id hlen hread)
  | getMigtdData =>
    cases hbuild : b.rebinding with
    | true =>
      simp only [hbuild, ↓reduceIte] at h
      obtain ⟨info, hread, rfl⟩ := map_ok.mp h
      exact hleads _ (readMigtdDataInfo_id hlen hread)
    | false =>
      simp only [hbuild, Bool.false_eq_true, ↓reduceIte] at h
      cases h

theorem readRequestId_some {id : UInt64}
    (h : readRequestId buffer = some id) : reqbufferhdrlen + 8 ≤ buffer.length ∧
      (buffer.drop reqbufferhdrlen).take 8 = putU64 id := by
  unfold readRequestId at h
  split at h
  · rename_i hfits
    cases h
    refine ⟨hfits, ?_⟩
    have hlen : ((buffer.drop reqbufferhdrlen).take 8).length = 8 := by
      rw [List.length_take, List.length_drop]
      omega
    have hlt := leValue_lt_of_length hlen
    rw [putU64, UInt64.toNat_ofNat', Nat.mod_eq_of_lt (by omega), leBytes_leValue_of_length hlen]
  · cases h

private theorem parseRequest_cases (b : Build) (buffer : Octets) (requests : Finset UInt64) :
    Requests.parseRequest b buffer requests = ⟨.pending, requests, none⟩ ∨
    (∃ r, decodeRequest b buffer = .ok r ∧ r.migRequestId ∉ requests ∧
      Requests.parseRequest b buffer requests =
        ⟨.ready (.ok r), insert r.migRequestId requests, none⟩) ∨
    ∃ status, ¬Idle buffer ∧ decodeRequest b buffer = .error status ∧
      Requests.parseRequest b buffer requests =
        ⟨.ready (.error status), requests, (readRequestId buffer).map (·, status)⟩ := by
  unfold Requests.parseRequest
  by_cases hidle : Idle buffer
  · exact .inl (if_pos hidle)
  · rw [if_neg hidle]
    cases hdecode : decodeRequest b buffer with
    | error status => exact .inr (.inr ⟨status, hidle, rfl, rfl⟩)
    | ok r =>
      by_cases hmem : r.migRequestId ∈ requests
      · exact .inl (if_pos hmem)
      · exact .inr (.inl ⟨r, rfl, hmem, if_neg hmem⟩)

theorem answers_of_recorded {requests : Finset UInt64}
    (hshort : declaredLength buffer < 8 → Idle buffer ∨ buffer.length < reqbufferhdrlen + 8) :
    Answers buffer requests (Requests.parseRequest b buffer requests) := by
  rcases parseRequest_cases b buffer requests with
    heq | ⟨r, hdecode, hnew, heq⟩ | ⟨status, hbusy, -, heq⟩
  · rw [heq]
    exact ⟨fun _ _ => rfl, fun _ => rfl, fun _ h => (by cases h), fun _ _ h => (by cases h)⟩
  · rw [heq]
    refine ⟨fun _ h => (by cases h), fun h => (by cases h), fun r' h => ?_, fun _ _ h => (by cases h)⟩
    cases h
    exact ⟨hnew, rfl, decodeRequest_leads hdecode⟩
  · rw [heq]
    refine ⟨fun _ _ => rfl, fun _ => rfl, fun _ h => (by cases h), fun id status' h => ?_⟩
    obtain ⟨id', hid, hpair⟩ := Option.map_eq_some_iff.mp h
    cases hpair
    obtain ⟨hlong, hword⟩ := readRequestId_some hid
    refine ⟨?_, hword⟩
    by_contra hless
    rcases hshort (Nat.lt_of_not_le hless) with hidle | hcut
    · exact hbusy hidle
    · omega

theorem recorded_of_short (b : Build) (requests : Finset UInt64)
    (hless : declaredLength buffer < 8) (hbusy : ¬Idle buffer)
    (hlong : reqbufferhdrlen + 8 ≤ buffer.length) :
    ∃ id status, (Requests.parseRequest b buffer requests).pendingErrorReport =
      some (id, status) := by
  have hid : readRequestId buffer =
      some (UInt64.ofNat (leValue ((buffer.drop reqbufferhdrlen).take 8))) := if_pos hlong
  unfold Requests.parseRequest
  rw [if_neg hbusy]
  cases hdecode : decodeRequest b buffer with
  | error status =>
    refine ⟨UInt64.ofNat (leValue ((buffer.drop reqbufferhdrlen).take 8)), status, ?_⟩
    change (readRequestId buffer).map (·, status) = _
    rw [hid, Option.map_some]
  | ok r => exact absurd (decodeRequest_leads hdecode).declared (Nat.not_le_of_lt hless)

/-- A call returns and answers as it should exactly when a buffer that declares less than an
identifier is idle or has no word behind its header. -/
theorem parse_request_iff (b : Build) (buffer : Octets) (requests : Finset UInt64) :
    (∃ p, parseRequest b buffer requests = some p ∧ Answers buffer requests p) ↔
      (declaredLength buffer < 8 → Idle buffer ∨ buffer.length < reqbufferhdrlen + 8) := by
  rw [parseRequest_eq]
  constructor
  · rintro ⟨p, hp, hanswers⟩ hless
    cases hp
    by_contra hnot
    obtain ⟨hbusy, hlong⟩ := not_or.mp hnot
    obtain ⟨id, status, hrecord⟩ :=
      recorded_of_short b requests hless hbusy (Nat.le_of_not_lt hlong)
    exact Nat.not_le_of_lt hless (hanswers.recorded id status hrecord).declared
  · intro hshort
    exact ⟨_, rfl, answers_of_recorded hshort⟩

/-- Starts a migration with an empty payload; a word of ones follows the header. -/
def emptyStart : Octets := [1, 1, 0, 0, 0, 0, 0, 0, 0, 0, 0, 0, 1, 1, 1, 1, 1, 1, 1, 1]

/-- The word that no payload holds is recorded as the identifier of the refused request. -/
theorem parse_request_empty_start :
    reqbufferhdrlen ≤ emptyStart.length ∧ declaredLength emptyStart = 0 ∧
      ∃ p, parseRequest ⟨true, true⟩ emptyStart ∅ = some p ∧
        p.pendingErrorReport = some (0x0101010101010101, .invalidParameter) ∧
          ¬Answers emptyStart ∅ p := by
  refine ⟨by decide, by decide, _, parseRequest_eq _ _ _, by decide, ?_⟩
  intro hanswers
  have hleads := hanswers.recorded 0x0101010101010101 .invalidParameter (by decide)
  exact absurd hleads.declared (by decide)

end MigTd.Migration.RequestBuffers
