/- source: pre_session_data.rs
   digest: Two finished exchanges hold each other's blobs; a bad blob is never answered by start. -/

import MigTd.Migration.PreSession

set_option autoImplicit false

namespace MigTd.Migration.PreSessionAgreement

open Lib.ByteCodec Lib.ByteLink Lib.StateProgram Information PreSession

/-- The payload of a data packet, once all of it is there. -/
def packetBlob (bytes : Octets) : Option Octets :=
  match PreSessionMessage.readFromBytes (bytes.take 8) with
  | none => none
  | some header =>
    if header.type = PreSessionMessage.PRE_SESSION_DATA_TYPE ∧
        8 + header.length.toNat ≤ bytes.length then
      some ((bytes.drop 8).take header.length.toNat)
    else none

/-- The blob among the bytes received so far: it follows a hello packet of sixteen bytes. -/
def receivedBlob (bytes : Octets) : Option Octets := packetBlob (bytes.drop 16)

/-- A well-formed blob whose two parts are not empty. -/
def Acceptable (blob : Octets) : Prop :=
  ∃ policy issuerChain, decodePeerData blob = some (policy, issuerChain) ∧ policy ≠ [] ∧
    issuerChain ≠ []

/-! One side: what each step has moved, whether it returns or stops. -/

theorem transfers_expect {α : Type} (x : Option α) (e : MigrationResult) :
    Transfers (expect x e) fun r out inn => out = [] ∧ inn = [] ∧ match r with
      | .ok a => x = some a
      | .error _ => x = none := by
  refine (transfers_lift (orElse x (.failed e))).mono ?_
  rintro r out inn ⟨rfl, rfl, rfl⟩
  cases x <;> exact ⟨rfl, rfl, rfl⟩

theorem transfers_read {α : Type} (size : Nat) (parse : Octets → Option α)
    (e : MigrationResult) :
    Transfers (do
      let buffer ← receivePreSessionData size
      expect (parse buffer) e)
      fun r out inn => out = [] ∧ match r with
        | .ok a => inn.length = size ∧ parse inn = some a
        | .error _ => inn.length < size ∨ (inn.length = size ∧ parse inn = none) := by
  refine (transfers_receive .networkError size).bind (fun buffer => transfers_expect _ _) ?_ ?_
  · rintro buffer out inn ⟨rfl, rfl, hlen⟩ r out' inn' ⟨rfl, rfl, hread⟩
    rw [List.append_nil inn]
    cases r with
    | ok a => exact ⟨rfl, hlen, hread⟩
    | error e => exact ⟨rfl, .inr ⟨hlen, hread⟩⟩
  · rintro e out inn ⟨rfl, hlt⟩
    exact ⟨rfl, .inl hlt⟩

theorem transfers_header : Transfers receiveHeader fun r out inn => out = [] ∧ match r with
      | .ok h => inn.length = 8 ∧ PreSessionMessage.readFromBytes inn = some h
      | .error _ => inn.length ≤ 8 ∧ PreSessionMessage.readFromBytes inn = none := by
  refine (transfers_read 8 PreSessionMessage.readFromBytes .invalidParameter).mono ?_
  rintro r out inn ⟨hout, hr⟩
  refine ⟨hout, ?_⟩
  cases r with
  | ok h => exact hr
  | error e =>
    rcases hr with hlt | ⟨hlen, hnone⟩
    · refine ⟨hlt.le, ?_⟩
      by_contra hsome
      obtain ⟨m, hm⟩ := Option.ne_none_iff_exists'.mp hsome
      have hsize := PreSessionMessage.size_le_of_read hm
      simp only [PreSessionMessage.size] at hsize
      omega
    · exact ⟨hlen.le, hnone⟩

theorem transfers_sendHello :
    Transfers sendHelloPacket fun r out inn => inn = [] ∧ (r = .ok () → out = helloPacket) := by
  refine (transfers_send _ _).bind (fun _ => transfers_send _ _) ?_ ?_
  · rintro u out inn ⟨rfl, -, hout⟩ r out' inn' ⟨rfl, -, hout'⟩
    refine ⟨rfl, fun h => ?_⟩
    rw [hout rfl, hout' h]
    rfl
  · rintro e out inn ⟨rfl, -, -⟩
    exact ⟨rfl, by simp⟩

theorem transfers_receiveHello :
    Transfers receiveHelloPacket fun r out inn => out = [] ∧ match r with
      | .ok p => inn.length = 16 ∧ HelloPacketPayload.readFromBytes (inn.drop 8) = some p
      | .error _ => inn.length ≤ 16 := by
  refine transfers_header.bind (fun h => (transfers_read 8 HelloPacketPayload.readFromBytes
    .invalidParameter).guarded.guarded) ?_ ?_
  · rintro h out inn ⟨rfl, hlen, -⟩ r out' inn' hrest
    rw [List.length_append, List.drop_left' hlen, hlen]
    rcases hrest with ⟨-, ⟨-, rfl, hr⟩ | ⟨-, rfl, rfl, rfl⟩⟩ | ⟨-, rfl, rfl, rfl⟩
    · cases r with
      | ok p => exact ⟨rfl, by rw [hr.1], hr.2⟩
      | error e =>
        refine ⟨rfl, ?_⟩
        have hle : inn'.length ≤ 8 := hr.elim le_of_lt fun h => h.1.le
        change 8 + inn'.length ≤ 16
        omega
    · exact ⟨rfl, by decide⟩
    · exact ⟨rfl, by decide⟩
  · rintro e out inn ⟨rfl, hle, -⟩
    refine ⟨rfl, ?_⟩
    change inn.length ≤ 16
    omega

theorem transfers_exchangeHello : Transfers exchangeHelloPacket fun r out inn => match r with
      | .ok version => out = helloPacket ∧ inn.length = 16 ∧
        ∃ p, HelloPacketPayload.readFromBytes (inn.drop 8) = some p ∧
          p.negotiateSupportedVersion = some version
      | .error _ => inn.length ≤ 16 := by
  refine transfers_sendHello.bind (fun _ => transfers_receiveHello.bind
    (fun remote => transfers_expect _ _) (S := fun r out inn => out = [] ∧ match r with
      | .ok version => inn.length = 16 ∧
        ∃ p, HelloPacketPayload.readFromBytes (inn.drop 8) = some p ∧
          p.negotiateSupportedVersion = some version
      | .error _ => inn.length ≤ 16) ?_ ?_) ?_ ?_
  · rintro p out inn ⟨rfl, hlen, hread⟩ r out' inn' ⟨rfl, rfl, hversion⟩
    rw [List.append_nil inn]
    cases r with
    | ok version => exact ⟨rfl, hlen, p, hread, hversion⟩
    | error e => exact ⟨rfl, hlen.le⟩
  · rintro e out inn ⟨rfl, hle⟩
    exact ⟨rfl, hle⟩
  · rintro u out inn ⟨rfl, hout⟩ r out' inn' ⟨rfl, hr⟩
    rw [hout rfl, List.append_nil, List.nil_append]
    cases r with
    | ok version => exact ⟨rfl, hr⟩
    | error e => exact hr
  · rintro e out inn ⟨rfl, -⟩
    simp

theorem transfers_sendPacket (blob : Octets) :
    Transfers (sendPreSessionDataPacket blob) fun r out inn =>
      inn = [] ∧ (r = .ok () → out = dataPacket blob) := by
  refine (transfers_send _ _).bind (fun _ => transfers_send _ _) ?_ ?_
  · rintro u out inn ⟨rfl, -, hout⟩ r out' inn' ⟨rfl, -, hout'⟩
    refine ⟨rfl, fun h => ?_⟩
    rw [hout rfl, hout' h]
    rfl
  · rintro e out inn ⟨rfl, -, -⟩
    exact ⟨rfl, by simp⟩

/-- A header of a data packet with exactly the payload that it announces. -/
structure IsPacket (packet blob : Octets) (h : PreSessionMessage) : Prop where
  header : PreSessionMessage.readFromBytes (packet.take 8) = some h
  type : h.type = PreSessionMessage.PRE_SESSION_DATA_TYPE
  payload : packet.drop 8 = blob
  length : packet.length = 8 + h.length.toNat

theorem packetBlob_of {packet blob rest : Octets} {h : PreSessionMessage}
    (hp : IsPacket packet blob h) : packetBlob (packet ++ rest) = some blob := by
  have hlen := hp.length
  have htake : (packet ++ rest).take 8 = packet.take 8 := List.take_append_of_le_length (by omega)
  have hdrop : ((packet ++ rest).drop 8).take h.length.toNat = blob := by
    rw [List.drop_append_of_le_length (by omega), hp.payload, List.take_left']
    rw [← hp.payload, List.length_drop]
    omega
  have hle : 8 + h.length.toNat ≤ (packet ++ rest).length := by
    rw [List.length_append]
    omega
  unfold packetBlob
  rw [htake, hp.header]
  simp only [hp.type, hle, and_self, if_true, hdrop]

theorem transfers_receivePacket :
    Transfers receivePreSessionDataPacket fun r out inn => out = [] ∧ match r with
      | .ok blob => ∃ h, IsPacket inn blob h
      | .error _ => packetBlob inn = none := by
  refine transfers_header.bind
    (fun h => (transfers_receive MigrationResult.networkError _).guarded) ?_ ?_
  · rintro h out inn ⟨rfl, hlen, hread⟩ r out' inn' hrest
    have htake : (inn ++ inn').take 8 = inn := List.take_left' hlen
    have hdrop : (inn ++ inn').drop 8 = inn' := List.drop_left' hlen
    rcases hrest with ⟨htype, rfl, hr⟩ | ⟨htype, rfl, rfl, rfl⟩
    · cases r with
      | ok blob =>
        obtain ⟨rfl, hsize⟩ := hr
        refine ⟨rfl, h, by rw [htake, hread], htype, hdrop, ?_⟩
        rw [List.length_append, hlen, hsize]
      | error e =>
        refine ⟨rfl, ?_⟩
        have hlt : inn'.length < h.length.toNat := hr
        have hshort : ¬(8 + h.length.toNat ≤ (inn ++ inn').length) := by
          rw [List.length_append]
          omega
        change packetBlob (inn ++ inn') = none
        unfold packetBlob
        rw [htake, hread]
        simp only [hshort, and_false, if_false]
    · refine ⟨rfl, ?_⟩
      change packetBlob (inn ++ []) = none
      unfold packetBlob
      rw [htake, hread]
      simp only [htype, false_and, if_false]
  · rintro e out inn ⟨rfl, hle, hnone⟩
    refine ⟨rfl, ?_⟩
    change packetBlob inn = none
    unfold packetBlob
    rw [List.take_of_length_le hle, hnone]

theorem transfers_packets (config : LocalConfig) :
    Transfers (exchangeDataPackets config) fun r out inn => match r with
      | .ok peerBlob =>
        (∃ localBlob, localPeerData config = some localBlob ∧ out = dataPacket localBlob) ∧
          ∃ h, IsPacket inn peerBlob h
      | .error _ => packetBlob inn = none := by
  have hempty : packetBlob [] = none := rfl
  have hsend : ∀ localBlob, Transfers (do
      sendPreSessionDataPacket localBlob
      receivePreSessionDataPacket) fun r out inn => match r with
        | .ok peerBlob => out = dataPacket localBlob ∧ ∃ h, IsPacket inn peerBlob h
        | .error _ => packetBlob inn = none := by
    intro localBlob
    refine (transfers_sendPacket localBlob).bind (fun _ => transfers_receivePacket) ?_ ?_
    · rintro u out inn ⟨rfl, hout⟩ r out' inn' ⟨rfl, hr⟩
      rw [hout rfl, List.append_nil, List.nil_append]
      cases r with
      | ok peerBlob => exact ⟨rfl, hr⟩
      | error e => exact hr
    · rintro e out inn ⟨rfl, -⟩
      exact hempty
  refine (transfers_expect _ _).bind hsend ?_ ?_
  · rintro localBlob out inn ⟨rfl, rfl, hlocal⟩ r out' inn' hr
    cases r with
    | ok peerBlob => exact ⟨⟨localBlob, hlocal, hr.1⟩, hr.2⟩
    | error e => exact hr
  · rintro e out inn ⟨rfl, rfl, -⟩
    exact hempty

theorem transfers_startPackets : Transfers (do
      sendStartSessionPacket
      receiveStartSessionPacket) fun r out inn => r = .ok () →
        out = startPacket ∧ inn.length = 8 := by
  have hreceive : Transfers receiveStartSessionPacket fun r out inn =>
      out = [] ∧ (r = .ok () → inn.length = 8) := by
    refine transfers_header.bind (fun h => (transfers_ensure _ _).guarded) ?_ ?_
    · rintro h out inn ⟨rfl, hlen, -⟩ r out' inn' hrest
      rcases hrest with ⟨-, rfl, rfl⟩ | ⟨-, rfl, rfl, rfl⟩
      · exact ⟨rfl, fun _ => by rw [List.append_nil, hlen]⟩
      · exact ⟨rfl, by simp⟩
    · rintro e out inn ⟨rfl, -⟩
      exact ⟨rfl, by simp⟩
  refine (transfers_send _ _).bind (fun _ => hreceive) ?_ ?_
  · rintro u out inn ⟨rfl, -, hout⟩ r out' inn' ⟨rfl, hinn⟩ hr
    rw [hout rfl, List.append_nil, List.nil_append]
    exact ⟨rfl, hinn hr⟩
  · rintro e out inn -
    simp

theorem transfers_start (peerBlob : Octets) : Transfers (startSession peerBlob) fun r out inn =>
      (Acceptable peerBlob ∧ (r = .ok () → out = startPacket ∧ inn.length = 8)) ∨
        (¬Acceptable peerBlob ∧ (∃ e, r = .error (.failed e)) ∧ out = [] ∧ inn = []) := by
  refine (transfers_lift _).bind (R := fun parts r out inn =>
    (¬(parts.1 = [] ∨ parts.2 = []) ∧ (r = .ok () → out = startPacket ∧ inn.length = 8)) ∨
      (¬¬(parts.1 = [] ∨ parts.2 = []) ∧ r = .error (.failed .invalidParameter) ∧ out = [] ∧
        inn = [])) ?_ ?_ ?_
  · rintro ⟨policy, issuerChain⟩
    exact transfers_startPackets.guarded
  · rintro ⟨policy, issuerChain⟩ out inn ⟨hdecode, rfl, rfl⟩ r out' inn' hr
    have hdecode : decodePeerData peerBlob = some (policy, issuerChain) := orElse_ok.mp hdecode.symm
    rcases hr with ⟨hne, hr⟩ | ⟨hne, rfl, rfl, rfl⟩
    · exact .inl ⟨⟨policy, issuerChain, hdecode, not_or.mp hne⟩, hr⟩
    · refine .inr ⟨?_, ⟨_, rfl⟩, rfl, rfl⟩
      rintro ⟨policy', issuerChain', hdecode', hparts⟩
      rw [hdecode] at hdecode'
      cases hdecode'
      exact hne (not_or.mpr hparts)
  · rintro e out inn ⟨hdecode, rfl, rfl⟩
    obtain ⟨hnone, rfl⟩ := orElse_error.mp hdecode.symm
    refine .inr ⟨?_, ⟨_, rfl⟩, rfl, rfl⟩
    rintro ⟨policy, issuerChain, hsome, -⟩
    rw [hnone] at hsome
    cases hsome

theorem transfers_finish (version : UInt16) (peerBlob : Octets) : Transfers (do
      startSession peerBlob
      return (version, peerBlob)) fun r out inn =>
        (Acceptable peerBlob ∧ ∀ v b, r = .ok (v, b) → v = version ∧ b = peerBlob ∧
          out = startPacket ∧ inn.length = 8) ∨
        (¬Acceptable peerBlob ∧ (∃ e, r = .error (.failed e)) ∧ out = [] ∧ inn = []) := by
  refine (transfers_start peerBlob).bind (fun _ => transfers_pure _) ?_ ?_
  · rintro u out inn hr r out' inn' ⟨rfl, rfl, rfl⟩
    rw [List.append_nil, List.append_nil]
    rcases hr with ⟨hacc, hr⟩ | ⟨hacc, ⟨e, he⟩, -⟩
    · refine .inl ⟨hacc, ?_⟩
      rintro v b hvb
      cases hvb
      exact ⟨rfl, rfl, hr rfl⟩
    · cases he
  · rintro e out inn hr
    rcases hr with ⟨hacc, -⟩ | ⟨hacc, ⟨e', he⟩, hout, hinn⟩
    · exact .inl ⟨hacc, by simp⟩
    · cases he
      exact .inr ⟨hacc, ⟨e', rfl⟩, hout, hinn⟩

theorem transfers_afterHello (config : LocalConfig) (version : UInt16) : Transfers (do
      let peerBlob ← exchangeDataPackets config
      startSession peerBlob
      return (version, peerBlob)) fun r out inn =>
        (∀ v b, r = .ok (v, b) → v = version ∧ (∃ localBlob, localPeerData config = some localBlob ∧
            out = dataPacket localBlob ++ startPacket) ∧
          ∃ packet start h, inn = packet ++ start ∧ IsPacket packet b h ∧ start.length = 8) ∧
        ∀ blob, packetBlob inn = some blob → ¬Acceptable blob → (∃ e, r = .error (.failed e)) ∧
            ∃ localBlob, localPeerData config = some localBlob ∧ out = dataPacket localBlob := by
  refine (transfers_packets config).bind (transfers_finish version) ?_ ?_
  · rintro peerBlob out inn ⟨⟨localBlob, hlocal, rfl⟩, h, hp⟩ r out' inn' hr
    refine ⟨?_, ?_⟩
    · rintro v b rfl
      rcases hr with ⟨-, hr⟩ | ⟨-, ⟨e, he⟩, -⟩
      · obtain ⟨rfl, rfl, rfl, hlen⟩ := hr v b rfl
        exact ⟨rfl, ⟨localBlob, hlocal, rfl⟩, inn, inn', h, rfl, hp, hlen⟩
      · cases he
    · intro blob hblob hbad
      rw [packetBlob_of hp] at hblob
      cases hblob
      rcases hr with ⟨hacc, -⟩ | ⟨-, herr, rfl, -⟩
      · exact absurd hacc hbad
      · exact ⟨herr, localBlob, hlocal, List.append_nil _⟩
  · intro e out inn hnone
    refine ⟨by simp, ?_⟩
    intro blob hblob
    have hnone : packetBlob inn = none := hnone
    rw [hnone] at hblob
    cases hblob

/-- The bytes of a finished exchange, in both directions. -/
structure Completed (config : LocalConfig) (version : UInt16) (peerBlob out inn : Octets) :
    Prop where
  sent : ∃ localBlob, localPeerData config = some localBlob ∧ out = preSessionBytes localBlob
  received : ∃ hello packet start p h, inn = hello ++ (packet ++ start) ∧ hello.length = 16 ∧
    HelloPacketPayload.readFromBytes (hello.drop 8) = some p ∧
    p.negotiateSupportedVersion = some version ∧ IsPacket packet peerBlob h ∧ start.length = 8

/-- The exchange has failed, and only the hello and the data packet have been sent. -/
def Refused (config : LocalConfig) (r : Except (Halt MigrationResult) (UInt16 × Octets))
    (out : Octets) : Prop :=
  (∃ e, r = .error (.failed e)) ∧ ∃ localBlob, localPeerData config = some localBlob ∧
    out = helloPacket ++ dataPacket localBlob

theorem transfers_exchange (config : LocalConfig) :
    Transfers (preSessionDataExchange config) fun r out inn =>
      (∀ version peerBlob, r = .ok (version, peerBlob) →
        Completed config version peerBlob out inn) ∧
      ∀ blob, receivedBlob inn = some blob → ¬Acceptable blob → Refused config r out := by
  refine transfers_exchangeHello.bind (transfers_afterHello config) ?_ ?_
  · rintro version out inn ⟨rfl, hlen, p, hread, hversion⟩ r out' inn' ⟨hok, hbad⟩
    refine ⟨?_, ?_⟩
    · intro v b hvb
      obtain ⟨rfl, ⟨localBlob, hlocal, rfl⟩, packet, start, h, rfl, hp, hstart⟩ := hok v b hvb
      refine ⟨⟨localBlob, hlocal, ?_⟩, inn, packet, start, p, h, rfl, hlen, hread, hversion, hp,
        hstart⟩
      rw [preSessionBytes, List.append_assoc]
    · intro blob hblob hacc
      rw [receivedBlob, List.drop_left' hlen] at hblob
      obtain ⟨herr, localBlob, hlocal, rfl⟩ := hbad blob hblob hacc
      exact ⟨herr, localBlob, hlocal, rfl⟩
  · intro e out inn hle
    refine ⟨by simp, ?_⟩
    intro blob hblob
    have hle : inn.length ≤ 16 := hle
    rw [receivedBlob, List.drop_of_length_le hle] at hblob
    cases hblob

private theorem header_length_toNat {blob : Octets} (hsize : blob.length < 2 ^ 32) :
    (header PreSessionMessage.PRE_SESSION_DATA_TYPE blob.length).length.toNat = blob.length := by
  change (UInt32.ofNat blob.length).toNat = blob.length
  rw [UInt32.toNat_ofNat']
  exact Nat.mod_eq_of_lt hsize

theorem packet_eq {packet start peerBlob blob later : Octets} {h : PreSessionMessage}
    (hp : IsPacket packet peerBlob h) (hstart : start.length = 8) (hsize : blob.length < 2 ^ 32)
    (hpre : packet ++ start <+: dataPacket blob ++ startPacket ++ later) :
    peerBlob = blob ∧ packet ++ start = dataPacket blob ++ startPacket := by
  obtain ⟨tail, htail⟩ := hpre
  have hbytes := (header PreSessionMessage.PRE_SESSION_DATA_TYPE blob.length).asBytes_length
  have hlen := hp.length
  -- Both streams start with the same eight bytes, so the headers agree.
  have hhead : packet.take 8 =
      (header PreSessionMessage.PRE_SESSION_DATA_TYPE blob.length).asBytes := by
    have htake := congrArg (List.take 8) htail
    rw [List.append_assoc, List.take_append_of_le_length (by omega)] at htake
    rw [htake, dataPacket, List.append_assoc, List.append_assoc]
    exact List.take_left' hbytes
  have hheader := hp.header
  rw [hhead, PreSessionMessage.readFromBytes_asBytes] at hheader
  obtain rfl := Option.some.inj hheader
  rw [header_length_toNat hsize] at hlen
  have hpacket : packet.length = (dataPacket blob).length := by
    rw [hlen, dataPacket, List.length_append, hbytes]
    rfl
  rw [List.append_assoc, List.append_assoc] at htail
  obtain ⟨rfl, hrest⟩ := List.append_inj htail hpacket
  obtain ⟨rfl, -⟩ := List.append_inj hrest (hstart.trans (header _ 0).asBytes_length.symm)
  refine ⟨?_, rfl⟩
  rw [← hp.payload, dataPacket]
  exact List.drop_left' hbytes

structure Finished where
  config : LocalConfig
  before : Link
  after : Link
  version : UInt16
  peerBlob : Octets
  run : preSessionDataExchange config before = (.ok (version, peerBlob), after)

namespace Finished

def sent (f : Finished) : Octets := sentSince f.before f.after

def received (f : Finished) : Octets := receivedSince f.before f.after

theorem completed (f : Finished) :
    Completed f.config f.version f.peerBlob f.sent f.received :=
  ((transfers_exchange f.config).of_run f.run).1 _ _ rfl

theorem sent_eq {f : Finished} {localBlob : Octets}
    (hlocal : localPeerData f.config = some localBlob) : f.sent = preSessionBytes localBlob := by
  obtain ⟨blob, hblob, hsent⟩ := f.completed.sent
  rw [hlocal] at hblob
  rwa [Option.some.inj hblob]

theorem received_eq {f : Finished} {blob later : Octets} (hsize : blob.length < 2 ^ 32)
    (hpre : f.received <+: preSessionBytes blob ++ later) :
    f.peerBlob = blob ∧ f.version = HelloPacketPayload.HIGHEST_VERSION ∧
      f.received = preSessionBytes blob := by
  obtain ⟨hello, packet, start, p, h, hinn, hlen, hread, hversion, hp, hstart⟩ :=
    f.completed.received
  have hsixteen : hello.length = helloPacket.length := hlen
  obtain ⟨tail, htail⟩ := hpre
  rw [hinn, preSessionBytes] at htail
  simp only [List.append_assoc] at htail
  obtain ⟨rfl, hrest⟩ := List.append_inj htail hsixteen
  have hpacket : packet ++ start <+: dataPacket blob ++ startPacket ++ later := by
    refine ⟨tail, ?_⟩
    simpa only [List.append_assoc] using hrest
  obtain ⟨rfl, heq⟩ := packet_eq hp hstart hsize hpacket
  have hnew : HelloPacketPayload.readFromBytes (helloPacket.drop 8) =
      some HelloPacketPayload.new := by decide
  rw [hnew] at hread
  obtain rfl := Option.some.inj hread
  refine ⟨rfl, (Option.some.inj hversion).symm, ?_⟩
  rw [hinn, heq, preSessionBytes, List.append_assoc]

end Finished

/-- Two sides that finish over streams which keep the order hold each other's blobs, have
negotiated the same version and have read exactly what the other side sent before the session.
Against any peer, a blob that is malformed or has an empty part makes the exchange fail with
nothing sent but the hello and the data packet. -/
theorem pre_session_agreement : (∀ (a b : Finished) (localA localB laterA laterB : Octets),
      localPeerData a.config = some localA → localPeerData b.config = some localB →
      localA.length < 2 ^ 32 → localB.length < 2 ^ 32 →
      a.received <+: b.sent ++ laterB → b.received <+: a.sent ++ laterA →
      a.peerBlob = localB ∧ b.peerBlob = localA ∧ a.version = b.version ∧
        a.received = preSessionBytes localB ∧ b.sent = preSessionBytes localB ∧
        b.received = preSessionBytes localA ∧ a.sent = preSessionBytes localA) ∧
    ∀ (config : LocalConfig) (s t : Link)
      (r : Except (Halt MigrationResult) (UInt16 × Octets)) (blob : Octets),
      preSessionDataExchange config s = (r, t) → receivedBlob (receivedSince s t) = some blob →
      ¬Acceptable blob → Refused config r (sentSince s t) := by
  refine ⟨?_, ?_⟩
  · intro a b localA localB laterA laterB hlocalA hlocalB hsizeA hsizeB hAB hBA
    rw [Finished.sent_eq hlocalB] at hAB
    rw [Finished.sent_eq hlocalA] at hBA
    obtain ⟨hblobA, hversionA, hreceivedA⟩ := Finished.received_eq hsizeB hAB
    obtain ⟨hblobB, hversionB, hreceivedB⟩ := Finished.received_eq hsizeA hBA
    exact ⟨hblobA, hblobB, hversionA.trans hversionB.symm, hreceivedA, Finished.sent_eq hlocalB,
      hreceivedB, Finished.sent_eq hlocalA⟩
  · intro config s t r blob hrun hblob hbad
    exact ((transfers_exchange config).of_run hrun).2 blob hblob hbad

/-- A link that takes and delivers at most three bytes at a time. -/
def narrowLink (incoming : Octets) : Link where
  writes := List.replicate 20 (some 3)
  reads := List.replicate 20 (some 3)
  incoming := incoming
  sent := []
  received := []

def configA : LocalConfig := ⟨some [1], some [2]⟩
def configB : LocalConfig := ⟨some [3, 4], some [5]⟩
def blobA : Octets := [1, 0, 0, 0, 1, 1, 0, 0, 0, 2]
def blobB : Octets := [2, 0, 0, 0, 3, 4, 1, 0, 0, 0, 5]

def sideA : Finished where
  config := configA
  before := narrowLink (preSessionBytes blobB)
  after := (preSessionDataExchange configA (narrowLink (preSessionBytes blobB))).2
  version := 0x0100
  peerBlob := blobB
  run := Prod.ext (by decide +kernel) rfl

def sideB : Finished where
  config := configB
  before := narrowLink (preSessionBytes blobA)
  after := (preSessionDataExchange configB (narrowLink (preSessionBytes blobA))).2
  version := 0x0100
  peerBlob := blobA
  run := Prod.ext (by decide +kernel) rfl

/-- Two sides over narrow links, and a side whose peer sends a blob without an issuer chain. -/
theorem pre_session_agreement_narrow :
    (sideA.peerBlob = blobB ∧ sideA.received = preSessionBytes blobB) ∧
    Refused configA (preSessionDataExchange configA
        (narrowLink (helloPacket ++ dataPacket [1, 0, 0, 0, 7, 0, 0, 0, 0]))).1
      (helloPacket ++ dataPacket blobA) := by
  refine ⟨?_, ?_⟩
  · have h := pre_session_agreement.1 sideA sideB blobA blobB [] [] (by decide) (by decide)
      (by decide) (by decide) (by decide +kernel) (by decide +kernel)
    exact ⟨h.1, h.2.2.2.1⟩
  · refine pre_session_agreement.2 configA
      (narrowLink (helloPacket ++ dataPacket [1, 0, 0, 0, 7, 0, 0, 0, 0])) _ _
      [1, 0, 0, 0, 7, 0, 0, 0, 0] rfl (by decide +kernel) ?_
    rintro ⟨policy, issuerChain, hdecode, -, hne⟩
    have hparts : decodePeerData [1, 0, 0, 0, 7, 0, 0, 0, 0] = some ([7], []) := by decide
    rw [hparts] at hdecode
    cases hdecode
    exact hne rfl

end MigTd.Migration.PreSessionAgreement
