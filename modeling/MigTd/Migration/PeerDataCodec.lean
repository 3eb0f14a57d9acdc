/- source: pre_session_data.rs
   digest: Peer-data blobs are in bijection with the pairs that they carry. -/

import MigTd.Lib.Slices
import MigTd.Migration.PreSession

set_option autoImplicit false

namespace MigTd.Migration.PeerDataCodec

open Lib.ByteCodec Lib.Slices Lib.StateProgram PreSession

/-- `decode_peer_data` with its index expressions; `None` is the error without a value. -/
def decodePeerDataSlices (data : Octets) : Except (Stop Unit) (Octets × Octets) := do
  require (4 ≤ data.length) (.failed ())
  let policyLen ← slice data 0 4
  let chainLenOffset ← orElse (checkedAdd 4 (leValue policyLen)) (.failed ())
  let need ← orElse (checkedAdd chainLenOffset 4) (.failed ())
  require (need ≤ data.length) (.failed ())
  let policy ← slice data 4 chainLenOffset
  let chainLen ← slice data chainLenOffset (chainLenOffset + 4)
  let chainOffset := chainLenOffset + 4
  let stop ← orElse (checkedAdd chainOffset (leValue chainLen)) (.failed ())
  require (data.length = stop) (.failed ())
  let issuerChain ← slice data chainOffset stop
  return (policy, issuerChain)

theorem leValue_four_lt {bytes : Octets} (h : bytes.length ≤ 4) : leValue bytes < 2 ^ 32 := by
  have hlt := leValue_lt bytes
  have hpow : 256 ^ bytes.length ≤ 256 ^ 4 := Nat.pow_le_pow_right (by omega) h
  omega

theorem decodePeerDataSlices_eq (data : Octets) :
    decodePeerDataSlices data = orElse (decodePeerData data) (.failed ()) := by
  unfold decodePeerDataSlices decodePeerData
  by_cases hshort : data.length < 4
  · have hno : ¬4 ≤ data.length := by omega
    rw [require_neg hno, if_pos hshort]
    rfl
  have hfour : 4 ≤ data.length := by omega
  have hpolicyLen := leValue_four_lt (List.length_take_le 4 data)
  rw [require_pos hfour, ok_bind, if_neg hshort, slice_ok (by omega) hfour, ok_bind]
  rw [List.drop_zero, Nat.sub_zero]
  dsimp only
  generalize leValue (data.take 4) = policyLen at hpolicyLen ⊢
  rw [checkedAdd_small (by omega), orElse, ok_bind, checkedAdd_small (by omega), orElse, ok_bind]
  by_cases hpolicy : data.length < 4 + policyLen + 4
  · have hno : ¬4 + policyLen + 4 ≤ data.length := by omega
    rw [require_neg hno, if_pos hpolicy]
    rfl
  have hroom : 4 + policyLen + 4 ≤ data.length := by omega
  have hchainLen := leValue_four_lt (List.length_take_le 4 (data.drop (4 + policyLen)))
  have hcut : 4 + policyLen + 4 - (4 + policyLen) = 4 := by omega
  rw [require_pos hroom, ok_bind, if_neg hpolicy, slice_ok (by omega) (by omega), ok_bind,
    slice_ok (by omega) hroom, ok_bind, hcut, Nat.add_sub_cancel_left]
  generalize leValue ((data.drop (4 + policyLen)).take 4) = chainLen at hchainLen ⊢
  rw [checkedAdd_small (by omega), orElse, ok_bind]
  by_cases hlen : data.length = 4 + policyLen + 4 + chainLen
  · rw [require_pos hlen, ok_bind, if_neg (not_not.mpr hlen), slice_ok (by omega) (by omega),
      ok_bind, Nat.add_sub_cancel_left]
    rfl
  · rw [require_neg hlen, if_pos hlen]
    rfl

theorem decodePeerData_encode {policy issuerChain blob : Octets}
    (h : encodePeerData policy issuerChain = some blob) :
    decodePeerData blob = some (policy, issuerChain) := by
  unfold encodePeerData at h
  split_ifs at h with hfits
  obtain ⟨hpolicy, hchain⟩ := hfits
  obtain rfl := Option.some.inj h
  have hlen : (leBytes 4 policy.length ++ policy).length = 4 + policy.length := by
    rw [List.length_append, leBytes_length]
  have hlen' : (leBytes 4 policy.length ++ policy ++ leBytes 4 issuerChain.length).length =
      4 + policy.length + 4 := by
    rw [List.length_append, hlen, leBytes_length]
  have hfirst : leValue ((leBytes 4 policy.length ++ policy ++ leBytes 4 issuerChain.length ++
      issuerChain).take 4) = policy.length := by
    rw [List.append_assoc, List.append_assoc, List.take_left' (leBytes_length 4 _),
      leValue_leBytes 4 _ hpolicy]
  have hsecond : leValue (((leBytes 4 policy.length ++ policy ++ leBytes 4 issuerChain.length ++
      issuerChain).drop (4 + policy.length)).take 4) = issuerChain.length := by
    rw [List.append_assoc _ (leBytes 4 issuerChain.length), List.drop_left' hlen,
      List.take_left' (leBytes_length 4 _), leValue_leBytes 4 _ hchain]
  have hpart : ((leBytes 4 policy.length ++ policy ++ leBytes 4 issuerChain.length ++
      issuerChain).drop 4).take policy.length = policy := by
    rw [List.append_assoc, List.append_assoc, List.drop_left' (leBytes_length 4 _),
      List.take_left' rfl]
  have hpart' : ((leBytes 4 policy.length ++ policy ++ leBytes 4 issuerChain.length ++
      issuerChain).drop (4 + policy.length + 4)).take issuerChain.length = issuerChain := by
    rw [List.drop_left' hlen', List.take_length]
  have hall : (leBytes 4 policy.length ++ policy ++ leBytes 4 issuerChain.length ++
      issuerChain).length = 4 + policy.length + 4 + issuerChain.length := by
    rw [List.length_append, hlen']
  unfold decodePeerData
  rw [hfirst]
  dsimp only
  rw [hsecond, hpart, hpart', hall, if_neg (by omega), if_neg (by omega), if_neg (by simp)]

theorem encodePeerData_decode {data policy issuerChain : Octets}
    (h : decodePeerData data = some (policy, issuerChain)) :
    encodePeerData policy issuerChain = some data := by
  unfold decodePeerData at h
  dsimp only at h
  split_ifs at h with hshort hroom hlen
  have hlen := not_not.mp hlen
  obtain ⟨rfl, rfl⟩ := Prod.mk.inj (Option.some.inj h)
  have hfour : (data.take 4).length = 4 := by
    rw [List.length_take]
    omega
  have hfour' : ((data.drop (4 + leValue (data.take 4))).take 4).length = 4 := by
    rw [List.length_take, List.length_drop]
    omega
  have hpolicyLen := leValue_four_lt hfour.le
  have hchainLen := leValue_four_lt hfour'.le
  have hpolicy : ((data.drop 4).take (leValue (data.take 4))).length = leValue (data.take 4) := by
    rw [List.length_take, List.length_drop]
    omega
  have hchain : ((data.drop (4 + leValue (data.take 4) + 4)).take
      (leValue ((data.drop (4 + leValue (data.take 4))).take 4))).length =
      leValue ((data.drop (4 + leValue (data.take 4))).take 4) := by
    rw [List.length_take, List.length_drop]
    omega
  unfold encodePeerData
  rw [hpolicy, hchain, if_pos ⟨hpolicyLen, hchainLen⟩, leBytes_leValue_of_length hfour,
    leBytes_leValue_of_length hfour']
  generalize leValue (data.take 4) = policyLen at *
  have hend : (data.drop (4 + policyLen + 4)).take
      (leValue ((data.drop (4 + policyLen)).take 4)) = data.drop (4 + policyLen + 4) := by
    refine List.take_of_length_le ?_
    rw [List.length_drop]
    omega
  -- The four parts stand one behind the other.
  have hback : (data.drop (4 + policyLen)).take 4 ++ data.drop (4 + policyLen + 4) =
      data.drop (4 + policyLen) := by
    rw [← List.drop_drop (i := 4), List.take_append_drop]
  have hmiddle : (data.drop 4).take policyLen ++ data.drop (4 + policyLen) = data.drop 4 := by
    rw [← List.drop_drop, List.take_append_drop]
  rw [hend, List.append_assoc, List.append_assoc, hback, hmiddle, List.take_append_drop]

/-- Decoding inverts encoding and the other way round, and it never panics. -/
theorem peer_data_bijection :
    (∀ policy issuerChain : Octets, policy.length < 2 ^ 32 → issuerChain.length < 2 ^ 32 →
      ∃ blob, encodePeerData policy issuerChain = some blob ∧
        decodePeerDataSlices blob = .ok (policy, issuerChain)) ∧
    (∀ data policy issuerChain : Octets, decodePeerDataSlices data = .ok (policy, issuerChain) →
        encodePeerData policy issuerChain = some data) ∧
    (∀ (data data' : Octets) (pair : Octets × Octets),
      decodePeerDataSlices data = .ok pair → decodePeerDataSlices data' = .ok pair → data = data') ∧
    ∀ data : Octets, decodePeerDataSlices data ≠ .error .panicked := by
  have hinverse : ∀ data policy issuerChain : Octets,
      decodePeerDataSlices data = .ok (policy, issuerChain) →
        encodePeerData policy issuerChain = some data := by
    intro data policy issuerChain h
    rw [decodePeerDataSlices_eq, orElse_ok] at h
    exact encodePeerData_decode h
  refine ⟨fun policy issuerChain hpolicy hchain => ?_, hinverse, ?_, ?_⟩
  · have hencode : encodePeerData policy issuerChain = some _ := if_pos ⟨hpolicy, hchain⟩
    refine ⟨_, hencode, ?_⟩
    rw [decodePeerDataSlices_eq, orElse_ok]
    exact decodePeerData_encode hencode
  · intro data data' pair h h'
    have hsame := (hinverse data pair.1 pair.2 h).symm.trans (hinverse data' pair.1 pair.2 h')
    exact Option.some.inj hsame
  · intro data hpanic
    rw [decodePeerDataSlices_eq, orElse_error] at hpanic
    cases hpanic.2

theorem peer_data_bijection_small :
    (∃ blob, encodePeerData [7] [8, 9] = some blob ∧ decodePeerDataSlices blob = .ok ([7], [8, 9])) ∧
      decodePeerDataSlices [1, 0, 0, 0, 7, 0, 0, 0, 0] = .ok ([7], []) ∧
      encodePeerData [7] [] = some [1, 0, 0, 0, 7, 0, 0, 0, 0] :=
  ⟨peer_data_bijection.1 [7] [8, 9] (by decide) (by decide), by decide,
    peer_data_bijection.2.1 [1, 0, 0, 0, 7, 0, 0, 0, 0] [7] [] (by decide)⟩

end MigTd.Migration.PeerDataCodec
