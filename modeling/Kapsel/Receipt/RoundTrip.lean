import Kapsel.Receipt.Statement

/-!
# The round trip of a Kubernetes statement

`ReceiptStatement::encode` writes an absent generation as `-1`, and `decode_generation`
reads `-1` as absent and refuses every other negative number.  The round trip therefore
stands on `ReceiptStatement::validate` letting no negative number through.  It checks the
current and the observed generation and the four replica counts, which are facts of the
receiver observation, but not the requested generation, which is not one of them.

* `ReceiptStatement.parse_requestedGeneration`: a parsed statement has no negative
  requested generation.
* `statement_round_trip_iff`: an encoded statement is read back exactly when its requested
  generation is absent or not negative.
* `statement_of_minus_one_lost`: a statement whose requested generation is `-1` is encoded,
  and its bytes are read as the statement without one.

A row that was frozen without an apply response reaches this:
`validate_snapshot_attempt_facts` validates the requested generation only together with a
response.
-/

namespace Kapsel

open Framing Grammar Fallible Authority BigEndian Receipt

namespace Receipt

/-- No negative number is read. -/
theorem nonneg_of_decodeGeneration {value : Bytes} {decoded : Option Int64}
    (h : decodeGeneration value = .ok decoded) : decoded.any (· < 0) = false := by
  obtain ⟨bytes, -, h⟩ := bind_eq_ok.mp h
  unfold present at h
  split_ifs at h with habsent hnonneg
  · obtain rfl := Except.ok.inj h
    rfl
  · obtain rfl := Except.ok.inj h
    have hlt : ¬ int64OfBeBytes bytes < 0 := Int64.not_lt.mpr hnonneg
    exact decide_eq_false hlt

/-- No negative generation is taken from a record. -/
theorem nonneg_of_generation {tag : UInt8} {c c' : Cursor} {decoded : Option Int64}
    (h : generation tag c = .ok (decoded, c')) : decoded.any (· < 0) = false := by
  obtain ⟨⟨value, c₁⟩, -, h⟩ := bind_eq_ok.mp h
  exact nonneg_of_decodeGeneration (lift_eq_ok h)

end Receipt

namespace Gateway
namespace ReceiptStatement

/-- The requested generation that is read is absent or not negative. -/
theorem takeStatement_requestedGeneration {maximumTextBytes : ℕ} {snapshotBound : Bool}
    {c c' : Cursor} {s : ReceiptStatement}
    (h : takeStatement maximumTextBytes snapshotBound c = .ok (s, c')) :
    s.requestedGeneration.any (· < 0) = false := by
  -- the fourteen texts and the current generation before it
  iterate 15 obtain ⟨⟨_, _⟩, -, h⟩ := bind_eq_ok.mp h
  obtain ⟨⟨requested, _⟩, hrequested, h⟩ := bind_eq_ok.mp h
  -- the nine facts behind it, the result and the non-claims with their check
  iterate 12 obtain ⟨⟨_, _⟩, -, h⟩ := bind_eq_ok.mp h
  -- the approved target and the end of the input
  iterate 2 obtain ⟨⟨_, _⟩, -, h⟩ := bind_eq_ok.mp h
  have hs : _ = s := congrArg Prod.fst (Except.ok.inj h)
  rw [← hs]
  exact nonneg_of_generation hrequested

/-- **A parsed statement has no negative requested generation.** -/
theorem parse_requestedGeneration {input : Bytes} {limits : InspectionLimits}
    {s : ReceiptStatement} (h : parse input limits = .ok s) :
    s.requestedGeneration.any (· < 0) = false := by
  obtain ⟨_, -, h⟩ := bind_eq_ok.mp h
  obtain ⟨_, -, h⟩ := bind_eq_ok.mp h
  obtain ⟨_, -, h⟩ := bind_eq_ok.mp h
  obtain ⟨⟨statement, _⟩, htake, h⟩ := bind_eq_ok.mp h
  obtain ⟨_, -, h⟩ := bind_eq_ok.mp h
  obtain rfl := Except.ok.inj h
  exact takeStatement_requestedGeneration htake

/-- A statement is encoded exactly when it is valid, and its bytes are the frames of its
fields. -/
theorem encode_eq_ok_iff {s : ReceiptStatement} {bytes : Bytes} :
    s.encode = .ok bytes ↔
      s.Valid ∧ bytes = s.magic ++ frames 1 (s.fields ++ s.approvedFields) := by
  constructor
  · intro h
    obtain ⟨_, hvalidate, -⟩ := bind_eq_ok.mp h
    have hvalid := validate_eq_ok.mp hvalidate
    obtain ⟨hencode, -⟩ := hvalid.encode_eq_ok
    exact ⟨hvalid, Except.ok.inj (h.symm.trans hencode)⟩
  · rintro ⟨hvalid, rfl⟩
    exact hvalid.encode_eq_ok.1

end ReceiptStatement

/-- **An encoded statement is read back exactly when its requested generation is absent or
not negative.** -/
theorem statement_round_trip_iff (s : ReceiptStatement) (bytes : Bytes)
    (hencode : s.encode = .ok bytes) :
    ReceiptStatement.parse bytes .default = .ok s ↔
      s.requestedGeneration.any (· < 0) = false := by
  obtain ⟨hvalid, rfl⟩ := ReceiptStatement.encode_eq_ok_iff.mp hencode
  constructor
  · intro hparse
    exact ReceiptStatement.parse_requestedGeneration hparse
  · intro hgeneration
    exact hvalid.parse_encode hgeneration

/-- A statement of an attempt whose receiver could not be observed. -/
def unobservedStatement (requestedGeneration : Option Int64) : ReceiptStatement where
  approvedTarget := none
  operationId := utf8 "op-1"
  authorizationId := utf8 "auth-1"
  authorizationSignerKeyId := utf8 "owner-key"
  authorizationGrantDigest := List.replicate 64 (asciiByte 'a')
  «namespace» := utf8 "demo"
  deployment := utf8 "worker"
  container := utf8 "app"
  immutableImageDigest := utf8 "registry/worker@sha256:" ++ List.replicate 64 (asciiByte 'b')
  writeStrategy := Gateway.writeStrategy
  targetUid := utf8 "uid-1"
  targetResourceVersion := utf8 "41"
  receiverUid := none
  observedImage := none
  observedOperationMarker := none
  currentGeneration := none
  requestedGeneration := requestedGeneration
  observedGeneration := none
  observedResourceVersion := none
  desiredReplicas := none
  updatedReplicas := none
  availableReplicas := none
  unavailableReplicas := none
  rolloutConditionType := none
  rolloutConditionStatus := none
  rolloutConditionReason := none
  result := .unknown

theorem valid_unobservedStatement_none : (unobservedStatement none).Valid :=
  ⟨⟨by decide, by decide, by decide, by decide, by decide⟩, by decide, by decide, by decide, rfl,
    rfl, by decide, ⟨by decide, rfl, rfl, rfl⟩, rfl⟩

/-- Whatever generation it names, the statement of an unobserved receiver is valid. -/
theorem valid_unobservedStatement (requestedGeneration : Option Int64) :
    (unobservedStatement requestedGeneration).Valid := by
  have h := valid_unobservedStatement_none
  refine ⟨h.request, h.authorizationId, h.authorizationSignerKeyId, h.authorizationGrantDigest,
    h.approvedTarget, h.writeStrategy, h.facts, h.observation, ?_⟩
  cases requestedGeneration with
  | none => rfl
  | some generation => rfl

/-- A statement of generation seven is encoded and read back. -/
theorem statement_of_seven_round_trips :
    ∃ bytes, (unobservedStatement (some 7)).encode = .ok bytes ∧
      ReceiptStatement.parse bytes .default = .ok (unobservedStatement (some 7)) := by
  obtain ⟨hencode, -⟩ := (valid_unobservedStatement (some 7)).encode_eq_ok
  exact ⟨_, hencode, (statement_round_trip_iff _ _ hencode).mpr (by decide)⟩

/-- A statement of generation `-1` is encoded, and its bytes are read as the statement
without a requested generation. -/
theorem statement_of_minus_one_lost :
    ∃ bytes, (unobservedStatement (some (-1))).encode = .ok bytes ∧
      ReceiptStatement.parse bytes .default = .ok (unobservedStatement none) ∧
      ReceiptStatement.parse bytes .default ≠ .ok (unobservedStatement (some (-1))) := by
  obtain ⟨hencode, -⟩ := (valid_unobservedStatement (some (-1))).encode_eq_ok
  have hparse := (valid_unobservedStatement none).parse_encode rfl
  refine ⟨_, hencode, hparse, ?_⟩
  intro hread
  have hsame : unobservedStatement none = unobservedStatement (some (-1)) :=
    Except.ok.inj (hparse.symm.trans hread)
  have hgeneration := congrArg ReceiptStatement.requestedGeneration hsame
  exact nomatch hgeneration

end Gateway
end Kapsel
