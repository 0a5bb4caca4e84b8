import Kapsel.Receipt.RoundTrip
import Kapsel.Receipt.Separation

/-!
# Receipts are canonical

Every reader of a record tells the bytes of the record from what it returns: an absent text is the
empty one and no other text, an absent number is `-1` and no other negative number is read.  So a
statement tells its bytes, and a receipt is nothing but its magic, its purpose, the key, the
statement and one signature.

* `ReceiptStatement.encode_of_parse`: what parses is the encoding of what it parses to, whatever
  the limits.
* `kubernetes_receipts_canonical`: the same for receipts, byte by byte.
* `git_codecs`: the Git grants and the Git receipts, in both directions.
-/

namespace Kapsel

open Framing Grammar Fallible Authority BigEndian

namespace Receipt

open Gateway (ReceiptError OperationResult)

/-! ## Records -/

variable {tag : UInt8} {maximumTextBytes : ℕ}

theorem takes_take : Takes (take tag) (frame tag) := Framing.takes_take tag

theorem takes_text : Takes (text maximumTextBytes tag) (frame tag) :=
  fun c value c' h => takes_take c value c' (take_of_text h)

theorem bytes_emptyAsNone (value : Text) : (Field.optionalText (emptyAsNone value)).bytes = value := by
  cases value <;> rfl

theorem takes_optionalText : Takes (optionalText maximumTextBytes tag)
    fun value => frame tag (Field.optionalText value).bytes := by
  refine takes_text.map fun value => ?_
  rw [bytes_emptyAsNone]

/-- A number that was read is the number of the bytes, and `-1` where it is absent. -/
theorem getD_of_present {α : Type} [DecidableEq α] [LE α] [DecidableLE α] {absent zero decoded : α}
    {value : Option α} (h : present absent zero decoded = .ok value) :
    value.getD absent = decoded := by
  unfold present at h
  split_ifs at h with habsent hle
  · obtain rfl := Except.ok.inj h
    exact habsent.symm
  · obtain rfl := Except.ok.inj h
    rfl

theorem takes_generation : Takes (generation tag) fun value => frame tag (Field.int64 value).bytes := by
  refine takes_take.and_then fun bytes value h => ?_
  obtain ⟨array, harray, hpresent⟩ := bind_eq_ok.mp h
  have hbytes : (Field.int64 value).bytes = bytes := by
    show (int64BeBytes (value.getD (-1))).val = bytes
    rw [getD_of_present hpresent, int64BeBytes_ofBeBytes, val_of_arrayOr harray]
  rw [hbytes]

theorem takes_replicaCount :
    Takes (replicaCount tag) fun value => frame tag (Field.int32 value).bytes := by
  refine takes_take.and_then fun bytes value h => ?_
  obtain ⟨array, harray, hpresent⟩ := bind_eq_ok.mp h
  have hbytes : (Field.int32 value).bytes = bytes := by
    show (int32BeBytes (value.getD (-1))).val = bytes
    rw [getD_of_present hpresent, int32BeBytes_ofBeBytes, val_of_arrayOr harray]
  rw [hbytes]

end Receipt

namespace Gateway

open Receipt

/-! ## Statements -/

namespace ReceiptStatement

theorem takes_takeResult {tag : UInt8} :
    Takes (takeResult tag) fun result => frame tag result.asReceiptBytes := by
  refine Receipt.takes_take.and_then fun bytes result h => ?_
  unfold OperationResult.fromReceiptBytes at h
  split_ifs at h with hsucceeded hfailed hunknown
  · obtain rfl := Except.ok.inj h
    rw [hsucceeded]
    rfl
  · obtain rfl := Except.ok.inj h
    rw [hfailed]
    rfl
  · obtain rfl := Except.ok.inj h
    rw [hunknown]
    rfl

/-- The records of an approved target, if there is one. -/
def approvedFrames (target : Option ApprovedTarget) : Bytes :=
  target.elim [] fun approved => frame 28 approved.uid ++ frame 29 approved.resourceVersion

theorem takes_takeApproved {maximumTextBytes : ℕ} {snapshotBound : Bool} :
    Takes (takeApproved maximumTextBytes snapshotBound) approvedFrames := by
  intro c target c' h
  unfold takeApproved at h
  split_ifs at h with hbound
  · obtain ⟨⟨uid, c₁⟩, huid, h⟩ := bind_eq_ok.mp h
    obtain ⟨⟨resourceVersion, c₂⟩, hversion, h⟩ := bind_eq_ok.mp h
    obtain ⟨rfl, rfl⟩ := Prod.mk.inj (Except.ok.inj h)
    show c.rest = (frame 28 uid ++ frame 29 resourceVersion) ++ c₂.rest
    rw [takes_text c uid c₁ huid, takes_text c₁ resourceVersion c₂ hversion, List.append_assoc]
  · obtain ⟨rfl, rfl⟩ := Prod.mk.inj (Except.ok.inj h)
    rfl

/-- **A statement tells its records.** -/
theorem takesAll_takeStatement {maximumTextBytes : ℕ} {snapshotBound : Bool} :
    TakesAll (takeStatement maximumTextBytes snapshotBound) []
      fun s => frames 1 (s.fields ++ s.approvedFields) := by
  refine takes_text.bindAll fun operationId => ?_
  refine takes_text.bindAll fun authorizationId => ?_
  refine takes_text.bindAll fun authorizationSignerKeyId => ?_
  refine takes_text.bindAll fun authorizationGrantDigest => ?_
  refine takes_text.bindAll fun ns => ?_
  refine takes_text.bindAll fun deployment => ?_
  refine takes_text.bindAll fun container => ?_
  refine takes_text.bindAll fun immutableImageDigest => ?_
  refine takes_text.bindAll fun writeStrategy => ?_
  refine takes_text.bindAll fun targetUid => ?_
  refine takes_text.bindAll fun targetResourceVersion => ?_
  refine takes_optionalText.bindAll fun receiverUid => ?_
  refine takes_optionalText.bindAll fun observedImage => ?_
  refine takes_optionalText.bindAll fun observedOperationMarker => ?_
  refine takes_generation.bindAll fun currentGeneration => ?_
  refine takes_generation.bindAll fun requestedGeneration => ?_
  refine takes_generation.bindAll fun observedGeneration => ?_
  refine takes_optionalText.bindAll fun observedResourceVersion => ?_
  refine takes_replicaCount.bindAll fun desiredReplicas => ?_
  refine takes_replicaCount.bindAll fun updatedReplicas => ?_
  refine takes_replicaCount.bindAll fun availableReplicas => ?_
  refine takes_replicaCount.bindAll fun unavailableReplicas => ?_
  refine takes_optionalText.bindAll fun rolloutConditionType => ?_
  refine takes_optionalText.bindAll fun rolloutConditionStatus => ?_
  refine takes_optionalText.bindAll fun rolloutConditionReason => ?_
  refine takes_takeResult.bindAll fun result => ?_
  refine Receipt.takes_take.bindAll fun claims => ?_
  refine TakesAll.after_check fun _ hclaims => ?_
  obtain rfl := of_decide_eq_true (require_eq_ok.mp hclaims)
  refine takes_takeApproved.bindAll fun approvedTarget => ?_
  refine takesAll_finish ?_
  cases approvedTarget with
  | none =>
    simp only [fields, approvedFields, approvedFrames, frames_cons, frames_nil, List.nil_append,
      List.append_nil, List.append_assoc, Option.elim_none]
    rfl
  | some approved =>
    simp only [fields, approvedFields, approvedFrames, frames_cons, frames_nil, List.cons_append,
      List.nil_append, List.append_nil, List.append_assoc, Option.elim_some]
    rfl

/-- **A statement that parses encodes to what it was parsed from**, under any limits. -/
theorem encode_of_parse {input : Bytes} {limits : InspectionLimits} {s : ReceiptStatement}
    (h : parse input limits = .ok s) : s.encode = .ok input := by
  unfold parse at h
  obtain ⟨_, -, h⟩ := bind_eq_ok.mp h
  obtain ⟨_, -, h⟩ := bind_eq_ok.mp h
  obtain ⟨records, hstart, h⟩ := bind_eq_ok.mp h
  obtain ⟨⟨s', c⟩, htake, h⟩ := bind_eq_ok.mp h
  obtain ⟨_, hvalid, h⟩ := bind_eq_ok.mp h
  obtain rfl := Except.ok.inj h
  have hinput := takesAll_takeStatement.run hstart htake
  rw [← isSome_of_takeStatement htake] at hinput
  rw [hinput]
  exact (validate_eq_ok.mp hvalid).encode_eq_ok.1

/-- Two texts that parse to one statement are one text. -/
theorem parse_injective {input input' : Bytes} {limits limits' : InspectionLimits}
    {s : ReceiptStatement} (h : parse input limits = .ok s) (h' : parse input' limits' = .ok s) :
    input = input' :=
  Except.ok.inj ((encode_of_parse h).symm.trans (encode_of_parse h'))

end ReceiptStatement

/-! ## Receipts -/

/-- The envelope of a kind. -/
def ArtifactKind.envelope (k : ArtifactKind) (keyId : Text) (statement : Bytes)
    (signature : Octets 64) : Bytes :=
  Authority.envelope k.magic k.purpose keyId statement signature

/-- The kind of a receipt of a statement. -/
def ReceiptStatement.kind (s : ReceiptStatement) : ArtifactKind :=
  .kubernetesReceipt s.approvedTarget.isSome

/-- **A receipt that decodes is the envelope of its statement and nothing else.** -/
theorem envelope_of_decodeFrozenReceipt {receipt : Bytes} {keyId : Text} {s : ReceiptStatement}
    (h : decodeFrozenReceipt receipt = .ok (keyId, s)) :
    ∃ statement signature, s.encode = .ok statement ∧
      receipt = s.kind.envelope keyId statement signature := by
  obtain ⟨envelope, henvelope, hpair⟩ := bind_eq_ok.mp h
  obtain ⟨rfl, rfl⟩ := Prod.mk.inj (Except.ok.inj hpair)
  have hparse := (sealed_of_parseReceiptEnvelope henvelope).2.2
  refine ⟨envelope.statementBytes, envelope.signature, ReceiptStatement.encode_of_parse hparse, ?_⟩
  unfold parseReceiptEnvelope at henvelope
  have hbytes := (bytes_of_parseEnvelope henvelope).2
  have hstatement := (parseEnvelope_eq_ok henvelope).2.2
  unfold parseEnvelopeStatement at hstatement
  obtain ⟨s', -, hstatement⟩ := bind_eq_ok.mp hstatement
  obtain ⟨_, hsame, hstatement⟩ := bind_eq_ok.mp hstatement
  have hs : s' = envelope.statement := Except.ok.inj hstatement
  have hversion : envelope.statement.approvedTarget.isSome =
      snapshotReceiptMagic.isPrefixOf receipt := by
    rw [← hs]
    exact of_decide_eq_true (require_eq_ok.mp hsame)
  rw [ReceiptStatement.kind, hversion]
  exact hbytes

/-- **Kubernetes receipts are canonical.**  A statement that parses, under any limits, encodes to
the bytes that it was parsed from, so no other bytes parse to it, whatever the limits.  A receipt
that decodes is exactly the envelope of its version around the encoded statement, with one
signature. -/
theorem kubernetes_receipts_canonical :
    (∀ bytes limits s, ReceiptStatement.parse bytes limits = .ok s → s.encode = .ok bytes) ∧
    (∀ bytes bytes' limits limits' s, ReceiptStatement.parse bytes limits = .ok s →
      ReceiptStatement.parse bytes' limits' = .ok s → bytes = bytes') ∧
    (∀ receipt keyId s, decodeFrozenReceipt receipt = .ok (keyId, s) →
      ∃ statement signature, s.encode = .ok statement ∧
        receipt = s.kind.envelope keyId statement signature) :=
  ⟨fun _ _ _ h => ReceiptStatement.encode_of_parse h,
    fun _ _ _ _ _ h h' => ReceiptStatement.parse_injective h h',
    fun _ _ _ h => envelope_of_decodeFrozenReceipt h⟩

/-- The receipt of an unobserved receiver is the envelope of its statement. -/
theorem unobserved_receipt_canonical :
    ∃ (receipt statement : Bytes) (signature : Octets 64),
      signStatement Crypto.bare (unobservedStatement (some 7)) ⟨List.replicate 32 7, rfl⟩
        (utf8 "receipt-key") = .ok receipt ∧
      receipt = (ArtifactKind.kubernetesReceipt false).envelope (utf8 "receipt-key") statement
        signature := by
  obtain ⟨_, receipt, -, -, hsign, -, hparse⟩ :=
    (valid_unobservedStatement (some 7)).parseReceiptEnvelope_signStatement (C := Crypto.bare)
      (by decide) ⟨List.replicate 32 7, rfl⟩
      (show identityIsValid (utf8 "receipt-key") = true by decide)
  obtain ⟨statement, signature, -, hreceipt⟩ :=
    kubernetes_receipts_canonical.2.2 _ _ _ (decodeFrozenReceipt_of_parse hparse)
  exact ⟨receipt, statement, signature, hsign, hreceipt⟩

/-! ## Git receipts -/

namespace GitStatement

/-- What encodes can be written. -/
theorem writable_of_encode {s : GitStatement} {bytes : Bytes} (h : s.encode = .ok bytes) :
    s.Writable := by
  obtain ⟨_, hauthorization, h⟩ := bind_eq_ok.mp h
  obtain ⟨_, hsigner, h⟩ := bind_eq_ok.mp h
  obtain ⟨_, hdigest, h⟩ := bind_eq_ok.mp h
  obtain ⟨words, hwords, -⟩ := bind_eq_ok.mp h
  exact ⟨GitRefAuthorization.isValid_iff.mp (require_eq_ok.mp hauthorization),
    require_eq_ok.mp hsigner, require_eq_ok.mp hdigest, words, hwords⟩

/-- **A Git receipt that decodes is the envelope of its statement and nothing else.** -/
theorem envelope_of_decode {receipt : Bytes} {keyId : Text} {s : GitStatement}
    (h : decode receipt = .ok (keyId, s)) :
    ∃ statement signature, s.encode = .ok statement ∧
      receipt = ArtifactKind.gitReceipt.envelope keyId statement signature := by
  obtain ⟨parsed, hparsed, hpair⟩ := bind_eq_ok.mp h
  obtain ⟨rfl, rfl⟩ := Prod.mk.inj (Except.ok.inj hpair)
  have hbytes := (bytes_of_parseEnvelope hparsed).2
  have hparse := (parseEnvelope_eq_ok hparsed).2.2
  exact ⟨parsed.statementBytes, parsed.signature, encode_of_parse hparse, hbytes⟩

end GitStatement

/-- **The Git formats are codecs.**

* A valid authorization is signed within the bounds under every seed and every valid key id, and
  verifies under the matching trust to exactly itself, the key id and the digest of the bytes.
* Whatever verifies is exactly the envelope around the encoded authorization with one signature.
* Every statement that encodes is signed under every seed and every valid key id, and decodes to
  exactly the key id and itself.
* Whatever decodes is exactly the envelope around the encoded statement with one signature. -/
theorem git_codecs {C : Crypto} (hC : C.Correct) :
    (∀ a seed keyId, a.isValid = true → identityIsValid keyId = true →
      ∃ bytes, signGitRefGrant C a seed keyId = .ok bytes ∧ bytes.length ≤ Authority.Git.grantMax ∧
        verifyGitRefGrant C bytes ⟨keyId, C.verifyingKey seed⟩ =
          .ok ⟨a, keyId, digestHex C bytes⟩) ∧
    (∀ bytes trust grant, verifyGitRefGrant C bytes trust = .ok grant →
      grant.authorization.isValid = true ∧ grant.signerKeyId = trust.keyId ∧
        grant.grantDigest = digestHex C bytes ∧
        ∃ signature, bytes = ArtifactKind.gitGrant.envelope grant.signerKeyId
          grant.authorization.statement signature) ∧
    (∀ s seed keyId statement, GitStatement.encode s = .ok statement → identityIsValid keyId = true →
      ∃ receipt, s.sign C seed keyId = .ok receipt ∧ receipt.length ≤ receiptBytesMax ∧
        GitStatement.decode receipt = .ok (keyId, s)) ∧
    (∀ receipt keyId s, GitStatement.decode receipt = .ok (keyId, s) →
      ∃ statement signature, s.encode = .ok statement ∧
        receipt = ArtifactKind.gitReceipt.envelope keyId statement signature) := by
  refine ⟨?_, ?_, ?_, fun _ _ _ h => GitStatement.envelope_of_decode h⟩
  · intro a seed keyId hvalid hkey
    exact (GitRefAuthorization.isValid_iff.mp hvalid).verify_sign hC seed hkey
  · intro bytes trust grant h
    have hverified := verifyGitRefGrant_eq_ok h
    exact ⟨GitRefAuthorization.isValid_iff.mpr hverified.valid, hverified.signerKeyId_eq,
      hverified.grantDigest, envelope_of_verifyGitRefGrant h⟩
  · intro s seed keyId statement hencode hkey
    obtain ⟨_, receipt, -, -, hsign, hlength, henvelope⟩ :=
      (GitStatement.writable_of_encode hencode).envelope_sign C seed hkey
    exact ⟨receipt, hsign, hlength, bind_eq_ok.mpr ⟨_, henvelope, rfl⟩⟩

/-- A Git transition between two commits. -/
def preparedTransition : GitRefAuthorization where
  authorizationId := utf8 "auth-1"
  operationId := utf8 "op-1"
  repositoryId := utf8 "repo-1"
  reference := approvedGitRef
  oldCommit := List.replicate 40 (asciiByte '1')
  newCommit := List.replicate 40 (asciiByte '2')

/-- It is signed and verified. -/
theorem preparedTransition_verifies :
    ∃ bytes, signGitRefGrant Crypto.bare preparedTransition ⟨List.replicate 32 7, rfl⟩
        (utf8 "owner-key") = .ok bytes ∧
      verifyGitRefGrant Crypto.bare bytes ⟨utf8 "owner-key", ⟨List.replicate 32 7, rfl⟩⟩ =
        .ok ⟨preparedTransition, utf8 "owner-key", digestHex Crypto.bare bytes⟩ := by
  obtain ⟨bytes, hsign, -, hverify⟩ := (git_codecs Crypto.correct_bare).1 preparedTransition
    ⟨List.replicate 32 7, rfl⟩ (utf8 "owner-key") (by decide) (by decide)
  exact ⟨bytes, hsign, hverify⟩

end Gateway
end Kapsel
