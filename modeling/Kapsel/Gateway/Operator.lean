import Kapsel.Gateway.Completion
import Kapsel.Receipt.Inspection

/-!
# The inputs of an operator

`validate_service_operator_inputs` of `crates/kapsel-authority/src/lib.rs` looks at a signed grant,
the key that is to verify it, the seed that is to sign the receipts and the trust document that is
to be handed out, and says whether they belong together.

* `verifyAuthorizationGrantForPublicKey_eq_ok`: the key id of the signer is read from the grant.
* `validateServiceOperatorInputs_eq_ok`: exactly when the inputs belong together.
* `operator_inputs_suffice`: what is signed with validated inputs is inspected under the document
  that was validated, in every run and at every time of its interval.
-/

namespace Kapsel

open Framing Grammar Fallible Authority Receipt Interaction Interaction.Program Relation

namespace Authority

/-- `verify_authorization_grant_for_public_key`. -/
def verifyAuthorizationGrantForPublicKey (C : Crypto) (bytes : Bytes) (publicKey : Octets 32) :
    Except GrantError ValidatedAuthorizationGrant := do
  require (bytes.length ≤ signedGrantBytesMax) .invalid
  let snapshotBound := snapshotGrantMagic.isPrefixOf bytes
  let records ← Cursor.start grantErrors bytes
    (if snapshotBound then snapshotGrantMagic else signedGrantMagic)
  let (purpose, records) ← takeRecord 1 records
  require (purpose = if snapshotBound then snapshotPurpose else grantPurpose) .invalid
  let (keyId, _) ← takeAsciiText 2 records
  verifyAuthorizationGrant C bytes ⟨keyId, publicKey⟩

/-- `receipt_signing_key_id`. -/
def receiptSigningKeyId (C : Crypto) (seed : Octets 32) (trust : Bytes) (snapshotBound : Bool) :
    Except ReceiptTrustError Text := do
  let trust ← parseReceiptTrust trust defaultTrustLimits
  let expectedPurpose :=
    if snapshotBound then Gateway.snapshotReceiptPurpose else Gateway.receiptPurpose
  require (trust.acceptedPurpose = expectedPurpose && trust.publicKey = C.verifyingKey seed)
    .invalidValue
  return trust.keyId

/-- `ValidatedServiceOperatorInputs`. -/
structure ValidatedServiceOperatorInputs where
  authorization : ExactAuthorization
  authorizationSigningKeyId : Text
  receiptSigningKeyId : Text
  deriving DecidableEq

/-- `validate_service_operator_inputs`.  The error says nothing. -/
def validateServiceOperatorInputs (C : Crypto) (signedAuthorizationGrant : Bytes)
    (authorizationPublicKey receiptSigningSeed : Octets 32) (receiptTrust : Bytes) :
    Except Unit ValidatedServiceOperatorInputs := do
  let verified ← (verifyAuthorizationGrantForPublicKey C signedAuthorizationGrant
    authorizationPublicKey).mapError fun _ => ()
  let keyId ← (receiptSigningKeyId C receiptSigningSeed receiptTrust
    verified.authorization.approvedTarget.isSome).mapError fun _ => ()
  return ⟨verified.authorization, verified.signerKeyId, keyId⟩

section
variable {C : Crypto} {bytes : Bytes} {publicKey : Octets 32}

/-- **The signer's key id need not be known**: it is the one in the grant. -/
theorem verifyAuthorizationGrantForPublicKey_eq_ok {grant : ValidatedAuthorizationGrant} :
    verifyAuthorizationGrantForPublicKey C bytes publicKey = .ok grant ↔
      ∃ keyId, verifyAuthorizationGrant C bytes ⟨keyId, publicKey⟩ = .ok grant := by
  constructor
  · intro h
    obtain ⟨_, -, h⟩ := bind_eq_ok.mp h
    obtain ⟨_, -, h⟩ := bind_eq_ok.mp h
    obtain ⟨⟨_, _⟩, -, h⟩ := bind_eq_ok.mp h
    obtain ⟨_, -, h⟩ := bind_eq_ok.mp h
    obtain ⟨⟨keyId, _⟩, -, h⟩ := bind_eq_ok.mp h
    exact ⟨keyId, h⟩
  · rintro ⟨keyId, h⟩
    obtain ⟨hlength, signed, hread, hkey, -⟩ := readGrant_of_verifyAuthorizationGrant h
    -- the key id that reading finds is the one that is looked for
    obtain ⟨records, hstart, hread⟩ := bind_eq_ok.mp hread
    obtain ⟨⟨⟨keyId', statement, signature⟩, _⟩, henvelope, hread⟩ := bind_eq_ok.mp hread
    obtain ⟨_, -, hread⟩ := bind_eq_ok.mp hread
    obtain ⟨_, -, hread⟩ := bind_eq_ok.mp hread
    obtain rfl := Except.ok.inj hread
    unfold takeEnvelope at henvelope
    obtain ⟨⟨purpose, c₁⟩, hpurpose, henvelope⟩ := bind_eq_ok.mp henvelope
    obtain ⟨⟨_, c₂⟩, hexpected, henvelope⟩ := bind_eq_ok.mp henvelope
    obtain ⟨⟨keyId'', c₃⟩, htext, henvelope⟩ := bind_eq_ok.mp henvelope
    obtain ⟨⟨_, _⟩, -, henvelope⟩ := bind_eq_ok.mp henvelope
    obtain ⟨⟨_, _⟩, -, henvelope⟩ := bind_eq_ok.mp henvelope
    obtain ⟨⟨_, _⟩, -, henvelope⟩ := bind_eq_ok.mp henvelope
    obtain ⟨⟨_, _⟩, -, henvelope⟩ := bind_eq_ok.mp henvelope
    obtain ⟨⟨_, _⟩, -, henvelope⟩ := bind_eq_ok.mp henvelope
    obtain ⟨⟨_, _⟩, -, henvelope⟩ := bind_eq_ok.mp henvelope
    have hsame : keyId'' = keyId' := congrArg (fun p => p.1.1) (Except.ok.inj henvelope)
    obtain ⟨_, hchecked, hrecords⟩ := bind_eq_ok.mp hexpected
    obtain rfl : c₁ = c₂ := congrArg (·.2) (Except.ok.inj hrecords)
    refine bind_eq_ok.mpr ⟨(), require_of_true (decide_eq_true hlength), bind_eq_ok.mpr ⟨records,
      hstart, bind_eq_ok.mpr ⟨(purpose, c₁), hpurpose, bind_eq_ok.mpr ⟨(), hchecked,
      bind_eq_ok.mpr ⟨(keyId'', c₃), htext, ?_⟩⟩⟩⟩⟩
    have hkeys : keyId'' = keyId := hsame.trans hkey
    rw [hkeys]
    exact h

/-- The purpose under which receipts for a grant are signed. -/
def receiptPurposeOf (snapshotBound : Bool) : Text :=
  if snapshotBound then Gateway.snapshotReceiptPurpose else Gateway.receiptPurpose

/-- **Exactly when the inputs belong together**: the key verifies the grant, and the trust document
appoints the key of the seed for the receipts of the grant's version. -/
theorem validateServiceOperatorInputs_eq_ok {seed : Octets 32} {trust : Bytes}
    {inputs : ValidatedServiceOperatorInputs} :
    validateServiceOperatorInputs C bytes publicKey seed trust = .ok inputs ↔
      (∃ digest, verifyAuthorizationGrant C bytes ⟨inputs.authorizationSigningKeyId, publicKey⟩ =
        .ok ⟨inputs.authorization, inputs.authorizationSigningKeyId, digest⟩) ∧
      ∃ notBefore notAfter, parseReceiptTrust trust defaultTrustLimits =
        .ok (trustOf C seed inputs.receiptSigningKeyId
          (receiptPurposeOf inputs.authorization.approvedTarget.isSome) notBefore notAfter) := by
  constructor
  · intro h
    obtain ⟨verified, hverified, h⟩ := bind_eq_ok.mp h
    obtain ⟨keyId, hkeyId, h⟩ := bind_eq_ok.mp h
    obtain rfl := Except.ok.inj h
    obtain ⟨signer, hverify⟩ :=
      verifyAuthorizationGrantForPublicKey_eq_ok.mp (mapError_eq_ok.mp hverified)
    have hsigner : verified.signerKeyId = signer := (verifyAuthorizationGrant_eq_ok hverify).signerKeyId_eq
    obtain ⟨document, hdocument, hkey⟩ := bind_eq_ok.mp (mapError_eq_ok.mp hkeyId)
    obtain ⟨_, hmatches, hkey⟩ := bind_eq_ok.mp hkey
    obtain rfl := Except.ok.inj hkey
    have hmatches := require_eq_ok.mp hmatches
    rw [Bool.and_eq_true, decide_eq_true_eq, decide_eq_true_eq] at hmatches
    obtain ⟨id, key, purpose, notBefore, notAfter⟩ := document
    obtain ⟨hpurpose, hpublic⟩ := hmatches
    obtain rfl : purpose = receiptPurposeOf verified.authorization.approvedTarget.isSome := hpurpose
    obtain rfl : key = C.verifyingKey seed := hpublic
    refine ⟨⟨verified.grantDigest, ?_⟩, notBefore, notAfter, hdocument⟩
    show verifyAuthorizationGrant C bytes ⟨verified.signerKeyId, publicKey⟩ = .ok verified
    rw [hsigner]
    exact hverify
  · rintro ⟨⟨digest, hverify⟩, notBefore, notAfter, hdocument⟩
    have hverified := verifyAuthorizationGrantForPublicKey_eq_ok.mpr ⟨_, hverify⟩
    refine bind_eq_ok.mpr ⟨_, mapError_eq_ok.mpr hverified, bind_eq_ok.mpr
      ⟨inputs.receiptSigningKeyId, mapError_eq_ok.mpr ?_, rfl⟩⟩
    refine bind_eq_ok.mpr ⟨_, hdocument, bind_eq_ok.mpr ⟨(), require_of_true ?_, rfl⟩⟩
    exact (Bool.and_eq_true _ _).mpr ⟨decide_eq_true rfl, decide_eq_true rfl⟩

end

end Authority

namespace Gateway

open Journal

variable {C : Crypto}

/-- **What is signed is reported with its statement**, as inspected in the interval of the trust
document and as untrusted outside of it. -/
theorem inspectReceipt_appointed (hC : C.Correct) {receipt statementBytes trust : Bytes}
    {s : ReceiptStatement} {purpose keyId : Text} {seed : Octets 32}
    {notBefore notAfter : Int64} (time : Int64)
    (hparse : parseReceiptEnvelope receipt .default = .ok ⟨purpose, keyId, statementBytes, s,
      C.sign seed (Receipt.signatureInput purpose statementBytes)⟩)
    (htrust : parseTrust trust .default = .ok (trustOf C seed keyId purpose notBefore notAfter)) :
    inspectReceipt C receipt trust time .default =
      ⟨if notBefore ≤ time ∧ time < notAfter then .inspected else .untrustedSigner, some s⟩ := by
  have haccepts := Accepts.mk hparse htrust (hC.keyIsValid_verifyingKey seed)
  have hverifies : ¬ ¬ Verifies C (trustOf C seed keyId purpose notBefore notAfter)
      (⟨purpose, keyId, statementBytes, s,
        C.sign seed (Receipt.signatureInput purpose statementBytes)⟩ :
          ReceiptEnvelope ReceiptStatement) :=
    not_not_intro (hC.verifyStrict_sign seed (Receipt.signatureInput purpose statementBytes))
  rw [inspectReceipt_eq, haccepts.decision_eq, if_neg hverifies]
  by_cases hinterval : notBefore ≤ time ∧ time < notAfter
  · rw [if_neg, if_pos hinterval]
    rw [rejectsSigner_iff, not_not]
    exact ⟨rfl, rfl, hinterval.1, hinterval.2⟩
  · rw [if_pos, if_neg hinterval]
    exact rejectsSigner_iff.mpr fun happoints => hinterval ⟨happoints.2.2.1, happoints.2.2.2⟩

/-- **Validated inputs suffice.**  The signer verifies the grant under the key id that was found,
and for every attempt that a run leaves behind under this grant, with every observation that passes
validation, the receipt that is signed with the seed is reported with the frozen statement under
the document that was validated: inspected at every time of its interval, and only then. -/
theorem operator_inputs_suffice (hC : C.Correct) {grant trust : Bytes} {publicKey seed : Octets 32}
    {inputs : ValidatedServiceOperatorInputs}
    (h : validateServiceOperatorInputs C grant publicKey seed trust = .ok inputs) :
    ∃ document, parseReceiptTrust trust defaultTrustLimits = .ok document ∧
      (∃ digest, Authority.verifyAuthorizationGrant C grant
        ⟨inputs.authorizationSigningKeyId, publicKey⟩ =
          .ok ⟨inputs.authorization, inputs.authorizationSigningKeyId, digest⟩) ∧
      ∀ (e : Execution C) (id : Text) (r : Record .kubernetes) (started : ApplyStartedOperation)
        (observation : ReceiverObservation) (outside : Outside) (s : ℕ),
        stored e.world.db .kubernetes id = some r →
        r.value .signedAuthorizationGrant = .blob grant →
        decode C r = .ok (.applyStarted started) → observation.validate = .ok () →
        ∃ w observed receipt,
          Yields (healthy outside s) e.world (Storage.freezeObservation (C := C) started observation)
            () w ∧
          Journal.operation C w.db id = .ok (some (.receiverObserved observed)) ∧
          buildReceipt C observed ⟨seed, inputs.receiptSigningKeyId⟩ = .ok receipt ∧
          ∀ time, inspectReceipt C receipt.bytes trust time .default =
            ⟨if document.notBeforeUnixS ≤ time ∧ time < document.notAfterUnixS then .inspected
              else .untrustedSigner, some observed.statement⟩ := by
  obtain ⟨hverify, notBefore, notAfter, hdocument⟩ := validateServiceOperatorInputs_eq_ok.mp h
  have hkey := (validateReceiptTrust_eq_ok.mp (eq_of_parseReceiptTrust hdocument).1).1
  refine ⟨_, hdocument, hverify, ?_⟩
  intro e id r started observation outside s hr hgrant hdecode hobservation
  obtain ⟨a, p, rfl, rfl, hvalid⟩ := e.sound.lawful.phase hr
  obtain ⟨target, response, rfl, rfl⟩ := phase_of_applyStarted hvalid hdecode
  have hobserved := ReceiverObservation.validate_eq_ok.mp hobservation
  obtain ⟨w, hfreeze, hrow⟩ := exists_yields_freezeObservation outside s hvalid hobserved hr
  obtain ⟨statementBytes, receipt, -, -, -, -, hbuild, -, hparse, -⟩ :=
    exists_buildReceipt hvalid hobserved ⟨seed, inputs.receiptSigningKeyId⟩ hkey
  refine ⟨w, observedOperation a target response observation, receipt, hfreeze,
    operation_of_stored (p := .observed target response observation) ⟨hvalid, hobserved⟩ trivial
      hrow, hbuild, fun time => ?_⟩
  -- the retained grant is the one that was validated, so its version is that of the statement
  have hpurpose : (frozenStatement a target response observation).purpose =
      receiptPurposeOf inputs.authorization.approvedTarget.isSome := by
    have hbytes : a.authorization.signedGrant = grant := Value.blob.inj hgrant
    obtain ⟨digest, hverify⟩ := hverify
    obtain ⟨appointment, hauthentic⟩ := a.authorization.authentic
    rw [hbytes] at hauthentic
    have hsame := verifyAuthorizationGrant_deterministic hauthentic hverify
    have hauthorization : a.authorization.authorization = inputs.authorization :=
      congrArg (·.authorization) hsame
    rw [← hauthorization]
    rfl
  have htrust : parseTrust trust .default = .ok (trustOf C seed inputs.receiptSigningKeyId
      (frozenStatement a target response observation).purpose notBefore notAfter) := by
    rw [hpurpose]
    exact bind_eq_ok.mpr ⟨(), rfl, mapError_eq_ok.mpr hdocument⟩
  exact inspectReceipt_appointed hC time hparse htrust

/-- The known authorization. -/
def Known.authorization : ExactAuthorization where
  approvedTarget := some ⟨Known.target.deploymentUid, Known.target.resourceVersion⟩
  authorizationId := utf8 "snapshot-auth-17"
  operationId := Known.request.operationId
  «namespace» := Known.request.namespace
  deployment := Known.request.deployment
  container := Known.request.container
  immutableImageDigest := Known.image

/-- The known inputs belong together, and the known attempt is signed with them and inspected in the
interval of their trust document, but not before it. -/
theorem known_inputs_suffice : ∃ trust inputs,
    validateServiceOperatorInputs Known.crypto Known.grant Known.ownerKey Known.receiptSeed trust =
        .ok inputs ∧
      ∃ w observed receipt,
        Journal.operation Known.crypto w Known.request.operationId =
          .ok (some (.receiverObserved observed)) ∧
        buildReceipt Known.crypto observed ⟨Known.receiptSeed, inputs.receiptSigningKeyId⟩ =
          .ok receipt ∧
        inspectReceipt Known.crypto receipt.bytes trust 1500 .default =
          ⟨.inspected, some observed.statement⟩ ∧
        inspectReceipt Known.crypto receipt.bytes trust 500 .default =
          ⟨.untrustedSigner, some observed.statement⟩ := by
  have hverify : Authority.verifyAuthorizationGrant Known.crypto Known.grant
      ⟨Known.ownerKeyId, Known.ownerKey⟩ = .ok ⟨Known.authorization, Known.ownerKeyId,
        digestHex Known.crypto Known.grant⟩ := by
    decide +kernel
  obtain ⟨trust, htrust⟩ := exists_trust (C := Known.crypto) Known.receiptSeed
    (by decide : identityIsValid Known.receiptKeyId = true)
    (by decide : receiptTextIsValid (receiptPurposeOf true) = true)
    (by decide : (1000 : Int64) ≤ 1500) (by decide : (1500 : Int64) < 2000)
  have hdocument := parseReceiptTrust_encode htrust
  have hinputs : validateServiceOperatorInputs Known.crypto Known.grant Known.ownerKey
      Known.receiptSeed trust = .ok ⟨Known.authorization, Known.ownerKeyId, Known.receiptKeyId⟩ :=
    validateServiceOperatorInputs_eq_ok.mpr ⟨⟨_, hverify⟩, 1000, 2000, hdocument⟩
  obtain ⟨document, hparsed, -, hsuffice⟩ := operator_inputs_suffice Known.correct hinputs
  obtain rfl := Except.ok.inj (hdocument.symm.trans hparsed)
  obtain ⟨r, started, hr, hdecode⟩ := Known.attempted.exists_started Known.attempted_state
  have hgrant : r.value .signedAuthorizationGrant = .blob Known.grant := by
    have hstored : (stored Known.attempted.world.db .kubernetes Known.request.operationId).map
        (·.value .signedAuthorizationGrant) = some (.blob Known.grant) := by
      decide +kernel
    rw [hr] at hstored
    exact Option.some.inj hstored
  obtain ⟨w, observed, receipt, -, hobserved, hbuild, hinspect⟩ := hsuffice Known.attempted _ r
    started Known.observation Known.outside 1 hr hgrant hdecode (by decide)
  refine ⟨trust, _, hinputs, w.db, observed, receipt, hobserved, hbuild, ?_, ?_⟩
  · rw [hinspect 1500]
    exact congrArg (InspectionReport.mk · (some observed.statement)) (if_pos (by decide))
  · rw [hinspect 500]
    exact congrArg (InspectionReport.mk · (some observed.statement)) (if_neg (by decide))

end Gateway
end Kapsel
