import Kapsel.Gateway.Facts
import Kapsel.Receipt.Format
import Mathlib.Data.List.Forall2

/-!
# Kubernetes receipts

`src/gateway/receipt/mod.rs`: the canonical bytes of a `ReceiptStatement`, its
validation, the signed receipt and its offline inspection.

* `ReceiptStatement.validate_eq_ok` lists what validation checks.
* `Valid.parse_encode`: a statement that validates, and whose requested generation is
  not negative, is read back as it was.
* `inspectReceipt_signed`: a receipt that was signed is inspected under the trust
  document of its seed.
-/

namespace Kapsel

open Framing Grammar Fallible Authority BigEndian Receipt

namespace Gateway

def statementMagic : Bytes := utf8 "KAPSEL-KAP0038-K8S-STATEMENT-V2\x00"
def receiptMagic : Bytes := utf8 "KAPSEL-KAP0038-K8S-RECEIPT-V2\x00"
def snapshotStatementMagic : Bytes := utf8 "KAPSEL-KAP0038-K8S-STATEMENT-V3\x00"
def snapshotReceiptMagic : Bytes := utf8 "KAPSEL-KAP0038-K8S-RECEIPT-V3\x00"
def snapshotReceiptPurpose : Text := utf8 "kapsel.kap0038.kubernetes-effect-receipt.v3"
def receiptPurpose : Text := utf8 "kapsel.kap0038.kubernetes-effect-receipt.v2"
def nonClaims : Text :=
  utf8 "no-exactly-once;no-causation;no-kubernetes-truth;" ++
    utf8 "no-complete-capture;no-witnessing;not-production"

/-- `OperationResult::as_receipt_bytes`. -/
def OperationResult.asReceiptBytes : OperationResult → Bytes
  | .succeeded => utf8 "SUCCEEDED"
  | .failed => utf8 "FAILED"
  | .unknown => utf8 "UNKNOWN"

/-- `OperationResult::from_receipt_bytes`. -/
def OperationResult.fromReceiptBytes (value : Bytes) : Except ReceiptError OperationResult :=
  if value = utf8 "SUCCEEDED" then .ok .succeeded
  else if value = utf8 "FAILED" then .ok .failed
  else if value = utf8 "UNKNOWN" then .ok .unknown
  else .error .invalidValue

theorem OperationResult.fromReceiptBytes_asReceiptBytes (r : OperationResult) :
    OperationResult.fromReceiptBytes r.asReceiptBytes = .ok r := by
  cases r <;> decide

namespace ReceiptStatement

/-! ## Validation -/

/-- `ReceiptStatement::request`. -/
def request (s : ReceiptStatement) : SetDeploymentImageRequest :=
  ⟨s.operationId, s.namespace, s.deployment, s.container, s.immutableImageDigest⟩

/-- `ReceiptStatement::apply_outcome`: what the statement keeps of the response. -/
def applyOutcome (s : ReceiptStatement) : ApplyOutcome :=
  ⟨false, s.requestedGeneration, some s.targetUid, some s.targetResourceVersion⟩

/-- `ReceiptStatement::receiver_observation`. -/
def receiverObservation (s : ReceiptStatement) : ReceiverObservation where
  deploymentUid := s.receiverUid
  resourceVersion := s.observedResourceVersion
  currentGeneration := s.currentGeneration
  observedGeneration := s.observedGeneration
  image := s.observedImage
  operationMarker := s.observedOperationMarker
  desiredReplicas := s.desiredReplicas
  updatedReplicas := s.updatedReplicas
  availableReplicas := s.availableReplicas
  unavailableReplicas := s.unavailableReplicas
  rolloutConditionType := s.rolloutConditionType
  rolloutConditionStatus := s.rolloutConditionStatus
  rolloutConditionReason := s.rolloutConditionReason

/-- The facts that are bounded texts, absent ones included. -/
def facts (s : ReceiptStatement) : List (Option Text) :=
  [some s.targetUid, some s.targetResourceVersion, s.receiverUid, s.observedOperationMarker,
    s.observedResourceVersion, s.rolloutConditionType, s.rolloutConditionStatus,
    s.rolloutConditionReason]

/-- An approved target is a valid one and is the one that was attempted. -/
def approvedTargetAgrees (s : ReceiptStatement) : Bool :=
  s.approvedTarget.all fun target => target.isValid && target.uid = s.targetUid &&
    target.resourceVersion = s.targetResourceVersion

/-- `ReceiptStatement::validate`.  Every refusal is the same error. -/
def validate (s : ReceiptStatement) : Except ReceiptError Unit := do
  require (identityIsValid s.operationId) .invalidValue
  require (identityIsValid s.authorizationId) .invalidValue
  require (identityIsValid s.authorizationSignerKeyId) .invalidValue
  require (isLowercaseSha256 s.authorizationGrantDigest) .invalidValue
  require s.approvedTargetAgrees .invalidValue
  require (dnsLabelIsValid s.namespace) .invalidValue
  require (dnsSubdomainIsValid s.deployment) .invalidValue
  require (dnsLabelIsValid s.container) .invalidValue
  require (immutableImageIsValid s.immutableImageDigest) .invalidValue
  require (s.writeStrategy = Gateway.writeStrategy) .invalidValue
  require (s.facts.all fun fact => fact.all factIsValid) .invalidValue
  require (s.observedImage.all immutableImageIsValid) .invalidValue
  s.receiverObservation.validate.mapError fun _ => .invalidValue
  let request ← (ValidatedRequest.tryFrom s.request).mapError fun _ => .invalidValue
  require (s.receiverObservation.classify request s.applyOutcome = s.result) .invalidValue

/-- What a valid statement satisfies. -/
structure Valid (s : ReceiptStatement) : Prop where
  request : s.request.Valid
  authorizationId : identityIsValid s.authorizationId = true
  authorizationSignerKeyId : identityIsValid s.authorizationSignerKeyId = true
  authorizationGrantDigest : isLowercaseSha256 s.authorizationGrantDigest = true
  approvedTarget : s.approvedTargetAgrees = true
  writeStrategy : s.writeStrategy = Gateway.writeStrategy
  facts : ∀ fact ∈ s.facts, fact.all factIsValid = true
  observation : s.receiverObservation.Valid
  result : s.receiverObservation.observationResult s.operationId s.immutableImageDigest
    s.applyOutcome = s.result

theorem validate_eq_ok {s : ReceiptStatement} {u : Unit} : s.validate = .ok u ↔ s.Valid := by
  unfold validate
  simp only [bind_eq_ok, require_eq_ok, mapError_eq_ok, exists_and_left, exists_const,
    List.all_eq_true, decide_eq_true_eq, ReceiverObservation.validate_eq_ok,
    ValidatedRequest.tryFrom_eq_ok]
  constructor
  · rintro ⟨-, h2, h3, h4, h5, -, -, -, -, h10, h11, -, h13, r, hr, h14⟩
    have hresult := h14
    unfold ReceiverObservation.classify at hresult
    rw [hr] at hresult
    exact ⟨hr ▸ r.valid, h2, h3, h4, h5, h10, h11, h13, hresult⟩
  · rintro ⟨hr, h2, h3, h4, h5, h10, h11, h13, hresult⟩
    refine ⟨hr.operationId, h2, h3, h4, h5, hr.namespace, hr.deployment, hr.container,
      hr.immutableImageDigest, h10, h11, h13.image, h13, ⟨s.request, hr⟩, rfl, hresult⟩

/-! ## Bytes -/

/-- The fields in the order of their tags. -/
def fields (s : ReceiptStatement) : List Field :=
  [.text s.operationId, .text s.authorizationId, .text s.authorizationSignerKeyId,
    .text s.authorizationGrantDigest, .text s.namespace, .text s.deployment, .text s.container,
    .text s.immutableImageDigest, .text s.writeStrategy, .text s.targetUid,
    .text s.targetResourceVersion, .optionalText s.receiverUid, .optionalText s.observedImage,
    .optionalText s.observedOperationMarker, .int64 s.currentGeneration,
    .int64 s.requestedGeneration, .int64 s.observedGeneration,
    .optionalText s.observedResourceVersion, .int32 s.desiredReplicas, .int32 s.updatedReplicas,
    .int32 s.availableReplicas, .int32 s.unavailableReplicas, .optionalText s.rolloutConditionType,
    .optionalText s.rolloutConditionStatus, .optionalText s.rolloutConditionReason,
    .raw s.result.asReceiptBytes, .raw nonClaims]

/-- The two fields of an approved target. -/
def approvedFields (s : ReceiptStatement) : List Field :=
  match s.approvedTarget with
  | some approved => [.text approved.uid, .text approved.resourceVersion]
  | none => []

/-- The magic of a statement's version. -/
def magic (s : ReceiptStatement) : Bytes :=
  if s.approvedTarget.isSome then snapshotStatementMagic else statementMagic

/-- `ReceiptStatement::encode`. -/
def encode (s : ReceiptStatement) : Except ReceiptError Bytes := do
  s.validate
  pushFields statementBytesMax s.magic 1 (s.fields ++ s.approvedFields)

/-- The result record. -/
def takeResult (tag : UInt8) : Reader ReceiptError OperationResult := do
  OperationResult.fromReceiptBytes (← take tag)

/-- The approved target of a snapshot statement. -/
def takeApproved (maximumTextBytes : ℕ) (snapshotBound : Bool) :
    Reader ReceiptError (Option ApprovedTarget) :=
  if snapshotBound then do
    let uid ← text maximumTextBytes 28
    let resourceVersion ← text maximumTextBytes 29
    return some ⟨uid, resourceVersion⟩
  else return none

/-- The records of a statement, in order. -/
def takeStatement (maximumTextBytes : ℕ) (snapshotBound : Bool) :
    Reader ReceiptError ReceiptStatement := do
  let operationId ← text maximumTextBytes 1
  let authorizationId ← text maximumTextBytes 2
  let authorizationSignerKeyId ← text maximumTextBytes 3
  let authorizationGrantDigest ← text maximumTextBytes 4
  let ns ← text maximumTextBytes 5
  let deployment ← text maximumTextBytes 6
  let container ← text maximumTextBytes 7
  let immutableImageDigest ← text maximumTextBytes 8
  let writeStrategy ← text maximumTextBytes 9
  let targetUid ← text maximumTextBytes 10
  let targetResourceVersion ← text maximumTextBytes 11
  let receiverUid ← optionalText maximumTextBytes 12
  let observedImage ← optionalText maximumTextBytes 13
  let observedOperationMarker ← optionalText maximumTextBytes 14
  let currentGeneration ← generation 15
  let requestedGeneration ← generation 16
  let observedGeneration ← generation 17
  let observedResourceVersion ← optionalText maximumTextBytes 18
  let desiredReplicas ← replicaCount 19
  let updatedReplicas ← replicaCount 20
  let availableReplicas ← replicaCount 21
  let unavailableReplicas ← replicaCount 22
  let rolloutConditionType ← optionalText maximumTextBytes 23
  let rolloutConditionStatus ← optionalText maximumTextBytes 24
  let rolloutConditionReason ← optionalText maximumTextBytes 25
  let result ← takeResult 26
  let claims ← take 27
  require (claims = nonClaims) ReceiptError.invalidValue
  let approvedTarget ← takeApproved maximumTextBytes snapshotBound
  finish
  return ⟨approvedTarget, operationId, authorizationId, authorizationSignerKeyId,
    authorizationGrantDigest, ns, deployment, container, immutableImageDigest, writeStrategy,
    targetUid, targetResourceVersion, receiverUid, observedImage, observedOperationMarker,
    currentGeneration, requestedGeneration, observedGeneration, observedResourceVersion,
    desiredReplicas, updatedReplicas, availableReplicas, unavailableReplicas,
    rolloutConditionType, rolloutConditionStatus, rolloutConditionReason, result⟩

/-- `ReceiptStatement::parse`. -/
def parse (input : Bytes) (limits : InspectionLimits) : Except ReceiptError ReceiptStatement := do
  limits.validate
  bounded input limits.statementBytesMax
  let snapshotBound := snapshotStatementMagic.isPrefixOf input
  let records ← Cursor.start receiptErrors input
    (if snapshotBound then snapshotStatementMagic else statementMagic)
  let (statement, _) ← takeStatement limits.textBytesMax snapshotBound records
  statement.validate
  return statement

/-! ## Reading back what was encoded -/

/-- The bounds of the fields, in the order of their tags. -/
def fieldBounds : List ℕ :=
  [128, 128, 128, 64, 63, 253, 63, 512, 33, 128, 128, 128, 512, 128, 8, 8, 8, 128, 4, 4, 4, 4,
    128, 128, 128, 9, 97]

section
variable {s : ReceiptStatement}

theorem Valid.fits_fact (h : s.Valid) {fact : Option Text} (hfact : fact ∈ s.facts) :
    ∀ v ∈ fact, Fits 128 v := by
  intro v hv
  have hall := h.facts fact hfact
  rw [Option.mem_def] at hv
  subst hv
  exact fits_of_factIsValid hall

theorem Valid.fits_observedImage (h : s.Valid) : ∀ v ∈ s.observedImage, Fits 512 v := by
  intro v hv
  have hall : s.observedImage.all immutableImageIsValid = true := h.observation.image
  rw [Option.mem_def] at hv
  rw [hv] at hall
  exact fits_of_immutableImageIsValid hall

/-- Every field of a valid statement fits its bound. -/
theorem Valid.bounded_fields (h : s.Valid) :
    List.Forall₂ Field.Bounded s.fields fieldBounds := by
  have hstrategy : Fits 33 s.writeStrategy := by
    rw [h.writeStrategy]
    exact ⟨by decide, by decide, by decide⟩
  have hfact : ∀ {fact}, fact ∈ s.facts → (Field.optionalText fact).Bounded 128 :=
    fun hmem => Field.bounded_optionalText (h.fits_fact hmem) (by decide)
  have htext : ∀ {v}, some v ∈ s.facts → (Field.text v).Bounded 128 := fun hmem => hfact hmem
  have hresult : (Field.raw s.result.asReceiptBytes).Bounded 9 := by
    refine ⟨rfl, ?_⟩
    cases s.result <;> decide
  have hclaims : (Field.raw nonClaims).Bounded 97 := ⟨rfl, by decide⟩
  have hr := h.request
  unfold fields fieldBounds
  refine .cons (Field.bounded_text (fits_of_identityIsValid hr.operationId) (by decide)) ?_
  refine .cons (Field.bounded_text (fits_of_identityIsValid h.authorizationId) (by decide)) ?_
  refine .cons (Field.bounded_text (fits_of_identityIsValid h.authorizationSignerKeyId)
    (by decide)) ?_
  refine .cons (Field.bounded_text (fits_of_isLowercaseSha256 h.authorizationGrantDigest)
    (by decide)) ?_
  refine .cons (Field.bounded_text (fits_of_dnsLabelIsValid hr.namespace) (by decide)) ?_
  refine .cons (Field.bounded_text (fits_of_dnsSubdomainIsValid hr.deployment) (by decide)) ?_
  refine .cons (Field.bounded_text (fits_of_dnsLabelIsValid hr.container) (by decide)) ?_
  refine .cons (Field.bounded_text (fits_of_immutableImageIsValid hr.immutableImageDigest)
    (by decide)) ?_
  refine .cons (Field.bounded_text hstrategy (by decide)) ?_
  refine .cons (htext (by simp [ReceiptStatement.facts])) ?_
  refine .cons (htext (by simp [ReceiptStatement.facts])) ?_
  refine .cons (hfact (by simp [ReceiptStatement.facts])) ?_
  refine .cons (Field.bounded_optionalText h.fits_observedImage (by decide)) ?_
  refine .cons (hfact (by simp [ReceiptStatement.facts])) ?_
  refine .cons (Field.bounded_int64 _) (.cons (Field.bounded_int64 _)
    (.cons (Field.bounded_int64 _) ?_))
  refine .cons (hfact (by simp [ReceiptStatement.facts])) ?_
  refine .cons (Field.bounded_int32 _) (.cons (Field.bounded_int32 _)
    (.cons (Field.bounded_int32 _) (.cons (Field.bounded_int32 _) ?_)))
  refine .cons (hfact (by simp [ReceiptStatement.facts])) ?_
  refine .cons (hfact (by simp [ReceiptStatement.facts])) ?_
  refine .cons (hfact (by simp [ReceiptStatement.facts])) ?_
  exact .cons hresult (.cons hclaims .nil)

theorem Valid.fits_approved (h : s.Valid) {approved : ApprovedTarget}
    (happroved : s.approvedTarget = some approved) :
    Fits 128 approved.uid ∧ Fits 128 approved.resourceVersion := by
  have hagrees := h.approvedTarget
  rw [approvedTargetAgrees, happroved] at hagrees
  simp only [Option.all_some, Bool.and_eq_true, decide_eq_true_eq, ApprovedTarget.isValid,
    List.all_cons, List.all_nil, Bool.and_true] at hagrees
  exact ⟨fits_of_factIsValid hagrees.1.1.1, fits_of_factIsValid hagrees.1.1.2⟩

/-- All fields of a valid statement pass their checks and fit the statement bound. -/
theorem Valid.encodable (h : s.Valid) :
    (∀ field ∈ s.fields ++ s.approvedFields, field.check = .ok ()) ∧
      s.magic.length + encodedLength (s.fields ++ s.approvedFields) ≤ statementBytesMax := by
  have hmagic : s.magic.length = 32 := by
    unfold magic
    split <;> decide
  obtain ⟨bounds, happroved, hsum⟩ : ∃ bounds,
      List.Forall₂ Field.Bounded s.approvedFields bounds ∧
        ((fieldBounds ++ bounds).map (5 + ·)).sum ≤ 8000 := by
    unfold approvedFields
    cases htarget : s.approvedTarget with
    | none => exact ⟨[], .nil, by decide⟩
    | some approved =>
      obtain ⟨huid, hversion⟩ := h.fits_approved htarget
      exact ⟨[128, 128], .cons (Field.bounded_text huid (by decide))
        (.cons (Field.bounded_text hversion (by decide)) .nil), by decide⟩
  have hbounded : List.Forall₂ Field.Bounded (s.fields ++ s.approvedFields)
      (fieldBounds ++ bounds) := List.rel_append h.bounded_fields happroved
  refine ⟨check_of_bounded hbounded, ?_⟩
  have hlength := encodedLength_le_of_bounded hbounded
  have hmax : statementBytesMax = 8192 := rfl
  omega

/-- The bytes of a valid statement. -/
theorem Valid.encode_eq_ok (h : s.Valid) :
    s.encode = .ok (s.magic ++ frames 1 (s.fields ++ s.approvedFields)) ∧
      (s.magic ++ frames 1 (s.fields ++ s.approvedFields)).length ≤ statementBytesMax := by
  obtain ⟨hcheck, hlength⟩ := h.encodable
  have hpush : pushFields statementBytesMax s.magic 1 (s.fields ++ s.approvedFields) =
      .ok (s.magic ++ frames 1 (s.fields ++ s.approvedFields)) :=
    pushFields_eq_ok (by decide) hcheck hlength
  have hne : s.fields ++ s.approvedFields ≠ [] := by simp [fields]
  exact ⟨bind_eq_ok.mpr ⟨(), validate_eq_ok.mpr h, hpush⟩, (eq_of_pushFields hne hpush).2.2⟩

theorem readsAll_takeApproved {α : Type} {f : Option ApprovedTarget → Reader ReceiptError α}
    {a : α} (hcheck : ∀ field ∈ s.approvedFields, field.check = .ok ())
    (hf : ∀ tag, ReadsAll (f s.approvedTarget) tag [] a) :
    ReadsAll (takeApproved textBytesMax s.approvedTarget.isSome >>= f) 28
      (frames 28 s.approvedFields) a := by
  unfold approvedFields at hcheck ⊢
  cases htarget : s.approvedTarget with
  | none =>
    rw [htarget] at hf
    exact (reads_pure none).bindAll (hf _)
  | some approved =>
    rw [htarget] at hf hcheck
    have huid : Reads (text textBytesMax 28) 28 (28 + 1) (frame 28 approved.uid) approved.uid :=
      reads_checkedText (by decide) (hcheck _ (List.mem_cons_self ..))
    have hversion : Reads (text textBytesMax 29) 29 (29 + 1) (frame 29 approved.resourceVersion)
        approved.resourceVersion :=
      reads_checkedText (by decide) (hcheck (.text approved.resourceVersion) (by simp))
    have happroved : Reads (takeApproved textBytesMax true) 28 (29 + 1)
        (frame 28 approved.uid ++ frame 29 approved.resourceVersion) (some approved) := by
      refine huid.bind ?_
      refine hversion.and_then ?_
      exact reads_pure (some approved)
    have hframes : frames 28 [.text approved.uid, .text approved.resourceVersion] =
        frame 28 approved.uid ++ frame 29 approved.resourceVersion := by
      rw [frames_cons, frames_cons, frames_nil, List.append_nil]
      rfl
    rw [hframes]
    exact happroved.bindLast (hf _)

/-- The records of a valid statement are read back. -/
theorem Valid.readsAll_takeStatement (h : s.Valid)
    (hgeneration : s.requestedGeneration.any (· < 0) = false) :
    ReadsAll (takeStatement textBytesMax s.approvedTarget.isSome) 1
      (frames 1 (s.fields ++ s.approvedFields)) s := by
  obtain ⟨hcheck, -⟩ := h.encodable
  have happroved : ∀ field ∈ s.approvedFields, field.check = .ok () :=
    fun field hfield => hcheck field (List.mem_append_right _ hfield)
  have hfield : ∀ field ∈ s.fields, field.check = .ok () :=
    fun field hfield => hcheck field (List.mem_append_left _ hfield)
  simp only [fields, List.forall_mem_cons] at hfield
  obtain ⟨h1, h2, h3, h4, h5, h6, h7, h8, h9, h10, h11, h12, h13, h14, -, -, -, h18, -, -, -, -,
    h23, h24, h25, -⟩ := hfield
  have hcounts := h.observation.countsAreNonnegative
  simp only [ReceiverObservation.countsAreNonnegative, Bool.not_eq_true', Bool.or_eq_false_iff,
    List.any_cons, List.any_nil, Bool.or_false] at hcounts
  obtain ⟨⟨hcurrent, hobserved⟩, hdesired, hupdated, havailable, hunavailable⟩ := hcounts
  refine (reads_checkedText (by decide) h1).bindAll ?_
  refine (reads_checkedText (by decide) h2).bindAll ?_
  refine (reads_checkedText (by decide) h3).bindAll ?_
  refine (reads_checkedText (by decide) h4).bindAll ?_
  refine (reads_checkedText (by decide) h5).bindAll ?_
  refine (reads_checkedText (by decide) h6).bindAll ?_
  refine (reads_checkedText (by decide) h7).bindAll ?_
  refine (reads_checkedText (by decide) h8).bindAll ?_
  refine (reads_checkedText (by decide) h9).bindAll ?_
  refine (reads_checkedText (by decide) h10).bindAll ?_
  refine (reads_checkedText (by decide) h11).bindAll ?_
  refine (reads_optionalText (by decide) h12).bindAll ?_
  refine (reads_optionalText (by decide) h13).bindAll ?_
  refine (reads_optionalText (by decide) h14).bindAll ?_
  refine (reads_generation (by decide) hcurrent).bindAll ?_
  refine (reads_generation (by decide) hgeneration).bindAll ?_
  refine (reads_generation (by decide) hobserved).bindAll ?_
  refine (reads_optionalText (by decide) h18).bindAll ?_
  refine (reads_replicaCount (by decide) hdesired).bindAll ?_
  refine (reads_replicaCount (by decide) hupdated).bindAll ?_
  refine (reads_replicaCount (by decide) havailable).bindAll ?_
  refine (reads_replicaCount (by decide) hunavailable).bindAll ?_
  refine (reads_optionalText (by decide) h23).bindAll ?_
  refine (reads_optionalText (by decide) h24).bindAll ?_
  refine (reads_optionalText (by decide) h25).bindAll ?_
  have hresult : Reads (takeResult 26) 26 (26 + 1) (frame 26 s.result.asReceiptBytes) s.result :=
    (reads_take (by decide) _).and_then
      (reads_lift (OperationResult.fromReceiptBytes_asReceiptBytes _))
  refine hresult.bindAll ?_
  refine (reads_take (by decide) nonClaims).bindAll ?_
  refine ReadsAll.after_check (require_of_true (decide_eq_true rfl)) ?_
  exact readsAll_takeApproved happroved fun _ => readsAll_finish_bind _

/-- **A valid statement is read back as it was.** -/
theorem Valid.parse_encode (h : s.Valid)
    (hgeneration : s.requestedGeneration.any (· < 0) = false) :
    parse (s.magic ++ frames 1 (s.fields ++ s.approvedFields)) .default = .ok s := by
  obtain ⟨-, hlength⟩ := h.encode_eq_ok
  have hsnapshot : snapshotStatementMagic.isPrefixOf
      (s.magic ++ frames 1 (s.fields ++ s.approvedFields)) = s.approvedTarget.isSome :=
    isPrefixOf_version _ _ (by decide) (by decide)
  obtain ⟨c, c', hstart, hread⟩ := (h.readsAll_takeStatement hgeneration).run
    (lt_of_le_of_lt hlength (by decide)) receiptErrors
  refine bind_eq_ok.mpr ⟨(), rfl, bind_eq_ok.mpr ⟨(), require_of_true (decide_eq_true hlength), ?_⟩⟩
  simp only [hsnapshot]
  refine bind_eq_ok.mpr ⟨c, hstart, bind_eq_ok.mpr ⟨(s, c'), hread, ?_⟩⟩
  exact bind_eq_ok.mpr ⟨(), validate_eq_ok.mpr h, rfl⟩

end

end ReceiptStatement

/-! ## Receipts -/

/-- `statement_purpose`. -/
def statementPurpose (statement : Bytes) : Text :=
  if snapshotStatementMagic.isPrefixOf statement then snapshotReceiptPurpose else receiptPurpose

/-- `sign_statement`. -/
def signStatement (C : Crypto) (statement : ReceiptStatement) (seed : Octets 32) (keyId : Text) :
    Except ReceiptError Bytes := do
  validateKeyId keyId
  let statementBytes ← statement.encode
  signEnvelope C statementBytes
    (if statement.approvedTarget.isSome then snapshotReceiptMagic else receiptMagic)
    (statementPurpose statementBytes) seed keyId

/-- The statement of a Kubernetes envelope, of the version that the receipt's magic announces. -/
def parseEnvelopeStatement (limits : InspectionLimits) (snapshotBound : Bool) (bytes : Bytes) :
    Except ReceiptError ReceiptStatement := do
  let statement ← ReceiptStatement.parse bytes limits
  require (statement.approvedTarget.isSome = snapshotBound) .invalidValue
  return statement

/-- `parse_receipt_envelope`. -/
def parseReceiptEnvelope (receipt : Bytes) (limits : InspectionLimits) :
    Except ReceiptError (ReceiptEnvelope ReceiptStatement) :=
  let snapshotBound := snapshotReceiptMagic.isPrefixOf receipt
  parseEnvelope receipt (if snapshotBound then snapshotReceiptMagic else receiptMagic)
    (if snapshotBound then snapshotReceiptPurpose else receiptPurpose) limits
    (parseEnvelopeStatement limits snapshotBound)

/-- `decode_frozen_receipt`. -/
def decodeFrozenReceipt (receipt : Bytes) : Except ReceiptError (Text × ReceiptStatement) := do
  let envelope ← parseReceiptEnvelope receipt .default
  return (envelope.keyId, envelope.statement)

/-- `InspectionReport`. -/
structure InspectionReport where
  status : InspectionStatus
  statement : Option ReceiptStatement
  deriving DecidableEq

/-- `inspect_inner`. -/
def inspectInner (C : Crypto) (receipt trust : Bytes) (time : Int64) (limits : InspectionLimits) :
    Except ReceiptError ReceiptStatement := do
  let envelope ← parseReceiptEnvelope receipt limits
  let parsedTrust ← parseTrust trust limits
  let status ← envelope.authenticate C parsedTrust time
  if status = .untrustedSigner then throw (.untrustedSigner envelope.statement)
  return envelope.statement

/-- `inspect_receipt`. -/
def inspectReceipt (C : Crypto) (receipt trust : Bytes) (time : Int64)
    (limits : InspectionLimits) : InspectionReport :=
  match inspectInner C receipt trust time limits with
  | .ok statement => ⟨.inspected, some statement⟩
  | .error .badSignature => ⟨.signatureRejected, none⟩
  | .error (.untrustedSigner statement) => ⟨.untrustedSigner, some statement⟩
  | .error _ => ⟨.structureRejected, none⟩

/-- The purpose under which a statement is signed. -/
def ReceiptStatement.purpose (s : ReceiptStatement) : Text :=
  if s.approvedTarget.isSome then snapshotReceiptPurpose else receiptPurpose

section
variable {C : Crypto} {s : ReceiptStatement}

/-- **A valid statement is signed within the receipt bound and read back from the
receipt.** -/
theorem ReceiptStatement.Valid.parseReceiptEnvelope_signStatement (h : s.Valid)
    (hgeneration : s.requestedGeneration.any (· < 0) = false) (seed : Octets 32) {keyId : Text}
    (hkey : identityIsValid keyId = true) :
    ∃ statementBytes receipt, s.encode = .ok statementBytes ∧
      statementBytes.length ≤ statementBytesMax ∧
      signStatement C s seed keyId = .ok receipt ∧ receipt.length ≤ receiptBytesMax ∧
      parseReceiptEnvelope receipt .default = .ok ⟨s.purpose, keyId, statementBytes, s,
        C.sign seed (Receipt.signatureInput s.purpose statementBytes)⟩ := by
  obtain ⟨hencode, hlength⟩ := h.encode_eq_ok
  set statementBytes := s.magic ++ frames 1 (s.fields ++ s.approvedFields) with hbytes
  have hpurpose : statementPurpose statementBytes = s.purpose := by
    have hversion : snapshotStatementMagic.isPrefixOf statementBytes = s.approvedTarget.isSome :=
      isPrefixOf_version _ _ (by decide) (by decide)
    rw [statementPurpose, hversion, ReceiptStatement.purpose]
  let snapshotBound := s.approvedTarget.isSome
  let magic := if snapshotBound then snapshotReceiptMagic else receiptMagic
  have hmagic : magic.length ≤ 64 := by
    cases hb : snapshotBound <;> simp only [magic, hb] <;> decide
  have hvalidPurpose : receiptTextIsValid s.purpose = true := by
    unfold ReceiptStatement.purpose
    split <;> decide
  have hparse : parseEnvelopeStatement .default snapshotBound statementBytes = .ok s :=
    bind_eq_ok.mpr ⟨s, h.parse_encode hgeneration,
      bind_eq_ok.mpr ⟨(), require_of_true (decide_eq_true rfl), rfl⟩⟩
  obtain ⟨body, hsign, hreceipt, henvelope⟩ := parseEnvelope_signEnvelope C seed hvalidPurpose
    hkey hmagic hlength hparse
  refine ⟨statementBytes, magic ++ body, hencode, hlength, ?_, hreceipt, ?_⟩
  · refine bind_eq_ok.mpr ⟨(), require_of_true hkey, bind_eq_ok.mpr ⟨_, hencode, ?_⟩⟩
    rw [hpurpose]
    exact hsign
  · have hversion : snapshotReceiptMagic.isPrefixOf (magic ++ body) = snapshotBound :=
      isPrefixOf_version _ _ (by decide) (by decide)
    unfold parseReceiptEnvelope
    simp only [hversion]
    exact henvelope

/-- The receipt decodes to its key and its statement. -/
theorem decodeFrozenReceipt_of_parse {receipt : Bytes} {envelope : ReceiptEnvelope ReceiptStatement}
    (h : parseReceiptEnvelope receipt .default = .ok envelope) :
    decodeFrozenReceipt receipt = .ok (envelope.keyId, envelope.statement) :=
  bind_eq_ok.mpr ⟨envelope, h, rfl⟩

/-- **A signed receipt is inspected** under the trust document of its seed, its purpose and
an interval around the evaluation time. -/
theorem inspectReceipt_signed (hC : C.Correct) {receipt statementBytes trust : Bytes}
    {purpose keyId : Text} {seed : Octets 32} {notBefore notAfter time : Int64}
    (hparse : parseReceiptEnvelope receipt .default = .ok ⟨purpose, keyId, statementBytes, s,
      C.sign seed (Receipt.signatureInput purpose statementBytes)⟩)
    (htrust : encodeReceiptTrust (trustOf C seed keyId purpose notBefore notAfter) = .ok trust)
    (hbefore : notBefore ≤ time) (hafter : time < notAfter) :
    inspectReceipt C receipt trust time .default = ⟨.inspected, some s⟩ := by
  have hparsed : parseTrust trust .default = .ok (trustOf C seed keyId purpose notBefore notAfter) := by
    refine bind_eq_ok.mpr ⟨(), rfl, ?_⟩
    exact mapError_eq_ok.mpr (parseReceiptTrust_encode htrust)
  have hinner : inspectInner C receipt trust time .default = .ok s := by
    refine bind_eq_ok.mpr ⟨_, hparse, bind_eq_ok.mpr ⟨_, hparsed, bind_eq_ok.mpr
      ⟨.inspected, authenticate_signed hC seed hbefore hafter, ?_⟩⟩⟩
    rfl
  unfold inspectReceipt
  rw [hinner]

end

end Gateway
end Kapsel
