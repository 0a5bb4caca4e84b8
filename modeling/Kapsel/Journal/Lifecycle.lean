import Kapsel.Journal.Operation

/-!
# Reading and writing Kubernetes rows

The lifecycle functions of `Journal` in `src/gateway/journal/mod.rs`, as far as they are
functions of one snapshot of the database: what a read returns, and which record each
writer builds from the record it read.  The reads and the writes themselves are exchanges
with the storage, in `Kapsel.Gateway.Storage`.
-/

namespace Kapsel

open Grammar Fallible Authority

namespace Gateway

/-- `DispatchPermission`: constructed only after a fresh attempt was confirmed. -/
structure DispatchPermission where
  request : ValidatedRequest
  target : ValidatedTargetIdentity
  deriving DecidableEq

/-- `DispatchPermission::into_payload`. -/
def DispatchPermission.intoPayload (permission : DispatchPermission) :
    SetDeploymentImageRequest × TargetIdentity :=
  (permission.request.toAdapterRequest, permission.target.toAdapterTarget)

namespace Journal

/-! ## Records that the writers build -/

section
variable {C : Crypto}

/-- `Journal::insert_requested`. -/
def requestedRecord (authorized : AuthorizedRequest C) : Record .kubernetes :=
  let request := authorized.request.request
  let authority := authorized.authorization
  let approved := authority.authorization.approvedTarget
  (Record.empty request.operationId)
    |>.setText .namespace request.namespace
    |>.setText .deployment request.deployment
    |>.setText .container request.container
    |>.setText .immutableImageDigest request.immutableImageDigest
    |>.setText .state OperationState.requested.asSql
    |>.setText .authorizationId authority.authorization.authorizationId
    |>.setText .authorizationSignerKeyId authority.signerKeyId
    |>.setText .authorizationGrantDigest authority.grantDigest
    |>.setBlob .signedAuthorizationGrant authority.signedGrant
    |>.setOptionalText .approvedUid (approved.map (·.uid))
    |>.setOptionalText .approvedResourceVersion (approved.map (·.resourceVersion))

/-- `Journal::mark_authorized`. -/
def authorizedRecord (expected : Record .kubernetes) (authorized : AuthorizedRequest C) :
    Record .kubernetes :=
  let authority := authorized.authorization
  expected
    |>.setText .state OperationState.authorized.asSql
    |>.setText .authorizationId authority.authorization.authorizationId
    |>.setText .authorizationSignerKeyId authority.signerKeyId
    |>.setText .authorizationGrantDigest authority.grantDigest

end

/-- `Journal::mark_not_attempted`. -/
def notAttemptedRecord (expected : Record .kubernetes) (rejection : TargetRejection) :
    Record .kubernetes :=
  expected
    |>.setText .state OperationState.notAttempted.asSql
    |>.setText .targetRejection rejection.asSql

/-- `Journal::mark_stale_approval`. -/
def staleApprovalRecord (expected : Record .kubernetes) (observed : ValidatedTargetIdentity) :
    Record .kubernetes :=
  expected
    |>.setText .state (utf8 "not_attempted")
    |>.setText .targetRejection (utf8 "stale_approval")
    |>.setText .preflightUid observed.deploymentUid
    |>.setText .preflightResourceVersion observed.resourceVersion

/-- `Journal::mark_apply_started`. -/
def applyStartedRecord (expected : Record .kubernetes) (target : ValidatedTargetIdentity) :
    Record .kubernetes :=
  expected
    |>.setText .state OperationState.applyStarted.asSql
    |>.setText .writeStrategy writeStrategy
    |>.setInteger .applyAttempted 1
    |>.setText .targetUid target.deploymentUid
    |>.setText .preflightUid target.deploymentUid
    |>.setText .targetResourceVersion target.resourceVersion
    |>.setText .preflightResourceVersion target.resourceVersion

/-- `Journal::record_apply_outcome`. -/
def applyOutcomeRecord (expected : Record .kubernetes) (outcome : ApplyOutcome) :
    Record .kubernetes :=
  expected
    |>.setInteger .applyAccepted (sqlBool outcome.accepted)
    |>.setOptionalInteger .requestedGeneration outcome.requestedGeneration
    |>.setOptionalText .applyResourceVersion outcome.resourceVersion

/-- `Journal::freeze_observation`. -/
def observationRecord (expected : Record .kubernetes) (operation : ApplyStartedOperation)
    (observation : ReceiverObservation) : Record .kubernetes :=
  let request := operation.request
  let outcome := operation.classificationOutcome
  expected
    |>.setText .state OperationState.receiverObserved.asSql
    |>.setOptionalText .receiverUid observation.deploymentUid
    |>.setOptionalText .receiverImage observation.image
    |>.setOptionalText .receiverOperationMarker observation.operationMarker
    |>.setOptionalInteger .currentGeneration observation.currentGeneration
    |>.setOptionalInteger .observedGeneration observation.observedGeneration
    |>.setOptionalText .receiverResourceVersion observation.resourceVersion
    |>.setOptionalInteger .desiredReplicas (observation.desiredReplicas.map Int32.toInt64)
    |>.setOptionalInteger .updatedReplicas (observation.updatedReplicas.map Int32.toInt64)
    |>.setOptionalInteger .availableReplicas (observation.availableReplicas.map Int32.toInt64)
    |>.setOptionalInteger .unavailableReplicas (observation.unavailableReplicas.map Int32.toInt64)
    |>.setText .result (observation.classify request outcome).asSql
    |>.setOptionalInteger .requestedGeneration (observation.requestedGeneration request outcome)
    |>.setOptionalText .rolloutConditionType observation.rolloutConditionType
    |>.setOptionalText .rolloutConditionStatus observation.rolloutConditionStatus
    |>.setOptionalText .rolloutConditionReason observation.rolloutConditionReason

/-- `Journal::commit_receipt`. -/
def receiptRecord (expected : Record .kubernetes) (receipt : FrozenReceipt) : Record .kubernetes :=
  expected
    |>.setText .state OperationState.finalized.asSql
    |>.setText .receiptDigest receipt.digest
    |>.setBlob .receiptBytes receipt.bytes
    |>.setText .receiptKeyId receipt.keyId

/-! ## What the writers check -/

/-- The checks of `record_apply_outcome` on the record it is about to replace. -/
def checkOutcome (expected : Record .kubernetes) (outcome : ApplyOutcome) :
    Except GatewayError Unit := do
  let targetUid ← expected.getOptionalText .targetUid
  require (targetUid.isSome && outcome.deploymentUid = targetUid && outcome.resourceVersion.isSome)
    .invalidKubernetesFact

/-- The checks of `commit_receipt` on the receipt. -/
def checkReceipt (C : Crypto) (operation : ReceiverObservedOperation) (receipt : FrozenReceipt) :
    Except GatewayError Unit := do
  let (keyId, statement) ← (decodeFrozenReceipt receipt.bytes).mapError .receipt
  require (statement = operation.statement && keyId = receipt.keyId &&
    digestHex C receipt.bytes = receipt.digest) .invalidPersistedState

/-! ## Reads -/

section
variable (C : Crypto) (db : Database)

/-- `Journal::operation`. -/
def operation (id : Text) : Except GatewayError (Option LoadedOperation) := do
  match ← readTable db id .kubernetes with
  | none => return none
  | some record => return some (← decode C record)

/-- `Journal::bound_record`. -/
def boundRecord (id : Text) (operation : LoadedOperation) :
    Except GatewayError (Record .kubernetes) := do
  match ← readTable db id .kubernetes with
  | none => .error .invalidTransition
  | some record =>
      let decoded ← decode C record
      require (decoded = operation) .invalidTransition
      return record

/-- The authorization columns of a row are those of the grant. -/
def authorizationColumnsAgree (authority : VerifiedAuthorization C)
    (authorizationId authorizationSignerKeyId authorizationGrantDigest : Option Text) : Bool :=
  authorizationId = some authority.authorization.authorizationId &&
    authorizationSignerKeyId = some authority.signerKeyId &&
    authorizationGrantDigest = some authority.grantDigest

/-- The binding checks of `authorized_record_on`, up to the second read. -/
def checkBinding (authorized : AuthorizedRequest C) (record : Record .kubernetes) :
    Except GatewayError OperationState := do
  let request := authorized.request.request
  let authority := authorized.authorization
  let ns ← record.getText .namespace
  let deployment ← record.getText .deployment
  let container ← record.getText .container
  let image ← record.getText .immutableImageDigest
  let authorizationId ← record.getOptionalText .authorizationId
  let authorizationSignerKeyId ← record.getOptionalText .authorizationSignerKeyId
  let authorizationGrantDigest ← record.getOptionalText .authorizationGrantDigest
  let stateWord ← record.getText .state
  let signedGrant ← present (← record.getOptionalBlob .signedAuthorizationGrant)
  require (signedGrant = authority.signedGrant && ns = request.namespace &&
    deployment = request.deployment && container = request.container &&
    image = request.immutableImageDigest) .operationIdentityConflict
  let state ← OperationState.fromSql stateWord
  require (!(state = .requested && authorizationId.isNone &&
    authority.authorization.approvedTarget.isSome)) .operationIdentityConflict
  require (!((state ≠ .requested || authorizationId.isSome) &&
    !authorizationColumnsAgree C authority authorizationId authorizationSignerKeyId
      authorizationGrantDigest)) .operationIdentityConflict
  return state

/-- `authorized_record_on`: the two reads of the row see one snapshot. -/
def authorizedRecordOn (authorized : AuthorizedRequest C) :
    Except GatewayError (Option LoadedOperation) := do
  let id := authorized.request.operationId
  match ← readTable db id .kubernetes with
  | none =>
      require (stored db .git id).isNone .operationIdentityConflict
      return none
  | some record =>
      let state ← checkBinding C authorized record
      let loaded ← decode C record
      require (loaded.requestFacts.approvedTarget =
        authorized.authorization.authorization.approvedTarget) .operationIdentityConflict
      require (loaded.state = state) .invalidPersistedState
      return some loaded

/-- `RetainedOperation`. -/
structure RetainedOperation where
  request : SetDeploymentImageRequest
  signedGrant : Bytes
  operation : LoadedOperation

/-- `Journal::retained_operation`. -/
def retainedOperation (id : Text) (authorize : Bytes → Except GatewayError (AuthorizedRequest C)) :
    Except GatewayError (Option RetainedOperation) := do
  match ← readTable db id .kubernetes with
  | none => return none
  | some record =>
      let bytes ← record.getBlob .signedAuthorizationGrant
      require (!(bytes.isEmpty || 4096 < bytes.length)) .invalidPersistedState
      let authorized ← authorize bytes
      match ← authorizedRecordOn C db authorized with
      | none => .error .invalidPersistedState
      | some operation =>
          return some ⟨authorized.request.toAdapterRequest, bytes, operation⟩

end

/-! ## What a read establishes -/

section
variable {C : Crypto} {db : Database} {id : Text}

theorem boundRecord_eq_ok {loaded : LoadedOperation} {r : Record .kubernetes}
    (h : boundRecord C db id loaded = .ok r) :
    stored db .kubernetes id = some r ∧ decode C r = .ok loaded := by
  unfold boundRecord at h
  obtain ⟨record, hread, h⟩ := bind_eq_ok.mp h
  cases record with
  | none => cases h
  | some r' =>
    obtain ⟨decoded, hdecode, h⟩ := bind_eq_ok.mp h
    obtain ⟨_, hsame, h⟩ := bind_eq_ok.mp h
    obtain rfl := Except.ok.inj h
    obtain rfl := of_decide_eq_true (require_eq_ok.mp hsame)
    exact ⟨readTable_eq_ok hread, hdecode⟩

theorem checkBinding_eq_ok {authorized : AuthorizedRequest C} {r : Record .kubernetes}
    {state : OperationState} (h : checkBinding C authorized r = .ok state) :
    r.value .signedAuthorizationGrant = .blob authorized.authorization.signedGrant := by
  unfold checkBinding at h
  iterate 8 obtain ⟨_, -, h⟩ := bind_eq_ok.mp h
  obtain ⟨optional, hoptional, h⟩ := bind_eq_ok.mp h
  obtain ⟨grant, hgrant, h⟩ := bind_eq_ok.mp h
  obtain ⟨_, hsame, -⟩ := bind_eq_ok.mp h
  simp only [require_eq_ok, Bool.and_eq_true, decide_eq_true_eq] at hsame
  obtain ⟨⟨⟨⟨rfl, -⟩, -⟩, -⟩, -⟩ := hsame
  unfold Record.getOptionalBlob at hoptional
  cases hvalue : r.value .signedAuthorizationGrant with
  | blob v =>
    rw [hvalue] at hoptional
    obtain rfl := Except.ok.inj hoptional
    rw [← Except.ok.inj hgrant]
  | null =>
    rw [hvalue] at hoptional
    obtain rfl := Except.ok.inj hoptional
    cases hgrant
  | text v =>
    rw [hvalue] at hoptional
    cases hoptional
  | integer v =>
    rw [hvalue] at hoptional
    cases hoptional

/-- **An authenticated read** found the row of the request, with the grant's own bytes. -/
theorem authorizedRecordOn_eq_ok {authorized : AuthorizedRequest C} {loaded : LoadedOperation}
    (h : authorizedRecordOn C db authorized = .ok (some loaded)) :
    ∃ r, stored db .kubernetes authorized.request.operationId = some r ∧
      decode C r = .ok loaded ∧
      r.value .signedAuthorizationGrant = .blob authorized.authorization.signedGrant := by
  unfold authorizedRecordOn at h
  obtain ⟨record, hread, h⟩ := bind_eq_ok.mp h
  cases record with
  | none =>
    obtain ⟨_, -, h⟩ := bind_eq_ok.mp h
    cases h
  | some r =>
    obtain ⟨state, hbinding, h⟩ := bind_eq_ok.mp h
    obtain ⟨loaded', hdecode, h⟩ := bind_eq_ok.mp h
    obtain ⟨_, -, h⟩ := bind_eq_ok.mp h
    obtain ⟨_, -, h⟩ := bind_eq_ok.mp h
    obtain rfl := Option.some.inj (Except.ok.inj h)
    exact ⟨r, readTable_eq_ok hread, hdecode, checkBinding_eq_ok hbinding⟩

end

end Journal
end Gateway
end Kapsel
