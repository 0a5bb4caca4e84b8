import Kapsel.Journal.Records
import Kapsel.Receipt.Statement

/-!
# Loaded operations and the hostile-row decoder

The lifecycle snapshots of `src/gateway/journal/mod.rs`, and the decoder that produces them
from a row: `records::decode`, `SnapshotRow::into_operation`, `ReceiptRow::into_statement`
and the validations they call, with the checks in the order of the source.

The decoder trusts nothing.  It accepts a row only in a combination of columns that a
lifecycle writer could have left, and it recomputes what can be recomputed: the result of
an observation and the digest of a receipt.
-/

namespace Kapsel

open Grammar Fallible Authority

namespace Gateway

/-- `FrozenReceipt`. -/
structure FrozenReceipt where
  operationId : Text
  bytes : Bytes
  digest : Text
  keyId : Text
  deriving DecidableEq

/-! ## Words of the columns -/

/-- `OperationState::as_sql`. -/
def OperationState.asSql : OperationState → Text
  | .requested => utf8 "requested"
  | .authorized => utf8 "authorized"
  | .notAttempted => utf8 "not_attempted"
  | .applyStarted => utf8 "apply_started"
  | .receiverObserved => utf8 "receiver_observed"
  | .finalized => utf8 "finalized"

/-- `OperationState::from_sql`. -/
def OperationState.fromSql (value : Text) : Except GatewayError OperationState :=
  if value = utf8 "requested" then .ok .requested
  else if value = utf8 "authorized" then .ok .authorized
  else if value = utf8 "not_attempted" then .ok .notAttempted
  else if value = utf8 "apply_started" then .ok .applyStarted
  else if value = utf8 "receiver_observed" then .ok .receiverObserved
  else if value = utf8 "finalized" then .ok .finalized
  else .error .invalidPersistedState

/-- `TargetRejection::as_sql`. -/
def TargetRejection.asSql : TargetRejection → Text
  | .deploymentNotFound => utf8 "deployment_not_found"
  | .containerNotFound => utf8 "container_not_found"
  | .invalidTarget => utf8 "invalid_target"
  | .staleApproval => utf8 "stale_approval"
  | .gitStaleRef => utf8 "git_stale_ref"
  | .gitInvalidObjects => utf8 "git_invalid_objects"

/-- `TargetRejection::from_sql`: the Git rejections are not words of a Kubernetes row. -/
def TargetRejection.fromSql (value : Text) : Except GatewayError TargetRejection :=
  if value = utf8 "deployment_not_found" then .ok .deploymentNotFound
  else if value = utf8 "container_not_found" then .ok .containerNotFound
  else if value = utf8 "invalid_target" then .ok .invalidTarget
  else if value = utf8 "stale_approval" then .ok .staleApproval
  else .error .invalidPersistedState

/-- `OperationResult::as_sql`. -/
def OperationResult.asSql : OperationResult → Text
  | .succeeded => utf8 "SUCCEEDED"
  | .failed => utf8 "FAILED"
  | .unknown => utf8 "UNKNOWN"

/-- `OperationResult::from_sql`. -/
def OperationResult.fromSql (value : Text) : Except GatewayError OperationResult :=
  if value = utf8 "SUCCEEDED" then .ok .succeeded
  else if value = utf8 "FAILED" then .ok .failed
  else if value = utf8 "UNKNOWN" then .ok .unknown
  else .error .invalidPersistedState

theorem OperationState.fromSql_asSql (s : OperationState) :
    OperationState.fromSql s.asSql = .ok s := by
  cases s <;> decide

theorem OperationState.asSql_of_fromSql {value : Text} {s : OperationState}
    (h : OperationState.fromSql value = .ok s) : value = s.asSql := by
  unfold OperationState.fromSql at h
  split_ifs at h <;> cases h <;> assumption

theorem OperationResult.fromSql_asSql (r : OperationResult) :
    OperationResult.fromSql r.asSql = .ok r := by
  cases r <;> decide

/-- `decode_sql_bool`. -/
def decodeSqlBool (value : Int64) : Except GatewayError Bool :=
  if value = 0 then .ok false
  else if value = 1 then .ok true
  else .error .invalidPersistedState

/-- `i64::from` of a truth value. -/
def sqlBool (value : Bool) : Int64 := if value then 1 else 0

theorem decodeSqlBool_sqlBool (value : Bool) : decodeSqlBool (sqlBool value) = .ok value := by
  cases value <;> decide

namespace Journal

/-! ## Snapshots of the lifecycle -/

/-- `RequestFacts`. -/
structure RequestFacts where
  approvedTarget : Option ApprovedTarget
  preflightTarget : Option ApprovedTarget
  request : ValidatedRequest
  deriving DecidableEq

/-- `Sha256Digest`. -/
structure Sha256Digest where
  digest : Text
  valid : isLowercaseSha256 digest = true
  deriving DecidableEq

/-- `Sha256Digest::try_from`. -/
def Sha256Digest.tryFrom (value : Text) : Except GatewayError Sha256Digest :=
  if h : isLowercaseSha256 value = true then .ok ⟨value, h⟩ else .error .invalidPersistedState

/-- `AuthorizationFacts`. -/
structure AuthorizationFacts where
  authorizationId : Text
  signerKeyId : Text
  grantDigest : Sha256Digest
  deriving DecidableEq

/-- `ApplyResponseFacts`. -/
structure ApplyResponseFacts where
  accepted : Bool
  requestedGeneration : Option Int64
  resourceVersion : Text
  deriving DecidableEq

/-- `AttemptFacts`. -/
structure AttemptFacts where
  target : ValidatedTargetIdentity
  response : Option ApplyResponseFacts
  deriving DecidableEq

/-- `RequestedOperation`. -/
structure RequestedOperation where
  request : RequestFacts
  deriving DecidableEq

/-- `AuthorizedOperation`. -/
structure AuthorizedOperation where
  request : RequestFacts
  authorization : AuthorizationFacts
  deriving DecidableEq

/-- `NotAttemptedOperation`. -/
structure NotAttemptedOperation where
  authorized : AuthorizedOperation
  rejection : TargetRejection
  deriving DecidableEq

/-- `ApplyStartedOperation`. -/
structure ApplyStartedOperation where
  authorized : AuthorizedOperation
  attempt : AttemptFacts
  deriving DecidableEq

/-- `ReceiverObservedOperation`, with the statement of its `ReceiverFacts`. -/
structure ReceiverObservedOperation where
  applyStarted : ApplyStartedOperation
  statement : ReceiptStatement
  deriving DecidableEq

/-- `FinalizedOperation`. -/
structure FinalizedOperation where
  receiverObserved : ReceiverObservedOperation
  receipt : FrozenReceipt
  deriving DecidableEq

/-- `LoadedOperation`. -/
inductive LoadedOperation where
  | requested (operation : RequestedOperation)
  | authorized (operation : AuthorizedOperation)
  | notAttempted (operation : NotAttemptedOperation)
  | applyStarted (operation : ApplyStartedOperation)
  | receiverObserved (operation : ReceiverObservedOperation)
  | finalized (operation : FinalizedOperation)
  deriving DecidableEq

/-- `LoadedOperation::state`. -/
def LoadedOperation.state : LoadedOperation → OperationState
  | .requested _ => .requested
  | .authorized _ => .authorized
  | .notAttempted _ => .notAttempted
  | .applyStarted _ => .applyStarted
  | .receiverObserved _ => .receiverObserved
  | .finalized _ => .finalized

/-- `LoadedOperation::request_facts`. -/
def LoadedOperation.requestFacts : LoadedOperation → RequestFacts
  | .requested operation => operation.request
  | .authorized operation => operation.request
  | .notAttempted operation => operation.authorized.request
  | .applyStarted operation => operation.authorized.request
  | .receiverObserved operation => operation.applyStarted.authorized.request
  | .finalized operation => operation.receiverObserved.applyStarted.authorized.request

/-- The attempt of an operation that was attempted. -/
def LoadedOperation.attempt : LoadedOperation → Option AttemptFacts
  | .applyStarted operation => some operation.attempt
  | .receiverObserved operation => some operation.applyStarted.attempt
  | .finalized operation => some operation.receiverObserved.applyStarted.attempt
  | _ => none

/-- The statement of an operation that was observed. -/
def LoadedOperation.statement : LoadedOperation → Option ReceiptStatement
  | .receiverObserved operation => some operation.statement
  | .finalized operation => some operation.receiverObserved.statement
  | _ => none

/-- `LoadedOperation::result`. -/
def LoadedOperation.result (operation : LoadedOperation) : Option OperationResult :=
  operation.statement.map (·.result)

/-- `LoadedOperation::target_rejection`. -/
def LoadedOperation.targetRejection : LoadedOperation → Option TargetRejection
  | .notAttempted operation => some operation.rejection
  | _ => none

def AuthorizedOperation.approvedTarget (operation : AuthorizedOperation) : Option ApprovedTarget :=
  operation.request.approvedTarget

def ApplyStartedOperation.request (operation : ApplyStartedOperation) : ValidatedRequest :=
  operation.authorized.request.request

/-- `ApplyStartedOperation::classification_outcome`. -/
def ApplyStartedOperation.classificationOutcome (operation : ApplyStartedOperation) :
    ApplyOutcome where
  accepted := operation.attempt.response.any (·.accepted)
  requestedGeneration := operation.attempt.response.bind (·.requestedGeneration)
  deploymentUid := some operation.attempt.target.deploymentUid
  resourceVersion :=
    some (match operation.attempt.response with
      | none => operation.attempt.target.resourceVersion
      | some response => response.resourceVersion)

def ReceiverObservedOperation.operationId (operation : ReceiverObservedOperation) : Text :=
  operation.applyStarted.request.operationId

/-! ## Rows as the decoder reads them -/

/-- `SnapshotRow`. -/
structure SnapshotRow where
  approvedUid : Option Text
  approvedResourceVersion : Option Text
  preflightUid : Option Text
  preflightResourceVersion : Option Text
  operationId : Text
  «namespace» : Text
  deployment : Text
  container : Text
  immutableImageDigest : Text
  state : Text
  result : Option Text
  targetRejection : Option Text
  authorizationId : Option Text
  authorizationSignerKeyId : Option Text
  authorizationGrantDigest : Option Text
  writeStrategy : Option Text
  applyAttempted : Int64
  targetUid : Option Text
  targetResourceVersion : Option Text
  applyAccepted : Option Int64
  requestedGeneration : Option Int64
  applyResourceVersion : Option Text
  receiverFactsPresent : Bool
  receiptDigest : Option Text
  receiptBytes : Option Bytes
  receiptKeyId : Option Text

/-- The columns of receiver facts. -/
def receiverFactColumns : List Column :=
  [.receiverUid, .receiverImage, .receiverOperationMarker, .currentGeneration,
    .observedGeneration, .receiverResourceVersion, .desiredReplicas, .updatedReplicas,
    .availableReplicas, .unavailableReplicas, .rolloutConditionType, .rolloutConditionStatus,
    .rolloutConditionReason]

/-- The snapshot that `records::decode` takes from a record. -/
def snapshotRow (r : Record .kubernetes) : Except GatewayError SnapshotRow := do
  return {
    approvedUid := ← r.getOptionalText .approvedUid
    approvedResourceVersion := ← r.getOptionalText .approvedResourceVersion
    preflightUid := ← r.getOptionalText .preflightUid
    preflightResourceVersion := ← r.getOptionalText .preflightResourceVersion
    operationId := ← r.getText .operationId
    «namespace» := ← r.getText .namespace
    deployment := ← r.getText .deployment
    container := ← r.getText .container
    immutableImageDigest := ← r.getText .immutableImageDigest
    state := ← r.getText .state
    result := ← r.getOptionalText .result
    targetRejection := ← r.getOptionalText .targetRejection
    authorizationId := ← r.getOptionalText .authorizationId
    authorizationSignerKeyId := ← r.getOptionalText .authorizationSignerKeyId
    authorizationGrantDigest := ← r.getOptionalText .authorizationGrantDigest
    writeStrategy := ← r.getOptionalText .writeStrategy
    applyAttempted := ← r.getInteger .applyAttempted
    targetUid := ← r.getOptionalText .targetUid
    targetResourceVersion := ← r.getOptionalText .targetResourceVersion
    applyAccepted := ← r.getOptionalInteger .applyAccepted
    requestedGeneration := ← r.getOptionalInteger .requestedGeneration
    applyResourceVersion := ← r.getOptionalText .applyResourceVersion
    receiverFactsPresent := receiverFactColumns.any r.hasValue
    receiptDigest := ← r.getOptionalText .receiptDigest
    receiptBytes := ← r.getOptionalBlob .receiptBytes
    receiptKeyId := ← r.getOptionalText .receiptKeyId }

/-- `snapshot_target`. -/
def snapshotTarget : Option Text → Option Text → Except GatewayError (Option ApprovedTarget)
  | none, none => .ok none
  | some uid, some resourceVersion =>
      if (⟨uid, resourceVersion⟩ : ApprovedTarget).isValid then .ok (some ⟨uid, resourceVersion⟩)
      else .error .invalidPersistedState
  | _, _ => .error .invalidPersistedState

/-- A field that a frozen row must have. -/
def present {α : Type} : Option α → Except GatewayError α
  | some value => .ok value
  | none => .error .invalidPersistedState

/-- `ReceiptRow::into_statement`, with the reads that make up its row. -/
def receiptStatement (r : Record .kubernetes) : Except GatewayError ReceiptStatement := do
  let statement : ReceiptStatement := {
    approvedTarget :=
      ← snapshotTarget (← r.getOptionalText .approvedUid) (← r.getOptionalText .approvedResourceVersion)
    operationId := ← r.getText .operationId
    authorizationId := ← present (← r.getOptionalText .authorizationId)
    authorizationSignerKeyId := ← present (← r.getOptionalText .authorizationSignerKeyId)
    authorizationGrantDigest := ← present (← r.getOptionalText .authorizationGrantDigest)
    «namespace» := ← r.getText .namespace
    deployment := ← r.getText .deployment
    container := ← r.getText .container
    immutableImageDigest := ← r.getText .immutableImageDigest
    writeStrategy := ← present (← r.getOptionalText .writeStrategy)
    targetUid := ← present (← r.getOptionalText .targetUid)
    targetResourceVersion := ← present (← r.getOptionalText .targetResourceVersion)
    receiverUid := ← r.getOptionalText .receiverUid
    observedImage := ← r.getOptionalText .receiverImage
    observedOperationMarker := ← r.getOptionalText .receiverOperationMarker
    currentGeneration := ← r.getOptionalInteger .currentGeneration
    requestedGeneration := ← r.getOptionalInteger .requestedGeneration
    observedGeneration := ← r.getOptionalInteger .observedGeneration
    observedResourceVersion := ← r.getOptionalText .receiverResourceVersion
    desiredReplicas := ← r.getOptionalInt32 .desiredReplicas
    updatedReplicas := ← r.getOptionalInt32 .updatedReplicas
    availableReplicas := ← r.getOptionalInt32 .availableReplicas
    unavailableReplicas := ← r.getOptionalInt32 .unavailableReplicas
    rolloutConditionType := ← r.getOptionalText .rolloutConditionType
    rolloutConditionStatus := ← r.getOptionalText .rolloutConditionStatus
    rolloutConditionReason := ← r.getOptionalText .rolloutConditionReason
    result := ← OperationResult.fromSql (← r.getText .result) }
  statement.validate.mapError fun _ => .invalidPersistedState
  return statement

/-! ## Validation of the column groups -/

/-- `validate_snapshot_authorization`. -/
def validateSnapshotAuthorization : Option Text → Option Text → Option Text →
    Except GatewayError (Option AuthorizationFacts)
  | none, none, none => .ok none
  | some authorizationId, some signerKeyId, some grantDigest => do
      require (identityIsValid authorizationId) .invalidPersistedState
      require (identityIsValid signerKeyId) .invalidPersistedState
      return some ⟨authorizationId, signerKeyId, ← Sha256Digest.tryFrom grantDigest⟩
  | _, _, _ => .error .invalidPersistedState

/-- The target of an attempt: the three columns are set together, with this strategy. -/
def snapshotAttemptTarget : Option Text → Option Text → Option Text →
    Except GatewayError (Option ValidatedTargetIdentity)
  | some strategy, some deploymentUid, some resourceVersion => do
      require (strategy = writeStrategy) .invalidPersistedState
      let target ← (ValidatedTargetIdentity.tryFrom ⟨deploymentUid, resourceVersion⟩).mapError
        fun _ => .invalidPersistedState
      return some target
  | none, none, none => .ok none
  | _, _, _ => .error .invalidPersistedState

/-- The response to an attempt.  Before the freeze there is no generation without one. -/
def snapshotResponse (state : OperationState) (target : ValidatedTargetIdentity)
    (requestedGeneration : Option Int64) : Option Bool → Option Text →
    Except GatewayError (Option ApplyResponseFacts)
  | none, none =>
      if state ≠ .applyStarted || requestedGeneration.isNone then .ok none
      else .error .invalidPersistedState
  | some accepted, some resourceVersion => do
      (ApplyOutcome.validate ⟨accepted, requestedGeneration, some target.deploymentUid,
        some resourceVersion⟩).mapError fun _ => .invalidPersistedState
      return some ⟨accepted, requestedGeneration, resourceVersion⟩
  | _, _ => .error .invalidPersistedState

/-- `validate_snapshot_attempt_facts`. -/
def validateSnapshotAttemptFacts (state : OperationState)
    (strategy targetUid targetResourceVersion : Option Text) (applyAccepted : Option Bool)
    (requestedGeneration : Option Int64) (applyResourceVersion : Option Text) :
    Except GatewayError (Option AttemptFacts) := do
  match ← snapshotAttemptTarget strategy targetUid targetResourceVersion with
  | none =>
      require (applyAccepted.isNone && requestedGeneration.isNone && applyResourceVersion.isNone)
        .invalidPersistedState
      return none
  | some target =>
      let response ← snapshotResponse state target requestedGeneration applyAccepted
        applyResourceVersion
      return some ⟨target, response⟩

section
variable (C : Crypto)

/-- `validate_frozen_receipt`. -/
def validateFrozenReceipt (receipt : FrozenReceipt) : Except GatewayError FrozenReceipt := do
  require (receipt.bytes.length ≤ Receipt.receiptBytesMax &&
    digestHex C receipt.bytes = receipt.digest) .receiptDigestMismatch
  require (identityIsValid receipt.keyId) .invalidPersistedState
  return receipt

/-- `snapshot_frozen_receipt`. -/
def snapshotFrozenReceipt (operationId : Text) : Option Text → Option Bytes → Option Text →
    Option ReceiptStatement → Except GatewayError (Option FrozenReceipt)
  | none, none, none, _ => .ok none
  | some digest, some bytes, some keyId, statement => do
      let receipt ← validateFrozenReceipt C ⟨operationId, bytes, digest, keyId⟩
      let expected ← present statement
      let (embeddedKeyId, embedded) ← (decodeFrozenReceipt receipt.bytes).mapError .receipt
      require (embeddedKeyId = receipt.keyId && embedded = expected) .invalidPersistedState
      return some receipt
  | _, _, _, _ => .error .invalidPersistedState

/-! ## The decoder -/

/-- An approved target agrees with the rest of the row. -/
def approvalAgrees (facts : RequestFacts) (authorization : Option AuthorizationFacts)
    (attempt : Option AttemptFacts) : Bool :=
  facts.approvedTarget.all fun approved =>
    !(authorization.isNone ||
      (attempt.any fun attempt => attempt.target.deploymentUid ≠ approved.uid ||
        attempt.target.resourceVersion ≠ approved.resourceVersion) ||
      (attempt.isSome && facts.preflightTarget ≠ some approved))

/-- A stale approval has an approved target and another one that was observed. -/
def staleApprovalAgrees (facts : RequestFacts) (rejection : Option TargetRejection) : Bool :=
  !(rejection = some .staleApproval && (facts.approvedTarget.isNone ||
    facts.preflightTarget.isNone || facts.approvedTarget = facts.preflightTarget))

/-- Without an attempt, only a stale approval has an observed target. -/
def rejectionAgrees (state : OperationState) (facts : RequestFacts)
    (rejection : Option TargetRejection) : Bool :=
  !(state = .notAttempted && rejection ≠ some .staleApproval && facts.preflightTarget.isSome)

/-- The decoded facts of a row. -/
structure SnapshotFacts where
  applyAttempted : Bool
  request : RequestFacts
  result : Option OperationResult
  rejection : Option TargetRejection
  authorization : Option AuthorizationFacts
  attempt : Option AttemptFacts
  statement : Option ReceiptStatement
  receipt : Option FrozenReceipt
  receiverFactsPresent : Bool

/-- Nothing of an attempt, an observation or a receipt. -/
def SnapshotFacts.untouched (f : SnapshotFacts) : Bool :=
  !f.applyAttempted && f.attempt.isNone && f.result.isNone && f.statement.isNone &&
    f.receipt.isNone && !f.receiverFactsPresent

/-- The last step of `SnapshotRow::into_operation`: the variant of each state, with the
facts it must and must not have. -/
def SnapshotFacts.operation (f : SnapshotFacts) :
    OperationState → Except GatewayError LoadedOperation
  | .requested =>
      if f.untouched && f.rejection.isNone then .ok (.requested ⟨f.request⟩)
      else .error .invalidPersistedState
  | .authorized =>
      match f.authorization with
      | some authorization =>
          if f.untouched && f.rejection.isNone then .ok (.authorized ⟨f.request, authorization⟩)
          else .error .invalidPersistedState
      | none => .error .invalidPersistedState
  | .notAttempted =>
      match f.authorization, f.rejection with
      | some authorization, some rejection =>
          if f.untouched then .ok (.notAttempted ⟨⟨f.request, authorization⟩, rejection⟩)
          else .error .invalidPersistedState
      | _, _ => .error .invalidPersistedState
  | .applyStarted =>
      match f.authorization, f.attempt with
      | some authorization, some attempt =>
          if f.rejection.isNone && f.applyAttempted && f.result.isNone && f.statement.isNone &&
              f.receipt.isNone && !f.receiverFactsPresent then
            .ok (.applyStarted ⟨⟨f.request, authorization⟩, attempt⟩)
          else .error .invalidPersistedState
      | _, _ => .error .invalidPersistedState
  | .receiverObserved =>
      match f.authorization, f.attempt, f.statement with
      | some authorization, some attempt, some statement =>
          if f.rejection.isNone && f.applyAttempted && f.result.isSome && f.receipt.isNone then
            .ok (.receiverObserved ⟨⟨⟨f.request, authorization⟩, attempt⟩, statement⟩)
          else .error .invalidPersistedState
      | _, _, _ => .error .invalidPersistedState
  | .finalized =>
      match f.authorization, f.attempt, f.statement, f.receipt with
      | some authorization, some attempt, some statement, some receipt =>
          if f.rejection.isNone && f.applyAttempted && f.result.isSome then
            .ok (.finalized ⟨⟨⟨⟨f.request, authorization⟩, attempt⟩, statement⟩, receipt⟩)
          else .error .invalidPersistedState
      | _, _, _, _ => .error .invalidPersistedState

/-- `SnapshotRow::into_operation`. -/
def SnapshotRow.intoOperation (row : SnapshotRow) (statement : Option ReceiptStatement) :
    Except GatewayError LoadedOperation := do
  let state ← OperationState.fromSql row.state
  let applyAttempted ← decodeSqlBool row.applyAttempted
  let applyAccepted ← row.applyAccepted.mapM decodeSqlBool
  let approvedTarget ← snapshotTarget row.approvedUid row.approvedResourceVersion
  let preflightTarget ← snapshotTarget row.preflightUid row.preflightResourceVersion
  require (!(preflightTarget.isSome && (state = .requested || state = .authorized)))
    .invalidPersistedState
  let request ← (ValidatedRequest.tryFrom ⟨row.operationId, row.namespace, row.deployment,
    row.container, row.immutableImageDigest⟩).mapError fun _ => .invalidPersistedState
  let facts : RequestFacts := ⟨approvedTarget, preflightTarget, request⟩
  let result ← row.result.mapM OperationResult.fromSql
  let rejection ← row.targetRejection.mapM TargetRejection.fromSql
  let authorization ← validateSnapshotAuthorization row.authorizationId
    row.authorizationSignerKeyId row.authorizationGrantDigest
  let attempt ← validateSnapshotAttemptFacts state row.writeStrategy row.targetUid
    row.targetResourceVersion applyAccepted row.requestedGeneration row.applyResourceVersion
  require (approvalAgrees facts authorization attempt) .invalidPersistedState
  require (staleApprovalAgrees facts rejection) .invalidPersistedState
  require (rejectionAgrees state facts rejection) .invalidPersistedState
  require (statement.map (·.result) = result) .invalidPersistedState
  let receipt ← snapshotFrozenReceipt C request.operationId row.receiptDigest row.receiptBytes
    row.receiptKeyId statement
  SnapshotFacts.operation ⟨applyAttempted, facts, result, rejection, authorization, attempt,
    statement, receipt, row.receiverFactsPresent⟩ state

/-- The states whose rows carry a statement. -/
def carriesStatement (state : Text) : Bool :=
  state = utf8 "receiver_observed" || state = utf8 "finalized"

/-- `records::decode`. -/
def decode (r : Record .kubernetes) : Except GatewayError LoadedOperation := do
  let snapshot ← snapshotRow r
  if carriesStatement snapshot.state then
    snapshot.intoOperation C (some (← receiptStatement r))
  else snapshot.intoOperation C none

/-! ## What a decoded row satisfies -/

variable {C}

theorem SnapshotFacts.state_of_operation {f : SnapshotFacts} {state : OperationState}
    {operation : LoadedOperation} (h : f.operation state = .ok operation) :
    operation.state = state := by
  cases state with
  | requested =>
    simp only [SnapshotFacts.operation] at h
    split_ifs at h
    cases h
    rfl
  | authorized =>
    simp only [SnapshotFacts.operation] at h
    split at h
    · split_ifs at h
      cases h
      rfl
    · cases h
  | notAttempted =>
    simp only [SnapshotFacts.operation] at h
    split at h
    · split_ifs at h
      cases h
      rfl
    · cases h
  | applyStarted =>
    simp only [SnapshotFacts.operation] at h
    split at h
    · split_ifs at h
      cases h
      rfl
    · cases h
  | receiverObserved =>
    simp only [SnapshotFacts.operation] at h
    split at h
    · split_ifs at h
      cases h
      rfl
    · cases h
  | finalized =>
    simp only [SnapshotFacts.operation] at h
    split at h
    · split_ifs at h
      cases h
      rfl
    · cases h

theorem SnapshotRow.state_of_intoOperation {row : SnapshotRow}
    {statement : Option ReceiptStatement} {operation : LoadedOperation}
    (h : row.intoOperation C statement = .ok operation) : row.state = operation.state.asSql := by
  unfold SnapshotRow.intoOperation at h
  obtain ⟨state, hstate, h⟩ := bind_eq_ok.mp h
  iterate 15 obtain ⟨_, -, h⟩ := bind_eq_ok.mp h
  rw [SnapshotFacts.state_of_operation h]
  exact OperationState.asSql_of_fromSql hstate

theorem state_of_snapshotRow {r : Record .kubernetes} {row : SnapshotRow}
    (h : snapshotRow r = .ok row) : r.value .state = .text row.state := by
  unfold snapshotRow at h
  iterate 9 obtain ⟨_, -, h⟩ := bind_eq_ok.mp h
  obtain ⟨state, hstate, h⟩ := bind_eq_ok.mp h
  iterate 15 obtain ⟨_, -, h⟩ := bind_eq_ok.mp h
  rw [← Except.ok.inj h]
  exact Record.getText_eq_ok.mp hstate

/-- **A row decodes to the variant that its state column names.** -/
theorem state_of_decode {r : Record .kubernetes} {operation : LoadedOperation}
    (h : decode C r = .ok operation) : r.value .state = .text operation.state.asSql := by
  unfold decode at h
  obtain ⟨row, hrow, h⟩ := bind_eq_ok.mp h
  rw [state_of_snapshotRow hrow]
  split_ifs at h
  · obtain ⟨statement, -, h⟩ := bind_eq_ok.mp h
    rw [SnapshotRow.state_of_intoOperation h]
  · rw [SnapshotRow.state_of_intoOperation h]

end

end Journal
end Gateway
end Kapsel
