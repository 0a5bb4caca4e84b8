import Kapsel.Gateway.Passes
import Mathlib.Data.List.Sort

/-!
# What a handle can be asked without advancing anything

The read-only methods of the gateway: the bounded history query, the reads that are given a
grant and find its row, and the reads that are given an identity only and take the grant from
the row.  The last kind verifies the retained bytes under the authorities of the handle, so a
row whose signer is not appointed any more is an error and never an absent row.
-/

namespace Kapsel

open Grammar Fallible Authority Interaction Interaction.Program

namespace Gateway

open Journal

variable {C : Crypto}

/-! ## Projections -/

/-- `ObservedTarget`. -/
structure ObservedTarget where
  uid : Option Text
  resourceVersion : Option Text
  deriving DecidableEq

/-- `GitOperationTargets`. -/
structure GitOperationTargets where
  approval : GitRefAuthorization
  attempted : Bool
  acknowledgement : Option Acknowledgement
  observedRef : Option ObservedRef

/-- `OperationTargets`. -/
structure OperationTargets where
  approvedTarget : Option ApprovedTarget := none
  observedTarget : Option ObservedTarget := none
  attemptTarget : Option ApprovedTarget := none
  git : Option GitOperationTargets := none

namespace Journal.LoadedOperation

/-- `LoadedOperation::targets`. -/
def targets (operation : LoadedOperation) : OperationTargets where
  approvedTarget := operation.requestFacts.approvedTarget
  attemptTarget := operation.attempt.map fun attempt => attempt.target.toApproved
  observedTarget := match operation.statement with
    | none => operation.requestFacts.preflightTarget.map fun target =>
        ⟨some target.uid, some target.resourceVersion⟩
    | some statement => some ⟨statement.receiverUid, statement.observedResourceVersion⟩

end Journal.LoadedOperation

/-! ## Reads -/

/-- The identities of both tables. -/
def operationIds (db : Database) : List Value :=
  ((db .kubernetes).rows ++ (db .git).rows).map fun row => row .operationId

/-- The identity of a row of the history query, read as a `String`: it is `NULL` unless its length
is in range. -/
def historyId : Value → Except GatewayError Text
  | .text id =>
      if 1 ≤ id.length ∧ id.length ≤ 128 ∧ utf8IsValid id = true then .ok id
      else .error (.database .conversion)
  | _ => .error (.database .conversion)

/-- The identity is after the cursor in byte order. -/
def isAfter (after : Option Text) : Value → Bool
  | .text id => after.all fun cursor => cursor < id
  | _ => after.isNone

/-- Byte order of two identities; SQLite sorts `NULL` first. -/
def inByteOrder : Value → Value → Bool
  | .text id, .text id' => id ≤ id'
  | .text _, _ => false
  | _, _ => true

/-- `Journal::history_ids`: at most nine identities after the cursor. -/
def Journal.historyIds (db : Database) (after : Option Text) : Except GatewayError (List Text) :=
  ((((operationIds db).filter (isAfter after)).mergeSort inByteOrder).take 9).mapM historyId

/-- `validate_identity`. -/
def validateIdentity (field : InputField) (value : Text) : Except GatewayError Unit :=
  require (identityIsValid value) (.invalidInput field)

/-- `Gateway::history_ids`. -/
def historyIds (after : Option Text) : Action C GatewayError (List Text) := do
  check (require (after.all identityIsValid) (.invalidInput .operationId))
  let db ← Storage.snapshot
  let ids ← check (Journal.historyIds db after)
  check (require (ids.all identityIsValid) .invalidPersistedState)
  return ids

/-- `Gateway::authorized_operation`. -/
def authorizedOperation (authorities : List AuthorizationTrust)
    (request : SetDeploymentImageRequest) (signedGrant : Bytes) :
    Action C GatewayError (Option LoadedOperation) := do
  let authorized ← check (bindAuthorization C authorities request signedGrant)
  Storage.authorizedOperation authorized

/-- The request that a retained grant authorizes, for the identity it is retained under. -/
def authorizeRetained (authorities : List AuthorizationTrust) (id : Text) (bytes : Bytes) :
    Except GatewayError (AuthorizedRequest C) := do
  let verified ← verifyGrantWith C bytes authorities
  let facts := verified.authorization
  let request : SetDeploymentImageRequest :=
    ⟨facts.operationId, facts.namespace, facts.deployment, facts.container,
      facts.immutableImageDigest⟩
  require (request.operationId = id) .operationIdentityConflict
  AuthorizedRequest.bind C (← ValidatedRequest.tryFrom request) verified

/-- `Gateway::retained_operation`. -/
def retainedOperation (authorities : List AuthorizationTrust) (id : Text) :
    Action C GatewayError (Option RetainedOperation) := do
  check (validateIdentity .operationId id)
  let db ← Storage.snapshot
  check (Journal.retainedOperation C db id (authorizeRetained authorities id))

/-- `RetainedGitOperation`, with its `GitOperationTargets`. -/
structure RetainedGitOperation where
  signedGrant : Bytes
  state : OperationState
  approval : GitRefAuthorization
  attempted : Bool
  acknowledgement : Option Acknowledgement
  observedRef : Option ObservedRef
  rejection : Option TargetRejection
  result : Option OperationResult
  receipt : Option (Bytes × Text)

/-- `RetainedGitOperation::from_phase`. -/
def RetainedGitOperation.fromPhase (b : GitBinding C) (phase : GitPhase) :
    RetainedGitOperation where
  signedGrant := b.grant
  state := phase.state
  approval := b.authorization
  attempted := match phase with
    | .attempted _ => true
    | .observed _ _ => true
    | .finalized _ _ => true
    | _ => false
  acknowledgement := match phase with
    | .attempted acknowledgement => acknowledgement
    | .observed acknowledgement _ => some acknowledgement
    | .finalized statement _ => some statement.acknowledgement
    | .authorized => none
    | .notAttempted _ => none
  observedRef := (phase.statement b).map (·.observed)
  rejection := match phase with
    | .notAttempted .staleRef => some .gitStaleRef
    | .notAttempted .invalidObjects => some .gitInvalidObjects
    | _ => none
  result := (phase.statement b).map (·.result)
  receipt := match phase with
    | .finalized _ receipt => some (receipt.bytes, receipt.digest)
    | _ => none

/-- The `targets` of a retained Git operation. -/
def RetainedGitOperation.targets (retained : RetainedGitOperation) : GitOperationTargets :=
  ⟨retained.approval, retained.attempted, retained.acknowledgement, retained.observedRef⟩

/-- `Journal::retained_git`. -/
def Journal.retainedGit (db : Database) (id : Text) (trust : List AuthorizationTrust) :
    Except GatewayError (Option (GitBinding C × GitPhase)) := do
  match ← readTable db id .git with
  | none => return none
  | some record =>
      let bytes ← record.getBlob .signedAuthorizationGrant
      let b ← GitBinding.verify C bytes trust
      require (b.authorization.operationId = id) .operationIdentityConflict
      return some (b, ← decodeRecord record b)

/-- `Gateway::retained_git`. -/
def retainedGit (authorities : List AuthorizationTrust) (id : Text) :
    Action C GatewayError (Option RetainedGitOperation) := do
  check (validateIdentity .operationId id)
  let db ← Storage.snapshot
  let retained ← check (Journal.retainedGit (C := C) db id authorities)
  return retained.map fun p => RetainedGitOperation.fromPhase p.1 p.2

/-- `Gateway::authorized_git`. -/
def authorizedGit (authorities : List AuthorizationTrust) (grant : Bytes) :
    Action C GatewayError (Option RetainedGitOperation) := do
  let b ← check (GitBinding.verify C grant authorities)
  return (← Storage.gitOperation b).map (RetainedGitOperation.fromPhase b)

end Gateway
end Kapsel
