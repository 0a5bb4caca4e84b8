import Kapsel.Gateway.Calls

/-!
# The journal's methods as programs

`Journal` of `src/gateway/journal/mod.rs` and `src/gateway/journal/git.rs`: each method
reads one or more snapshots, checks what it read, and asks for at most one write.  Between
two reads, and between a read and the write, other handles may have written.

The worker lease is a session's own: a method that the source gives the lease to is only
ever called by a session that holds it, and the journal's check that the lease is its own
always succeeds.
-/

namespace Kapsel

open Grammar Fallible Authority Interaction Interaction.Program

namespace Gateway

open Journal

namespace Storage

variable {C : Crypto}

/-- One read transaction. -/
def snapshot : Action C GatewayError Database := do
  let answer : Except SqliteError Database ← perform (Call.read : Call C)
  check (answer.mapError .database)

/-- `Io::replace`. -/
def replace (transition : Transition C) : Action C GatewayError Unit := do
  let answer : Except GatewayError Unit ← perform (Call.replace transition)
  check answer

/-! ## Kubernetes rows -/

/-- `Journal::authorized_operation`. -/
def authorizedOperation (authorized : AuthorizedRequest C) :
    Action C GatewayError (Option LoadedOperation) := do
  let db ← snapshot
  check (authorizedRecordOn C db authorized)

/-- `Journal::existing_submission`. -/
def existingSubmission (authorized : AuthorizedRequest C) :
    Action C GatewayError (Option OperationState) := do
  return (← authorizedOperation authorized).map (·.state)

/-- `Journal::operation`. -/
def operation (id : Text) : Action C GatewayError (Option LoadedOperation) := do
  let db ← snapshot
  check (Journal.operation C db id)

/-- `Journal::bound_record`. -/
def boundRecord (id : Text) (loaded : LoadedOperation) :
    Action C GatewayError (Record .kubernetes) := do
  let db ← snapshot
  check (Journal.boundRecord C db id loaded)

/-- `Journal::insert_requested`. -/
def insertRequested (authorized : AuthorizedRequest C) : Action C GatewayError Unit :=
  replace (.insertRequested authorized)

/-- `Journal::mark_authorized`. -/
def markAuthorized (operation : RequestedOperation) (authorized : AuthorizedRequest C) :
    Action C GatewayError Unit := do
  check (require (operation.request.request = authorized.request) .invalidTransition)
  let existing ← existingSubmission authorized
  check (require (existing = some .requested) .invalidTransition)
  let expected ← boundRecord operation.request.request.operationId (.requested operation)
  replace (.markAuthorized expected authorized)

/-- `Journal::mark_not_attempted`. -/
def markNotAttempted (operation : AuthorizedOperation) (rejection : TargetRejection) :
    Action C GatewayError Unit := do
  let expected ← boundRecord operation.request.request.operationId (.authorized operation)
  replace (.markNotAttempted expected operation rejection)

/-- `Journal::mark_stale_approval`. -/
def markStaleApproval (operation : AuthorizedOperation) (observed : ValidatedTargetIdentity) :
    Action C GatewayError Unit := do
  let expected ← boundRecord operation.request.request.operationId (.authorized operation)
  replace (.markStaleApproval expected operation observed)

/-- `Journal::mark_apply_started`. -/
def markApplyStarted (operation : AuthorizedOperation) (target : ValidatedTargetIdentity) :
    Action C GatewayError Unit := do
  let expected ← boundRecord operation.request.request.operationId (.authorized operation)
  replace (.markApplyStarted expected operation target)

/-- The end of `Journal::begin_attempt`: the confirmed commit makes the permission. -/
def startAttempt (operation : AuthorizedOperation) (target : ValidatedTargetIdentity) :
    Action C GatewayError (Option DispatchPermission) := do
  markApplyStarted operation target
  let permission : DispatchPermission := ⟨operation.request.request, target⟩
  let _ ← perform (Call.grantPermission permission)
  return some permission

/-- `Journal::begin_attempt`. -/
def beginAttempt (operation : AuthorizedOperation) (observed : ValidatedTargetIdentity) :
    Action C GatewayError (Option DispatchPermission) := do
  let _ ← boundRecord operation.request.request.operationId (.authorized operation)
  match operation.approvedTarget with
  | some approved =>
      if observed.deploymentUid ≠ approved.uid ∨
          observed.resourceVersion ≠ approved.resourceVersion then
        markStaleApproval operation observed
        return none
      else
        let target ← check ((ValidatedTargetIdentity.tryFrom
          ⟨approved.uid, approved.resourceVersion⟩).mapError fun _ => .invalidPersistedState)
        startAttempt operation target
  | none => startAttempt operation observed

/-- `Journal::record_apply_outcome`. -/
def recordApplyOutcome (operation : ApplyStartedOperation) (outcome : ApplyOutcome) :
    Action C GatewayError Unit := do
  check outcome.validate
  let expected ← boundRecord operation.request.operationId (.applyStarted operation)
  check (checkOutcome expected outcome)
  replace (.recordApplyOutcome expected operation outcome)

/-- `Journal::freeze_observation`. -/
def freezeObservation (operation : ApplyStartedOperation) (observation : ReceiverObservation) :
    Action C GatewayError Unit := do
  check observation.validate
  let expected ← boundRecord operation.request.operationId (.applyStarted operation)
  replace (.freezeObservation expected operation observation)

/-- `Journal::commit_receipt`. -/
def commitReceipt (operation : ReceiverObservedOperation) (receipt : FrozenReceipt) :
    Action C GatewayError Unit := do
  check (require (receipt.operationId = operation.operationId) .invalidTransition)
  let expected ← boundRecord operation.operationId (.receiverObserved operation)
  check (checkReceipt C operation receipt)
  replace (.commitReceipt expected operation receipt)

/-! ## Git rows -/

/-- `Journal::git_record`: the second read is a transaction of its own. -/
def gitRecord (b : GitBinding C) : Action C GatewayError (Option (Record .git)) := do
  let id := b.authorization.operationId
  let db ← snapshot
  match ← check (readTable db id .git) with
  | some record => return some record
  | none =>
      let db ← snapshot
      let other ← check (readTable db id .kubernetes)
      check (require other.isNone .operationIdentityConflict)
      return none

/-- `Journal::git_operation`. -/
def gitOperation (b : GitBinding C) : Action C GatewayError (Option GitPhase) := do
  match ← gitRecord b with
  | none => return none
  | some record => return some (← check (decodeRecord record b))

/-- `Journal::git_write`. -/
def gitWrite (b : GitBinding C) : Action C GatewayError (Record .git × GitPhase) := do
  match ← gitRecord b with
  | none => throw .invalidTransition
  | some record => return (record, ← check (decodeRecord record b))

/-- `Journal::insert_git`. -/
def insertGit (b : GitBinding C) : Action C GatewayError GitPhase := do
  match ← gitOperation b with
  | some existing => return existing
  | none =>
      replace (.insertGit b)
      return .authorized

/-- `Journal::begin_git_attempt`. -/
def beginGitAttempt (b : GitBinding C) (prepared : PreparedTransition) :
    Action C GatewayError GitDispatchPermission := do
  check (require (prepared.authorization = b.authorization) .invalidTransition)
  let (original, phase) ← gitWrite b
  check (require (phase = .authorized) .invalidTransition)
  replace (.beginGitAttempt original b)
  let permission : GitDispatchPermission := ⟨prepared⟩
  let _ ← perform (Call.grantGitPermission permission)
  return permission

/-- `Journal::reject_git`. -/
def rejectGit (b : GitBinding C) (rejection : GitRejection) : Action C GatewayError Unit := do
  let (original, phase) ← gitWrite b
  check (require (phase = .authorized) .invalidTransition)
  replace (.rejectGit original b rejection)

/-- `Journal::record_git_acknowledgement`. -/
def recordGitAcknowledgement (b : GitBinding C) (acknowledgement : Acknowledgement) :
    Action C GatewayError Unit := do
  let (original, phase) ← gitWrite b
  check (require (phase = .attempted none) .invalidTransition)
  replace (.recordGitAcknowledgement original b acknowledgement)

/-- `Journal::freeze_git_observation`. -/
def freezeGitObservation (b : GitBinding C) (seen : ObservedRef) : Action C GatewayError Unit := do
  let (original, phase) ← gitWrite b
  match phase with
  | .attempted retained =>
      let columns ← check (observedColumns seen)
      replace (.freezeGitObservation original b retained seen columns)
  | _ => throw .invalidTransition

/-- `Journal::commit_git_receipt`. -/
def commitGitReceipt (b : GitBinding C) (bytes : Bytes) : Action C GatewayError Unit := do
  let (original, phase) ← gitWrite b
  match phase with
  | .observed acknowledgement seen =>
      let (keyId, statement) ← check ((GitStatement.decode bytes).mapError .receipt)
      check (require (b.statement acknowledgement seen = statement) .invalidPersistedState)
      replace (.commitGitReceipt original b bytes keyId)
  | _ => throw .invalidTransition

end Storage
end Gateway
end Kapsel
