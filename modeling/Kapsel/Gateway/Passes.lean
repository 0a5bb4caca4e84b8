import Kapsel.Gateway.Storage

/-!
# Admission and advancement

`Gateway` of `src/gateway/mod.rs` and the Git half of `src/gateway/git.rs`, line by line:
submission, admission under the worker lease, the reconcile loop, one pass over a
Kubernetes operation, and `advance` over a Git operation.

The reconcile loop has no bound in the source.  A run has only finitely many exchanges, so
every run of the loop is a run of some unrolling of it, and the unrolling that is too short
is a session that stopped there.
-/

namespace Kapsel

open Grammar Fallible Authority Interaction Interaction.Program

namespace Gateway

open Journal

variable {C : Crypto}

/-- `ReceiptSettings`. -/
structure ReceiptSettings where
  signingSeed : Octets 32
  keyId : Text

/-- `SubmissionResult`. -/
inductive SubmissionResult where
  | created
  | existing (state : OperationState)
  deriving DecidableEq, Repr

/-- `ReconciliationBlockage`. -/
inductive ReconciliationBlockage where
  | receiverUnavailable
  | signingUnavailable
  | workerContention
  deriving DecidableEq, Repr

/-- `ReconciliationError`. -/
inductive ReconciliationError where
  | submission (error : GatewayError)
  | advancement (error : GatewayError)
  | completion
  | blocked (blockage : ReconciliationBlockage)
  deriving DecidableEq

/-! ## Submission -/

/-- `Gateway::mark_requested_authorized`. -/
def markRequestedAuthorized (authorized : AuthorizedRequest C) : Action C GatewayError Unit := do
  match ← Storage.operation authorized.request.operationId with
  | some (.requested requested) => Storage.markAuthorized requested authorized
  | some _ => throw .invalidTransition
  | none => throw .invalidPersistedState

/-- The end of `Gateway::submit_authorized`. -/
def submitBound (authorized : AuthorizedRequest C) : Action C GatewayError SubmissionResult := do
  match ← Storage.existingSubmission authorized with
  | some .requested =>
      markRequestedAuthorized authorized
      return .created
  | some existing => return .existing existing
  | none =>
      Storage.insertRequested authorized
      markRequestedAuthorized authorized
      return .created

/-- `Gateway::submit_authorized`. -/
def submitAuthorized (authorities : List AuthorizationTrust) (request : SetDeploymentImageRequest)
    (signedGrant : Bytes) : Action C GatewayError SubmissionResult := do
  let request ← check (ValidatedRequest.tryFrom request)
  let verified ← check (verifyGrantWith C signedGrant authorities)
  let authorized ← check (AuthorizedRequest.bind C request verified)
  submitBound authorized

/-! ## One pass over a Kubernetes operation -/

/-- The row is still that of the request. -/
def requireAuthorized (authorized : AuthorizedRequest C) :
    Action C GatewayError LoadedOperation := do
  match ← Storage.authorizedOperation authorized with
  | some operation => return operation
  | none => throw .invalidPersistedState

/-- The row is that of the request, and attempted. -/
def requireStarted (authorized : AuthorizedRequest C) :
    Action C GatewayError ApplyStartedOperation := do
  match ← Storage.authorizedOperation authorized with
  | some (.applyStarted started) => return started
  | _ => throw .invalidPersistedState

/-- `Gateway::preflight_target`. -/
def preflightTarget (authorized : AuthorizedRequest C) (operation : AuthorizedOperation) :
    Action C GatewayError (Option ValidatedTargetIdentity) := do
  let targetRead : Except TargetReadError TargetIdentity ←
    perform (Call.identify operation.request.request.toAdapterRequest)
  let _ ← requireAuthorized authorized
  match targetRead with
  | .error .transient => throw .kubernetesTargetObservation
  | .error (.permanent rejection) =>
      Storage.markNotAttempted operation rejection
      return none
  | .ok target =>
      let target ← check ((ValidatedTargetIdentity.tryFrom target).mapError fun _ =>
        .invalidKubernetesFact)
      return some target

/-- The dispatch of `Gateway::run_locked_operation_once`, with the permission in hand. -/
def dispatch (authorized : AuthorizedRequest C) (permission : DispatchPermission) :
    Action C GatewayError ApplyStartedOperation := do
  let started ← requireStarted authorized
  let applied : Except Unit ApplyOutcome ← perform (Call.apply permission)
  let outcome ← check (applied.mapError fun _ => .kubernetesApply)
  let _ ← requireAuthorized authorized
  Storage.recordApplyOutcome started outcome
  requireStarted authorized

/-- The branch of `Gateway::run_locked_operation_once` for an authorized operation; nothing
when the operation ends without an attempt. -/
def freshAttempt (authorized : AuthorizedRequest C) (operation : AuthorizedOperation) :
    Action C GatewayError (Option ApplyStartedOperation) := do
  match ← preflightTarget authorized operation with
  | none => return none
  | some target =>
      match ← Storage.beginAttempt operation target with
      | none => return none
      | some permission => return some (← dispatch authorized permission)

/-- The continuation of `Gateway::run_locked_operation_once` for attempted history. -/
def observeAndFreeze (authorized : AuthorizedRequest C) (attempted : ApplyStartedOperation) :
    Action C GatewayError OperationState := do
  let observed : Except Unit ReceiverObservation ←
    perform (Call.observe attempted.request.toAdapterRequest attempted.classificationOutcome)
  let observation ← check (observed.mapError fun _ => .kubernetesReceiverObservation)
  let _ ← requireAuthorized authorized
  Storage.freezeObservation attempted observation
  return .receiverObserved

/-- `Gateway::run_locked_operation_once`. -/
def runLockedOperationOnce (authorized : AuthorizedRequest C) :
    Action C GatewayError (Option OperationState) := do
  match ← Storage.authorizedOperation authorized with
  | some (.authorized operation) =>
      match ← freshAttempt authorized operation with
      | none => return some .notAttempted
      | some attempted => return some (← observeAndFreeze authorized attempted)
  | some (.applyStarted operation) => return some (← observeAndFreeze authorized operation)
  | _ => return none

/-! ## Receipts -/

/-- `Gateway::build_receipt`. -/
def buildReceipt (C : Crypto) (operation : ReceiverObservedOperation) (settings : ReceiptSettings) :
    Except GatewayError FrozenReceipt := do
  let bytes ← (signStatement C operation.statement settings.signingSeed settings.keyId).mapError
    .receipt
  return ⟨operation.operationId, bytes, digestHex C bytes, settings.keyId⟩

/-- `Gateway::finalize_locked_operation_receipt_once` on an observed operation. -/
def finalizeReceipt (operation : ReceiverObservedOperation) (settings : ReceiptSettings) :
    Action C GatewayError OperationState := do
  let receipt ← check (buildReceipt C operation settings)
  Storage.commitReceipt operation receipt
  return .finalized

/-! ## Admission -/

/-- `Gateway::admit_service_operation`: the state admitted with the lease held, or nothing
when there is nothing to advance. -/
def admitServiceOperation (existing : Option OperationState)
    (admission : Action C GatewayError OperationState) :
    Action C ReconciliationError (Option OperationState) := do
  if existing = some .finalized ∨ existing = some .notAttempted then
    let _ ← perform (Call.acknowledge (.admitted (existing.getD .finalized)))
    return none
  else
    let locked : Except GatewayError Bool ← perform (Call.tryLockWorker : Call C)
    match locked with
    | .error error => throw (.submission error)
    | .ok false =>
        let _ ← perform (Call.acknowledge ((existing.map .admitted).getD .busy))
        throw (.blocked .workerContention)
    | .ok true =>
        match ← (ExceptT.lift admission.run : Action C ReconciliationError _) with
        | .ok state =>
            let _ ← perform (Call.acknowledge (.admitted state))
            return some state
        | .error .journalFull =>
            let _ ← perform (Call.acknowledge .full)
            return none
        | .error error => throw (.submission error)

/-- The admission of a Kubernetes operation under the lease. -/
def admitRequested (authorized : AuthorizedRequest C) : Action C GatewayError OperationState := do
  match ← Storage.existingSubmission authorized with
  | some state => return state
  | none =>
      Storage.insertRequested authorized
      return .requested

/-! ## The reconcile loop -/

/-- One turn of `Gateway::reconcile_locked_with_adapter`: whether the operation advanced, or
the operation where the loop ends. -/
def reconcileTurn (authorities : List AuthorizationTrust) (request : SetDeploymentImageRequest)
    (signedGrant : Bytes) (adapter : Bool) (settings : Option ReceiptSettings)
    (authorized : AuthorizedRequest C) :
    Action C ReconciliationError (Bool ⊕ Option LoadedOperation) := do
  match ← mapErr .advancement (Storage.authorizedOperation authorized) with
  | none => return .inr none
  | some operation =>
      match operation with
      | .requested _ =>
          let _ ← mapErr .submission (submitAuthorized authorities request signedGrant)
          return .inl true
      | .authorized _ | .applyStarted _ =>
          if adapter then
            let advanced ← mapErr .advancement (runLockedOperationOnce authorized)
            return .inl advanced.isSome
          else throw (.blocked .receiverUnavailable)
      | .receiverObserved observed =>
          match settings with
          | none => throw (.blocked .signingUnavailable)
          | some settings =>
              let _ ← mapErr (fun _ => .completion) (finalizeReceipt observed settings)
              return .inl true
      | .notAttempted _ | .finalized _ => return .inr (some operation)

/-- The loop of `Gateway::reconcile_locked_with_adapter`, for a number of turns. -/
def reconcileLoop (authorities : List AuthorizationTrust) (request : SetDeploymentImageRequest)
    (signedGrant : Bytes) (adapter : Bool) (settings : Option ReceiptSettings)
    (authorized : AuthorizedRequest C) :
    ℕ → Action C ReconciliationError (Option LoadedOperation)
  | 0 => return none
  | turns + 1 => do
      match ← reconcileTurn authorities request signedGrant adapter settings authorized with
      | .inr result => return result
      | .inl true =>
          reconcileLoop authorities request signedGrant adapter settings authorized turns
      | .inl false =>
          let authorized ← check ((bindAuthorization C authorities request signedGrant).mapError
            .advancement)
          mapErr .advancement (Storage.authorizedOperation authorized)

/-- `Gateway::reconcile_locked_with_adapter`. -/
def reconcileLockedWithAdapter (authorities : List AuthorizationTrust)
    (request : SetDeploymentImageRequest) (signedGrant : Bytes) (adapter : Bool)
    (settings : Option ReceiptSettings) (turns : ℕ) :
    Action C ReconciliationError (Option LoadedOperation) := do
  let authorized ← check ((bindAuthorization C authorities request signedGrant).mapError
    .advancement)
  reconcileLoop authorities request signedGrant adapter settings authorized turns

/-- `Gateway::admit_and_reconcile`. -/
def admitAndReconcile (authorities : List AuthorizationTrust)
    (request : SetDeploymentImageRequest) (signedGrant : Bytes) (adapter : Bool)
    (settings : Option ReceiptSettings) (turns : ℕ) : Action C ReconciliationError Unit := do
  let authorized ← check ((bindAuthorization C authorities request signedGrant).mapError
    .submission)
  let existing ← mapErr .submission (Storage.authorizedOperation authorized)
  match ← admitServiceOperation (existing.map (·.state)) (admitRequested authorized) with
  | none => return ()
  | some _ =>
      let _ ← reconcileLockedWithAdapter authorities request signedGrant adapter settings turns
      return ()

/-! ## Git -/

/-- `GitReceiver::prepare`: the approval must be one for this receiver. -/
def prepare (receiver : GitReceiver) (authorization : GitRefAuthorization) :
    Action C GatewayError (Except GitError PreparedTransition) := do
  let prepared : Except GitError Unit ← perform (Call.prepare receiver authorization)
  if !authorization.isValid || authorization.repositoryId ≠ receiver.repositoryId then
    return .error .invalidApproval
  else return prepared.map fun _ => ⟨receiver, authorization⟩

/-- The receiver that an attempt needs. -/
def requireReceiver : Option GitReceiver → Action C GatewayError GitReceiver
  | some receiver => return receiver
  | none => throw .gitReceiverUnavailable

/-- The phase of an admitted Git operation. -/
def requireGitPhase (b : GitBinding C) : Action C GatewayError GitPhase := do
  match ← Storage.gitOperation b with
  | some phase => return phase
  | none => throw .invalidTransition

/-- The branch of `advance` for an authorized operation. -/
def freshGitAttempt (b : GitBinding C) (receiver : GitReceiver) : Action C GatewayError Unit := do
  match ← prepare receiver b.authorization with
  | .ok prepared =>
      let permission ← Storage.beginGitAttempt b prepared
      let acknowledgement : Acknowledgement ← perform (Call.send permission)
      Storage.recordGitAcknowledgement b acknowledgement
  | .error .staleRef => Storage.rejectGit b .staleRef
  | .error .invalidObjects => Storage.rejectGit b .invalidObjects
  | .error _ => throw .gitReceiverUnavailable

/-- The branch of `advance` for an attempted operation. -/
def freezeGit (b : GitBinding C) (receiver : Option GitReceiver) :
    Action C GatewayError GitPhase := do
  let receiver ← requireReceiver receiver
  let seen : ObservedRef ← perform (Call.observeRef receiver)
  Storage.freezeGitObservation b seen
  requireGitPhase b

/-- The branch of `advance` for an observed operation. -/
def finalizeGit (b : GitBinding C) (settings : ReceiptSettings)
    (acknowledgement : Acknowledgement) (seen : ObservedRef) : Action C GatewayError GitPhase := do
  let bytes ← check ((GitStatement.sign C (b.statement acknowledgement seen) settings.signingSeed
    settings.keyId).mapError .receipt)
  Storage.commitGitReceipt b bytes
  requireGitPhase b

/-- The receiver that was configured is another repository's. -/
def wrongRepository (b : GitBinding C) (receiver : Option GitReceiver) : GitPhase → Bool
  | .authorized => receiver.any (·.repositoryId ≠ b.authorization.repositoryId)
  | .attempted _ => receiver.any (·.repositoryId ≠ b.authorization.repositoryId)
  | _ => false

/-- The start of `advance`: from an authorized operation to whatever came of it. -/
def advanceAuthorized (b : GitBinding C) (receiver : Option GitReceiver) (phase : GitPhase) :
    Action C GatewayError GitPhase :=
  if phase = .authorized then do
    let receiver ← requireReceiver receiver
    freshGitAttempt b receiver
    requireGitPhase b
  else return phase

/-- The middle of `advance`: from an attempted operation to an observed one. -/
def advanceAttempted (b : GitBinding C) (receiver : Option GitReceiver) :
    GitPhase → Action C GatewayError GitPhase
  | .attempted _ => freezeGit b receiver
  | phase => return phase

/-- The end of `advance`: from an observed operation to a finalized one. -/
def advanceObserved (b : GitBinding C) (signing : Option ReceiptSettings) :
    GitPhase → Action C GatewayError GitPhase
  | .observed acknowledgement seen =>
      match signing with
      | some settings => finalizeGit b settings acknowledgement seen
      | none => return .observed acknowledgement seen
  | phase => return phase

/-- `advance`. -/
def advance (b : GitBinding C) (receiver : Option GitReceiver) (signing : Option ReceiptSettings) :
    Action C GatewayError GitPhase := do
  let phase ← requireGitPhase b
  check (require (!wrongRepository b receiver phase) .gitReceiverUnavailable)
  let phase ← advanceAuthorized b receiver phase
  let phase ← advanceAttempted b receiver phase
  advanceObserved b signing phase

/-- The receiver that the admitted state needs, opened. -/
def openNeededReceiver (configuration : Option GitReceiver) (admitted : OperationState) :
    Action C ReconciliationError (Option GitReceiver) := do
  if admitted = .authorized ∨ admitted = .applyStarted then
    match configuration with
    | none => throw (.blocked .receiverUnavailable)
    | some receiver =>
        let opened : Except GitError Unit ← perform (Call.openReceiver receiver)
        let _ ← check (opened.mapError fun _ => .blocked .receiverUnavailable)
        return some receiver
  else return none

/-- What `admit_and_reconcile_git` makes of an error of `advance`. -/
def advanceError : GatewayError → ReconciliationError
  | .receipt _ => .completion
  | error => .advancement error

/-- `Gateway::admit_and_reconcile_git`. -/
def admitAndReconcileGit (authorities : List AuthorizationTrust) (id : Text) (grant : Bytes)
    (configuration : Option GitReceiver) (signing : Option ReceiptSettings) :
    Action C ReconciliationError Unit := do
  let b ← check ((GitBinding.verify C grant authorities).mapError .submission)
  check (require (b.authorization.operationId = id) (.submission .authorizationMismatch))
  let existing ← mapErr .submission (Storage.gitOperation b)
  match ← admitServiceOperation (existing.map (·.state)) (do
      return (← Storage.insertGit b).state) with
  | none => return ()
  | some admitted =>
      let receiver ← openNeededReceiver configuration admitted
      let phase ← mapErr advanceError (advance b receiver signing)
      match phase with
      | .observed _ _ => throw (.blocked .signingUnavailable)
      | _ => return ()

end Gateway
end Kapsel
