import Kapsel.Gateway.Inquiries

/-!
# The service application

`src/application/service.rs`: a catalog of approvals and the retained history behind one
gateway handle.  A caller names an identity and nothing else.  What is retained under the
identity decides; the catalog is looked at only when nothing is retained, and an error of the
first never falls through to the second.

Opening, selection and the reads are programs like those of the gateway: each asks for
snapshots of the journal, and other handles may write in between.  Selection reads the Git
table, then the Kubernetes table, then looks at the catalog, and then hands the grant that it
found to the admission of the effect, which reads everything again.

The journal path and its file checks are left out, and so is the diagnostic text.
-/

namespace Kapsel

open Grammar Fallible Authority Interaction Interaction.Program

namespace Application

open Gateway Gateway.Journal

variable {C : Crypto}

/-! ## Errors -/

/-- `ServiceError`. -/
inductive ServiceError where
  | configuration
  | invalidRequest
  | authorityUnavailable
  | storageMissing
  | storageInvalid
  | storageUnavailable
  | operationFailure
  deriving DecidableEq, Repr

/-- `map_gateway_error`. -/
def mapGatewayError : GatewayError → ServiceError
  | .untrustedAuthorizationGrant => .authorityUnavailable
  | .invalidInput _ => .invalidRequest
  | .invalidPersistedState => .storageInvalid
  | .database .corrupt => .storageInvalid
  | .database _ => .storageUnavailable
  | .workerLock => .storageUnavailable
  | _ => .operationFailure

/-- `ExecutionCondition`. -/
inductive ExecutionCondition where
  | preflightUnavailable
  | receiverUnavailable
  | signingUnavailable
  | workerContention
  | completionBlocked
  | operationBlocked
  deriving DecidableEq, Repr

/-- `ServiceStop`. -/
inductive ServiceStop where
  | finished
  | blocked (condition : ExecutionCondition)
  deriving DecidableEq, Repr

/-- `classify_stop`. -/
def classifyStop : ReconciliationError → Except ServiceError ServiceStop
  | .blocked .signingUnavailable => .ok (.blocked .signingUnavailable)
  | .blocked .workerContention => .ok (.blocked .workerContention)
  | .completion => .ok (.blocked .completionBlocked)
  | .advancement .kubernetesTargetObservation => .ok (.blocked .preflightUnavailable)
  | .blocked .receiverUnavailable => .ok (.blocked .receiverUnavailable)
  | .advancement .kubernetesApply => .ok (.blocked .receiverUnavailable)
  | .advancement .kubernetesReceiverObservation => .ok (.blocked .receiverUnavailable)
  | .advancement .gitReceiverUnavailable => .ok (.blocked .receiverUnavailable)
  | .submission error => .error (mapGatewayError error)
  | .advancement error => .error (mapGatewayError error)

/-! ## Configuration -/

/-- `ServiceApproval`. -/
structure ServiceApproval where
  signedGrant : Bytes
  label : Text
  deriving DecidableEq

/-- `ServiceConfiguration`, without the path of the journal. -/
structure ServiceConfiguration where
  authorizationTrust : List AuthorizationTrust
  approvals : List ServiceApproval

/-- `ApprovedAction`. -/
inductive ApprovedAction where
  | kubernetes (request : SetDeploymentImageRequest) (approvedTarget : ApprovedTarget)
      (label : Text)
  | git (authorization : GitRefAuthorization) (label : Text)
  deriving DecidableEq

/-- `ApprovedAction::operation_id`. -/
def ApprovedAction.operationId : ApprovedAction → Text
  | .kubernetes request _ _ => request.operationId
  | .git authorization _ => authorization.operationId

/-- `SelectableApproval`. -/
structure SelectableApproval where
  handle : ApprovedAction
  signedGrant : Bytes

/-- `approved_handle`. -/
def approvedHandle (C : Crypto) (approval : ServiceApproval) :
    List AuthorizationTrust → Except ServiceError ApprovedAction
  | [] => .error .configuration
  | appointment :: trust =>
      match Authority.verifyAuthorizationGrant C approval.signedGrant appointment with
      | .ok grant =>
          let facts := grant.authorization
          match facts.approvedTarget with
          | none => .error .configuration
          | some approvedTarget =>
              .ok (.kubernetes ⟨facts.operationId, facts.namespace, facts.deployment,
                facts.container, facts.immutableImageDigest⟩ approvedTarget approval.label)
      | .error _ =>
          match verifyGitRefGrant C approval.signedGrant appointment with
          | .ok grant => .ok (.git grant.authorization approval.label)
          | .error _ => approvedHandle C approval trust

/-- The bounds of one approval. -/
def ServiceApproval.withinBounds (approval : ServiceApproval) : Bool :=
  approval.signedGrant.length ≤ 4096 && approval.label.length ≤ 128 &&
    approval.label.all fun b => 32 ≤ b && b ≤ 126

/-- The keys of the appointments are well formed and distinct. -/
def validateAppointments (C : Crypto) : List Text → List AuthorizationTrust →
    Except ServiceError Unit
  | _, [] => .ok ()
  | seen, trust :: rest => do
      (trust.validate C).mapError fun _ => .configuration
      require (!seen.contains trust.keyId) .configuration
      validateAppointments C (trust.keyId :: seen) rest

/-- The catalog, entry after entry: every identity once. -/
def selectApprovals (C : Crypto) (trust : List AuthorizationTrust) :
    List SelectableApproval → List ServiceApproval → Except ServiceError (List SelectableApproval)
  | approvals, [] => .ok approvals
  | approvals, approval :: rest => do
      let handle ← approvedHandle C approval trust
      require (!approvals.any fun other => other.handle.operationId = handle.operationId)
        .configuration
      selectApprovals C trust (approvals ++ [⟨handle, approval.signedGrant⟩]) rest

/-- `ServiceApplication::validate_configuration`. -/
def validateConfiguration (C : Crypto) (configuration : ServiceConfiguration) :
    Except ServiceError (List SelectableApproval) := do
  require (configuration.approvals.length ≤ 32 && configuration.authorizationTrust.length ≤ 128)
    .configuration
  require (configuration.approvals.all ServiceApproval.withinBounds) .configuration
  require ((configuration.approvals.map fun approval =>
    approval.signedGrant.length + approval.label.length).sum ≤ 160 * 1024) .configuration
  validateAppointments C [] configuration.authorizationTrust
  selectApprovals C configuration.authorizationTrust [] configuration.approvals

/-! ## Opening -/

/-- The check of one approval against what is retained. -/
def checkApproval (trust : List AuthorizationTrust) (approval : SelectableApproval) :
    Action C GatewayError Unit :=
  match approval.handle with
  | .kubernetes request _ _ => do
      let _ ← Gateway.authorizedOperation trust request approval.signedGrant
      return ()
  | .git _ _ => do
      let _ ← Gateway.authorizedGit trust approval.signedGrant
      return ()

/-- The checks of the catalog, in its order. -/
def checkApprovals (trust : List AuthorizationTrust) :
    List SelectableApproval → Action C ServiceError Unit
  | [] => return ()
  | approval :: rest => do
      mapErr mapGatewayError (checkApproval trust approval)
      checkApprovals trust rest

/-- `ServiceApplication::open`: the catalog of the opened application. -/
def openService (configuration : ServiceConfiguration) :
    Action C ServiceError (List SelectableApproval) := do
  let approvals ← check (validateConfiguration C configuration)
  checkApprovals configuration.authorizationTrust approvals
  return approvals

/-! ## Selection -/

/-- `Selection`. -/
inductive Selection where
  | kubernetes (request : SetDeploymentImageRequest) (signedGrant : Bytes)
      (retainedState : Option OperationState)
  | git (signedGrant : Bytes) (retainedState : Option OperationState)

/-- The grant that a selection is about. -/
def Selection.signedGrant : Selection → Bytes
  | .kubernetes _ signedGrant _ => signedGrant
  | .git signedGrant _ => signedGrant

/-- The state that was retained when the selection was made. -/
def Selection.retainedState : Selection → Option OperationState
  | .kubernetes _ _ retainedState => retainedState
  | .git _ retainedState => retainedState

/-- The selection of a catalog entry. -/
def SelectableApproval.selection (approval : SelectableApproval) : Selection :=
  match approval.handle with
  | .kubernetes request _ _ => .kubernetes request approval.signedGrant none
  | .git _ _ => .git approval.signedGrant none

/-- The end of `retained_for_selection`: nothing is retained. -/
def catalogSelection (approvals : List SelectableApproval) (id : Text) :
    Except ServiceError Selection :=
  match approvals.find? fun entry => entry.handle.operationId = id with
  | none => .error .invalidRequest
  | some approval => .ok approval.selection

/-- The selection of a retained Kubernetes operation; one without an approved target cannot be
selected. -/
def retainedSelection (retained : RetainedOperation) : Except ServiceError Selection := do
  require retained.operation.targets.approvedTarget.isSome .invalidRequest
  return .kubernetes retained.request retained.signedGrant (some retained.operation.state)

/-- `ServiceApplication::retained_for_selection`. -/
def retainedForSelection (trust : List AuthorizationTrust) (approvals : List SelectableApproval)
    (id : Text) : Action C ServiceError Selection := do
  match ← mapErr mapGatewayError (Gateway.retainedGit (C := C) trust id) with
  | some retained => return .git retained.signedGrant (some retained.state)
  | none =>
      match ← mapErr mapGatewayError (Gateway.retainedOperation (C := C) trust id) with
      | some retained => check (retainedSelection retained)
      | none => check (catalogSelection approvals id)

/-- `ServiceExecution`. -/
structure ServiceExecution where
  kubernetesClient : Bool
  gitReceiver : Option GitReceiver
  receiptSigning : Option ReceiptSettings

/-- What a selection makes of how its pass ended. -/
def classified (pass : Action C ReconciliationError Unit) : Action C ServiceError ServiceStop := do
  match ← (ExceptT.lift pass.run : Action C ServiceError _) with
  | .ok _ => return .finished
  | .error error => check (classifyStop error)

/-- The pass of a selection. -/
def selectedPass (trust : List AuthorizationTrust) (id : Text) (execution : ServiceExecution)
    (turns : ℕ) : Selection → Action C ReconciliationError Unit
  | .kubernetes request signedGrant _ =>
      admitAndReconcile trust request signedGrant execution.kubernetesClient
        execution.receiptSigning turns
  | .git signedGrant _ =>
      admitAndReconcileGit trust id signedGrant execution.gitReceiver execution.receiptSigning

/-- `ServiceApplication::select`. -/
def select (trust : List AuthorizationTrust) (approvals : List SelectableApproval) (id : Text)
    (execution : ServiceExecution) (turns : ℕ) : Action C ServiceError ServiceStop := do
  let selected ← retainedForSelection trust approvals id
  check (require (execution.receiptSigning.all fun settings => identityIsValid settings.keyId)
    .configuration)
  classified (selectedPass trust id execution turns selected)

/-! ## Reads -/

/-- `ServiceApplication::admitted_state`. -/
def admittedState (trust : List AuthorizationTrust) (approvals : List SelectableApproval)
    (id : Text) : Action C ServiceError (Option OperationState) := do
  return (← retainedForSelection trust approvals id).retainedState

/-- `OperationStatus`. -/
inductive OperationStatus where
  | notFound
  | inProgress
  | notAttempted (rejection : TargetRejection)
  | succeeded
  | failed
  | unknown
  deriving DecidableEq, Repr

/-- `status_of`. -/
def statusOf (state : OperationState) (rejection : Option TargetRejection)
    (result : Option OperationResult) : Except ServiceError OperationStatus :=
  match state with
  | .requested | .authorized | .applyStarted | .receiverObserved => .ok .inProgress
  | .notAttempted =>
      match rejection with
      | some rejection => .ok (.notAttempted rejection)
      | none => .error .operationFailure
  | .finalized =>
      match result with
      | some .succeeded => .ok .succeeded
      | some .failed => .ok .failed
      | some .unknown => .ok .unknown
      | none => .error .operationFailure

/-- `ServiceApplication::status`. -/
def status (trust : List AuthorizationTrust) (id : Text) :
    Action C ServiceError (OperationStatus × OperationTargets) := do
  match ← mapErr mapGatewayError (Gateway.retainedGit (C := C) trust id) with
  | some retained =>
      let status ← check (statusOf retained.state retained.rejection retained.result)
      return (status, { git := some retained.targets })
  | none =>
      match ← mapErr mapGatewayError (Gateway.retainedOperation (C := C) trust id) with
      | none => return (.notFound, {})
      | some retained =>
          let status ← check (statusOf retained.operation.state
            retained.operation.targetRejection retained.operation.result)
          return (status, retained.operation.targets)

/-- `OperationReceipt`. -/
inductive OperationReceipt where
  | notFound
  | notReady
  | ready (bytes : Bytes) (sha256 : Text)
  deriving DecidableEq

/-- `Gateway::read_loaded_receipt`, for a finalized operation. -/
def loadedReceipt : LoadedOperation → OperationReceipt
  | .finalized operation => .ready operation.receipt.bytes operation.receipt.digest
  | _ => .notReady

/-- `ServiceApplication::receipt`. -/
def receipt (trust : List AuthorizationTrust) (id : Text) :
    Action C ServiceError OperationReceipt := do
  match ← mapErr mapGatewayError (Gateway.retainedGit (C := C) trust id) with
  | some retained =>
      match retained.receipt with
      | none => return .notReady
      | some (bytes, sha256) => return .ready bytes sha256
  | none =>
      match ← mapErr mapGatewayError (Gateway.retainedOperation (C := C) trust id) with
      | none => return .notFound
      | some retained => return loadedReceipt retained.operation

/-- `HistoryEntry`. -/
structure HistoryEntry where
  operationId : Text
  status : Except ServiceError (OperationStatus × OperationTargets)

/-- `HistoryPage`. -/
structure HistoryPage where
  entries : List HistoryEntry
  nextCursor : Option Text

/-- The entries of a page, each authenticated on its own. -/
def historyEntries (trust : List AuthorizationTrust) :
    List Text → Action C ServiceError (List HistoryEntry)
  | [] => return []
  | id :: rest => do
      let found ← (ExceptT.lift (status (C := C) trust id).run : Action C ServiceError _)
      return ⟨id, found⟩ :: (← historyEntries trust rest)

/-- `ServiceApplication::history`. -/
def history (trust : List AuthorizationTrust) (after : Option Text) :
    Action C ServiceError HistoryPage := do
  let ids ← mapErr mapGatewayError (Gateway.historyIds (C := C) after)
  let shown := ids.take 8
  let entries ← historyEntries trust shown
  return ⟨entries, if 8 < ids.length then shown.getLast? else none⟩

end Application
end Kapsel
