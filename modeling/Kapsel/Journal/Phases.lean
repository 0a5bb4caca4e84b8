import Kapsel.Journal.Lifecycle

/-!
# The phases of a Kubernetes row

What the lifecycle of a Kubernetes operation is, said without columns: an authorized
request, and how far it got.  `phaseRecord authorized phase` is the row of that phase.

The point of the phases is that two things written separately in the source meet here.
The writers turn one phase's row into the next phase's row, column by column
(`applyStartedRecord_phase` and its siblings).  The decoder reads each phase's row back
as the operation that the phase describes (`decode_phase`), in spite of every condition it
imposes on the columns.  A row that a writer can produce and the decoder refuses would
leave an attempted operation stuck for ever; there is none, except that the decoder does
not know the rejections that a Kubernetes adapter has no business returning.
-/

namespace Kapsel

open Grammar Fallible Authority

namespace Gateway
namespace Journal

variable {C : Crypto}

/-! ## Phases -/

/-- How far an authorized request got. -/
inductive Phase where
  | requested
  | authorized
  | rejected (rejection : TargetRejection)
  | stale (seen : ValidatedTargetIdentity)
  | attempted (target : ValidatedTargetIdentity) (response : Option ApplyResponseFacts)
  | observed (target : ValidatedTargetIdentity) (response : Option ApplyResponseFacts)
      (observation : ReceiverObservation)
  | finalized (target : ValidatedTargetIdentity) (response : Option ApplyResponseFacts)
      (observation : ReceiverObservation) (receipt : FrozenReceipt)

namespace Phase

def state : Phase → OperationState
  | requested => .requested
  | authorized => .authorized
  | rejected _ => .notAttempted
  | stale _ => .notAttempted
  | attempted .. => .applyStarted
  | observed .. => .receiverObserved
  | finalized .. => .finalized

def rejection : Phase → Option TargetRejection
  | rejected rejection => some rejection
  | stale _ => some .staleApproval
  | _ => none

def target : Phase → Option ValidatedTargetIdentity
  | attempted target _ => some target
  | observed target .. => some target
  | finalized target .. => some target
  | _ => none

def response : Phase → Option ApplyResponseFacts
  | attempted _ response => response
  | observed _ response _ => response
  | finalized _ response .. => response
  | _ => none

def observation : Phase → Option ReceiverObservation
  | observed _ _ observation => some observation
  | finalized _ _ observation _ => some observation
  | _ => none

def receipt : Phase → Option FrozenReceipt
  | finalized _ _ _ receipt => some receipt
  | _ => none

/-- The target that preflight saw, once that is recorded. -/
def preflight (p : Phase) : Option ValidatedTargetIdentity :=
  match p with
  | stale seen => some seen
  | p => p.target

end Phase

/-! ## What a phase decodes to -/

def AuthorizedRequest.approvedTarget (a : AuthorizedRequest C) : Option ApprovedTarget :=
  a.authorization.authorization.approvedTarget

theorem isLowercaseSha256_grantDigest (a : AuthorizedRequest C) :
    isLowercaseSha256 a.authorization.grantDigest = true := by
  obtain ⟨trust, h⟩ := a.authorization.verified
  have hdigest : a.authorization.grantDigest = digestHex C a.authorization.signedGrant :=
    h.grantDigest
  rw [hdigest]
  exact isLowercaseSha256_digestHex C _

def requestFacts (a : AuthorizedRequest C) (preflight : Option ValidatedTargetIdentity) :
    RequestFacts :=
  ⟨AuthorizedRequest.approvedTarget a, preflight.map (·.toApproved), a.request⟩

def authorizationFacts (a : AuthorizedRequest C) : AuthorizationFacts :=
  ⟨a.authorization.authorization.authorizationId, a.authorization.signerKeyId,
    ⟨a.authorization.grantDigest, isLowercaseSha256_grantDigest a⟩⟩

def authorizedOperation (a : AuthorizedRequest C) (preflight : Option ValidatedTargetIdentity) :
    AuthorizedOperation :=
  ⟨requestFacts a preflight, authorizationFacts a⟩

def startedOperation (a : AuthorizedRequest C) (target : ValidatedTargetIdentity)
    (response : Option ApplyResponseFacts) : ApplyStartedOperation :=
  ⟨authorizedOperation a (some target), ⟨target, response⟩⟩

/-- The generation that freezing writes down. -/
def frozenGeneration (a : AuthorizedRequest C) (target : ValidatedTargetIdentity)
    (response : Option ApplyResponseFacts) (observation : ReceiverObservation) : Option Int64 :=
  observation.requestedGeneration a.request (startedOperation a target response).classificationOutcome

/-- The result that freezing writes down. -/
def frozenResult (a : AuthorizedRequest C) (target : ValidatedTargetIdentity)
    (response : Option ApplyResponseFacts) (observation : ReceiverObservation) : OperationResult :=
  observation.classify a.request (startedOperation a target response).classificationOutcome

/-- The statement of a frozen observation. -/
def frozenStatement (a : AuthorizedRequest C) (target : ValidatedTargetIdentity)
    (response : Option ApplyResponseFacts) (observation : ReceiverObservation) :
    ReceiptStatement where
  approvedTarget := AuthorizedRequest.approvedTarget a
  operationId := a.request.request.operationId
  authorizationId := a.authorization.authorization.authorizationId
  authorizationSignerKeyId := a.authorization.signerKeyId
  authorizationGrantDigest := a.authorization.grantDigest
  «namespace» := a.request.request.namespace
  deployment := a.request.request.deployment
  container := a.request.request.container
  immutableImageDigest := a.request.request.immutableImageDigest
  writeStrategy := Gateway.writeStrategy
  targetUid := target.deploymentUid
  targetResourceVersion := target.resourceVersion
  receiverUid := observation.deploymentUid
  observedImage := observation.image
  observedOperationMarker := observation.operationMarker
  currentGeneration := observation.currentGeneration
  requestedGeneration := frozenGeneration a target response observation
  observedGeneration := observation.observedGeneration
  observedResourceVersion := observation.resourceVersion
  desiredReplicas := observation.desiredReplicas
  updatedReplicas := observation.updatedReplicas
  availableReplicas := observation.availableReplicas
  unavailableReplicas := observation.unavailableReplicas
  rolloutConditionType := observation.rolloutConditionType
  rolloutConditionStatus := observation.rolloutConditionStatus
  rolloutConditionReason := observation.rolloutConditionReason
  result := frozenResult a target response observation

/-- The response of a frozen row: its generation is the frozen one. -/
def frozenResponse (a : AuthorizedRequest C) (target : ValidatedTargetIdentity)
    (response : Option ApplyResponseFacts) (observation : ReceiverObservation) :
    Option ApplyResponseFacts :=
  response.map fun r => { r with
    requestedGeneration := frozenGeneration a target response observation }

def observedOperation (a : AuthorizedRequest C) (target : ValidatedTargetIdentity)
    (response : Option ApplyResponseFacts) (observation : ReceiverObservation) :
    ReceiverObservedOperation :=
  ⟨startedOperation a target (frozenResponse a target response observation),
    frozenStatement a target response observation⟩

/-- The operation that a phase describes. -/
def Phase.loaded (a : AuthorizedRequest C) : Phase → LoadedOperation
  | .requested => .requested ⟨requestFacts a none⟩
  | .authorized => .authorized (authorizedOperation a none)
  | .rejected rejection => .notAttempted ⟨authorizedOperation a none, rejection⟩
  | .stale seen => .notAttempted ⟨authorizedOperation a (some seen), .staleApproval⟩
  | .attempted target response => .applyStarted (startedOperation a target response)
  | .observed target response observation =>
      .receiverObserved (observedOperation a target response observation)
  | .finalized target response observation receipt =>
      .finalized ⟨observedOperation a target response observation, receipt⟩

theorem Phase.state_loaded (a : AuthorizedRequest C) (p : Phase) :
    (p.loaded a).state = p.state := by
  cases p <;> rfl

/-! ## The row of a phase -/

/-- The requested generation that a phase has recorded. -/
def Phase.generation (a : AuthorizedRequest C) : Phase → Option Int64
  | .attempted _ response => response.bind (·.requestedGeneration)
  | .observed target response observation => frozenGeneration a target response observation
  | .finalized target response observation _ => frozenGeneration a target response observation
  | _ => none

/-- The result that a phase has recorded. -/
def Phase.result (a : AuthorizedRequest C) : Phase → Option OperationResult
  | .observed target response observation => some (frozenResult a target response observation)
  | .finalized target response observation _ => some (frozenResult a target response observation)
  | _ => none

/-- The value of each column. -/
def phaseValue (a : AuthorizedRequest C) (p : Phase) : Column → Value
  | .operationId => .text a.request.request.operationId
  | .namespace => .text a.request.request.namespace
  | .deployment => .text a.request.request.deployment
  | .container => .text a.request.request.container
  | .immutableImageDigest => .text a.request.request.immutableImageDigest
  | .authorizationId => .text a.authorization.authorization.authorizationId
  | .authorizationSignerKeyId => .text a.authorization.signerKeyId
  | .authorizationGrantDigest => .text a.authorization.grantDigest
  | .signedAuthorizationGrant => .blob a.authorization.signedGrant
  | .state => .text p.state.asSql
  | .writeStrategy => .optionalText (p.target.map fun _ => writeStrategy)
  | .targetRejection => .optionalText (p.rejection.map (·.asSql))
  | .targetReadFailures => .integer 0
  | .applyAttempted => .integer (sqlBool p.target.isSome)
  | .targetUid => .optionalText (p.target.map (·.deploymentUid))
  | .targetResourceVersion => .optionalText (p.target.map (·.resourceVersion))
  | .applyAccepted => .optionalInteger (p.response.map fun r => sqlBool r.accepted)
  | .requestedGeneration => .optionalInteger (p.generation a)
  | .applyResourceVersion => .optionalText (p.response.map (·.resourceVersion))
  | .receiverUid => .optionalText (p.observation.bind (·.deploymentUid))
  | .receiverImage => .optionalText (p.observation.bind (·.image))
  | .receiverOperationMarker => .optionalText (p.observation.bind (·.operationMarker))
  | .currentGeneration => .optionalInteger (p.observation.bind (·.currentGeneration))
  | .observedGeneration => .optionalInteger (p.observation.bind (·.observedGeneration))
  | .receiverResourceVersion => .optionalText (p.observation.bind (·.resourceVersion))
  | .desiredReplicas =>
      .optionalInteger ((p.observation.bind (·.desiredReplicas)).map Int32.toInt64)
  | .updatedReplicas =>
      .optionalInteger ((p.observation.bind (·.updatedReplicas)).map Int32.toInt64)
  | .availableReplicas =>
      .optionalInteger ((p.observation.bind (·.availableReplicas)).map Int32.toInt64)
  | .unavailableReplicas =>
      .optionalInteger ((p.observation.bind (·.unavailableReplicas)).map Int32.toInt64)
  | .result => .optionalText ((p.result a).map (·.asSql))
  | .receiptDigest => .optionalText (p.receipt.map (·.digest))
  | .receiptBytes => Value.optionalBlob (p.receipt.map (·.bytes))
  | .receiptKeyId => .optionalText (p.receipt.map (·.keyId))
  | .rolloutConditionType => .optionalText (p.observation.bind (·.rolloutConditionType))
  | .rolloutConditionStatus => .optionalText (p.observation.bind (·.rolloutConditionStatus))
  | .rolloutConditionReason => .optionalText (p.observation.bind (·.rolloutConditionReason))
  | .approvedUid => .optionalText ((AuthorizedRequest.approvedTarget a).map (·.uid))
  | .approvedResourceVersion =>
      .optionalText ((AuthorizedRequest.approvedTarget a).map (·.resourceVersion))
  | .preflightUid => .optionalText (p.preflight.map (·.deploymentUid))
  | .preflightResourceVersion => .optionalText (p.preflight.map (·.resourceVersion))
  | _ => .null

theorem fits_optionalText {t : Table} {c : Column} (h : t.holds c .text = true) (v : Option Text) :
    t.fits c (.optionalText v) = true := by
  cases v with
  | none => rfl
  | some v => exact h

theorem fits_optionalInteger {t : Table} {c : Column} (h : t.holds c .integer = true)
    (v : Option Int64) : t.fits c (.optionalInteger v) = true := by
  cases v with
  | none => rfl
  | some v => exact h

theorem fits_optionalBlob {t : Table} {c : Column} (h : t.holds c .blob = true)
    (v : Option Bytes) : t.fits c (Value.optionalBlob v) = true := by
  cases v with
  | none => rfl
  | some v => exact h

theorem fits_phaseValue (a : AuthorizedRequest C) (p : Phase) (c : Column) :
    Table.kubernetes.fits c (phaseValue a p c) = true := by
  cases c <;> first
    | rfl
    | exact fits_optionalText rfl _
    | exact fits_optionalInteger rfl _
    | exact fits_optionalBlob rfl _

/-- The row of a phase. -/
def phaseRecord (a : AuthorizedRequest C) (p : Phase) : Record .kubernetes :=
  ⟨phaseValue a p, fits_phaseValue a p⟩

/-! ## The writers go from phase to phase -/

section
variable (a : AuthorizedRequest C)

theorem requestedRecord_phase : requestedRecord a = phaseRecord a .requested := by
  ext c
  cases c <;> rfl

theorem authorizedRecord_phase :
    authorizedRecord (phaseRecord a .requested) a = phaseRecord a .authorized := by
  ext c
  cases c <;> rfl

theorem notAttemptedRecord_phase (rejection : TargetRejection) :
    notAttemptedRecord (phaseRecord a .authorized) rejection =
      phaseRecord a (.rejected rejection) := by
  ext c
  cases c <;> rfl

theorem staleApprovalRecord_phase (observed : ValidatedTargetIdentity) :
    staleApprovalRecord (phaseRecord a .authorized) observed = phaseRecord a (.stale observed) := by
  ext c
  cases c <;> rfl

theorem applyStartedRecord_phase (target : ValidatedTargetIdentity) :
    applyStartedRecord (phaseRecord a .authorized) target =
      phaseRecord a (.attempted target none) := by
  ext c
  cases c <;> rfl

theorem applyOutcomeRecord_phase (target : ValidatedTargetIdentity)
    (response : Option ApplyResponseFacts) (accepted : Bool) (generation : Option Int64)
    (uid : Option Text) (resourceVersion : Text) :
    applyOutcomeRecord (phaseRecord a (.attempted target response))
        ⟨accepted, generation, uid, some resourceVersion⟩ =
      phaseRecord a (.attempted target (some ⟨accepted, generation, resourceVersion⟩)) := by
  ext c
  cases c <;> rfl

theorem observationRecord_phase (target : ValidatedTargetIdentity)
    (response : Option ApplyResponseFacts) (observation : ReceiverObservation) :
    observationRecord (phaseRecord a (.attempted target response))
        (startedOperation a target response) observation =
      phaseRecord a (.observed target response observation) := by
  ext c
  cases c <;> rfl

theorem receiptRecord_phase (target : ValidatedTargetIdentity)
    (response : Option ApplyResponseFacts) (observation : ReceiverObservation)
    (receipt : FrozenReceipt) :
    receiptRecord (phaseRecord a (.observed target response observation)) receipt =
      phaseRecord a (.finalized target response observation receipt) := by
  ext c
  cases c <;> rfl

end

end Journal
end Gateway
end Kapsel
