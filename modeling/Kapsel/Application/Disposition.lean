import Kapsel.Application.Service

/-!
# What the caller can do next

`src/application/service/disposition.rs`: a status says what is recorded, and the process adds what
it knows of its own work.  `ExecutionDisposition.project` puts the two together.  Only an operation
that is in progress depends on the process: what is complete stays complete, and what is not
recorded is not claimed to be missing.
-/

namespace Kapsel

open Authority Interaction

namespace Application

variable {C : Crypto}

/-- `ExecutionCondition::as_str`. -/
def ExecutionCondition.asStr : ExecutionCondition → Text
  | .preflightUnavailable => utf8 "preflight_unavailable"
  | .receiverUnavailable => utf8 "receiver_unavailable"
  | .signingUnavailable => utf8 "signing_unavailable"
  | .workerContention => utf8 "worker_contention"
  | .completionBlocked => utf8 "completion_blocked"
  | .operationBlocked => utf8 "operation_blocked"

/-- `ExecutionObservation`: what the process knows of the work under an identity. -/
inductive ExecutionObservation where
  | unknown
  | active
  | otherWorker
  | stopped (condition : ExecutionCondition)
  deriving DecidableEq, Repr

/-- `ServiceStop::observation`. -/
def ServiceStop.observation : Except ServiceError ServiceStop → ExecutionObservation
  | .ok .finished => .unknown
  | .ok (.blocked condition) => .stopped condition
  | .error _ => .stopped .operationBlocked

/-- `ExecutionDisposition`. -/
inductive ExecutionDisposition where
  | complete
  | admissionUnconfirmed
  | active
  | waitingForWorker
  | resumeRequired (condition : Option ExecutionCondition)
  | operatorRequired (condition : ExecutionCondition)
  deriving DecidableEq, Repr

namespace ExecutionDisposition

/-- `ExecutionDisposition::project`. -/
def project : OperationStatus → ExecutionObservation → ExecutionDisposition
  | .notFound, _ => .admissionUnconfirmed
  | .notAttempted _, _ => .complete
  | .succeeded, _ => .complete
  | .failed, _ => .complete
  | .unknown, _ => .complete
  | .inProgress, .unknown => .resumeRequired none
  | .inProgress, .active => .active
  | .inProgress, .otherWorker => .waitingForWorker
  | .inProgress, .stopped .workerContention => .resumeRequired (some .workerContention)
  | .inProgress, .stopped .preflightUnavailable => .resumeRequired (some .preflightUnavailable)
  | .inProgress, .stopped condition => .operatorRequired condition

/-- `ExecutionDisposition::as_str`. -/
def asStr : ExecutionDisposition → Text
  | complete => utf8 "complete"
  | admissionUnconfirmed => utf8 "admission_unconfirmed"
  | active => utf8 "active"
  | waitingForWorker => utf8 "waiting_for_worker"
  | resumeRequired _ => utf8 "resume_required"
  | operatorRequired _ => utf8 "operator_required"

/-- `ExecutionDisposition::next_action`. -/
def nextAction : ExecutionDisposition → Text
  | complete => utf8 "inspect_result"
  | admissionUnconfirmed => utf8 "read_same_id"
  | active => utf8 "wait"
  | waitingForWorker => utf8 "wait_then_select_same_id"
  | resumeRequired _ => utf8 "select_same_id"
  | operatorRequired _ => utf8 "contact_operator"

/-- `ExecutionDisposition::action_owner`. -/
def actionOwner : ExecutionDisposition → Text
  | operatorRequired _ => utf8 "operator"
  | _ => utf8 "caller"

/-- `ExecutionDisposition::condition`. -/
def condition : ExecutionDisposition → Option ExecutionCondition
  | resumeRequired condition => condition
  | operatorRequired condition => some condition
  | _ => none

end ExecutionDisposition

/-- The status, the targets, and what the caller can do next. -/
def disposed (observation : ExecutionObservation) (found : OperationStatus × Gateway.OperationTargets) :
    OperationStatus × Gateway.OperationTargets × ExecutionDisposition :=
  (found.1, found.2, .project found.1 observation)

/-- `ServiceApplication::execution_status`. -/
def executionStatus (trust : List AuthorizationTrust) (id : Text)
    (observation : ExecutionObservation) : Gateway.Action C ServiceError
      (OperationStatus × Gateway.OperationTargets × ExecutionDisposition) := do
  return disposed observation (← status (C := C) trust id)

/-- `HistoryEntry::execution_status`. -/
def HistoryEntry.executionStatus (entry : HistoryEntry) (observation : ExecutionObservation) :
    Except ServiceError (OperationStatus × Gateway.OperationTargets × ExecutionDisposition) :=
  entry.status.map (disposed observation)

/-- **What is complete needs nothing more of anybody**, whatever the process knows. -/
theorem project_eq_complete_iff {status : OperationStatus} {observation : ExecutionObservation} :
    ExecutionDisposition.project status observation = .complete ↔
      status ≠ .notFound ∧ status ≠ .inProgress := by
  constructor
  · intro h
    refine ⟨?_, ?_⟩
    · rintro rfl
      cases h
    · rintro rfl
      cases observation with
      | stopped condition => cases condition <;> cases h
      | _ => cases h
  · rintro ⟨hfound, hprogress⟩
    cases status with
    | notFound => exact absurd rfl hfound
    | inProgress => exact absurd rfl hprogress
    | _ => rfl

end Application
end Kapsel
