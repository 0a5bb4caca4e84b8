import Kapsel.Gateway.Request
import Mathlib.Tactic.SplitIfs

/-!
# Bounded Kubernetes facts and their classification

`src/gateway/kubernetes/facts.rs`.  This is pure policy: what a target, an apply
response and a receiver observation must satisfy, and which result an observation
establishes for a request.

## One observation, three classifications

The result of an operation is computed at freezing, when the row is decoded, and when
the receipt is inspected.  The three see different outcomes: the first sees the one
retained from the apply response, the other two see the generation that freezing wrote
down and nothing else of the response.  `Freezes.observationResult_eq` says that this
makes no difference: an outcome that names the same Deployment and the generation that
`requestedGeneration` computed classifies the observation alike.
-/

namespace Kapsel

open Grammar Fallible Authority

namespace Gateway

/-! ## Targets and outcomes -/

/-- `validate_required_fact`. -/
def validateRequiredFact (value : Text) : Except GatewayError Unit :=
  require (factIsValid value) .invalidKubernetesFact

/-- `validate_optional_fact`. -/
def validateOptionalFact (value : Option Text) : Except GatewayError Unit :=
  require (value.all factIsValid) .invalidKubernetesFact

/-- `TargetIdentity`. -/
structure TargetIdentity where
  deploymentUid : Text
  resourceVersion : Text
  deriving DecidableEq

/-- `TargetIdentity::validate`. -/
def TargetIdentity.validate (target : TargetIdentity) : Except GatewayError Unit := do
  validateRequiredFact target.deploymentUid
  validateRequiredFact target.resourceVersion

/-- `ValidatedTargetIdentity`. -/
structure ValidatedTargetIdentity where
  target : TargetIdentity
  valid : target.validate = .ok ()
  deriving DecidableEq

/-- `ValidatedTargetIdentity::try_from`. -/
def ValidatedTargetIdentity.tryFrom (target : TargetIdentity) :
    Except GatewayError ValidatedTargetIdentity :=
  match h : target.validate with
  | .ok () => .ok ⟨target, h⟩
  | .error error => .error error

def ValidatedTargetIdentity.deploymentUid (v : ValidatedTargetIdentity) : Text :=
  v.target.deploymentUid

def ValidatedTargetIdentity.resourceVersion (v : ValidatedTargetIdentity) : Text :=
  v.target.resourceVersion

/-- `ValidatedTargetIdentity::to_adapter_target`. -/
def ValidatedTargetIdentity.toAdapterTarget (v : ValidatedTargetIdentity) : TargetIdentity :=
  v.target

/-- The same identity in the words of an approval. -/
def ValidatedTargetIdentity.toApproved (v : ValidatedTargetIdentity) : ApprovedTarget :=
  ⟨v.deploymentUid, v.resourceVersion⟩

theorem TargetIdentity.validate_eq_ok {target : TargetIdentity} {u : Unit} :
    target.validate = .ok u ↔
      factIsValid target.deploymentUid = true ∧ factIsValid target.resourceVersion = true := by
  unfold TargetIdentity.validate
  rw [bind_eq_ok]
  constructor
  · rintro ⟨_, h1, h2⟩
    exact ⟨require_eq_ok.mp h1, require_eq_ok.mp h2⟩
  · rintro ⟨h1, h2⟩
    exact ⟨(), require_of_true h1, require_of_true h2⟩

theorem ValidatedTargetIdentity.tryFrom_eq_ok {target : TargetIdentity}
    {v : ValidatedTargetIdentity} :
    ValidatedTargetIdentity.tryFrom target = .ok v ↔ v.target = target := by
  unfold ValidatedTargetIdentity.tryFrom
  split
  · constructor
    · intro h
      rw [← Except.ok.inj h]
    · rintro rfl
      rfl
  · rename_i h
    constructor
    · intro h'
      cases h'
    · rintro rfl
      rw [v.valid] at h
      cases h

theorem ValidatedTargetIdentity.isValid_toApproved (v : ValidatedTargetIdentity) :
    v.toApproved.isValid = true := by
  obtain ⟨h1, h2⟩ := TargetIdentity.validate_eq_ok.mp v.valid
  rw [ApprovedTarget.isValid, List.all_eq_true]
  intro value hvalue
  rcases List.mem_cons.mp hvalue with rfl | hvalue
  · exact h1
  · rw [List.mem_singleton.mp hvalue]
    exact h2

/-- `ApplyOutcome`. -/
structure ApplyOutcome where
  accepted : Bool
  requestedGeneration : Option Int64
  deploymentUid : Option Text
  resourceVersion : Option Text
  deriving DecidableEq

/-- `ApplyOutcome::validate`. -/
def ApplyOutcome.validate (outcome : ApplyOutcome) : Except GatewayError Unit := do
  validateOptionalFact outcome.deploymentUid
  validateOptionalFact outcome.resourceVersion
  require (!outcome.requestedGeneration.any (· < 0)) .invalidKubernetesFact

theorem ApplyOutcome.validate_eq_ok {outcome : ApplyOutcome} {u : Unit} :
    outcome.validate = .ok u ↔
      outcome.deploymentUid.all factIsValid = true ∧
        outcome.resourceVersion.all factIsValid = true ∧
        outcome.requestedGeneration.any (· < 0) = false := by
  unfold ApplyOutcome.validate
  simp only [bind_eq_ok, validateOptionalFact, require_eq_ok, exists_and_left, exists_const,
    Bool.not_eq_true']

/-! ## Observations -/

/-- `ReceiverObservation`. -/
structure ReceiverObservation where
  deploymentUid : Option Text
  resourceVersion : Option Text
  currentGeneration : Option Int64
  observedGeneration : Option Int64
  image : Option Text
  operationMarker : Option Text
  desiredReplicas : Option Int32
  updatedReplicas : Option Int32
  availableReplicas : Option Int32
  unavailableReplicas : Option Int32
  rolloutConditionType : Option Text
  rolloutConditionStatus : Option Text
  rolloutConditionReason : Option Text
  deriving DecidableEq

namespace ReceiverObservation

/-- `ReceiverObservation::unknown`. -/
def unknown : ReceiverObservation :=
  ⟨none, none, none, none, none, none, none, none, none, none, none, none, none⟩

/-- The texts that are bounded facts, in the order in which they are checked. -/
def facts (o : ReceiverObservation) : List (Option Text) :=
  [o.deploymentUid, o.resourceVersion, o.operationMarker, o.rolloutConditionType,
    o.rolloutConditionStatus, o.rolloutConditionReason]

/-- A condition has a type and a status together, and a reason only with them. -/
def conditionIsWhole (o : ReceiverObservation) : Bool :=
  o.rolloutConditionType.isSome = o.rolloutConditionStatus.isSome &&
    !(!o.rolloutConditionType.isSome && o.rolloutConditionReason.isSome)

/-- No generation and no replica count is negative. -/
def countsAreNonnegative (o : ReceiverObservation) : Bool :=
  !(o.currentGeneration.any (· < 0) || o.observedGeneration.any (· < 0) ||
    [o.desiredReplicas, o.updatedReplicas, o.availableReplicas, o.unavailableReplicas].any
      fun count => count.any (· < 0))

/-- `ReceiverObservation::validate`.  Every refusal is the same error. -/
def validate (o : ReceiverObservation) : Except GatewayError Unit := do
  forM o.facts validateOptionalFact
  require o.conditionIsWhole .invalidKubernetesFact
  require o.countsAreNonnegative .invalidKubernetesFact
  require (o.image.all immutableImageIsValid) .invalidKubernetesFact

/-- The marker and the image are those of the operation. -/
def operationMatches (o : ReceiverObservation) (operationId immutableImageDigest : Text) : Bool :=
  o.operationMarker = some operationId && o.image = some immutableImageDigest

/-- `available_condition`. -/
def availableCondition (o : ReceiverObservation) : Bool :=
  o.rolloutConditionType = some (utf8 "Available") && o.rolloutConditionStatus = some (utf8 "True")

/-- `progress_deadline_exceeded`. -/
def progressDeadlineExceeded (o : ReceiverObservation) : Bool :=
  o.rolloutConditionType = some (utf8 "Progressing") &&
    o.rolloutConditionStatus = some (utf8 "False") &&
    o.rolloutConditionReason = some (utf8 "ProgressDeadlineExceeded")

/-- `requested_generation_for`: the generation of the response, or else the current one
when the receiver shows this operation on the same Deployment. -/
def requestedGenerationFor (o : ReceiverObservation) (operationId immutableImageDigest : Text)
    (outcome : ApplyOutcome) : Option Int64 :=
  outcome.requestedGeneration.or
    (if o.operationMatches operationId immutableImageDigest &&
        (outcome.deploymentUid.isSome && o.deploymentUid = outcome.deploymentUid) then
      o.currentGeneration
    else none)

/-- The replica counts show every desired replica updated and available. -/
def replicaCountsEstablishAvailability (o : ReceiverObservation) : Bool :=
  o.desiredReplicas.isSome && o.updatedReplicas = o.desiredReplicas &&
    o.availableReplicas = o.desiredReplicas && o.unavailableReplicas = some 0

/-- The receiver shows this operation, on this Deployment, at the requested generation. -/
def establishesGeneration (o : ReceiverObservation) (operationId immutableImageDigest : Text)
    (outcome : ApplyOutcome) : Bool :=
  (o.requestedGenerationFor operationId immutableImageDigest outcome).any fun requested =>
    o.operationMatches operationId immutableImageDigest && outcome.deploymentUid.isSome &&
      o.deploymentUid = outcome.deploymentUid && o.currentGeneration = some requested &&
      o.observedGeneration.any fun observed => requested ≤ observed

/-- `observation_result`. -/
def observationResult (o : ReceiverObservation) (operationId immutableImageDigest : Text)
    (outcome : ApplyOutcome) : OperationResult :=
  if o.establishesGeneration operationId immutableImageDigest outcome &&
      o.progressDeadlineExceeded then .failed
  else if o.establishesGeneration operationId immutableImageDigest outcome &&
      (o.replicaCountsEstablishAvailability && o.availableCondition) then .succeeded
  else .unknown

/-- `requested_generation`. -/
def requestedGeneration (o : ReceiverObservation) (request : ValidatedRequest)
    (outcome : ApplyOutcome) : Option Int64 :=
  o.requestedGenerationFor request.request.operationId request.request.immutableImageDigest outcome

/-- `classify`. -/
def classify (o : ReceiverObservation) (request : ValidatedRequest) (outcome : ApplyOutcome) :
    OperationResult :=
  o.observationResult request.request.operationId request.request.immutableImageDigest outcome

/-- `observation_is_complete`. -/
def observationIsComplete (o : ReceiverObservation) (request : SetDeploymentImageRequest)
    (outcome : ApplyOutcome) : Bool :=
  o.observationResult request.operationId request.immutableImageDigest outcome ≠ .unknown

/-! ## What validation establishes -/

/-- The bounded grammar of an observation. -/
structure Valid (o : ReceiverObservation) : Prop where
  facts : ∀ fact ∈ o.facts, fact.all factIsValid = true
  conditionIsWhole : o.conditionIsWhole = true
  countsAreNonnegative : o.countsAreNonnegative = true
  image : o.image.all immutableImageIsValid = true

theorem forM_validateOptionalFact {facts : List (Option Text)} {u : Unit} :
    forM facts validateOptionalFact = .ok u ↔ ∀ fact ∈ facts, fact.all factIsValid = true := by
  induction facts with
  | nil => exact ⟨fun _ _ h => absurd h List.not_mem_nil, fun _ => rfl⟩
  | cons fact facts ih =>
    rw [List.forM_cons, bind_eq_ok, List.forall_mem_cons]
    constructor
    · rintro ⟨_, h, hrest⟩
      exact ⟨require_eq_ok.mp h, ih.mp hrest⟩
    · rintro ⟨h, hrest⟩
      exact ⟨(), require_of_true h, ih.mpr hrest⟩

theorem validate_eq_ok {o : ReceiverObservation} {u : Unit} : o.validate = .ok u ↔ o.Valid := by
  unfold validate
  simp only [bind_eq_ok, require_eq_ok, exists_and_left, exists_const]
  constructor
  · rintro ⟨_, h1, h2, h3, h4⟩
    exact ⟨forM_validateOptionalFact.mp h1, h2, h3, h4⟩
  · rintro ⟨h1, h2, h3, h4⟩
    exact ⟨(), forM_validateOptionalFact.mpr h1, h2, h3, h4⟩

/-- Every refusal of a fact is the same error. -/
theorem forM_validateOptionalFact_cases (facts : List (Option Text)) :
    forM facts validateOptionalFact = .ok () ∨
      forM facts validateOptionalFact = .error .invalidKubernetesFact := by
  induction facts with
  | nil => exact .inl rfl
  | cons fact facts ih =>
    rw [List.forM_cons, validateOptionalFact, require]
    split
    · exact ih
    · exact .inr rfl

theorem validate_eq_error {o : ReceiverObservation} (h : ¬ o.Valid) :
    o.validate = .error .invalidKubernetesFact := by
  have hnot : ∀ u, o.validate ≠ .ok u := fun u hu => h (validate_eq_ok.mp hu)
  unfold validate at hnot ⊢
  rcases forM_validateOptionalFact_cases o.facts with hfacts | hfacts
  · rw [hfacts] at hnot ⊢
    simp only [require] at hnot ⊢
    split_ifs at hnot ⊢ with h1 h2 h3
    · exact absurd rfl (hnot ())
    all_goals rfl
  · rw [hfacts]
    rfl

/-! ## Classification from the frozen generation -/

section
variable {o : ReceiverObservation} {operationId image : Text} {outcome frozen : ApplyOutcome}

/-- The frozen generation is the one freezing computed, on the same Deployment. -/
structure Freezes (o : ReceiverObservation) (operationId image : Text)
    (outcome frozen : ApplyOutcome) : Prop where
  generation : frozen.requestedGeneration = o.requestedGenerationFor operationId image outcome
  deploymentUid : frozen.deploymentUid = outcome.deploymentUid

/-- The generation computed from a frozen outcome is the frozen one. -/
theorem Freezes.requestedGenerationFor_eq (h : o.Freezes operationId image outcome frozen) :
    o.requestedGenerationFor operationId image frozen =
      o.requestedGenerationFor operationId image outcome := by
  unfold requestedGenerationFor
  rw [h.generation, h.deploymentUid]
  unfold requestedGenerationFor
  cases outcome.requestedGeneration with
  | some generation => rfl
  | none =>
    split
    · cases o.currentGeneration with
      | some generation => rfl
      | none => rfl
    · rfl

/-- **The frozen generation classifies like the original outcome.** -/
theorem Freezes.observationResult_eq (h : o.Freezes operationId image outcome frozen) :
    o.observationResult operationId image frozen = o.observationResult operationId image outcome := by
  have hgeneration := h.requestedGenerationFor_eq
  have hestablishes : o.establishesGeneration operationId image frozen =
      o.establishesGeneration operationId image outcome := by
    unfold establishesGeneration
    rw [hgeneration, h.deploymentUid]
  unfold observationResult
  rw [hestablishes]

/-- A frozen generation of a valid observation is not negative, provided the
response's is not. -/
theorem Valid.requestedGenerationFor_nonneg (h : o.Valid)
    (houtcome : outcome.requestedGeneration.any (· < 0) = false) :
    (o.requestedGenerationFor operationId image outcome).any (· < 0) = false := by
  have hcounts := h.countsAreNonnegative
  simp only [ReceiverObservation.countsAreNonnegative, Bool.not_eq_true', Bool.or_eq_false_iff]
    at hcounts
  unfold requestedGenerationFor
  cases hgeneration : outcome.requestedGeneration with
  | some generation =>
    rw [hgeneration] at houtcome
    exact houtcome
  | none =>
    rw [Option.none_or]
    split
    · exact hcounts.1.1
    · rfl

end

end ReceiverObservation

end Gateway
end Kapsel
