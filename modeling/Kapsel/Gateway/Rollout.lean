import Kapsel.Gateway.Adapter

/-!
# What a Deployment establishes

`docs/reference/kubernetes_effect.md`, "Result meaning": the result of an operation as a
predicate of the whole Deployment that the API server returned.

The code decides in two steps.  `receiver_observation` copies a few facts, and of all the
conditions it keeps at most one: an exceeded progress deadline, or else an availability.
`observation_result` then sees that one.  The reference speaks of the Deployment, where a
condition stands somewhere in a list.

* `exists_progressDeadlineExceeded_iff` and `availableCondition_receiverObservation`: what
  the kept condition says of the list it was taken from.
* `establishesGeneration_receiverObservation`: the binding of the observation is the one
  of the reference.
* `classify_iff_documented`: the two agree, and the order of the conditions does not
  matter.
-/

namespace Kapsel

open Fallible

namespace Gateway

/-! ## The documented predicate -/

namespace DeploymentCondition

/-- `Progressing=False` with reason `ProgressDeadlineExceeded`. -/
def DeadlineExceeded (condition : DeploymentCondition) : Prop :=
  condition.type = utf8 "Progressing" ∧ condition.status = utf8 "False" ∧
    condition.reason = some (utf8 "ProgressDeadlineExceeded")

/-- `Available=True`. -/
def Available (condition : DeploymentCondition) : Prop :=
  condition.type = utf8 "Available" ∧ condition.status = utf8 "True"

instance (condition : DeploymentCondition) : Decidable condition.DeadlineExceeded :=
  inferInstanceAs (Decidable (_ ∧ _ ∧ _))

instance (condition : DeploymentCondition) : Decidable condition.Available :=
  inferInstanceAs (Decidable (_ ∧ _))

theorem not_available_of_deadlineExceeded {condition : DeploymentCondition}
    (h : condition.DeadlineExceeded) : ¬ condition.Available := by
  intro havailable
  have htype : utf8 "Progressing" = utf8 "Available" := h.1.symm.trans havailable.1
  exact absurd htype (by decide)

end DeploymentCondition

namespace Deployment

/-- The conditions of a Deployment, none if it has no status. -/
def conditions (d : Deployment) : List DeploymentCondition :=
  ((d.status.bind (·.conditions)).getD [])

/-- The operation marker. -/
def operationMarker (d : Deployment) : Option Text :=
  d.metadata.annotations.bind (·.lookup operationAnnotation)

/-- The image of the first container of a name. -/
def imageOf (d : Deployment) (container : Text) : Option Text :=
  ((d.spec.bind (·.podContainers)).bind fun containers =>
    containers.find? fun c => c.name = container).bind (·.image)

section
variable (d : Deployment) (request : SetDeploymentImageRequest) (outcome : ApplyOutcome)

/-- The receiver is the Deployment of the response, and shows the operation's marker and
image. -/
structure ShowsOperation : Prop where
  receiverUid : outcome.deploymentUid ≠ none ∧ d.metadata.uid = outcome.deploymentUid
  marker : d.operationMarker = some request.operationId
  image : d.imageOf request.container = some request.immutableImageDigest

/-- The requested generation is known to be `generation`: the response named it, or the
response named none and it is the current one of a receiver that shows the operation. -/
def RequestedGeneration (generation : Int64) : Prop :=
  outcome.requestedGeneration = some generation ∨
    outcome.requestedGeneration = none ∧ d.ShowsOperation request outcome ∧
      d.metadata.generation = some generation

/-- What the reference requires before any result. -/
structure BindsOperation : Prop where
  shows : d.ShowsOperation request outcome
  generation : ∃ requested, d.RequestedGeneration request outcome requested ∧
    d.metadata.generation = some requested ∧
    ∃ observed, d.status.bind (·.observedGeneration) = some observed ∧ requested ≤ observed

/-- Every desired replica is updated and available, and none is unavailable. -/
def AllReplicasAvailable : Prop :=
  ∃ desired status, d.spec.bind (·.replicas) = some desired ∧ d.status = some status ∧
    status.updatedReplicas.getD 0 = desired ∧ status.availableReplicas.getD 0 = desired ∧
    status.unavailableReplicas.getD 0 = 0

/-- The documented failure. -/
def DocumentsFailure : Prop :=
  d.BindsOperation request outcome ∧ ∃ condition ∈ d.conditions, condition.DeadlineExceeded

/-- The documented success. -/
def DocumentsSuccess : Prop :=
  d.BindsOperation request outcome ∧
    (¬ ∃ condition ∈ d.conditions, condition.DeadlineExceeded) ∧
    (∃ condition ∈ d.conditions, condition.Available) ∧ d.AllReplicasAvailable

end

/-- The same Deployment with its conditions in another order. -/
def Reordered (d d' : Deployment) : Prop :=
  ∃ status conditions conditions', d.status = some status ∧
    status.conditions = some conditions ∧ conditions.Perm conditions' ∧
    d' = { d with status := some { status with conditions := some conditions' } }

end Deployment

/-! ## The kept condition -/

/-- An exceeded deadline that is kept stands in the list. -/
theorem rolloutCondition_eq_some {conditions : List DeploymentCondition}
    {condition : DeploymentCondition} (h : rolloutCondition conditions = some condition) :
    condition ∈ conditions ∧ (condition.DeadlineExceeded ∨
      condition.Available ∧ ¬ ∃ other ∈ conditions, other.DeadlineExceeded) := by
  unfold rolloutCondition at h
  rcases Option.or_eq_some_iff.mp h with hdeadline | ⟨hnone, havailable⟩
  · have hholds := List.find?_some hdeadline
    simp only [Bool.and_eq_true, decide_eq_true_eq] at hholds
    exact ⟨List.mem_of_find?_eq_some hdeadline, .inl ⟨hholds.1.1, hholds.1.2, hholds.2⟩⟩
  · have hholds := List.find?_some havailable
    simp only [Bool.and_eq_true, decide_eq_true_eq] at hholds
    refine ⟨List.mem_of_find?_eq_some havailable, .inr ⟨hholds, ?_⟩⟩
    rintro ⟨other, hmem, htype, hstatus, hreason⟩
    have hother := List.find?_eq_none.mp hnone other hmem
    simp only [Bool.and_eq_true, decide_eq_true_eq] at hother
    exact hother ⟨⟨htype, hstatus⟩, hreason⟩

/-- **An exceeded deadline is kept wherever it stands.** -/
theorem exists_progressDeadlineExceeded_iff (conditions : List DeploymentCondition) :
    (∃ condition, rolloutCondition conditions = some condition ∧ condition.DeadlineExceeded) ↔
      ∃ condition ∈ conditions, condition.DeadlineExceeded := by
  constructor
  · rintro ⟨condition, hkept, hdeadline⟩
    exact ⟨condition, (rolloutCondition_eq_some hkept).1, hdeadline⟩
  · rintro ⟨condition, hmem, htype, hstatus, hreason⟩
    cases hfind : conditions.find? fun condition => condition.type = utf8 "Progressing" &&
        condition.status = utf8 "False" &&
        condition.reason = some (utf8 "ProgressDeadlineExceeded") with
    | none =>
      have hother := List.find?_eq_none.mp hfind condition hmem
      simp only [Bool.and_eq_true, decide_eq_true_eq] at hother
      exact absurd ⟨⟨htype, hstatus⟩, hreason⟩ hother
    | some kept =>
      have hholds := List.find?_some hfind
      simp only [Bool.and_eq_true, decide_eq_true_eq] at hholds
      refine ⟨kept, ?_, hholds.1.1, hholds.1.2, hholds.2⟩
      rw [rolloutCondition, hfind, Option.some_or]

/-- **An availability is kept unless a deadline was exceeded.** -/
theorem exists_available_iff (conditions : List DeploymentCondition) :
    (∃ condition, rolloutCondition conditions = some condition ∧ condition.Available) ↔
      (¬ ∃ condition ∈ conditions, condition.DeadlineExceeded) ∧
        ∃ condition ∈ conditions, condition.Available := by
  constructor
  · rintro ⟨condition, hkept, havailable⟩
    obtain ⟨hmem, hdeadline | ⟨-, hnone⟩⟩ := rolloutCondition_eq_some hkept
    · exact absurd havailable (DeploymentCondition.not_available_of_deadlineExceeded hdeadline)
    · exact ⟨hnone, condition, hmem, havailable⟩
  · rintro ⟨hnone, condition, hmem, htype, hstatus⟩
    cases hkept : rolloutCondition conditions with
    | none =>
      have havailable := (Option.or_eq_none_iff.mp hkept).2
      have hother := List.find?_eq_none.mp havailable condition hmem
      simp only [Bool.and_eq_true, decide_eq_true_eq] at hother
      exact absurd ⟨htype, hstatus⟩ hother
    | some kept =>
      obtain ⟨hkeptMem, hdeadline | ⟨havailable, -⟩⟩ := rolloutCondition_eq_some hkept
      · exact absurd ⟨kept, hkeptMem, hdeadline⟩ hnone
      · exact ⟨kept, rfl, havailable⟩

/-! ## The observation -/

section
variable (request : SetDeploymentImageRequest) (d : Deployment) (outcome : ApplyOutcome)

/-- The condition kept of a Deployment. -/
def keptCondition (d : Deployment) : Option DeploymentCondition :=
  (d.status.bind (·.conditions)).bind rolloutCondition

theorem keptCondition_eq : keptCondition d = rolloutCondition d.conditions := by
  unfold keptCondition Deployment.conditions
  cases d.status.bind (·.conditions) with
  | none => rfl
  | some conditions => rfl

theorem progressDeadlineExceeded_receiverObservation :
    (receiverObservation request d).progressDeadlineExceeded = true ↔
      ∃ condition ∈ d.conditions, condition.DeadlineExceeded := by
  rw [← exists_progressDeadlineExceeded_iff, ← keptCondition_eq]
  unfold ReceiverObservation.progressDeadlineExceeded
  simp only [Bool.and_eq_true, decide_eq_true_eq]
  show (((keptCondition d).map (·.type) = _ ∧ (keptCondition d).map (·.status) = _) ∧
    (keptCondition d).bind (·.reason) = _) ↔ _
  cases keptCondition d with
  | none => simp
  | some condition => simp [DeploymentCondition.DeadlineExceeded, and_assoc]

theorem availableCondition_receiverObservation :
    (receiverObservation request d).availableCondition = true ↔
      (¬ ∃ condition ∈ d.conditions, condition.DeadlineExceeded) ∧
        ∃ condition ∈ d.conditions, condition.Available := by
  rw [← exists_available_iff, ← keptCondition_eq]
  unfold ReceiverObservation.availableCondition
  simp only [Bool.and_eq_true, decide_eq_true_eq]
  show ((keptCondition d).map (·.type) = _ ∧ (keptCondition d).map (·.status) = _) ↔ _
  cases keptCondition d with
  | none => simp
  | some condition => simp [DeploymentCondition.Available]

theorem showsOperation_iff :
    d.ShowsOperation request outcome ↔
      (receiverObservation request d).operationMatches request.operationId
          request.immutableImageDigest = true ∧
        outcome.deploymentUid.isSome = true ∧ d.metadata.uid = outcome.deploymentUid := by
  unfold ReceiverObservation.operationMatches
  rw [Bool.and_eq_true, decide_eq_true_eq, decide_eq_true_eq, Option.isSome_iff_ne_none]
  constructor
  · rintro ⟨⟨hsome, huid⟩, hmarker, himage⟩
    exact ⟨⟨hmarker, himage⟩, hsome, huid⟩
  · rintro ⟨⟨hmarker, himage⟩, hsome, huid⟩
    exact ⟨⟨hsome, huid⟩, hmarker, himage⟩

theorem requestedGenerationFor_receiverObservation (generation : Int64) :
    (receiverObservation request d).requestedGenerationFor request.operationId
        request.immutableImageDigest outcome = some generation ↔
      d.RequestedGeneration request outcome generation := by
  unfold ReceiverObservation.requestedGenerationFor Deployment.RequestedGeneration
  rw [Option.or_eq_some_iff, showsOperation_iff]
  refine or_congr Iff.rfl (and_congr Iff.rfl ?_)
  have hcurrent : (receiverObservation request d).currentGeneration = d.metadata.generation := rfl
  have huid : (receiverObservation request d).deploymentUid = d.metadata.uid := rfl
  rw [hcurrent, huid]
  split_ifs with hshows
  · simp only [Bool.and_eq_true, decide_eq_true_eq] at hshows
    exact ⟨fun h => ⟨hshows, h⟩, fun h => h.2⟩
  · simp only [Bool.and_eq_true, decide_eq_true_eq] at hshows
    exact ⟨fun h => (nomatch h), fun h => absurd h.1 hshows⟩

/-- **The binding of the observation is the documented one.** -/
theorem establishesGeneration_receiverObservation :
    (receiverObservation request d).establishesGeneration request.operationId
        request.immutableImageDigest outcome = true ↔ d.BindsOperation request outcome := by
  unfold ReceiverObservation.establishesGeneration
  rw [Option.any_eq_true]
  constructor
  · rintro ⟨requested, hrequested, hbinds⟩
    simp only [Bool.and_eq_true, decide_eq_true_eq, Option.any_eq_true] at hbinds
    obtain ⟨⟨⟨⟨hmatches, hsome⟩, huid⟩, hcurrent⟩, observed, hobserved, hle⟩ := hbinds
    exact ⟨(showsOperation_iff request d outcome).mpr ⟨hmatches, hsome, huid⟩, requested,
      (requestedGenerationFor_receiverObservation request d outcome requested).mp hrequested,
      hcurrent, observed, hobserved, hle⟩
  · rintro ⟨hshows, requested, hrequested, hcurrent, observed, hobserved, hle⟩
    obtain ⟨hmatches, hsome, huid⟩ := (showsOperation_iff request d outcome).mp hshows
    refine ⟨requested,
      (requestedGenerationFor_receiverObservation request d outcome requested).mpr hrequested, ?_⟩
    simp only [Bool.and_eq_true, decide_eq_true_eq, Option.any_eq_true]
    exact ⟨⟨⟨⟨hmatches, hsome⟩, huid⟩, hcurrent⟩, observed, hobserved, hle⟩

theorem replicaCounts_receiverObservation :
    (receiverObservation request d).replicaCountsEstablishAvailability = true ↔
      d.AllReplicasAvailable := by
  unfold ReceiverObservation.replicaCountsEstablishAvailability Deployment.AllReplicasAvailable
  simp only [Bool.and_eq_true, decide_eq_true_eq]
  have hdesired : (receiverObservation request d).desiredReplicas = d.spec.bind (·.replicas) := rfl
  rw [hdesired]
  simp only [receiverObservation]
  cases d.spec.bind (·.replicas) with
  | none => simp
  | some desired =>
    cases d.status with
    | none => simp
    | some status =>
      simp only [Option.map_some, Option.isSome_some, true_and, Option.some.injEq]
      constructor
      · rintro ⟨⟨hupdated, havailable⟩, hunavailable⟩
        exact ⟨desired, status, rfl, rfl, hupdated, havailable, hunavailable⟩
      · rintro ⟨_, _, rfl, rfl, hupdated, havailable, hunavailable⟩
        exact ⟨⟨hupdated, havailable⟩, hunavailable⟩

end

/-! ## The result -/

section
variable {request : SetDeploymentImageRequest} {d : Deployment} {outcome : ApplyOutcome}

theorem observationResult_eq_failed :
    (receiverObservation request d).observationResult request.operationId
        request.immutableImageDigest outcome = .failed ↔ d.DocumentsFailure request outcome := by
  unfold Deployment.DocumentsFailure
  rw [← establishesGeneration_receiverObservation,
    ← progressDeadlineExceeded_receiverObservation request, ← Bool.and_eq_true]
  unfold ReceiverObservation.observationResult
  split_ifs with hfailed hsucceeded
  · exact ⟨fun _ => hfailed, fun _ => rfl⟩
  · exact ⟨fun h => (nomatch h), fun h => absurd h hfailed⟩
  · exact ⟨fun h => (nomatch h), fun h => absurd h hfailed⟩

theorem observationResult_eq_succeeded :
    (receiverObservation request d).observationResult request.operationId
        request.immutableImageDigest outcome = .succeeded ↔
      d.DocumentsSuccess request outcome := by
  have havailable := availableCondition_receiverObservation request d
  have hdeadline := progressDeadlineExceeded_receiverObservation request d
  have hbinds := establishesGeneration_receiverObservation request d outcome
  have hcounts := replicaCounts_receiverObservation request d
  unfold Deployment.DocumentsSuccess ReceiverObservation.observationResult
  split_ifs with hfailed hsucceeded
  · rw [Bool.and_eq_true, hdeadline] at hfailed
    exact ⟨fun h => (nomatch h), fun h => absurd hfailed.2 h.2.1⟩
  · rw [Bool.and_eq_true, Bool.and_eq_true, hbinds, hcounts, havailable] at hsucceeded
    obtain ⟨hbound, hall, hnone, hsome⟩ := hsucceeded
    exact ⟨fun _ => ⟨hbound, hnone, hsome, hall⟩, fun _ => rfl⟩
  · rw [Bool.and_eq_true, Bool.and_eq_true, hbinds, hcounts, havailable] at hsucceeded
    refine ⟨fun h => (nomatch h), ?_⟩
    rintro ⟨hbound, hnone, hsome, hall⟩
    exact absurd ⟨hbound, hall, hnone, hsome⟩ hsucceeded

theorem observationResult_eq_unknown :
    (receiverObservation request d).observationResult request.operationId
        request.immutableImageDigest outcome = .unknown ↔
      ¬ d.DocumentsFailure request outcome ∧ ¬ d.DocumentsSuccess request outcome := by
  rw [← observationResult_eq_failed, ← observationResult_eq_succeeded]
  cases (receiverObservation request d).observationResult request.operationId
    request.immutableImageDigest outcome <;> simp

end

/-! ## Reordering -/

namespace Deployment

section
variable {d d' : Deployment} {request : SetDeploymentImageRequest} {outcome : ApplyOutcome}

theorem Reordered.mem_conditions (h : d.Reordered d') (condition : DeploymentCondition) :
    condition ∈ d'.conditions ↔ condition ∈ d.conditions := by
  obtain ⟨status, conditions, conditions', hstatus, hconditions, hperm, rfl⟩ := h
  have hold : d.conditions = conditions := by
    rw [Deployment.conditions, hstatus, Option.bind_some, hconditions, Option.getD_some]
  rw [hold]
  exact hperm.mem_iff.symm

theorem Reordered.exists_mem (h : d.Reordered d') (p : DeploymentCondition → Prop) :
    (∃ condition ∈ d'.conditions, p condition) ↔ ∃ condition ∈ d.conditions, p condition := by
  constructor
  · rintro ⟨condition, hmem, hp⟩
    exact ⟨condition, (h.mem_conditions condition).mp hmem, hp⟩
  · rintro ⟨condition, hmem, hp⟩
    exact ⟨condition, (h.mem_conditions condition).mpr hmem, hp⟩

theorem Reordered.bindsOperation (h : d.Reordered d') :
    d'.BindsOperation request outcome ↔ d.BindsOperation request outcome := by
  obtain ⟨status, conditions, conditions', hstatus, -, -, rfl⟩ := h
  have hobserved : d.status.bind (·.observedGeneration) = status.observedGeneration := by
    rw [hstatus, Option.bind_some]
  -- nothing in the binding reads the conditions
  constructor
  · rintro ⟨⟨huid, hmarker, himage⟩, requested, hrequested, hcurrent, observed, hseen, hle⟩
    have hshows : d.ShowsOperation request outcome := ⟨huid, hmarker, himage⟩
    refine ⟨hshows, requested, ?_, hcurrent, observed, hobserved.trans hseen, hle⟩
    exact hrequested.imp id fun h => ⟨h.1, hshows, h.2.2⟩
  · rintro ⟨hshows, requested, hrequested, hcurrent, observed, hseen, hle⟩
    obtain ⟨huid, hmarker, himage⟩ := hshows
    refine ⟨⟨huid, hmarker, himage⟩, requested, ?_, hcurrent, observed,
      hobserved.symm.trans hseen, hle⟩
    exact hrequested.imp id fun h => ⟨h.1, ⟨huid, hmarker, himage⟩, h.2.2⟩

theorem Reordered.allReplicasAvailable (h : d.Reordered d') :
    d'.AllReplicasAvailable ↔ d.AllReplicasAvailable := by
  obtain ⟨status, conditions, conditions', hstatus, -, -, rfl⟩ := h
  constructor
  · rintro ⟨desired, status', hdesired, hstatus', hcounts⟩
    obtain rfl := Option.some.inj hstatus'
    exact ⟨desired, status, hdesired, hstatus, hcounts⟩
  · rintro ⟨desired, status', hdesired, hstatus', hcounts⟩
    obtain rfl := Option.some.inj (hstatus.symm.trans hstatus')
    exact ⟨desired, _, hdesired, rfl, hcounts⟩

end

end Deployment

/-- **The classification of an observed Deployment is the documented one**: failure,
success, and otherwise unknown, whatever the order of its conditions. -/
theorem classify_iff_documented (request : ValidatedRequest) (d : Deployment)
    (outcome : ApplyOutcome) :
    ((receiverObservation request.request d).classify request outcome = .failed ↔
        d.DocumentsFailure request.request outcome) ∧
      ((receiverObservation request.request d).classify request outcome = .succeeded ↔
        d.DocumentsSuccess request.request outcome) ∧
      ((receiverObservation request.request d).classify request outcome = .unknown ↔
        ¬ d.DocumentsFailure request.request outcome ∧
          ¬ d.DocumentsSuccess request.request outcome) ∧
      ∀ d', d.Reordered d' →
        (receiverObservation request.request d').classify request outcome =
          (receiverObservation request.request d).classify request outcome := by
  refine ⟨observationResult_eq_failed, observationResult_eq_succeeded,
    observationResult_eq_unknown, ?_⟩
  intro d' hreordered
  have hfailure : d'.DocumentsFailure request.request outcome ↔
      d.DocumentsFailure request.request outcome :=
    and_congr hreordered.bindsOperation (hreordered.exists_mem _)
  have hsuccess : d'.DocumentsSuccess request.request outcome ↔
      d.DocumentsSuccess request.request outcome :=
    and_congr hreordered.bindsOperation (and_congr (not_congr (hreordered.exists_mem _))
      (and_congr (hreordered.exists_mem _) hreordered.allReplicasAvailable))
  unfold ReceiverObservation.classify
  cases hresult : (receiverObservation request.request d).observationResult
      request.request.operationId request.request.immutableImageDigest outcome with
  | failed =>
    exact observationResult_eq_failed.mpr
      (hfailure.mpr (observationResult_eq_failed.mp hresult))
  | succeeded =>
    exact observationResult_eq_succeeded.mpr
      (hsuccess.mpr (observationResult_eq_succeeded.mp hresult))
  | unknown =>
    obtain ⟨hnotFailed, hnotSucceeded⟩ := observationResult_eq_unknown.mp hresult
    exact observationResult_eq_unknown.mpr
      ⟨fun h => hnotFailed (hfailure.mp h), fun h => hnotSucceeded (hsuccess.mp h)⟩

end Gateway
end Kapsel
