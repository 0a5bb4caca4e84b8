import Kapsel.Gateway.Facts

/-!
# The Kubernetes adapter

`src/gateway/kubernetes/adapter.rs`: the conditional image patch, the preflight read and
the bounded observation loop, as functions of what the API server answers.

The API server is outside.  A `Deployment` is whatever object it returns, with every
field that the adapter reads left arbitrary; a read that timed out or failed is also an
answer.

* `mem_of_identify_eq_permanent`: the rejections the production preflight can return.
* `observe_eq`: what observation hands to the journal is either nothing known, or the
  facts of one of the Deployments that were returned.
-/

namespace Kapsel

open Fallible

namespace Gateway

/-! ## What the API server returns -/

structure Container where
  name : Text
  image : Option Text
  deriving DecidableEq

structure ObjectMeta where
  uid : Option Text
  resourceVersion : Option Text
  generation : Option Int64
  annotations : Option (List (Text × Text))
  deriving DecidableEq

/-- A Deployment spec: the replicas, and the containers of its pod template, if any. -/
structure DeploymentSpec where
  replicas : Option Int32
  podContainers : Option (List Container)
  deriving DecidableEq

structure DeploymentCondition where
  type : Text
  status : Text
  reason : Option Text
  deriving DecidableEq

structure DeploymentStatus where
  observedGeneration : Option Int64
  updatedReplicas : Option Int32
  availableReplicas : Option Int32
  unavailableReplicas : Option Int32
  conditions : Option (List DeploymentCondition)
  deriving DecidableEq

structure Deployment where
  metadata : ObjectMeta
  spec : Option DeploymentSpec
  status : Option DeploymentStatus
  deriving DecidableEq

/-- The end of one request to the API server. -/
inductive ApiResponse where
  | timedOut
  | apiError (code : ℕ)
  | otherError
  | found (deployment : Deployment)
  deriving DecidableEq

/-! ## The patch -/

/-- JSON documents made of texts, arrays and objects. -/
inductive Json where
  | string (value : Text)
  | array (elements : List Json)
  | object (members : List (Text × Json))

/-- The member of an object. -/
def Json.get? : Json → Text → Option Json
  | .object members, name => members.lookup name
  | .array _, _ => none
  | .string _, _ => none

/-- The value at a path of object members. -/
def Json.at? (document : Json) (path : List String) : Option Json :=
  path.foldlM (fun json name => json.get? (utf8 name)) document

/-- `OPERATION_ANNOTATION`. -/
def operationAnnotation : Text := utf8 "kapsel.dev/kap0038-operation-id"

/-- `deployment_patch_document`. -/
def deploymentPatchDocument (request : SetDeploymentImageRequest) (target : TargetIdentity) :
    Json :=
  .object [
    (utf8 "apiVersion", .string (utf8 "apps/v1")),
    (utf8 "kind", .string (utf8 "Deployment")),
    (utf8 "metadata", .object [
      (utf8 "name", .string request.deployment),
      (utf8 "namespace", .string request.namespace),
      (utf8 "uid", .string target.deploymentUid),
      (utf8 "resourceVersion", .string target.resourceVersion),
      (utf8 "annotations", .object [( operationAnnotation, .string request.operationId)])]),
    (utf8 "spec", .object [
      (utf8 "template", .object [
        (utf8 "spec", .object [
          (utf8 "containers", .array [.object [
            (utf8 "name", .string request.container),
            (utf8 "image", .string request.immutableImageDigest)]])])])])]

/-! ## Preflight -/

/-- The named container exists in the pod template. -/
def containerExists (request : SetDeploymentImageRequest) (deployment : Deployment) : Bool :=
  (deployment.spec.bind (·.podContainers)).any fun containers =>
    containers.any fun container => container.name = request.container

/-- The identity of the Deployment, or that it is not a valid target. -/
def identityOf (deployment : Deployment) : Except TargetReadError TargetIdentity :=
  match deployment.metadata.uid, deployment.metadata.resourceVersion with
  | some deploymentUid, some resourceVersion =>
      if (⟨deploymentUid, resourceVersion⟩ : TargetIdentity).validate = .ok () then
        .ok ⟨deploymentUid, resourceVersion⟩
      else .error (.permanent .invalidTarget)
  | _, _ => .error (.permanent .invalidTarget)

/-- `identify`. -/
def identify (request : SetDeploymentImageRequest) :
    ApiResponse → Except TargetReadError TargetIdentity
  | .timedOut => .error .transient
  | .apiError code =>
      if code = 404 then .error (.permanent .deploymentNotFound) else .error .transient
  | .otherError => .error .transient
  | .found deployment =>
      if containerExists request deployment then identityOf deployment
      else .error (.permanent .containerNotFound)

/-- The permanent rejections of the production preflight. -/
def productionRejections : List TargetRejection :=
  [.deploymentNotFound, .containerNotFound, .invalidTarget]

theorem mem_of_identityOf_eq_permanent {deployment : Deployment} {rejection : TargetRejection}
    (h : identityOf deployment = .error (.permanent rejection)) : rejection = .invalidTarget := by
  unfold identityOf at h
  split at h
  · split at h
    · cases h
    · cases h
      rfl
  · cases h
    rfl

/-- **The production preflight rejects for one of three reasons.** -/
theorem mem_of_identify_eq_permanent {request : SetDeploymentImageRequest}
    {response : ApiResponse} {rejection : TargetRejection}
    (h : identify request response = .error (.permanent rejection)) :
    rejection ∈ productionRejections := by
  cases response with
  | timedOut => cases h
  | otherError => cases h
  | apiError code =>
    by_cases hcode : code = 404
    · rw [identify, if_pos hcode] at h
      cases h
      decide
    · rw [identify, if_neg hcode] at h
      cases h
  | found deployment =>
    by_cases hcontainer : containerExists request deployment = true
    · rw [identify, if_pos hcontainer] at h
      rw [mem_of_identityOf_eq_permanent h]
      decide
    · rw [identify, if_neg hcontainer] at h
      cases h
      decide

/-! ## Applying -/

/-- What `apply` reports of the API server's answer to the patch. -/
def applyOutcome (target : TargetIdentity) : ApiResponse → Except Unit ApplyOutcome
  | .found deployment =>
      match deployment.metadata.uid, deployment.metadata.resourceVersion with
      | some deploymentUid, some resourceVersion =>
          if deploymentUid ≠ target.deploymentUid then .error ()
          else .ok ⟨true, deployment.metadata.generation, some deploymentUid, some resourceVersion⟩
      | _, _ => .error ()
  | .timedOut => .error ()
  | .apiError _ => .error ()
  | .otherError => .error ()

/-! ## Observing -/

/-- The condition that decides a rollout: an exceeded deadline, or else availability. -/
def rolloutCondition (conditions : List DeploymentCondition) : Option DeploymentCondition :=
  (conditions.find? fun condition => condition.type = utf8 "Progressing" &&
      condition.status = utf8 "False" &&
      condition.reason = some (utf8 "ProgressDeadlineExceeded")).or
    (conditions.find? fun condition => condition.type = utf8 "Available" &&
      condition.status = utf8 "True")

/-- `receiver_observation`: the facts copied from a returned Deployment. -/
def receiverObservation (request : SetDeploymentImageRequest) (deployment : Deployment) :
    ReceiverObservation :=
  let status := deployment.status
  let condition := (status.bind (·.conditions)).bind rolloutCondition
  { deploymentUid := deployment.metadata.uid
    resourceVersion := deployment.metadata.resourceVersion
    currentGeneration := deployment.metadata.generation
    observedGeneration := status.bind (·.observedGeneration)
    image := ((deployment.spec.bind (·.podContainers)).bind fun containers =>
      containers.find? fun container => container.name = request.container).bind (·.image)
    operationMarker := deployment.metadata.annotations.bind (·.lookup operationAnnotation)
    desiredReplicas := deployment.spec.bind (·.replicas)
    updatedReplicas := status.map fun status => status.updatedReplicas.getD 0
    availableReplicas := status.map fun status => status.availableReplicas.getD 0
    unavailableReplicas := status.map fun status => status.unavailableReplicas.getD 0
    rolloutConditionType := condition.map (·.type)
    rolloutConditionStatus := condition.map (·.status)
    rolloutConditionReason := condition.bind (·.reason) }

/-- One turn of the observation loop: whether the deadline had passed before the read,
what the read returned, and whether the deadline had passed after it. -/
structure Reading where
  late : Bool
  response : ApiResponse
  lateAfter : Bool

/-- The facts of one read. -/
def observationOf (request : SetDeploymentImageRequest) : ApiResponse → ReceiverObservation
  | .found deployment => receiverObservation request deployment
  | .timedOut => .unknown
  | .apiError _ => .unknown
  | .otherError => .unknown

/-- `observe_until_terminal`, over the turns the clock allows. -/
def observeUntilTerminal (request : SetDeploymentImageRequest) (outcome : ApplyOutcome) :
    ReceiverObservation → List Reading → ReceiverObservation
  | latest, [] => latest
  | _, reading :: readings =>
      if reading.late then .unknown
      else if reading.lateAfter then .unknown
      else
        let observation := observationOf request reading.response
        if observation.observationIsComplete request outcome then observation
        else observeUntilTerminal request outcome observation readings

/-- `OBSERVATION_ATTEMPTS_MAX`. -/
def observationAttemptsMax : ℕ := 180

/-- `observe`: the loop, cut off by the overall deadline. -/
def observe (request : SetDeploymentImageRequest) (outcome : ApplyOutcome) (timedOut : Bool)
    (readings : List Reading) : ReceiverObservation :=
  if timedOut then .unknown
  else observeUntilTerminal request outcome .unknown (readings.take observationAttemptsMax)

theorem observeUntilTerminal_eq (request : SetDeploymentImageRequest) (outcome : ApplyOutcome)
    (latest : ReceiverObservation) (readings : List Reading) :
    observeUntilTerminal request outcome latest readings = latest ∨
      observeUntilTerminal request outcome latest readings = .unknown ∨
      ∃ reading ∈ readings, ∃ deployment, reading.response = .found deployment ∧
        observeUntilTerminal request outcome latest readings =
          receiverObservation request deployment := by
  -- the loop's own recursion; `latest` is the previous turn's reading
  induction readings generalizing latest with
  | nil => exact .inl rfl
  | cons reading readings ih =>
    unfold observeUntilTerminal
    split
    · exact .inr (.inl rfl)
    · split
      · exact .inr (.inl rfl)
      · have hread : observationOf request reading.response = .unknown ∨
            ∃ deployment, reading.response = .found deployment ∧
              observationOf request reading.response = receiverObservation request deployment := by
          cases hresponse : reading.response with
          | timedOut => exact .inl rfl
          | apiError code => exact .inl rfl
          | otherError => exact .inl rfl
          | found deployment => exact .inr ⟨deployment, rfl, rfl⟩
        have hhead := List.mem_cons_self (a := reading) (l := readings)
        simp only
        split
        · rcases hread with hread | ⟨deployment, hresponse, hread⟩
          · exact .inr (.inl hread)
          · exact .inr (.inr ⟨reading, hhead, deployment, hresponse, hread⟩)
        · rcases ih (observationOf request reading.response) with h | h | ⟨r, hr, d, hd, h⟩
          · rcases hread with hread | ⟨deployment, hresponse, hread⟩
            · exact .inr (.inl (h.trans hread))
            · exact .inr (.inr ⟨reading, hhead, deployment, hresponse, h.trans hread⟩)
          · exact .inr (.inl h)
          · exact .inr (.inr ⟨r, List.mem_cons_of_mem _ hr, d, hd, h⟩)

/-- **What observation hands over**: nothing known, or the facts of a Deployment that the
API server returned. -/
theorem observe_eq {request : SetDeploymentImageRequest} {outcome : ApplyOutcome}
    {timedOut : Bool} (readings : List Reading) :
    observe request outcome timedOut readings = .unknown ∨
      ∃ reading ∈ readings, ∃ deployment, reading.response = .found deployment ∧
        observe request outcome timedOut readings = receiverObservation request deployment := by
  unfold observe
  split
  · exact .inl rfl
  · rcases observeUntilTerminal_eq request outcome .unknown
      (readings.take observationAttemptsMax) with h | h | ⟨reading, hmem, deployment, hd, h⟩
    · exact .inl h
    · exact .inl h
    · exact .inr ⟨reading, List.mem_of_mem_take hmem, deployment, hd, h⟩

end Gateway
end Kapsel
