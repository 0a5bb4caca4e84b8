import Kapsel.Authority.Grant

/-!
# Requests, authority and errors of the gateway

The vocabulary of `src/gateway/mod.rs` and `src/gateway/authorization.rs`.

A `ValidatedRequest` carries the grammar of its fields, a `VerifiedAuthorization`
carries that its grant bytes verified under some appointed key, and an
`AuthorizedRequest` carries that the two agree.  None of them can be built any other
way, so whatever holds one of these values may use its facts.

A grant decides its own facts: `VerifiedAuthorization.eq_of_signedGrant_eq` says that
two verifications of the same bytes, under whatever keys, agree in everything.
-/

namespace Kapsel

open Grammar Fallible Authority

namespace Gateway

/-! ## Vocabulary -/

/-- `OperationState`: the durable states of an operation. -/
inductive OperationState where
  | requested
  | authorized
  | notAttempted
  | applyStarted
  | receiverObserved
  | finalized
  deriving DecidableEq, Repr

/-- `TargetRejection`: a permanent rejection recorded before any attempt. -/
inductive TargetRejection where
  | deploymentNotFound
  | containerNotFound
  | invalidTarget
  | staleApproval
  | gitStaleRef
  | gitInvalidObjects
  deriving DecidableEq, Repr

/-- `TargetReadError`. -/
inductive TargetReadError where
  | transient
  | permanent (rejection : TargetRejection)
  deriving DecidableEq, Repr

/-- `OperationResult`: the receiver result vocabulary. -/
inductive OperationResult where
  | succeeded
  | failed
  | unknown
  deriving DecidableEq, Repr

/-- `WRITE_STRATEGY`. -/
def writeStrategy : Text := utf8 "conditional-strategic-merge-patch"

/-- `ReceiptStatement`: the facts used to classify one receiver observation. -/
structure ReceiptStatement where
  approvedTarget : Option ApprovedTarget
  operationId : Text
  authorizationId : Text
  authorizationSignerKeyId : Text
  authorizationGrantDigest : Text
  «namespace» : Text
  deployment : Text
  container : Text
  immutableImageDigest : Text
  writeStrategy : Text
  targetUid : Text
  targetResourceVersion : Text
  receiverUid : Option Text
  observedImage : Option Text
  observedOperationMarker : Option Text
  currentGeneration : Option Int64
  requestedGeneration : Option Int64
  observedGeneration : Option Int64
  observedResourceVersion : Option Text
  desiredReplicas : Option Int32
  updatedReplicas : Option Int32
  availableReplicas : Option Int32
  unavailableReplicas : Option Int32
  rolloutConditionType : Option Text
  rolloutConditionStatus : Option Text
  rolloutConditionReason : Option Text
  result : OperationResult
  deriving DecidableEq

/-- `ReceiptError`. -/
inductive ReceiptError where
  | limitExceeded
  | invalidValue
  | invalidRecord
  | badSignature
  | untrustedSigner (statement : ReceiptStatement)
  deriving DecidableEq

/-- What SQLite can answer instead of a result: a row or a schema constraint is
violated, a value is too big, or the storage failed.  A `conversion` fails above it: a value is
not of the Rust type it is read as. -/
inductive SqliteError where
  | constraintViolation
  | tooBig
  | conversion
  | corrupt
  | io
  deriving DecidableEq, Repr

/-- `GatewayError`, without the errors of opening and upgrading a journal file. -/
inductive GatewayError where
  | database (error : SqliteError)
  | workerLock
  | invalidInput (field : InputField)
  | invalidAuthorizationGrant
  | untrustedAuthorizationGrant
  | authorizationMismatch
  | operationIdentityConflict
  | invalidPersistedState
  | invalidTransition
  | gitReceiverUnavailable
  | kubernetesTargetObservation
  | kubernetesApply
  | kubernetesReceiverObservation
  | invalidKubernetesFact
  | journalFull
  | receipt (error : ReceiptError)
  | receiptDigestMismatch
  deriving DecidableEq

/-! ## Requests -/

/-- `SetDeploymentImageRequest`: the one bounded Kubernetes effect. -/
@[ext] structure SetDeploymentImageRequest where
  operationId : Text
  «namespace» : Text
  deployment : Text
  container : Text
  immutableImageDigest : Text
  deriving DecidableEq

/-- The grammar of a request, field by field. -/
structure SetDeploymentImageRequest.Valid (r : SetDeploymentImageRequest) : Prop where
  operationId : identityIsValid r.operationId = true
  «namespace» : dnsLabelIsValid r.namespace = true
  deployment : dnsSubdomainIsValid r.deployment = true
  container : dnsLabelIsValid r.container = true
  immutableImageDigest : immutableImageIsValid r.immutableImageDigest = true

/-- `ValidatedRequest`. -/
structure ValidatedRequest where
  request : SetDeploymentImageRequest
  valid : request.Valid
  deriving DecidableEq

/-- The fields in the order in which they are checked, each with its check. -/
def SetDeploymentImageRequest.checks (r : SetDeploymentImageRequest) :
    List (InputField × Bool) :=
  [(.operationId, identityIsValid r.operationId),
    (.namespace, dnsLabelIsValid r.namespace),
    (.deployment, dnsSubdomainIsValid r.deployment),
    (.container, dnsLabelIsValid r.container),
    (.immutableImageDigest, immutableImageIsValid r.immutableImageDigest)]

theorem SetDeploymentImageRequest.find?_checks_eq_none {r : SetDeploymentImageRequest} :
    (r.checks.find? fun check => !check.2) = none ↔ r.Valid := by
  rw [List.find?_eq_none]
  simp only [SetDeploymentImageRequest.checks, List.mem_cons, List.not_mem_nil, or_false,
    forall_eq_or_imp, forall_eq, Bool.not_eq_true', Bool.not_eq_false]
  constructor
  · rintro ⟨h1, h2, h3, h4, h5⟩
    exact ⟨h1, h2, h3, h4, h5⟩
  · rintro ⟨h1, h2, h3, h4, h5⟩
    exact ⟨h1, h2, h3, h4, h5⟩

/-- `ValidatedRequest::try_from`: the first field that fails names the error. -/
def ValidatedRequest.tryFrom (r : SetDeploymentImageRequest) :
    Except GatewayError ValidatedRequest :=
  match h : r.checks.find? fun check => !check.2 with
  | some (field, _) => .error (.invalidInput field)
  | none => .ok ⟨r, SetDeploymentImageRequest.find?_checks_eq_none.mp h⟩

theorem ValidatedRequest.tryFrom_eq_ok {r : SetDeploymentImageRequest} {v : ValidatedRequest} :
    ValidatedRequest.tryFrom r = .ok v ↔ v.request = r := by
  unfold ValidatedRequest.tryFrom
  split
  · rename_i field _ h
    constructor
    · intro hv
      cases hv
    · rintro rfl
      rw [SetDeploymentImageRequest.find?_checks_eq_none.mpr v.valid] at h
      cases h
  · constructor
    · intro hv
      rw [← Except.ok.inj hv]
    · rintro rfl
      rfl

@[simp] theorem ValidatedRequest.tryFrom_request (v : ValidatedRequest) :
    ValidatedRequest.tryFrom v.request = .ok v := tryFrom_eq_ok.mpr rfl

theorem ValidatedRequest.ext_request {v v' : ValidatedRequest} (h : v.request = v'.request) :
    v = v' := by
  cases v
  cases v'
  congr

def ValidatedRequest.operationId (v : ValidatedRequest) : Text := v.request.operationId

/-- `ValidatedRequest::to_adapter_request`. -/
def ValidatedRequest.toAdapterRequest (v : ValidatedRequest) : SetDeploymentImageRequest :=
  v.request

/-! ## Authority -/

section
variable (C : Crypto)

/-- `map_authorization_error`. -/
def mapAuthorizationError : GrantError → GatewayError
  | .invalidInput field => .invalidInput field
  | .invalid => .invalidAuthorizationGrant
  | .untrusted => .untrustedAuthorizationGrant

/-- `VerifiedAuthorization`: the facts of a grant, with its bytes. -/
structure VerifiedAuthorization where
  authorization : ExactAuthorization
  signerKeyId : Text
  grantDigest : Text
  signedGrant : Bytes
  authentic : ∃ trust, Authority.verifyAuthorizationGrant C signedGrant trust =
    .ok ⟨authorization, signerKeyId, grantDigest⟩

variable {C}

theorem VerifiedAuthorization.verified (v : VerifiedAuthorization C) :
    ∃ trust, Verified C v.signedGrant trust ⟨v.authorization, v.signerKeyId, v.grantDigest⟩ := by
  obtain ⟨trust, h⟩ := v.authentic
  exact ⟨trust, verifyAuthorizationGrant_eq_ok h⟩

/-- **A grant decides its facts.** -/
theorem VerifiedAuthorization.eq_of_signedGrant_eq {v v' : VerifiedAuthorization C}
    (h : v.signedGrant = v'.signedGrant) : v = v' := by
  obtain ⟨authorization, signer, digest, grant, trust, hv⟩ := v
  obtain ⟨authorization', signer', digest', grant', trust', hv'⟩ := v'
  obtain rfl : grant = grant' := h
  have heq := verifyAuthorizationGrant_deterministic hv hv'
  obtain ⟨rfl, rfl, rfl⟩ := ValidatedAuthorizationGrant.mk.inj heq
  rfl

variable (C)

/-- `retain_verified_grant` after `verify_authorization_grant`. -/
def verifyAuthorizationGrant (bytes : Bytes) (trust : AuthorizationTrust) :
    Except GatewayError (VerifiedAuthorization C) :=
  match h : Authority.verifyAuthorizationGrant C bytes trust with
  | .ok grant => .ok ⟨grant.authorization, grant.signerKeyId, grant.grantDigest, bytes, trust, h⟩
  | .error error => .error (mapAuthorizationError error)

/-- `Gateway::verify_grant_with`: the first trust that does not refuse the signer decides. -/
def verifyGrantWith (bytes : Bytes) :
    List AuthorizationTrust → Except GatewayError (VerifiedAuthorization C)
  | [] => .error .untrustedAuthorizationGrant
  | trust :: authorities =>
      match verifyAuthorizationGrant C bytes trust with
      | .ok verified => .ok verified
      | .error .untrustedAuthorizationGrant => verifyGrantWith bytes authorities
      | .error error => .error error

/-- `authorization_matches`. -/
def authorizationMatches (a : ExactAuthorization) (r : ValidatedRequest) : Bool :=
  a.operationId = r.request.operationId && a.namespace = r.request.namespace &&
    a.deployment = r.request.deployment && a.container = r.request.container &&
    a.immutableImageDigest = r.request.immutableImageDigest

/-- `AuthorizedRequest`: a request with the grant that authorizes exactly it. -/
structure AuthorizedRequest where
  request : ValidatedRequest
  authorization : VerifiedAuthorization C
  agrees : authorizationMatches authorization.authorization request = true

/-- `AuthorizedRequest::bind`. -/
def AuthorizedRequest.bind (request : ValidatedRequest) (authorization : VerifiedAuthorization C) :
    Except GatewayError (AuthorizedRequest C) :=
  if h : authorizationMatches authorization.authorization request = true then
    .ok ⟨request, authorization, h⟩
  else .error .authorizationMismatch

/-- `Gateway::bind_authorization`. -/
def bindAuthorization (authorities : List AuthorizationTrust)
    (request : SetDeploymentImageRequest) (signedGrant : Bytes) :
    Except GatewayError (AuthorizedRequest C) := do
  let verified ← verifyGrantWith C signedGrant authorities
  AuthorizedRequest.bind C (← ValidatedRequest.tryFrom request) verified

end

end Gateway
end Kapsel
