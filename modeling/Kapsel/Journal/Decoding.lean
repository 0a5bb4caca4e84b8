import Kapsel.Journal.Phases
import Kapsel.Gateway.Adapter

/-!
# Every phase decodes to itself

`decode_phase`: the hostile-row decoder accepts the row of every valid phase and returns
the operation that the phase describes.

A phase is valid when it is one that the writers can reach: a stale approval differs from
what was approved, an attempt was made on the approved target if there is one, what was
recorded passed its validation, and a receipt decodes to the frozen statement.  The frozen
statement itself is valid (`valid_frozenStatement`), although its result was computed from
the response that was retained at the time and is checked against the frozen generation.
-/

namespace Kapsel

open Grammar Fallible Authority

namespace Gateway
namespace Journal

variable {C : Crypto} {a : AuthorizedRequest C}

/-! ## Valid phases -/

/-- An attempt on the approved target, with a response that passed its validation. -/
structure AttemptValid (a : AuthorizedRequest C) (target : ValidatedTargetIdentity)
    (response : Option ApplyResponseFacts) : Prop where
  approved : ∀ approved ∈ AuthorizedRequest.approvedTarget a, target.toApproved = approved
  response : ∀ r ∈ response, ApplyOutcome.validate ⟨r.accepted, r.requestedGeneration,
    some target.deploymentUid, some r.resourceVersion⟩ = .ok ()

/-- A receipt of the frozen statement. -/
structure ReceiptValid (a : AuthorizedRequest C) (statement : ReceiptStatement)
    (receipt : FrozenReceipt) : Prop where
  operationId : receipt.operationId = a.request.operationId
  embedded : decodeFrozenReceipt receipt.bytes = .ok (receipt.keyId, statement)
  digest : digestHex C receipt.bytes = receipt.digest

/-- The phases that the writers can reach. -/
def Phase.Valid (a : AuthorizedRequest C) : Phase → Prop
  | .requested => True
  | .authorized => True
  | .rejected _ => True
  | .stale seen => ∃ approved, AuthorizedRequest.approvedTarget a = some approved ∧
      seen.toApproved ≠ approved
  | .attempted target response => AttemptValid a target response
  | .observed target response observation => AttemptValid a target response ∧ observation.Valid
  | .finalized target response observation receipt =>
      AttemptValid a target response ∧ observation.Valid ∧
        ReceiptValid a (frozenStatement a target response observation) receipt

/-- The rejection, if there is one, is of the production preflight. -/
def Phase.Readable : Phase → Prop
  | .rejected rejection => rejection ∈ productionRejections
  | _ => True

/-! ## The facts of the grant -/

theorem isValid_of_approvedTarget (a : AuthorizedRequest C) :
    ∀ approved ∈ AuthorizedRequest.approvedTarget a, approved.isValid = true := by
  obtain ⟨trust, h⟩ := a.authorization.verified
  exact h.valid.approvedTarget

theorem identityIsValid_authorizationId (a : AuthorizedRequest C) :
    identityIsValid a.authorization.authorization.authorizationId = true := by
  obtain ⟨trust, h⟩ := a.authorization.verified
  exact h.valid.authorizationId

theorem identityIsValid_signerKeyId (a : AuthorizedRequest C) :
    identityIsValid a.authorization.signerKeyId = true := by
  obtain ⟨trust, h⟩ := a.authorization.verified
  exact h.signerKeyId

/-! ## The frozen statement -/

section
variable {target : ValidatedTargetIdentity} {response : Option ApplyResponseFacts}
  {observation : ReceiverObservation}

/-- The frozen generation stands for the outcome that was retained at the freeze. -/
theorem freezes_frozenStatement :
    observation.Freezes a.request.request.operationId a.request.request.immutableImageDigest
      (startedOperation a target response).classificationOutcome
      (frozenStatement a target response observation).applyOutcome :=
  ⟨rfl, rfl⟩

/-- **The frozen statement is valid.** -/
theorem valid_frozenStatement (h : AttemptValid a target response) (ho : observation.Valid) :
    (frozenStatement a target response observation).Valid := by
  obtain ⟨hUid, hVersion⟩ := TargetIdentity.validate_eq_ok.mp target.valid
  refine ⟨a.request.valid, identityIsValid_authorizationId a, identityIsValid_signerKeyId a,
    isLowercaseSha256_grantDigest a, ?_, rfl, ?_, ho, freezes_frozenStatement.observationResult_eq⟩
  · unfold ReceiptStatement.approvedTargetAgrees
    show (AuthorizedRequest.approvedTarget a).all _ = true
    cases happroved : AuthorizedRequest.approvedTarget a with
    | none => rfl
    | some approved =>
      have hvalid := isValid_of_approvedTarget a approved happroved
      obtain rfl := h.approved approved happroved
      rw [Option.all_some, Bool.and_eq_true, Bool.and_eq_true]
      exact ⟨⟨hvalid, decide_eq_true rfl⟩, decide_eq_true rfl⟩
  · have hfacts := ho.facts
    simp only [ReceiverObservation.facts, List.forall_mem_cons] at hfacts
    simp only [ReceiptStatement.facts, List.forall_mem_cons, frozenStatement]
    exact ⟨hUid, hVersion, hfacts.1, hfacts.2.2.1, hfacts.2.1, hfacts.2.2.2⟩

/-- The generation of a response that passed its validation. -/
theorem AttemptValid.nonneg_generation (h : AttemptValid a target response) :
    (startedOperation a target response).classificationOutcome.requestedGeneration.any (· < 0) =
      false := by
  show (response.bind (·.requestedGeneration)).any (· < 0) = false
  cases hresponse : response with
  | none => rfl
  | some r => exact (ApplyOutcome.validate_eq_ok.mp (h.response r hresponse)).2.2

theorem AttemptValid.nonneg_frozenGeneration (h : AttemptValid a target response)
    (ho : observation.Valid) :
    (frozenGeneration a target response observation).any (· < 0) = false :=
  ho.requestedGenerationFor_nonneg h.nonneg_generation

/-- The response of a frozen row passes its validation with the frozen generation. -/
theorem AttemptValid.validate_frozenResponse (h : AttemptValid a target response)
    (ho : observation.Valid) : ∀ r ∈ response, ApplyOutcome.validate ⟨r.accepted,
      frozenGeneration a target response observation, some target.deploymentUid,
      some r.resourceVersion⟩ = .ok () := by
  intro r hr
  obtain ⟨hUid, hVersion, -⟩ := ApplyOutcome.validate_eq_ok.mp (h.response r hr)
  exact ApplyOutcome.validate_eq_ok.mpr ⟨hUid, hVersion, h.nonneg_frozenGeneration ho⟩

end

/-! ## Reading the columns of a phase -/

/-- The snapshot of a phase. -/
def phaseSnapshot (a : AuthorizedRequest C) (p : Phase) : SnapshotRow where
  approvedUid := (AuthorizedRequest.approvedTarget a).map (·.uid)
  approvedResourceVersion := (AuthorizedRequest.approvedTarget a).map (·.resourceVersion)
  preflightUid := p.preflight.map (·.deploymentUid)
  preflightResourceVersion := p.preflight.map (·.resourceVersion)
  operationId := a.request.request.operationId
  «namespace» := a.request.request.namespace
  deployment := a.request.request.deployment
  container := a.request.request.container
  immutableImageDigest := a.request.request.immutableImageDigest
  state := p.state.asSql
  result := (p.result a).map (·.asSql)
  targetRejection := p.rejection.map (·.asSql)
  authorizationId := some a.authorization.authorization.authorizationId
  authorizationSignerKeyId := some a.authorization.signerKeyId
  authorizationGrantDigest := some a.authorization.grantDigest
  writeStrategy := p.target.map fun _ => writeStrategy
  applyAttempted := sqlBool p.target.isSome
  targetUid := p.target.map (·.deploymentUid)
  targetResourceVersion := p.target.map (·.resourceVersion)
  applyAccepted := p.response.map fun r => sqlBool r.accepted
  requestedGeneration := p.generation a
  applyResourceVersion := p.response.map (·.resourceVersion)
  receiverFactsPresent := receiverFactColumns.any (phaseRecord a p).hasValue
  receiptDigest := p.receipt.map (·.digest)
  receiptBytes := p.receipt.map (·.bytes)
  receiptKeyId := p.receipt.map (·.keyId)

theorem snapshotRow_phase (a : AuthorizedRequest C) (p : Phase) :
    snapshotRow (phaseRecord a p) = .ok (phaseSnapshot a p) := by
  unfold snapshotRow
  iterate 4 refine bind_eq_ok.mpr ⟨_, Record.getOptionalText_of_eq rfl, ?_⟩
  iterate 6 refine bind_eq_ok.mpr ⟨_, Record.getText_eq_ok.mpr rfl, ?_⟩
  iterate 2 refine bind_eq_ok.mpr ⟨_, Record.getOptionalText_of_eq rfl, ?_⟩
  iterate 3 refine bind_eq_ok.mpr ⟨some _, Record.getOptionalText_of_eq rfl, ?_⟩
  refine bind_eq_ok.mpr ⟨_, Record.getOptionalText_of_eq rfl, ?_⟩
  refine bind_eq_ok.mpr ⟨_, Record.getInteger_of_eq rfl, ?_⟩
  iterate 2 refine bind_eq_ok.mpr ⟨_, Record.getOptionalText_of_eq rfl, ?_⟩
  iterate 2 refine bind_eq_ok.mpr ⟨_, Record.getOptionalInteger_of_eq rfl, ?_⟩
  iterate 2 refine bind_eq_ok.mpr ⟨_, Record.getOptionalText_of_eq rfl, ?_⟩
  refine bind_eq_ok.mpr ⟨_, Record.getOptionalBlob_of_eq rfl, ?_⟩
  refine bind_eq_ok.mpr ⟨_, Record.getOptionalText_of_eq rfl, ?_⟩
  rfl

theorem snapshotTarget_approved {target : Option ApprovedTarget}
    (h : ∀ t ∈ target, t.isValid = true) :
    snapshotTarget (target.map (·.uid)) (target.map (·.resourceVersion)) = .ok target := by
  cases target with
  | none => rfl
  | some t => exact if_pos (h t rfl)

theorem snapshotTarget_preflight (v : Option ValidatedTargetIdentity) :
    snapshotTarget (v.map (·.deploymentUid)) (v.map (·.resourceVersion)) =
      .ok (v.map (·.toApproved)) := by
  cases v with
  | none => rfl
  | some v => exact if_pos v.isValid_toApproved

theorem validateSnapshotAuthorization_facts (a : AuthorizedRequest C) :
    validateSnapshotAuthorization (some a.authorization.authorization.authorizationId)
      (some a.authorization.signerKeyId) (some a.authorization.grantDigest) =
      .ok (some (authorizationFacts a)) := by
  refine bind_eq_ok.mpr ⟨(), require_of_true (identityIsValid_authorizationId a), ?_⟩
  refine bind_eq_ok.mpr ⟨(), require_of_true (identityIsValid_signerKeyId a), ?_⟩
  refine bind_eq_ok.mpr ⟨_, dif_pos (isLowercaseSha256_grantDigest a), rfl⟩

/-- The frozen statement is read back from the columns. -/
theorem receiptStatement_phase {p : Phase} {target : ValidatedTargetIdentity}
    {response : Option ApplyResponseFacts} {observation : ReceiverObservation}
    (hp : p = .observed target response observation ∨
      ∃ receipt, p = .finalized target response observation receipt)
    (h : AttemptValid a target response) (ho : observation.Valid) :
    receiptStatement (phaseRecord a p) = .ok (frozenStatement a target response observation) := by
  have hvalidate : (frozenStatement a target response observation).validate = .ok () :=
    ReceiptStatement.validate_eq_ok.mpr (valid_frozenStatement h ho)
  have hresult : OperationResult.fromSql (frozenResult a target response observation).asSql =
      .ok (frozenResult a target response observation) := OperationResult.fromSql_asSql _
  -- the two phases have the same columns as far as a statement reads them
  have hread : ∀ p : Phase, p.target = some target → p.observation = some observation →
      p.generation a = frozenGeneration a target response observation →
      p.result a = some (frozenResult a target response observation) →
      receiptStatement (phaseRecord a p) = .ok (frozenStatement a target response observation) := by
    intro p htarget hobservation hgeneration hfrozen
    have hvalue : ∀ c, (phaseRecord a p).value c = phaseValue a p c := fun c => rfl
    unfold receiptStatement
    iterate 2 refine bind_eq_ok.mpr ⟨_, Record.getOptionalText_of_eq rfl, ?_⟩
    refine bind_eq_ok.mpr ⟨_, snapshotTarget_approved (isValid_of_approvedTarget a), ?_⟩
    refine bind_eq_ok.mpr ⟨_, Record.getText_eq_ok.mpr rfl, ?_⟩
    iterate 3
      refine bind_eq_ok.mpr ⟨some _, Record.getOptionalText_of_eq rfl, ?_⟩
      refine bind_eq_ok.mpr ⟨_, rfl, ?_⟩
    iterate 4 refine bind_eq_ok.mpr ⟨_, Record.getText_eq_ok.mpr rfl, ?_⟩
    refine bind_eq_ok.mpr ⟨some writeStrategy, Record.getOptionalText_of_eq ?_, ?_⟩
    · rw [hvalue, phaseValue, htarget, Option.map_some]
    refine bind_eq_ok.mpr ⟨_, rfl, ?_⟩
    refine bind_eq_ok.mpr ⟨some target.deploymentUid, Record.getOptionalText_of_eq ?_, ?_⟩
    · rw [hvalue, phaseValue, htarget, Option.map_some]
    refine bind_eq_ok.mpr ⟨_, rfl, ?_⟩
    refine bind_eq_ok.mpr ⟨some target.resourceVersion, Record.getOptionalText_of_eq ?_, ?_⟩
    · rw [hvalue, phaseValue, htarget, Option.map_some]
    refine bind_eq_ok.mpr ⟨_, rfl, ?_⟩
    iterate 3 refine bind_eq_ok.mpr ⟨_, Record.getOptionalText_of_eq rfl, ?_⟩
    iterate 3 refine bind_eq_ok.mpr ⟨_, Record.getOptionalInteger_of_eq rfl, ?_⟩
    refine bind_eq_ok.mpr ⟨_, Record.getOptionalText_of_eq rfl, ?_⟩
    iterate 4 refine bind_eq_ok.mpr ⟨_, Record.getOptionalInt32_of_eq rfl, ?_⟩
    iterate 3 refine bind_eq_ok.mpr ⟨_, Record.getOptionalText_of_eq rfl, ?_⟩
    refine bind_eq_ok.mpr ⟨(frozenResult a target response observation).asSql,
      Record.getText_eq_ok.mpr ?_, ?_⟩
    · rw [hvalue, phaseValue, hfrozen, Option.map_some]
      rfl
    refine bind_eq_ok.mpr ⟨_, hresult, ?_⟩
    simp only [hobservation, Option.bind_some, hgeneration]
    exact bind_eq_ok.mpr ⟨(), mapError_eq_ok.mpr hvalidate, rfl⟩
  rcases hp with rfl | ⟨receipt, rfl⟩
  · exact hread _ rfl rfl rfl rfl
  · exact hread _ rfl rfl rfl rfl

/-! ## Assembling the operation -/

theorem snapshotAttemptTarget_target (target : ValidatedTargetIdentity) :
    snapshotAttemptTarget (some writeStrategy) (some target.deploymentUid)
      (some target.resourceVersion) = .ok (some target) := by
  refine bind_eq_ok.mpr ⟨(), require_of_true (decide_eq_true rfl), ?_⟩
  refine bind_eq_ok.mpr ⟨target, mapError_eq_ok.mpr ?_, rfl⟩
  exact ValidatedTargetIdentity.tryFrom_eq_ok.mpr rfl

/-- The attempt columns are read back, with whatever generation the row has. -/
theorem validateSnapshotAttemptFacts_attempt (state : OperationState)
    {target : ValidatedTargetIdentity} {response : Option ApplyResponseFacts}
    {generation : Option Int64}
    (hresponse : ∀ r ∈ response, ApplyOutcome.validate ⟨r.accepted, generation,
      some target.deploymentUid, some r.resourceVersion⟩ = .ok ())
    (hnone : response = none → state ≠ .applyStarted ∨ generation = none) :
    validateSnapshotAttemptFacts state (some writeStrategy) (some target.deploymentUid)
      (some target.resourceVersion) (response.map (·.accepted)) generation
      (response.map (·.resourceVersion)) =
      .ok (some ⟨target, response.map fun r => { r with requestedGeneration := generation }⟩) := by
  refine bind_eq_ok.mpr ⟨some target, snapshotAttemptTarget_target target, ?_⟩
  cases response with
  | none =>
    refine bind_eq_ok.mpr ⟨none, if_pos ?_, rfl⟩
    rw [Bool.or_eq_true, decide_eq_true_eq, Option.isNone_iff_eq_none]
    exact hnone rfl
  | some r =>
    refine bind_eq_ok.mpr ⟨some _, bind_eq_ok.mpr ⟨(), ?_, rfl⟩, rfl⟩
    exact mapError_eq_ok.mpr (hresponse r rfl)

theorem mapM_eq_ok {α β ε : Type} {f : α → Except ε β} {x : Option α} {y : Option β}
    (h : ∀ v, x = some v → ∃ w, f v = .ok w ∧ y = some w) (hnone : x = none → y = none) :
    x.mapM f = .ok y := by
  cases x with
  | none =>
    rw [hnone rfl]
    rfl
  | some v =>
    obtain ⟨w, hw, rfl⟩ := h v rfl
    show Except.map some (f v) = _
    rw [hw]
    rfl

/-- `SnapshotRow::into_operation` on a phase, given what the phase-dependent groups of
columns decode to. -/
theorem intoOperation_phase {p : Phase} {statement : Option ReceiptStatement}
    {attempt : Option AttemptFacts} {receipt : Option FrozenReceipt}
    (hreadable : p.Readable)
    (hattempt : validateSnapshotAttemptFacts p.state (p.target.map fun _ => writeStrategy)
      (p.target.map (·.deploymentUid)) (p.target.map (·.resourceVersion))
      (p.response.map (·.accepted)) (p.generation a) (p.response.map (·.resourceVersion)) =
        .ok attempt)
    (happroval : approvalAgrees (requestFacts a p.preflight) (some (authorizationFacts a))
      attempt = true)
    (hstale : staleApprovalAgrees (requestFacts a p.preflight) p.rejection = true)
    (hstatement : statement.map (·.result) = p.result a)
    (hreceipt : snapshotFrozenReceipt C a.request.operationId (p.receipt.map (·.digest))
      (p.receipt.map (·.bytes)) (p.receipt.map (·.keyId)) statement = .ok receipt) :
    (phaseSnapshot a p).intoOperation C statement =
      SnapshotFacts.operation ⟨p.target.isSome, requestFacts a p.preflight, p.result a,
        p.rejection, some (authorizationFacts a), attempt, statement, receipt,
        receiverFactColumns.any (phaseRecord a p).hasValue⟩ p.state := by
  have haccepted : (p.response.map fun r => sqlBool r.accepted).mapM decodeSqlBool =
      .ok (p.response.map (·.accepted)) := by
    refine mapM_eq_ok (fun v hv => ?_) fun hv => ?_
    · obtain ⟨r, hr, rfl⟩ := Option.map_eq_some_iff.mp hv
      exact ⟨r.accepted, decodeSqlBool_sqlBool _, by rw [hr, Option.map_some]⟩
    · rw [Option.map_eq_none_iff.mp hv, Option.map_none]
  have hresult : ((p.result a).map (·.asSql)).mapM OperationResult.fromSql = .ok (p.result a) := by
    refine mapM_eq_ok (fun v hv => ?_) fun hv => Option.map_eq_none_iff.mp hv
    obtain ⟨r, hr, rfl⟩ := Option.map_eq_some_iff.mp hv
    exact ⟨r, OperationResult.fromSql_asSql r, hr⟩
  have hrejection : (p.rejection.map (·.asSql)).mapM TargetRejection.fromSql =
      .ok p.rejection := by
    cases p with
    | rejected rejection =>
      have hmem : rejection ∈ productionRejections := hreadable
      simp only [productionRejections, List.mem_cons, List.not_mem_nil, or_false] at hmem
      rcases hmem with rfl | rfl | rfl <;> decide
    | stale seen => exact (by decide : (some (utf8 "stale_approval")).mapM TargetRejection.fromSql =
        .ok (some .staleApproval))
    | _ => rfl
  have hpreflight : (!((p.preflight.map (·.toApproved)).isSome &&
      (p.state = .requested || p.state = .authorized))) = true := by
    cases p <;> rfl
  have hrejects : rejectionAgrees p.state (requestFacts a p.preflight) p.rejection = true := by
    cases p <;> simp [rejectionAgrees, requestFacts, Phase.state, Phase.rejection, Phase.preflight,
      Phase.target]
  have hrequest : (ValidatedRequest.tryFrom ⟨a.request.request.operationId,
      a.request.request.namespace, a.request.request.deployment, a.request.request.container,
      a.request.request.immutableImageDigest⟩).mapError
        (fun _ => GatewayError.invalidPersistedState) = .ok a.request :=
    mapError_eq_ok.mpr (ValidatedRequest.tryFrom_request a.request)
  unfold SnapshotRow.intoOperation
  refine (bind_of_ok (OperationState.fromSql_asSql p.state) _).trans ?_
  refine (bind_of_ok (decodeSqlBool_sqlBool p.target.isSome) _).trans ?_
  refine (bind_of_ok haccepted _).trans ?_
  refine (bind_of_ok (snapshotTarget_approved (isValid_of_approvedTarget a)) _).trans ?_
  refine (bind_of_ok (snapshotTarget_preflight p.preflight) _).trans ?_
  refine (bind_of_ok (require_of_true hpreflight) _).trans ?_
  refine (bind_of_ok hrequest _).trans ?_
  refine (bind_of_ok hresult _).trans ?_
  refine (bind_of_ok hrejection _).trans ?_
  refine (bind_of_ok (validateSnapshotAuthorization_facts a) _).trans ?_
  refine (bind_of_ok hattempt _).trans ?_
  refine (bind_of_ok (require_of_true happroval) _).trans ?_
  refine (bind_of_ok (require_of_true hstale) _).trans ?_
  refine (bind_of_ok (require_of_true hrejects) _).trans ?_
  refine (bind_of_ok (require_of_true (decide_eq_true hstatement)) _).trans ?_
  exact bind_of_ok hreceipt _

/-- An attempt on the approved target agrees with the approval. -/
theorem AttemptValid.approvalAgrees {target : ValidatedTargetIdentity}
    {response response' : Option ApplyResponseFacts} (h : AttemptValid a target response) :
    approvalAgrees (requestFacts a (some target)) (some (authorizationFacts a))
      (some ⟨target, response'⟩) = true := by
  unfold Journal.approvalAgrees
  show (AuthorizedRequest.approvedTarget a).all _ = true
  cases happroved : AuthorizedRequest.approvedTarget a with
  | none => rfl
  | some approved =>
    obtain rfl := h.approved approved happroved
    simp [requestFacts, ValidatedTargetIdentity.toApproved]

theorem approvalAgrees_none (facts : RequestFacts) (authorization : AuthorizationFacts) :
    approvalAgrees facts (some authorization) none = true := by
  unfold approvalAgrees
  cases facts.approvedTarget <;> rfl

/-- A receipt that decodes is within its bound, under a valid key. -/
theorem bounds_of_decodeFrozenReceipt {receipt : Bytes} {keyId : Text}
    {statement : ReceiptStatement} (h : decodeFrozenReceipt receipt = .ok (keyId, statement)) :
    receipt.length ≤ Receipt.receiptBytesMax ∧ identityIsValid keyId = true := by
  obtain ⟨envelope, henvelope, hpair⟩ := bind_eq_ok.mp h
  obtain ⟨rfl, rfl⟩ := Prod.mk.inj (Except.ok.inj hpair)
  obtain ⟨hlength, hkey, -⟩ := Receipt.parseEnvelope_eq_ok henvelope
  exact ⟨hlength, hkey⟩

theorem snapshotFrozenReceipt_of_valid {statement : ReceiptStatement} {receipt : FrozenReceipt}
    (h : ReceiptValid a statement receipt) :
    snapshotFrozenReceipt C a.request.operationId (some receipt.digest) (some receipt.bytes)
      (some receipt.keyId) (some statement) = .ok (some receipt) := by
  obtain ⟨hlength, hkey⟩ := bounds_of_decodeFrozenReceipt h.embedded
  have hvalidate : validateFrozenReceipt C ⟨a.request.operationId, receipt.bytes, receipt.digest,
      receipt.keyId⟩ = .ok receipt := by
    refine bind_eq_ok.mpr ⟨(), require_of_true ?_, bind_eq_ok.mpr ⟨(), require_of_true hkey, ?_⟩⟩
    · rw [Bool.and_eq_true, decide_eq_true_eq, decide_eq_true_eq]
      exact ⟨hlength, h.digest⟩
    · rw [← h.operationId]
      rfl
  refine bind_eq_ok.mpr ⟨receipt, hvalidate, bind_eq_ok.mpr ⟨statement, rfl, ?_⟩⟩
  refine bind_eq_ok.mpr ⟨(receipt.keyId, statement), mapError_eq_ok.mpr h.embedded, ?_⟩
  refine bind_eq_ok.mpr ⟨(), require_of_true ?_, rfl⟩
  rw [Bool.and_eq_true]
  exact ⟨decide_eq_true rfl, decide_eq_true rfl⟩

theorem not_carriesStatement (s : OperationState) (h : carriesStatement s.asSql = false) :
    ¬ carriesStatement s.asSql = true := by
  rw [h]
  exact Bool.false_ne_true

/-- **Every valid phase decodes to the operation it describes.** -/
theorem decode_phase {p : Phase} (hvalid : p.Valid a) (hreadable : p.Readable) :
    decode C (phaseRecord a p) = .ok (p.loaded a) := by
  refine (bind_of_ok (snapshotRow_phase a p) _).trans ?_
  cases p with
  | requested =>
    refine (if_neg (not_carriesStatement .requested rfl)).trans ?_
    exact intoOperation_phase hreadable rfl (approvalAgrees_none _ _) rfl rfl rfl
  | authorized =>
    refine (if_neg (not_carriesStatement .authorized rfl)).trans ?_
    exact intoOperation_phase hreadable rfl (approvalAgrees_none _ _) rfl rfl rfl
  | rejected rejection =>
    refine (if_neg (not_carriesStatement .notAttempted rfl)).trans ?_
    have hstale : rejection ≠ .staleApproval := by
      have hmem : rejection ∈ productionRejections := hreadable
      rintro rfl
      exact absurd hmem (by decide)
    refine intoOperation_phase hreadable rfl (approvalAgrees_none _ _) ?_ rfl rfl
    simp [staleApprovalAgrees, Phase.rejection, hstale]
  | stale seen =>
    refine (if_neg (not_carriesStatement .notAttempted rfl)).trans ?_
    obtain ⟨approved, happroved, hne⟩ := hvalid
    refine intoOperation_phase hreadable rfl (approvalAgrees_none _ _) ?_ rfl rfl
    simp [staleApprovalAgrees, requestFacts, happroved, Phase.preflight, Ne.symm hne]
  | attempted target response =>
    refine (if_neg (not_carriesStatement .applyStarted rfl)).trans ?_
    have hattempt : AttemptValid a target response := hvalid
    have hresponse : (response.map fun r =>
        { r with requestedGeneration := response.bind (·.requestedGeneration) }) = response := by
      cases response <;> rfl
    have hvalidated : ∀ r ∈ response, ApplyOutcome.validate ⟨r.accepted,
        response.bind (·.requestedGeneration), some target.deploymentUid,
        some r.resourceVersion⟩ = .ok () := by
      intro r hr
      obtain rfl := hr
      exact hattempt.response r rfl
    have hcolumns := validateSnapshotAttemptFacts_attempt .applyStarted hvalidated
      (fun hnone => .inr (by rw [hnone]; rfl))
    rw [hresponse] at hcolumns
    exact intoOperation_phase hreadable hcolumns hattempt.approvalAgrees rfl rfl rfl
  | observed target response observation =>
    refine (if_pos (c := carriesStatement OperationState.receiverObserved.asSql = true) rfl).trans ?_
    obtain ⟨hattempt, hobservation⟩ := hvalid
    refine (bind_of_ok (receiptStatement_phase (.inl rfl) hattempt hobservation) _).trans ?_
    have hcolumns := validateSnapshotAttemptFacts_attempt .receiverObserved
      (hattempt.validate_frozenResponse hobservation) (fun _ => .inl (by decide))
    exact intoOperation_phase hreadable hcolumns hattempt.approvalAgrees rfl rfl rfl
  | finalized target response observation receipt =>
    refine (if_pos (c := carriesStatement OperationState.finalized.asSql = true) rfl).trans ?_
    obtain ⟨hattempt, hobservation, hreceipt⟩ := hvalid
    refine (bind_of_ok (receiptStatement_phase (.inr ⟨receipt, rfl⟩) hattempt hobservation) _).trans ?_
    have hcolumns := validateSnapshotAttemptFacts_attempt .finalized
      (hattempt.validate_frozenResponse hobservation) (fun _ => .inl (by decide))
    exact intoOperation_phase hreadable hcolumns hattempt.approvalAgrees rfl rfl
      (snapshotFrozenReceipt_of_valid hreceipt)

end Journal
end Gateway
end Kapsel
