import Kapsel.Gateway.Adapter
import Kapsel.Gateway.Healthy
import Kapsel.Gateway.Readable

/-!
# From an attempt to an inspected receipt

An attempted operation is frozen, signed, committed and inspected.  The result of an
observation is computed three times on the way --- when the observation is frozen, when the
row is decoded and when the receipt is inspected --- and the three computations see
different outcomes of the call.  A disagreement would show up as an operation that can
never be completed.  `freeze_to_inspection` says that there is none, for every attempted
row that any run leaves behind and every observation that the grammar admits.

The grammar is the other half.  The adapter copies what the API server returned, and the
journal refuses what is not bounded: an image that is not pinned by digest, an empty or
oversized fact, a negative count.  The refusal leaves the row as it is
(`observation_frozen_iff`), so that a pass can only end in a row whose facts are bounded.
-/

namespace Kapsel

open Grammar Fallible Authority Receipt Interaction Interaction.Program Relation

namespace Gateway

open Journal

variable {C : Crypto}

section
variable {a : AuthorizedRequest C} {target : ValidatedTargetIdentity}
  {response : Option ApplyResponseFacts} {observation : ReceiverObservation} {w : World}

/-! ## Freezing -/

/-- **Freezing commits** on healthy storage. -/
theorem exists_yields_freezeObservation (outside : Outside) (s : ℕ)
    (hvalid : AttemptValid a target response) (hobservation : observation.Valid)
    (hr : stored w.db .kubernetes a.request.operationId =
      some (phaseRecord a (.attempted target response))) :
    ∃ w', Yields (healthy outside s) w
        (Storage.freezeObservation (C := C) (startedOperation a target response) observation) () w' ∧
      stored w'.db .kubernetes a.request.operationId =
        some (phaseRecord a (.observed target response observation)) := by
  have hvalid' : (Phase.observed target response observation).Valid a := ⟨hvalid, hobservation⟩
  obtain ⟨db', hcommit, hafter⟩ := exists_commit_of_advances
    (Advances.freezeObservation a target response observation) (p := .attempted target response)
    hvalid hvalid' hr
  refine ⟨⟨db', w.holder⟩, ?_, hafter⟩
  refine yields_checked (a := ()) (ReceiverObservation.validate_eq_ok.mpr hobservation) ?_
  exact (yields_boundRecord (p := .attempted target response) hvalid trivial hr).bind
    (yields_replace hcommit)

/-! ## Signing and committing -/

/-- The receipt of a frozen statement. -/
theorem exists_buildReceipt (hvalid : AttemptValid a target response)
    (hobservation : observation.Valid) (settings : ReceiptSettings)
    (hkey : identityIsValid settings.keyId = true) :
    ∃ statementBytes receipt,
      (frozenStatement a target response observation).encode = .ok statementBytes ∧
      statementBytes.length ≤ statementBytesMax ∧
      signStatement C (frozenStatement a target response observation) settings.signingSeed
        settings.keyId = .ok receipt.bytes ∧
      receipt.bytes.length ≤ receiptBytesMax ∧
      buildReceipt C (observedOperation a target response observation) settings = .ok receipt ∧
      receipt.operationId = a.request.operationId ∧
      parseReceiptEnvelope receipt.bytes .default =
        .ok ⟨(frozenStatement a target response observation).purpose, settings.keyId,
          statementBytes, frozenStatement a target response observation,
          C.sign settings.signingSeed (Receipt.signatureInput
            (frozenStatement a target response observation).purpose statementBytes)⟩ ∧
      ReceiptValid a (frozenStatement a target response observation) receipt := by
  have hgeneration := hvalid.nonneg_frozenGeneration hobservation
  obtain ⟨statementBytes, bytes, hencode, hfits, hsign, hreceipt, hparse⟩ :=
    (valid_frozenStatement hvalid hobservation).parseReceiptEnvelope_signStatement (C := C)
      hgeneration settings.signingSeed hkey
  refine ⟨statementBytes, ⟨a.request.operationId, bytes, digestHex C bytes, settings.keyId⟩,
    hencode, hfits, hsign, hreceipt, ?_, rfl, hparse, rfl, decodeFrozenReceipt_of_parse hparse, rfl⟩
  exact bind_eq_ok.mpr ⟨bytes, mapError_eq_ok.mpr hsign, rfl⟩

/-- **Committing the receipt commits** on healthy storage. -/
theorem exists_yields_commitReceipt (outside : Outside) (s : ℕ) {receipt : FrozenReceipt}
    (hvalid : AttemptValid a target response) (hobservation : observation.Valid)
    (hreceipt : ReceiptValid a (frozenStatement a target response observation) receipt)
    (hr : stored w.db .kubernetes a.request.operationId =
      some (phaseRecord a (.observed target response observation))) :
    ∃ w', Yields (healthy outside s) w
        (Storage.commitReceipt (C := C) (observedOperation a target response observation) receipt)
        () w' ∧
      stored w'.db .kubernetes a.request.operationId =
        some (phaseRecord a (.finalized target response observation receipt)) := by
  have hvalid' : (Phase.finalized target response observation receipt).Valid a :=
    ⟨hvalid, hobservation, hreceipt⟩
  obtain ⟨db', hcommit, hafter⟩ := exists_commit_of_advances
    (Advances.commitReceipt a target response observation receipt)
    (p := .observed target response observation) ⟨hvalid, hobservation⟩ hvalid' hr
  refine ⟨⟨db', w.holder⟩, ?_, hafter⟩
  have hid : (require (decide (receipt.operationId =
      (observedOperation a target response observation).operationId))
      GatewayError.invalidTransition) = .ok () :=
    require_of_true (decide_eq_true hreceipt.operationId)
  have hcheck : checkReceipt C (observedOperation a target response observation) receipt = .ok () := by
    refine bind_eq_ok.mpr ⟨_, mapError_eq_ok.mpr hreceipt.embedded, require_of_true ?_⟩
    rw [Bool.and_eq_true, Bool.and_eq_true]
    exact ⟨⟨decide_eq_true rfl, decide_eq_true rfl⟩, decide_eq_true hreceipt.digest⟩
  refine yields_checked hid ?_
  refine (yields_boundRecord (p := .observed target response observation) ⟨hvalid, hobservation⟩
    trivial hr).bind ?_
  exact yields_checked hcheck (yields_replace hcommit)

end

/-! ## The whole way -/

/-- An attempted operation completes: its observation is frozen, the reloaded operation is
observed, its statement is signed within the bounds, the receipt is committed, the reloaded
operation is finalized with these bytes, and they are inspected under the trust document of
the signing key, with the statement that was frozen. -/
structure Completes (respond : World → (c : Call C) → Answer c × World) (w : World) (id : Text)
    (started : ApplyStartedOperation) (observation : ReceiverObservation)
    (settings : ReceiptSettings) (w₁ w₂ : World) (observed : ReceiverObservedOperation)
    (receipt : FrozenReceipt) : Prop where
  freezes : Yields respond w (Storage.freezeObservation (C := C) started observation) () w₁
  reloads : Journal.operation C w₁.db id = .ok (some (.receiverObserved observed))
  statement : observed.statement = statementOf started observation
  encodes : ∃ bytes, observed.statement.encode = .ok bytes ∧ bytes.length ≤ statementBytesMax
  signs : signStatement C observed.statement settings.signingSeed settings.keyId =
    .ok receipt.bytes
  fits : receipt.bytes.length ≤ receiptBytesMax
  builds : buildReceipt C observed settings = .ok receipt
  commits : Yields respond w₁ (Storage.commitReceipt (C := C) observed receipt) () w₂
  finalized : Journal.operation C w₂.db id = .ok (some (.finalized ⟨observed, receipt⟩))
  inspected : ∀ notBefore notAfter time, notBefore ≤ time → time < notAfter →
    ∃ trust, encodeReceiptTrust (trustOf C settings.signingSeed settings.keyId
        observed.statement.purpose notBefore notAfter) = .ok trust ∧
      inspectReceipt C receipt.bytes trust time .default = ⟨.inspected, some observed.statement⟩
  result : observed.statement.result =
    observation.classify started.request started.classificationOutcome

/-- The trust document of a signing key encodes. -/
theorem exists_trust {keyId purpose : Text} (seed : Octets 32) (hkey : identityIsValid keyId = true)
    (hpurpose : receiptTextIsValid purpose = true) {notBefore notAfter time : Int64}
    (hbefore : notBefore ≤ time) (hafter : time < notAfter) :
    ∃ trust, encodeReceiptTrust (trustOf C seed keyId purpose notBefore notAfter) = .ok trust :=
  exists_encodeReceiptTrust hkey hpurpose (Int64.lt_of_le_of_lt hbefore hafter)

theorem receiptTextIsValid_purpose (s : ReceiptStatement) :
    receiptTextIsValid s.purpose = true := by
  unfold ReceiptStatement.purpose
  split <;> decide

/-- **Freeze to inspection.**  Every attempted operation that a run leaves behind, with or
without a response, completes with every observation that passes validation, every seed and
every valid key id. -/
theorem freeze_to_inspection (hC : C.Correct) (e : Execution C) (id : Text) (r : Record .kubernetes)
    (started : ApplyStartedOperation) (hr : stored e.world.db .kubernetes id = some r)
    (hdecode : decode C r = .ok (.applyStarted started)) (observation : ReceiverObservation)
    (hobservation : observation.validate = .ok ()) (settings : ReceiptSettings)
    (hkey : identityIsValid settings.keyId = true) (outside : Outside) (s : ℕ) :
    ∃ w₁ w₂ observed receipt, Completes (C := C) (healthy outside s) e.world id started observation
      settings w₁ w₂ observed receipt := by
  obtain ⟨a, p, rfl, rfl, hvalid⟩ := e.sound.lawful.phase hr
  obtain ⟨target, response, rfl, rfl⟩ := phase_of_applyStarted hvalid hdecode
  have hobserved := ReceiverObservation.validate_eq_ok.mp hobservation
  obtain ⟨w₁, hfreeze, hrow₁⟩ :=
    exists_yields_freezeObservation outside s hvalid hobserved hr
  obtain ⟨statementBytes, receipt, hencode, hfits, hsign, hreceiptFits, hbuild, -, hparse,
    hreceipt⟩ := exists_buildReceipt hvalid hobserved settings hkey
  obtain ⟨w₂, hcommit, hrow₂⟩ :=
    exists_yields_commitReceipt outside s hvalid hobserved hreceipt hrow₁
  refine ⟨w₁, w₂, observedOperation a target response observation, receipt, hfreeze,
    operation_of_stored (p := .observed target response observation) ⟨hvalid, hobserved⟩ trivial
      hrow₁, rfl, ⟨statementBytes, hencode, hfits⟩, hsign, hreceiptFits, hbuild, hcommit,
    operation_of_stored (p := .finalized target response observation receipt)
      ⟨hvalid, hobserved, hreceipt⟩ trivial hrow₂, ?_, rfl⟩
  intro notBefore notAfter time hbefore hafter
  obtain ⟨trust, htrust⟩ := exists_trust (C := C) settings.signingSeed hkey
    (receiptTextIsValid_purpose (frozenStatement a target response observation)) hbefore hafter
  exact ⟨trust, htrust, inspectReceipt_signed hC hparse htrust hbefore hafter⟩

/-- The known operation completes with the known observation. -/
theorem known_operation_completes :
    ∃ r started, stored Known.attempted.world.db .kubernetes Known.request.operationId = some r ∧
      decode Known.crypto r = .ok (.applyStarted started) ∧
      ∃ w₁ w₂ observed receipt, Completes (C := Known.crypto) (healthy Known.outside 1)
        Known.attempted.world Known.request.operationId started Known.observation Known.settings
        w₁ w₂ observed receipt := by
  obtain ⟨r, started, hr, hdecode⟩ := Known.attempted.exists_started Known.attempted_state
  exact ⟨r, started, hr, hdecode, freeze_to_inspection Known.correct Known.attempted _ r started hr
    hdecode Known.observation (by decide) Known.settings (by decide) Known.outside 1⟩

/-! ## Content that cannot be frozen -/

/-- The adapter observes what the API server returned in these readings. -/
def Outside.observing (outside : Outside) (timedOut : Bool) (readings : List Reading) : Outside :=
  { outside with observe := fun request outcome => .ok (Gateway.observe request outcome timedOut readings) }

/-- The evidence decides: the receiver shows the operation at the requested generation, and
either the deadline was exceeded or every replica is available. -/
def ReceiverObservation.conclusive (o : ReceiverObservation) (request : ValidatedRequest)
    (outcome : ApplyOutcome) : Bool :=
  o.establishesGeneration request.request.operationId request.request.immutableImageDigest outcome &&
    (o.progressDeadlineExceeded || (o.replicaCountsEstablishAvailability && o.availableCondition))

/-- **Inconclusive evidence is unknown.** -/
theorem ReceiverObservation.classify_of_not_conclusive {o : ReceiverObservation}
    {request : ValidatedRequest} {outcome : ApplyOutcome}
    (h : o.conclusive request outcome = false) : o.classify request outcome = .unknown := by
  unfold classify observationResult
  unfold conclusive at h
  cases hgeneration : o.establishesGeneration request.request.operationId
      request.request.immutableImageDigest outcome with
  | false => rfl
  | true =>
    rw [hgeneration, Bool.true_and, Bool.or_eq_false_iff] at h
    rw [h.1, h.2]
    rfl

section
variable {a : AuthorizedRequest C} {target : ValidatedTargetIdentity}
  {response : Option ApplyResponseFacts} {observation : ReceiverObservation}
  {outside : Outside} {s : ℕ} {w : World}

theorem yields_authorizedOperation {p : Phase} (hvalid : p.Valid a) (hreadable : p.Readable)
    (hr : stored w.db .kubernetes a.request.operationId = some (phaseRecord a p)) :
    Yields (healthy outside s) w (Storage.authorizedOperation a) (some (p.loaded a)) w :=
  yields_snapshot.bind (yields_check (authorizedRecordOn_of_stored hvalid hreadable hr) w)

theorem yields_requireAuthorized {p : Phase} (hvalid : p.Valid a) (hreadable : p.Readable)
    (hr : stored w.db .kubernetes a.request.operationId = some (phaseRecord a p)) :
    Yields (healthy outside s) w (requireAuthorized a) (p.loaded a) w :=
  (yields_authorizedOperation hvalid hreadable hr).bind (yields_pure _ w)

/-- The observation of an attempted row is frozen. -/
theorem exists_yields_observeAndFreeze (hvalid : AttemptValid a target response)
    (hobserve : outside.observe (startedOperation a target response).request.toAdapterRequest
      (startedOperation a target response).classificationOutcome = .ok observation)
    (hobservation : observation.Valid)
    (hr : stored w.db .kubernetes a.request.operationId =
      some (phaseRecord a (.attempted target response))) :
    ∃ w', Yields (healthy outside s) w
        (observeAndFreeze a (startedOperation a target response)) .receiverObserved w' ∧
      stored w'.db .kubernetes a.request.operationId =
        some (phaseRecord a (.observed target response observation)) := by
  obtain ⟨w', hfreeze, hafter⟩ :=
    exists_yields_freezeObservation outside s hvalid hobservation hr
  refine ⟨w', ?_, hafter⟩
  refine yields_ask (yields_checked (a := observation) ?_ ?_)
  · exact mapError_eq_ok.mpr hobserve
  · refine (yields_requireAuthorized (p := .attempted target response) hvalid trivial hr).bind ?_
    exact hfreeze.bind (yields_pure _ w')

/-- A pass over an attempted row observes and freezes. -/
theorem exists_yields_pass (hvalid : AttemptValid a target response)
    (hobserve : outside.observe (startedOperation a target response).request.toAdapterRequest
      (startedOperation a target response).classificationOutcome = .ok observation)
    (hobservation : observation.Valid)
    (hr : stored w.db .kubernetes a.request.operationId =
      some (phaseRecord a (.attempted target response))) :
    ∃ w', Yields (healthy outside s) w (runLockedOperationOnce a) (some .receiverObserved) w' ∧
      stored w'.db .kubernetes a.request.operationId =
        some (phaseRecord a (.observed target response observation)) := by
  obtain ⟨w', hfreeze, hafter⟩ :=
    exists_yields_observeAndFreeze (s := s) hvalid hobserve hobservation hr
  refine ⟨w', ?_, hafter⟩
  refine (yields_authorizedOperation (p := .attempted target response) hvalid trivial hr).bind ?_
  exact hfreeze.bind (yields_pure _ w')

/-- A pass whose observation is not bounded fails, and nothing has changed. -/
theorem fails_pass (hvalid : AttemptValid a target response)
    (hobserve : outside.observe (startedOperation a target response).request.toAdapterRequest
      (startedOperation a target response).classificationOutcome = .ok observation)
    (hobservation : ¬ observation.Valid)
    (hr : stored w.db .kubernetes a.request.operationId =
      some (phaseRecord a (.attempted target response))) :
    Fails (healthy outside s) w (runLockedOperationOnce a) .invalidKubernetesFact w := by
  refine (yields_authorizedOperation (p := .attempted target response) hvalid trivial hr).bind_fails ?_
  refine Fails.bind ?_
  have hanswer : Yields (healthy outside s) w
      (perform (Call.observe (startedOperation a target response).request.toAdapterRequest
        (startedOperation a target response).classificationOutcome) : Action C GatewayError _)
      (Except.ok observation) w := congrArg (fun r => (Except.ok r, w)) hobserve
  refine hanswer.bind_fails ?_
  refine Yields.bind_fails (a := observation) (yields_check rfl w) ?_
  refine (yields_requireAuthorized (p := .attempted target response) hvalid trivial hr).bind_fails ?_
  exact Fails.bind (Fails.bind
    (fails_check (ReceiverObservation.validate_eq_error hobservation) w))

end

/-- **Which content is frozen.**  For every attempted operation that a run leaves behind and
everything that the API server may return to the adapter: a pass with uncontended storage
moves the row to receiver_observed exactly when the copied facts are in the bounded grammar.
The result is then that of the classification, which is UNKNOWN unless the evidence is
conclusive.  Otherwise the pass fails and the row is as it was. -/
theorem observation_frozen_iff (e : Execution C) (id : Text) (r : Record .kubernetes)
    (started : ApplyStartedOperation) (hr : stored e.world.db .kubernetes id = some r)
    (hdecode : decode C r = .ok (.applyStarted started)) (timedOut : Bool)
    (readings : List Reading) (outside : Outside) (s : ℕ) (observation : ReceiverObservation)
    (hobservation : observation = observe started.request.toAdapterRequest
      started.classificationOutcome timedOut readings) :
    ∃ a : AuthorizedRequest C, a.request.operationId = id ∧
      r.value .signedAuthorizationGrant = .blob a.authorization.signedGrant ∧
      (observation.Valid → ∃ w' r',
        Yields (healthy (outside.observing timedOut readings) s) e.world (runLockedOperationOnce a)
          (some .receiverObserved) w' ∧
        stored w'.db .kubernetes id = some r' ∧
        r'.value .state = .text (utf8 "receiver_observed") ∧
        r'.value .result =
          .text (observation.classify started.request started.classificationOutcome).asSql ∧
        (observation.conclusive started.request started.classificationOutcome = false →
          r'.value .result = .text (utf8 "UNKNOWN"))) ∧
      (¬ observation.Valid →
        Fails (healthy (outside.observing timedOut readings) s) e.world (runLockedOperationOnce a)
          .invalidKubernetesFact e.world) := by
  obtain ⟨a, p, rfl, rfl, hvalid⟩ := e.sound.lawful.phase hr
  obtain ⟨target, response, rfl, rfl⟩ := phase_of_applyStarted hvalid hdecode
  have hobserve : (outside.observing timedOut readings).observe
      (startedOperation a target response).request.toAdapterRequest
      (startedOperation a target response).classificationOutcome = .ok observation :=
    congrArg Except.ok hobservation.symm
  refine ⟨a, rfl, rfl, fun hbounded => ?_, fun hunbounded => fails_pass hvalid hobserve hunbounded hr⟩
  obtain ⟨w', hpass, hafter⟩ := exists_yields_pass (s := s) hvalid hobserve hbounded hr
  refine ⟨w', _, hpass, hafter, rfl, rfl, fun hinconclusive => ?_⟩
  have hunknown := ReceiverObservation.classify_of_not_conclusive hinconclusive
  exact congrArg (fun result => Value.text (OperationResult.asSql result)) hunknown

/-- One reading in time. -/
theorem observe_single (request : SetDeploymentImageRequest) (outcome : ApplyOutcome)
    (deployment : Deployment) :
    observe request outcome false [⟨false, .found deployment, false⟩] =
      receiverObservation request deployment := by
  show (if _ = true then receiverObservation request deployment else
    receiverObservation request deployment) = _
  split <;> rfl

/-- The Deployment of the known operation, with whatever annotation it has now. -/
def Known.deployment (marker : Text) : Deployment where
  metadata := ⟨some Known.target.deploymentUid, some (utf8 "observed:0067"), some 53,
    some [( operationAnnotation, marker)]⟩
  spec := some ⟨some 3, some [⟨Known.request.container, some Known.image⟩]⟩
  status := some ⟨some 61, some 5, some 7, some 11, none⟩

theorem Known.valid_receiverObservation (request : SetDeploymentImageRequest) (marker : Text) :
    (receiverObservation request (Known.deployment marker)).Valid ↔ factIsValid marker = true := by
  have hfacts : (receiverObservation request (Known.deployment marker)).facts =
      [some Known.target.deploymentUid, some (utf8 "observed:0067"), some marker, none, none,
        none] := rfl
  have himage : (receiverObservation request (Known.deployment marker)).image.all
      immutableImageIsValid = true := by
    show ((List.find? (fun container : Container => decide (container.name = request.container))
      [⟨Known.request.container, some Known.image⟩]).bind (·.image)).all immutableImageIsValid = true
    rw [List.find?_singleton]
    split
    · decide
    · rfl
  constructor
  · intro h
    exact h.facts (some marker) (by rw [hfacts]; simp)
  · intro h
    refine ⟨fun fact hfact => ?_, rfl, rfl, himage⟩
    rw [hfacts] at hfact
    simp only [List.mem_cons, List.not_mem_nil, or_false] at hfact
    rcases hfact with rfl | rfl | rfl | rfl | rfl | rfl
    · decide
    · decide
    · exact h
    all_goals rfl

/-- The known operation is frozen with the annotation that it was patched with. -/
theorem known_observation_frozen :
    ∃ r started, stored Known.attempted.world.db .kubernetes Known.request.operationId = some r ∧
      decode Known.crypto r = .ok (.applyStarted started) ∧
      ∃ (a : AuthorizedRequest Known.crypto) (w' : World) (r' : Record .kubernetes),
        Yields (healthy (Known.outside.observing false
            [⟨false, .found (Known.deployment Known.request.operationId), false⟩]) 1)
          Known.attempted.world (runLockedOperationOnce a) (some .receiverObserved) w' ∧
        stored w'.db .kubernetes Known.request.operationId = some r' ∧
        r'.value .state = .text (utf8 "receiver_observed") := by
  obtain ⟨r, started, hr, hdecode⟩ := Known.attempted.exists_started Known.attempted_state
  obtain ⟨a, -, -, hfrozen, -⟩ := observation_frozen_iff Known.attempted _ r started hr hdecode false
    [⟨false, .found (Known.deployment Known.request.operationId), false⟩] Known.outside 1 _ rfl
  rw [observe_single] at hfrozen
  obtain ⟨w', r', hpass, hr', hstate, -⟩ :=
    hfrozen ((Known.valid_receiverObservation _ _).mpr (by decide))
  exact ⟨r, started, hr, hdecode, a, w', r', hpass, hr', hstate⟩

/-- **An edited annotation stops the operation**: after the patch another actor empties the
operation annotation, and the pass leaves the row in apply_started. -/
theorem emptied_annotation_not_frozen :
    ∃ r started, stored Known.attempted.world.db .kubernetes Known.request.operationId = some r ∧
      decode Known.crypto r = .ok (.applyStarted started) ∧
      r.value .state = .text (utf8 "apply_started") ∧
      ∃ a : AuthorizedRequest Known.crypto, a.request.operationId = Known.request.operationId ∧
        r.value .signedAuthorizationGrant = .blob a.authorization.signedGrant ∧
        Fails (healthy (Known.outside.observing false
            [⟨false, .found (Known.deployment []), false⟩]) 1)
          Known.attempted.world (runLockedOperationOnce a) .invalidKubernetesFact
          Known.attempted.world := by
  obtain ⟨r, started, hr, hdecode⟩ := Known.attempted.exists_started Known.attempted_state
  refine ⟨r, started, hr, hdecode, state_of_decode hdecode, ?_⟩
  obtain ⟨a, p, hid, rfl, hvalid⟩ := Known.attempted.sound.lawful.phase hr
  obtain ⟨target, response, rfl, rfl⟩ := phase_of_applyStarted hvalid hdecode
  rw [hid] at hr
  have hattempt : AttemptValid a target response := hvalid
  refine ⟨a, hid.symm, rfl, fails_pass hattempt (congrArg Except.ok (observe_single ..)) ?_ hr⟩
  rw [Known.valid_receiverObservation]
  decide

end Gateway
end Kapsel
