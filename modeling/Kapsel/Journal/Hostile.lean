import Kapsel.Journal.Phases

/-!
# Rows that somebody else wrote

The decoder of `src/gateway/journal/records.rs` and `src/gateway/journal/mod.rs` is the only
thing between a row of the file and what the gateway reports about it.  Here nothing is
assumed of the row: its columns hold any values of their declared types, in any combination.
What follows when such a row decodes is what the decoder itself establishes.

The checks are spread over helpers that each look at a group of columns.  The inversion goes
the same way: `SnapshotOf` is what the first reads establish, `StatementOf` what the rebuilt
statement is, `Accepted` what the checks of `into_operation` leave of the decoded facts, and
`DecodedAs` what the last step says of each state.  The main theorem puts them together and
names columns only.
-/

namespace Kapsel

open Grammar Fallible Authority

namespace Gateway
namespace Journal

variable {C : Crypto} {r : Record .kubernetes}

/-! ## What the reads establish -/

theorem present_eq_ok {α : Type} {x : Option α} {a : α} : present x = .ok a ↔ x = some a := by
  cases x <;> simp [present]

/-- The snapshot has the values of the columns. -/
structure SnapshotOf (r : Record .kubernetes) (row : SnapshotRow) : Prop where
  approvedUid : r.value .approvedUid = .optionalText row.approvedUid
  approvedResourceVersion :
    r.value .approvedResourceVersion = .optionalText row.approvedResourceVersion
  preflightUid : r.value .preflightUid = .optionalText row.preflightUid
  preflightResourceVersion :
    r.value .preflightResourceVersion = .optionalText row.preflightResourceVersion
  operationId : r.value .operationId = .text row.operationId
  «namespace» : r.value .namespace = .text row.namespace
  deployment : r.value .deployment = .text row.deployment
  container : r.value .container = .text row.container
  immutableImageDigest : r.value .immutableImageDigest = .text row.immutableImageDigest
  state : r.value .state = .text row.state
  result : r.value .result = .optionalText row.result
  targetRejection : r.value .targetRejection = .optionalText row.targetRejection
  writeStrategy : r.value .writeStrategy = .optionalText row.writeStrategy
  applyAttempted : r.value .applyAttempted = .integer row.applyAttempted
  targetUid : r.value .targetUid = .optionalText row.targetUid
  targetResourceVersion : r.value .targetResourceVersion = .optionalText row.targetResourceVersion
  applyAccepted : r.value .applyAccepted = .optionalInteger row.applyAccepted
  requestedGeneration : r.value .requestedGeneration = .optionalInteger row.requestedGeneration
  applyResourceVersion : r.value .applyResourceVersion = .optionalText row.applyResourceVersion
  receiverFactsPresent : row.receiverFactsPresent = receiverFactColumns.any r.hasValue
  receiptDigest : r.value .receiptDigest = .optionalText row.receiptDigest
  receiptBytes : r.value .receiptBytes = .optionalBlob row.receiptBytes
  receiptKeyId : r.value .receiptKeyId = .optionalText row.receiptKeyId

theorem snapshotRow_eq_ok {row : SnapshotRow} (h : snapshotRow r = .ok row) :
    SnapshotOf r row := by
  unfold snapshotRow at h
  obtain ⟨_, h₁, h⟩ := bind_eq_ok.mp h
  obtain ⟨_, h₂, h⟩ := bind_eq_ok.mp h
  obtain ⟨_, h₃, h⟩ := bind_eq_ok.mp h
  obtain ⟨_, h₄, h⟩ := bind_eq_ok.mp h
  obtain ⟨_, h₅, h⟩ := bind_eq_ok.mp h
  obtain ⟨_, h₆, h⟩ := bind_eq_ok.mp h
  obtain ⟨_, h₇, h⟩ := bind_eq_ok.mp h
  obtain ⟨_, h₈, h⟩ := bind_eq_ok.mp h
  obtain ⟨_, h₉, h⟩ := bind_eq_ok.mp h
  obtain ⟨_, h₁₀, h⟩ := bind_eq_ok.mp h
  obtain ⟨_, h₁₁, h⟩ := bind_eq_ok.mp h
  obtain ⟨_, h₁₂, h⟩ := bind_eq_ok.mp h
  obtain ⟨_, -, h⟩ := bind_eq_ok.mp h
  obtain ⟨_, -, h⟩ := bind_eq_ok.mp h
  obtain ⟨_, -, h⟩ := bind_eq_ok.mp h
  obtain ⟨_, h₁₃, h⟩ := bind_eq_ok.mp h
  obtain ⟨_, h₁₄, h⟩ := bind_eq_ok.mp h
  obtain ⟨_, h₁₅, h⟩ := bind_eq_ok.mp h
  obtain ⟨_, h₁₆, h⟩ := bind_eq_ok.mp h
  obtain ⟨_, h₁₇, h⟩ := bind_eq_ok.mp h
  obtain ⟨_, h₁₈, h⟩ := bind_eq_ok.mp h
  obtain ⟨_, h₁₉, h⟩ := bind_eq_ok.mp h
  obtain ⟨_, h₂₀, h⟩ := bind_eq_ok.mp h
  obtain ⟨_, h₂₁, h⟩ := bind_eq_ok.mp h
  obtain ⟨_, h₂₂, h⟩ := bind_eq_ok.mp h
  rw [← Except.ok.inj h]
  have text := fun {c : Column} {v : Option Text} => (@Record.getOptionalText_eq_ok _ r c v).mp
  have word := fun {c : Column} {v : Text} => (@Record.getText_eq_ok _ r c v).mp
  have integer := fun {c : Column} {v : Option Int64} =>
    (@Record.getOptionalInteger_eq_ok _ r c v).mp
  exact ⟨text h₁, text h₂, text h₃, text h₄, word h₅, word h₆, word h₇, word h₈, word h₉, word h₁₀,
    text h₁₁, text h₁₂, text h₁₃, Record.getInteger_eq_ok.mp h₁₄, text h₁₅, text h₁₆, integer h₁₇,
    integer h₁₈, text h₁₉, rfl, text h₂₀, Record.getOptionalBlob_eq_ok.mp h₂₁, text h₂₂⟩

/-! ## The rebuilt statement -/

/-- The text, the integer or the 32-bit integer in a column, if there is one. -/
def Value.toText : Value → Option Text
  | .text v => some v
  | _ => none

def Value.toInteger : Value → Option Int64
  | .integer v => some v
  | _ => none

def Value.toInt32 : Value → Option Int32
  | .integer v => some v.toInt32
  | _ => none

@[simp] theorem Value.toText_optionalText (v : Option Text) : (Value.optionalText v).toText = v := by
  cases v <;> rfl

@[simp] theorem Value.toInteger_optionalInteger (v : Option Int64) :
    (Value.optionalInteger v).toInteger = v := by
  cases v <;> rfl

@[simp] theorem Value.toInt32_optionalInteger (v : Option Int32) :
    (Value.optionalInteger (v.map Int32.toInt64)).toInt32 = v := by
  cases v with
  | none => rfl
  | some v => exact congrArg some (Int32.toInt32_toInt64 v)

/-- The observation that the columns of a row hold. -/
def rowObservation (r : Record .kubernetes) : ReceiverObservation where
  deploymentUid := (r.value .receiverUid).toText
  resourceVersion := (r.value .receiverResourceVersion).toText
  currentGeneration := (r.value .currentGeneration).toInteger
  observedGeneration := (r.value .observedGeneration).toInteger
  image := (r.value .receiverImage).toText
  operationMarker := (r.value .receiverOperationMarker).toText
  desiredReplicas := (r.value .desiredReplicas).toInt32
  updatedReplicas := (r.value .updatedReplicas).toInt32
  availableReplicas := (r.value .availableReplicas).toInt32
  unavailableReplicas := (r.value .unavailableReplicas).toInt32
  rolloutConditionType := (r.value .rolloutConditionType).toText
  rolloutConditionStatus := (r.value .rolloutConditionStatus).toText
  rolloutConditionReason := (r.value .rolloutConditionReason).toText

/-- What the columns keep of the attempt: the target and the requested generation. -/
def rowOutcome (r : Record .kubernetes) : ApplyOutcome where
  accepted := false
  requestedGeneration := (r.value .requestedGeneration).toInteger
  deploymentUid := (r.value .targetUid).toText
  resourceVersion := (r.value .targetResourceVersion).toText

/-- **The classification recomputed from the row alone.** -/
def rowClassification (r : Record .kubernetes) : OperationResult :=
  (rowObservation r).observationResult ((r.value .operationId).toText.getD [])
    ((r.value .immutableImageDigest).toText.getD []) (rowOutcome r)

theorem OperationResult.asSql_of_fromSql {value : Text} {result : OperationResult}
    (h : OperationResult.fromSql value = .ok result) : value = result.asSql := by
  unfold OperationResult.fromSql at h
  split_ifs at h with h₁ h₂ h₃
  · rw [← Except.ok.inj h, h₁]
    rfl
  · rw [← Except.ok.inj h, h₂]
    rfl
  · rw [← Except.ok.inj h, h₃]
    rfl

/-- What is known of the statement that was rebuilt from a row. -/
structure StatementOf (r : Record .kubernetes) (s : ReceiptStatement) : Prop where
  observation : s.receiverObservation = rowObservation r
  outcome : s.applyOutcome = rowOutcome r
  operationId : r.value .operationId = .text s.operationId
  immutableImageDigest : r.value .immutableImageDigest = .text s.immutableImageDigest
  result : r.value .result = .text s.result.asSql
  valid : s.Valid

theorem receiptStatement_eq_ok {s : ReceiptStatement} (h : receiptStatement r = .ok s) :
    StatementOf r s := by
  unfold receiptStatement at h
  obtain ⟨_, -, h⟩ := bind_eq_ok.mp h
  obtain ⟨_, -, h⟩ := bind_eq_ok.mp h
  obtain ⟨_, -, h⟩ := bind_eq_ok.mp h
  obtain ⟨_, hoperationId, h⟩ := bind_eq_ok.mp h
  iterate 9 obtain ⟨_, -, h⟩ := bind_eq_ok.mp h
  obtain ⟨_, himage, h⟩ := bind_eq_ok.mp h
  obtain ⟨_, -, h⟩ := bind_eq_ok.mp h
  obtain ⟨_, -, h⟩ := bind_eq_ok.mp h
  obtain ⟨uid, huid, h⟩ := bind_eq_ok.mp h
  obtain ⟨_, huid', h⟩ := bind_eq_ok.mp h
  obtain ⟨version, hversion, h⟩ := bind_eq_ok.mp h
  obtain ⟨_, hversion', h⟩ := bind_eq_ok.mp h
  obtain ⟨_, h₁, h⟩ := bind_eq_ok.mp h
  obtain ⟨_, h₂, h⟩ := bind_eq_ok.mp h
  obtain ⟨_, h₃, h⟩ := bind_eq_ok.mp h
  obtain ⟨_, h₄, h⟩ := bind_eq_ok.mp h
  obtain ⟨_, h₅, h⟩ := bind_eq_ok.mp h
  obtain ⟨_, h₆, h⟩ := bind_eq_ok.mp h
  obtain ⟨_, h₇, h⟩ := bind_eq_ok.mp h
  obtain ⟨_, h₈, h⟩ := bind_eq_ok.mp h
  obtain ⟨_, h₉, h⟩ := bind_eq_ok.mp h
  obtain ⟨_, h₁₀, h⟩ := bind_eq_ok.mp h
  obtain ⟨_, h₁₁, h⟩ := bind_eq_ok.mp h
  obtain ⟨_, h₁₂, h⟩ := bind_eq_ok.mp h
  obtain ⟨_, h₁₃, h⟩ := bind_eq_ok.mp h
  obtain ⟨_, h₁₄, h⟩ := bind_eq_ok.mp h
  obtain ⟨word, hword, h⟩ := bind_eq_ok.mp h
  obtain ⟨result, hresult, h⟩ := bind_eq_ok.mp h
  obtain ⟨_, hvalid, h⟩ := bind_eq_ok.mp h
  obtain rfl := Except.ok.inj h
  have hvalid' := ReceiptStatement.validate_eq_ok.mp (mapError_eq_ok.mp hvalid)
  rw [present_eq_ok] at huid' hversion'
  subst huid' hversion'
  refine ⟨?_, ?_, Record.getText_eq_ok.mp hoperationId, Record.getText_eq_ok.mp himage, ?_, hvalid'⟩
  · unfold rowObservation
    rw [Record.getOptionalText_eq_ok.mp h₁, Record.getOptionalText_eq_ok.mp h₂,
      Record.getOptionalText_eq_ok.mp h₃, Record.getOptionalInteger_eq_ok.mp h₄,
      Record.getOptionalInteger_eq_ok.mp h₆, Record.getOptionalText_eq_ok.mp h₇,
      Record.getOptionalInt32_eq_ok.mp h₈, Record.getOptionalInt32_eq_ok.mp h₉,
      Record.getOptionalInt32_eq_ok.mp h₁₀, Record.getOptionalInt32_eq_ok.mp h₁₁,
      Record.getOptionalText_eq_ok.mp h₁₂, Record.getOptionalText_eq_ok.mp h₁₃,
      Record.getOptionalText_eq_ok.mp h₁₄]
    simp only [Value.toText_optionalText, Value.toInteger_optionalInteger,
      Value.toInt32_optionalInteger]
    rfl
  · unfold rowOutcome
    rw [Record.getOptionalInteger_eq_ok.mp h₅, Record.getOptionalText_eq_ok.mp huid,
      Record.getOptionalText_eq_ok.mp hversion]
    simp only [Value.toText_optionalText, Value.toInteger_optionalInteger]
    rfl
  · rw [Record.getText_eq_ok.mp hword, OperationResult.asSql_of_fromSql hresult]

/-- **The result of a rebuilt statement is the classification of its own row.** -/
theorem StatementOf.result_eq {s : ReceiptStatement} (h : StatementOf r s) :
    s.result = rowClassification r := by
  have hresult := h.valid.result
  rw [h.observation, h.outcome] at hresult
  unfold rowClassification
  rw [h.operationId, h.immutableImageDigest]
  exact hresult.symm

/-! ## What the checks establish -/

theorem decodeSqlBool_eq_ok {value : Int64} {b : Bool} (h : decodeSqlBool value = .ok b) :
    value = sqlBool b := by
  unfold decodeSqlBool at h
  split_ifs at h with h₀ h₁
  · rw [← Except.ok.inj h, h₀]
    rfl
  · rw [← Except.ok.inj h, h₁]
    rfl

theorem optional_mapM_eq_ok {α β : Type} {f : α → Except GatewayError β} {x : Option α} {y : Option β}
    (h : x.mapM f = .ok y) :
    (x = none ∧ y = none) ∨ ∃ a b, x = some a ∧ y = some b ∧ f a = .ok b := by
  cases x with
  | none => exact .inl ⟨rfl, (Except.ok.inj h).symm⟩
  | some a =>
    obtain ⟨b, hb, h⟩ := bind_eq_ok.mp h
    exact .inr ⟨a, b, rfl, (Except.ok.inj h).symm, hb⟩

theorem snapshotTarget_eq_ok {uid version : Option Text} {target : Option ApprovedTarget}
    (h : snapshotTarget uid version = .ok target) :
    uid = target.map (·.uid) ∧ version = target.map (·.resourceVersion) := by
  unfold snapshotTarget at h
  split at h
  · rw [← Except.ok.inj h]
    exact ⟨rfl, rfl⟩
  · split at h
    · rw [← Except.ok.inj h]
      exact ⟨rfl, rfl⟩
    · cases h
  · cases h

/-- The columns of an attempt and of the response to it. -/
structure AttemptOf (row : SnapshotRow) (attempt : Option AttemptFacts) : Prop where
  absent : attempt = none → row.writeStrategy = none ∧ row.targetUid = none ∧
    row.targetResourceVersion = none ∧ row.applyAccepted = none ∧
    row.requestedGeneration = none ∧ row.applyResourceVersion = none
  target : ∀ facts ∈ attempt, row.targetUid = some facts.target.deploymentUid ∧
    row.targetResourceVersion = some facts.target.resourceVersion

theorem snapshotAttemptTarget_eq_ok {strategy uid version : Option Text}
    {target : Option ValidatedTargetIdentity}
    (h : snapshotAttemptTarget strategy uid version = .ok target) :
    (target = none ∧ strategy = none ∧ uid = none ∧ version = none) ∨
      ∃ v, target = some v ∧ uid = some v.deploymentUid ∧ version = some v.resourceVersion := by
  unfold snapshotAttemptTarget at h
  split at h
  · obtain ⟨_, -, h⟩ := bind_eq_ok.mp h
    obtain ⟨v, hv, h⟩ := bind_eq_ok.mp h
    have htarget := ValidatedTargetIdentity.tryFrom_eq_ok.mp (mapError_eq_ok.mp hv)
    refine .inr ⟨v, (Except.ok.inj h).symm, ?_, ?_⟩
    · rw [ValidatedTargetIdentity.deploymentUid, htarget]
    · rw [ValidatedTargetIdentity.resourceVersion, htarget]
  · exact .inl ⟨(Except.ok.inj h).symm, rfl, rfl, rfl⟩
  · cases h

theorem attemptOf_validate {row : SnapshotRow} {state : OperationState} {accepted : Option Bool}
    {attempt : Option AttemptFacts} (haccepted : row.applyAccepted.mapM decodeSqlBool = .ok accepted)
    (h : validateSnapshotAttemptFacts state row.writeStrategy row.targetUid
      row.targetResourceVersion accepted row.requestedGeneration row.applyResourceVersion =
        .ok attempt) : AttemptOf row attempt := by
  unfold validateSnapshotAttemptFacts at h
  obtain ⟨target, htarget, h⟩ := bind_eq_ok.mp h
  rcases snapshotAttemptTarget_eq_ok htarget with ⟨rfl, hstrategy, huid, hversion⟩ |
    ⟨v, rfl, huid, hversion⟩
  · obtain ⟨_, hnone, h⟩ := bind_eq_ok.mp h
    obtain rfl := Except.ok.inj h
    simp only [require_eq_ok, Bool.and_eq_true, Option.isNone_iff_eq_none] at hnone
    refine ⟨fun _ => ⟨hstrategy, huid, hversion, ?_, hnone.1.2, hnone.2⟩, by simp⟩
    rcases optional_mapM_eq_ok haccepted with ⟨hcolumn, -⟩ | ⟨_, _, -, hsome, -⟩
    · exact hcolumn
    · cases hnone.1.1.symm.trans hsome
  · obtain ⟨response, -, h⟩ := bind_eq_ok.mp h
    obtain rfl := Except.ok.inj h
    refine ⟨by simp, fun facts hfacts => ?_⟩
    obtain rfl := Option.some.inj hfacts
    exact ⟨huid, hversion⟩

/-- The columns of a receipt. -/
structure ReceiptOf (C : Crypto) (row : SnapshotRow) (statement : Option ReceiptStatement)
    (receipt : Option FrozenReceipt) : Prop where
  absent : receipt = none →
    row.receiptDigest = none ∧ row.receiptBytes = none ∧ row.receiptKeyId = none
  whole : ∀ frozen ∈ receipt, row.receiptDigest = some (digestHex C frozen.bytes) ∧
    row.receiptBytes = some frozen.bytes ∧ row.receiptKeyId = some frozen.keyId ∧
    ∃ s, statement = some s ∧ decodeFrozenReceipt frozen.bytes = .ok (frozen.keyId, s)
  digest : ∀ frozen ∈ receipt, frozen.digest = digestHex C frozen.bytes

theorem receiptOf_snapshot {row : SnapshotRow} {statement : Option ReceiptStatement} {id : Text}
    {receipt : Option FrozenReceipt}
    (h : snapshotFrozenReceipt C id row.receiptDigest row.receiptBytes row.receiptKeyId statement =
      .ok receipt) : ReceiptOf C row statement receipt := by
  unfold snapshotFrozenReceipt at h
  split at h
  · rename_i hdigest hbytes hkey
    obtain rfl := Except.ok.inj h
    exact ⟨fun _ => ⟨hdigest, hbytes, hkey⟩, by simp, by simp⟩
  · rename_i digest bytes keyId hdigest hbytes hkey
    obtain ⟨frozen, hfrozen, h⟩ := bind_eq_ok.mp h
    obtain ⟨expected, hexpected, h⟩ := bind_eq_ok.mp h
    obtain ⟨⟨embeddedKeyId, embedded⟩, hembedded, h⟩ := bind_eq_ok.mp h
    obtain ⟨_, hsame, h⟩ := bind_eq_ok.mp h
    obtain rfl := Except.ok.inj h
    unfold validateFrozenReceipt at hfrozen
    obtain ⟨_, hchecked, hfrozen⟩ := bind_eq_ok.mp hfrozen
    obtain ⟨_, -, hfrozen⟩ := bind_eq_ok.mp hfrozen
    obtain rfl := Except.ok.inj hfrozen
    simp only [require_eq_ok, Bool.and_eq_true, decide_eq_true_eq] at hchecked hsame
    refine ⟨by simp, fun frozen hfrozen => ?_, fun frozen hfrozen => ?_⟩
    · obtain rfl := Option.some.inj hfrozen
      refine ⟨?_, hbytes, hkey, expected, present_eq_ok.mp hexpected, ?_⟩
      · rw [hdigest, hchecked.2]
      · rw [mapError_eq_ok.mp hembedded, hsame.1, hsame.2]
    · obtain rfl := Option.some.inj hfrozen
      exact hchecked.2.symm
  · cases h

/-- What the checks of `into_operation` leave of the decoded facts. -/
structure Accepted (C : Crypto) (row : SnapshotRow) (statement : Option ReceiptStatement)
    (state : OperationState) (f : SnapshotFacts) : Prop where
  word : row.state = state.asSql
  applyAttempted : row.applyAttempted = sqlBool f.applyAttempted
  approved : row.approvedUid = f.request.approvedTarget.map (·.uid) ∧
    row.approvedResourceVersion = f.request.approvedTarget.map (·.resourceVersion)
  preflight : row.preflightUid = f.request.preflightTarget.map (·.uid) ∧
    row.preflightResourceVersion = f.request.preflightTarget.map (·.resourceVersion)
  request : f.request.request.request = ⟨row.operationId, row.namespace, row.deployment,
    row.container, row.immutableImageDigest⟩
  result : f.result = none → row.result = none
  rejection : row.targetRejection.mapM TargetRejection.fromSql = .ok f.rejection
  attempt : AttemptOf row f.attempt
  approval : approvalAgrees f.request f.authorization f.attempt = true
  stale : staleApprovalAgrees f.request f.rejection = true
  receipt : ReceiptOf C row statement f.receipt
  classified : f.statement.map (·.result) = f.result
  receiverFactsPresent : f.receiverFactsPresent = row.receiverFactsPresent
  rebuilt : f.statement = statement

theorem intoOperation_eq_ok {row : SnapshotRow} {statement : Option ReceiptStatement}
    {loaded : LoadedOperation} (h : row.intoOperation C statement = .ok loaded) :
    ∃ state f, Accepted C row statement state f ∧ f.operation state = .ok loaded := by
  unfold SnapshotRow.intoOperation at h
  obtain ⟨state, hstate, h⟩ := bind_eq_ok.mp h
  obtain ⟨applyAttempted, happlyAttempted, h⟩ := bind_eq_ok.mp h
  obtain ⟨accepted, haccepted, h⟩ := bind_eq_ok.mp h
  obtain ⟨approved, happroved, h⟩ := bind_eq_ok.mp h
  obtain ⟨preflight, hpreflight, h⟩ := bind_eq_ok.mp h
  obtain ⟨_, -, h⟩ := bind_eq_ok.mp h
  obtain ⟨request, hrequest, h⟩ := bind_eq_ok.mp h
  obtain ⟨result, hresult, h⟩ := bind_eq_ok.mp h
  obtain ⟨rejection, hrejection, h⟩ := bind_eq_ok.mp h
  obtain ⟨authorization, -, h⟩ := bind_eq_ok.mp h
  obtain ⟨attempt, hattempt, h⟩ := bind_eq_ok.mp h
  obtain ⟨_, happroval, h⟩ := bind_eq_ok.mp h
  obtain ⟨_, hstale, h⟩ := bind_eq_ok.mp h
  obtain ⟨_, -, h⟩ := bind_eq_ok.mp h
  obtain ⟨_, hclassified, h⟩ := bind_eq_ok.mp h
  obtain ⟨receipt, hreceipt, h⟩ := bind_eq_ok.mp h
  refine ⟨state, _, ?_, h⟩
  refine ⟨OperationState.asSql_of_fromSql hstate, decodeSqlBool_eq_ok happlyAttempted,
    snapshotTarget_eq_ok happroved, snapshotTarget_eq_ok hpreflight, ?_, fun hnone => ?_,
    hrejection, attemptOf_validate haccepted hattempt, require_eq_ok.mp happroval,
    require_eq_ok.mp hstale, receiptOf_snapshot hreceipt,
    of_decide_eq_true (require_eq_ok.mp hclassified), rfl, rfl⟩
  · exact ValidatedRequest.tryFrom_eq_ok.mp (mapError_eq_ok.mp hrequest)
  · rcases optional_mapM_eq_ok hresult with ⟨hcolumn, -⟩ | ⟨_, _, -, hsome, -⟩
    · exact hcolumn
    · cases hnone.symm.trans hsome

/-! ## What each state establishes -/

/-- The states of an attempted operation. -/
def attemptedStates : List OperationState := [.applyStarted, .receiverObserved, .finalized]

/-- What the last step of the decoder says of the facts that it accepted. -/
structure DecodedAs (f : SnapshotFacts) (state : OperationState) (loaded : LoadedOperation) :
    Prop where
  variant : loaded.state = state
  request : loaded.requestFacts = f.request
  untouched : state ∉ attemptedStates → f.untouched = true
  applyAttempted : state ∈ attemptedStates → f.applyAttempted = true
  attempt : loaded.attempt = f.attempt
  statement : loaded.statement = f.statement
  observed : state = .receiverObserved ∨ state = .finalized → f.statement.isSome = true
  receipt : state = .finalized → f.receipt.isSome = true
  frozen : ∀ operation, loaded = .finalized operation → f.receipt = some operation.receipt

theorem operation_decodedAs {f : SnapshotFacts} {state : OperationState} {loaded : LoadedOperation}
    (h : f.operation state = .ok loaded) : DecodedAs f state loaded := by
  have huntouched : f.untouched = true → f.attempt = none ∧ f.statement = none := by
    intro hf
    simp only [SnapshotFacts.untouched, Bool.and_eq_true, Option.isNone_iff_eq_none] at hf
    exact ⟨hf.1.1.1.1.2, hf.1.1.2⟩
  cases state with
  | requested =>
    simp only [SnapshotFacts.operation] at h
    split_ifs at h with hf
    rw [Bool.and_eq_true] at hf
    obtain ⟨hattempt, hstatement⟩ := huntouched hf.1
    obtain rfl := Except.ok.inj h
    exact ⟨rfl, rfl, fun _ => hf.1, fun h => absurd h (by decide), hattempt.symm, hstatement.symm,
      fun h => by simp at h, by simp, by simp⟩
  | authorized =>
    simp only [SnapshotFacts.operation] at h
    split at h
    · split_ifs at h with hf
      rw [Bool.and_eq_true] at hf
      obtain ⟨hattempt, hstatement⟩ := huntouched hf.1
      obtain rfl := Except.ok.inj h
      exact ⟨rfl, rfl, fun _ => hf.1, fun h => absurd h (by decide), hattempt.symm,
        hstatement.symm, fun h => by simp at h, by simp, by simp⟩
    · cases h
  | notAttempted =>
    simp only [SnapshotFacts.operation] at h
    split at h
    · split_ifs at h with hf
      obtain ⟨hattempt, hstatement⟩ := huntouched hf
      obtain rfl := Except.ok.inj h
      exact ⟨rfl, rfl, fun _ => hf, fun h => absurd h (by decide), hattempt.symm, hstatement.symm,
        fun h => by simp at h, by simp, by simp⟩
    · cases h
  | applyStarted =>
    simp only [SnapshotFacts.operation] at h
    split at h
    · rename_i hattempt
      split_ifs at h with hf
      simp only [Bool.and_eq_true, Option.isNone_iff_eq_none] at hf
      obtain rfl := Except.ok.inj h
      exact ⟨rfl, rfl, fun h => absurd (by decide) h, fun _ => hf.1.1.1.1.2, hattempt.symm,
        hf.1.1.2.symm, fun h => by simp at h, by simp, by simp⟩
    · cases h
  | receiverObserved =>
    simp only [SnapshotFacts.operation] at h
    split at h
    · rename_i hattempt hstatement
      split_ifs at h with hf
      simp only [Bool.and_eq_true] at hf
      obtain rfl := Except.ok.inj h
      refine ⟨rfl, rfl, fun h => absurd (by decide) h, fun _ => hf.1.1.2, hattempt.symm,
        hstatement.symm, fun _ => ?_, by simp, by simp⟩
      rw [hstatement]
      rfl
    · cases h
  | finalized =>
    simp only [SnapshotFacts.operation] at h
    split at h
    · rename_i hattempt hstatement hreceipt
      split_ifs at h with hf
      simp only [Bool.and_eq_true] at hf
      obtain rfl := Except.ok.inj h
      refine ⟨rfl, rfl, fun h => absurd (by decide) h, fun _ => hf.1.2, hattempt.symm,
        hstatement.symm, fun _ => ?_, fun _ => ?_, fun operation hoperation => ?_⟩
      · rw [hstatement]
        rfl
      · rw [hreceipt]
        rfl
      · obtain rfl := LoadedOperation.finalized.inj hoperation
        exact hreceipt
    · cases h

/-! ## What a decoded row can be relied on for -/

/-- Everything that the decoder established on its way to the operation. -/
structure Established (C : Crypto) (r : Record .kubernetes) (loaded : LoadedOperation)
    (row : SnapshotRow) (statement : Option ReceiptStatement) (f : SnapshotFacts) : Prop where
  snapshot : SnapshotOf r row
  accepted : Accepted C row statement loaded.state f
  decoded : DecodedAs f loaded.state loaded
  statement : ∀ s ∈ statement, receiptStatement r = .ok s ∧ StatementOf r s

theorem established_of_decode {loaded : LoadedOperation} (h : decode C r = .ok loaded) :
    ∃ row statement f, Established C r loaded row statement f := by
  unfold decode at h
  obtain ⟨row, hrow, h⟩ := bind_eq_ok.mp h
  split_ifs at h
  · obtain ⟨s, hs, h⟩ := bind_eq_ok.mp h
    obtain ⟨state, f, haccepted, hoperation⟩ := intoOperation_eq_ok h
    have hdecoded := operation_decodedAs hoperation
    obtain rfl := hdecoded.variant
    refine ⟨row, some s, f, snapshotRow_eq_ok hrow, haccepted, hdecoded, fun s' hs' => ?_⟩
    obtain rfl := Option.some.inj hs'
    exact ⟨hs, receiptStatement_eq_ok hs⟩
  · obtain ⟨state, f, haccepted, hoperation⟩ := intoOperation_eq_ok h
    have hdecoded := operation_decodedAs hoperation
    obtain rfl := hdecoded.variant
    exact ⟨row, none, f, snapshotRow_eq_ok hrow, haccepted, hdecoded, fun _ h => nomatch h⟩

/-- The columns of the attempt, of the response, and of the receipt. -/
def attemptColumns : List Column := [.writeStrategy, .targetUid, .targetResourceVersion]
def responseColumns : List Column := [.applyAccepted, .requestedGeneration, .applyResourceVersion]
def receiptColumns : List Column := [.receiptDigest, .receiptBytes, .receiptKeyId]

/-- The columns of everything that an operation without an attempt does not have, except
`available_condition` and `progress_deadline_exceeded`, which nothing reads. -/
def effectColumns : List Column :=
  attemptColumns ++ responseColumns ++ receiverFactColumns ++ [.result] ++ receiptColumns

section
variable {loaded : LoadedOperation}

/-- A frozen row has a statement, its result is the classification of its own columns, and the
operation carries that statement. -/
theorem decoded_result (h : decode C r = .ok loaded)
    (hstate : loaded.state = .receiverObserved ∨ loaded.state = .finalized) :
    ∃ s, receiptStatement r = .ok s ∧ loaded.statement = some s ∧
      s.result = rowClassification r ∧ r.value .result = .text (rowClassification r).asSql := by
  obtain ⟨row, statement, f, hfacts⟩ := established_of_decode h
  have hsome := hfacts.decoded.observed hstate
  obtain ⟨s, hs⟩ := Option.isSome_iff_exists.mp hsome
  have hstatement : statement = some s := hfacts.accepted.rebuilt.symm.trans hs
  obtain ⟨hrebuilt, hof⟩ := hfacts.statement s hstatement
  refine ⟨s, hrebuilt, hfacts.decoded.statement.trans hs, hof.result_eq, ?_⟩
  rw [← hof.result_eq]
  exact hof.result

/-- The receipt of a finalized row is whole: the digest is that of the bytes, and the bytes
decode to the key and the statement of the row. -/
theorem decoded_receipt (h : decode C r = .ok loaded) (hstate : loaded.state = .finalized) :
    ∃ bytes keyId s, r.value .receiptBytes = .blob bytes ∧ r.value .receiptKeyId = .text keyId ∧
      r.value .receiptDigest = .text (digestHex C bytes) ∧ receiptStatement r = .ok s ∧
      decodeFrozenReceipt bytes = .ok (keyId, s) := by
  obtain ⟨row, statement, f, hfacts⟩ := established_of_decode h
  obtain ⟨receipt, hreceipt⟩ := Option.isSome_iff_exists.mp (hfacts.decoded.receipt hstate)
  obtain ⟨hdigest, hbytes, hkey, s, hs, hdecoded⟩ := hfacts.accepted.receipt.whole receipt hreceipt
  refine ⟨receipt.bytes, receipt.keyId, s, ?_, ?_, ?_, (hfacts.statement s hs).1, hdecoded⟩
  · rw [hfacts.snapshot.receiptBytes, hbytes]
    rfl
  · rw [hfacts.snapshot.receiptKeyId, hkey]
    rfl
  · rw [hfacts.snapshot.receiptDigest, hdigest]
    rfl

theorem optionalText_inj {v v' : Option Text} (h : Value.optionalText v = .optionalText v') :
    v = v' := by
  have htext := congrArg Value.toText h
  rwa [Value.toText_optionalText, Value.toText_optionalText] at htext

/-- The approved target of a rebuilt statement is that of the columns. -/
theorem receiptStatement_approvedTarget {s : ReceiptStatement} (h : receiptStatement r = .ok s) :
    r.value .approvedUid = .optionalText (s.approvedTarget.map (·.uid)) ∧
      r.value .approvedResourceVersion =
        .optionalText (s.approvedTarget.map (·.resourceVersion)) := by
  unfold receiptStatement at h
  obtain ⟨uid, huid, h⟩ := bind_eq_ok.mp h
  obtain ⟨version, hversion, h⟩ := bind_eq_ok.mp h
  obtain ⟨target, htarget, h⟩ := bind_eq_ok.mp h
  iterate 33 obtain ⟨_, -, h⟩ := bind_eq_ok.mp h
  obtain ⟨hsame, hsame'⟩ := snapshotTarget_eq_ok htarget
  have hstatement : s.approvedTarget = target := by
    obtain ⟨_, -, h⟩ := bind_eq_ok.mp h
    rw [← Except.ok.inj h]
  rw [hstatement, ← hsame, ← hsame']
  exact ⟨Record.getOptionalText_eq_ok.mp huid, Record.getOptionalText_eq_ok.mp hversion⟩

/-- An approved target is decided by its two texts. -/
theorem approvedTarget_eq_of_map {target target' : Option ApprovedTarget}
    (huid : target.map (·.uid) = target'.map (·.uid))
    (hversion : target.map (·.resourceVersion) = target'.map (·.resourceVersion)) :
    target = target' := by
  cases target with
  | none =>
    cases target' with
    | none => rfl
    | some t => cases huid
  | some t =>
    cases target' with
    | none => cases huid
    | some t' =>
      obtain ⟨uid, version⟩ := t
      obtain ⟨uid', version'⟩ := t'
      obtain rfl := Option.some.inj huid
      obtain rfl := Option.some.inj hversion
      rfl

/-- **The receipt of a finalized row is about what the row shows**: its statement has the
identity, the approved target and the target of the attempt that the columns have. -/
theorem decoded_finalized {operation : FinalizedOperation}
    (h : decode C r = .ok (.finalized operation)) :
    operation.receipt.digest = digestHex C operation.receipt.bytes ∧
      ∃ s, decodeFrozenReceipt operation.receipt.bytes = .ok (operation.receipt.keyId, s) ∧
        operation.receiverObserved.statement = s ∧ r.value .operationId = .text s.operationId ∧
        (LoadedOperation.finalized operation).requestFacts.approvedTarget = s.approvedTarget ∧
        operation.receiverObserved.applyStarted.attempt.target.toApproved =
          ⟨s.targetUid, s.targetResourceVersion⟩ := by
  obtain ⟨row, statement, f, hfacts⟩ := established_of_decode h
  have hreceipt := hfacts.decoded.frozen operation rfl
  obtain ⟨-, -, -, s, hs, hdecoded⟩ := hfacts.accepted.receipt.whole _ hreceipt
  obtain ⟨hrebuilt, hof⟩ := hfacts.statement s hs
  have hstatement : operation.receiverObserved.statement = s :=
    Option.some.inj (hfacts.decoded.statement.trans (hfacts.accepted.rebuilt.trans hs))
  refine ⟨hfacts.accepted.receipt.digest _ hreceipt, s, hdecoded, hstatement, hof.operationId, ?_, ?_⟩
  · obtain ⟨huid, hversion⟩ := receiptStatement_approvedTarget hrebuilt
    rw [hfacts.snapshot.approvedUid, hfacts.accepted.approved.1] at huid
    rw [hfacts.snapshot.approvedResourceVersion, hfacts.accepted.approved.2] at hversion
    rw [hfacts.decoded.request]
    exact approvedTarget_eq_of_map (optionalText_inj huid) (optionalText_inj hversion)
  · obtain ⟨huid, hversion⟩ := hfacts.accepted.attempt.target
      operation.receiverObserved.applyStarted.attempt hfacts.decoded.attempt.symm
    have houtcome := hof.outcome
    unfold rowOutcome ReceiptStatement.applyOutcome at houtcome
    obtain ⟨-, -, huid', hversion'⟩ := ApplyOutcome.mk.inj houtcome
    rw [hfacts.snapshot.targetUid, Value.toText_optionalText, huid] at huid'
    rw [hfacts.snapshot.targetResourceVersion, Value.toText_optionalText, hversion] at hversion'
    rw [Option.some.inj huid', Option.some.inj hversion']
    rfl

/-- An approved operation was attempted at the approved target, which preflight saw. -/
theorem decoded_attempt_target (h : decode C r = .ok loaded) {approved : ApprovedTarget}
    {attempt : AttemptFacts} (happroved : loaded.requestFacts.approvedTarget = some approved)
    (hattempt : loaded.attempt = some attempt) :
    attempt.target.toApproved = approved ∧ loaded.requestFacts.preflightTarget = some approved ∧
      r.value .approvedUid = .text approved.uid ∧
      r.value .approvedResourceVersion = .text approved.resourceVersion ∧
      r.value .targetUid = .text approved.uid ∧
      r.value .targetResourceVersion = .text approved.resourceVersion ∧
      r.value .preflightUid = .text approved.uid ∧
      r.value .preflightResourceVersion = .text approved.resourceVersion := by
  obtain ⟨row, statement, f, hfacts⟩ := established_of_decode h
  rw [hfacts.decoded.request] at happroved ⊢
  rw [hfacts.decoded.attempt] at hattempt
  have hagrees := hfacts.accepted.approval
  rw [approvalAgrees, happroved, hattempt] at hagrees
  simp only [Option.all_some, Option.any_some, Option.isSome_some, Bool.true_and, Bool.not_or,
    Bool.and_eq_true, Bool.not_eq_true', decide_eq_false_iff_not, not_not] at hagrees
  obtain ⟨⟨-, huid, hversion⟩, hpreflight⟩ := hagrees
  obtain ⟨hcolumn, hcolumn'⟩ := hfacts.accepted.attempt.target attempt hattempt
  have happroved' := hfacts.accepted.approved
  have hpreflight' := hfacts.accepted.preflight
  rw [happroved] at happroved'
  rw [hpreflight] at hpreflight'
  refine ⟨?_, hpreflight, ?_, ?_, ?_, ?_, ?_, ?_⟩
  · show (⟨attempt.target.deploymentUid, attempt.target.resourceVersion⟩ : ApprovedTarget) = approved
    rw [huid, hversion]
  · rw [hfacts.snapshot.approvedUid, happroved'.1]
    rfl
  · rw [hfacts.snapshot.approvedResourceVersion, happroved'.2]
    rfl
  · rw [hfacts.snapshot.targetUid, hcolumn, huid]
    rfl
  · rw [hfacts.snapshot.targetResourceVersion, hcolumn', hversion]
    rfl
  · rw [hfacts.snapshot.preflightUid, hpreflight'.1]
    rfl
  · rw [hfacts.snapshot.preflightResourceVersion, hpreflight'.2]
    rfl

/-- A stale approval has an approved target and another one that preflight saw. -/
theorem decoded_stale (h : decode C r = .ok loaded)
    (hrejection : r.value .targetRejection = .text TargetRejection.staleApproval.asSql) :
    ∃ approved preflight, loaded.requestFacts.approvedTarget = some approved ∧
      loaded.requestFacts.preflightTarget = some preflight ∧ approved ≠ preflight ∧
      r.value .approvedUid = .text approved.uid ∧
      r.value .approvedResourceVersion = .text approved.resourceVersion ∧
      r.value .preflightUid = .text preflight.uid ∧
      r.value .preflightResourceVersion = .text preflight.resourceVersion := by
  obtain ⟨row, statement, f, hfacts⟩ := established_of_decode h
  have hword : row.targetRejection = some TargetRejection.staleApproval.asSql := by
    have hcolumn := hfacts.snapshot.targetRejection
    rw [hrejection] at hcolumn
    cases hrow : row.targetRejection with
    | none =>
      rw [hrow] at hcolumn
      cases hcolumn
    | some word =>
      rw [hrow] at hcolumn
      rw [← Value.text.inj hcolumn]
  have hstale : f.rejection = some .staleApproval := by
    rcases optional_mapM_eq_ok hfacts.accepted.rejection with ⟨hnone, -⟩ | ⟨word, rejection, hsome, hf, hsql⟩
    · cases hnone.symm.trans hword
    · obtain rfl := Option.some.inj (hsome.symm.trans hword)
      have hknown : TargetRejection.fromSql TargetRejection.staleApproval.asSql =
          .ok .staleApproval := by decide
      rw [hf, Except.ok.inj (hsql.symm.trans hknown)]
  have hagrees := hfacts.accepted.stale
  rw [staleApprovalAgrees, hstale] at hagrees
  simp only [decide_true, Bool.true_and, Bool.not_eq_true', Bool.or_eq_false_iff,
    decide_eq_false_iff_not, Option.isNone_eq_false_iff, Option.isSome_iff_exists] at hagrees
  obtain ⟨⟨⟨approved, happroved⟩, preflight, hpreflight⟩, hne⟩ := hagrees
  have happroved' := hfacts.accepted.approved
  have hpreflight' := hfacts.accepted.preflight
  rw [happroved] at happroved'
  rw [hpreflight] at hpreflight'
  rw [hfacts.decoded.request]
  refine ⟨approved, preflight, happroved, hpreflight, fun hsame => hne ?_, ?_, ?_, ?_, ?_⟩
  · rw [happroved, hpreflight, hsame]
  · rw [hfacts.snapshot.approvedUid, happroved'.1]
    rfl
  · rw [hfacts.snapshot.approvedResourceVersion, happroved'.2]
    rfl
  · rw [hfacts.snapshot.preflightUid, hpreflight'.1]
    rfl
  · rw [hfacts.snapshot.preflightResourceVersion, hpreflight'.2]
    rfl

/-- An operation that was not attempted has nothing of an attempt in any column. -/
theorem decoded_untouched (h : decode C r = .ok loaded) (hstate : loaded.state ∉ attemptedStates) :
    ∀ c ∈ effectColumns, r.value c = .null := by
  obtain ⟨row, statement, f, hfacts⟩ := established_of_decode h
  have huntouched := hfacts.decoded.untouched hstate
  simp only [SnapshotFacts.untouched, Bool.and_eq_true, Option.isNone_iff_eq_none,
    Bool.not_eq_true'] at huntouched
  obtain ⟨⟨⟨⟨⟨-, hattempt⟩, hresult⟩, -⟩, hreceipt⟩, hreceiver⟩ := huntouched
  obtain ⟨h₁, h₂, h₃, h₄, h₅, h₆⟩ := hfacts.accepted.attempt.absent hattempt
  obtain ⟨h₇, h₈, h₉⟩ := hfacts.accepted.receipt.absent hreceipt
  have hfact : ∀ c ∈ receiverFactColumns, r.value c = .null := by
    rw [hfacts.accepted.receiverFactsPresent, hfacts.snapshot.receiverFactsPresent,
      List.any_eq_false] at hreceiver
    intro c hc
    by_contra hne
    exact hreceiver c hc (decide_eq_true hne)
  intro c hc
  simp only [effectColumns, List.append_assoc, List.mem_append] at hc
  rcases hc with hc | hc | hc | hc | hc
  · simp only [attemptColumns, List.mem_cons, List.not_mem_nil, or_false] at hc
    rcases hc with rfl | rfl | rfl
    · rw [hfacts.snapshot.writeStrategy, h₁]
      rfl
    · rw [hfacts.snapshot.targetUid, h₂]
      rfl
    · rw [hfacts.snapshot.targetResourceVersion, h₃]
      rfl
  · simp only [responseColumns, List.mem_cons, List.not_mem_nil, or_false] at hc
    rcases hc with rfl | rfl | rfl
    · rw [hfacts.snapshot.applyAccepted, h₄]
      rfl
    · rw [hfacts.snapshot.requestedGeneration, h₅]
      rfl
    · rw [hfacts.snapshot.applyResourceVersion, h₆]
      rfl
  · exact hfact c hc
  · obtain rfl := List.mem_singleton.mp hc
    rw [hfacts.snapshot.result, hfacts.accepted.result hresult]
    rfl
  · simp only [receiptColumns, List.mem_cons, List.not_mem_nil, or_false] at hc
    rcases hc with rfl | rfl | rfl
    · rw [hfacts.snapshot.receiptDigest, h₇]
      rfl
    · rw [hfacts.snapshot.receiptBytes, h₈]
      rfl
    · rw [hfacts.snapshot.receiptKeyId, h₉]
      rfl

/-- The attempt marker says what the state says. -/
theorem decoded_applyAttempted (h : decode C r = .ok loaded) :
    r.value .applyAttempted = .integer (sqlBool (decide (loaded.state ∈ attemptedStates))) := by
  obtain ⟨row, statement, f, hfacts⟩ := established_of_decode h
  rw [hfacts.snapshot.applyAttempted, hfacts.accepted.applyAttempted]
  by_cases hstate : loaded.state ∈ attemptedStates
  · rw [hfacts.decoded.applyAttempted hstate, decide_eq_true hstate]
  · have huntouched := hfacts.decoded.untouched hstate
    simp only [SnapshotFacts.untouched, Bool.and_eq_true, Bool.not_eq_true'] at huntouched
    rw [huntouched.1.1.1.1.1, decide_eq_false hstate]

/-- The request of a decoded row is in its columns. -/
theorem decoded_request (h : decode C r = .ok loaded) :
    r.value .operationId = .text loaded.requestFacts.request.request.operationId ∧
      r.value .namespace = .text loaded.requestFacts.request.request.namespace ∧
      r.value .deployment = .text loaded.requestFacts.request.request.deployment ∧
      r.value .container = .text loaded.requestFacts.request.request.container ∧
      r.value .immutableImageDigest =
        .text loaded.requestFacts.request.request.immutableImageDigest := by
  obtain ⟨row, statement, f, hfacts⟩ := established_of_decode h
  rw [hfacts.decoded.request, hfacts.accepted.request]
  exact ⟨hfacts.snapshot.operationId, hfacts.snapshot.namespace, hfacts.snapshot.deployment,
    hfacts.snapshot.container, hfacts.snapshot.immutableImageDigest⟩

/-- **An authenticated read finds the request of the approval**, whatever the row holds. -/
theorem request_of_authorizedRecordOn {db : Database} {a : AuthorizedRequest C}
    (h : authorizedRecordOn C db a = .ok (some loaded)) :
    loaded.requestFacts.request = a.request := by
  unfold authorizedRecordOn at h
  obtain ⟨record, hread, h⟩ := bind_eq_ok.mp h
  cases record with
  | none =>
    obtain ⟨_, -, h⟩ := bind_eq_ok.mp h
    cases h
  | some r =>
    obtain ⟨state, hbinding, h⟩ := bind_eq_ok.mp h
    obtain ⟨loaded', hdecode, h⟩ := bind_eq_ok.mp h
    obtain ⟨_, -, h⟩ := bind_eq_ok.mp h
    obtain ⟨_, -, h⟩ := bind_eq_ok.mp h
    obtain rfl := Option.some.inj (Except.ok.inj h)
    unfold checkBinding at hbinding
    obtain ⟨ns, hns, hbinding⟩ := bind_eq_ok.mp hbinding
    obtain ⟨deployment, hdeployment, hbinding⟩ := bind_eq_ok.mp hbinding
    obtain ⟨container, hcontainer, hbinding⟩ := bind_eq_ok.mp hbinding
    obtain ⟨image, himage, hbinding⟩ := bind_eq_ok.mp hbinding
    iterate 6 obtain ⟨_, -, hbinding⟩ := bind_eq_ok.mp hbinding
    obtain ⟨_, hsame, -⟩ := bind_eq_ok.mp hbinding
    simp only [require_eq_ok, Bool.and_eq_true, decide_eq_true_eq] at hsame
    obtain ⟨⟨⟨⟨-, rfl⟩, rfl⟩, rfl⟩, rfl⟩ := hsame
    obtain ⟨hid, hns', hdeployment', hcontainer', himage'⟩ := decoded_request hdecode
    have hid' := value_operationId_of_stored (readTable_eq_ok hread)
    apply ValidatedRequest.ext_request
    rw [SetDeploymentImageRequest.ext_iff]
    exact ⟨Value.text.inj (hid.symm.trans hid'),
      Value.text.inj (hns'.symm.trans (Record.getText_eq_ok.mp hns)),
      Value.text.inj (hdeployment'.symm.trans (Record.getText_eq_ok.mp hdeployment)),
      Value.text.inj (hcontainer'.symm.trans (Record.getText_eq_ok.mp hcontainer)),
      Value.text.inj (himage'.symm.trans (Record.getText_eq_ok.mp himage))⟩

end

end Journal
end Gateway
end Kapsel
