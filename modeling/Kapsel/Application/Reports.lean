import Kapsel.Application.Service
import Kapsel.Journal.Hostile

/-!
# What the service reports of a row

A status is made of a decoded row, and the row may be anybody's.  `RowSucceeds` and `RowFails`
are the two predicates of the classification, read from the columns of one row:
`classification_succeeded` and `classification_failed` say that the recomputed classification is
exactly that.  The main theorem is what the decoder guarantees for every row there is, and that
a status of success or failure comes from a finalized row whose own columns satisfy the
predicate.
-/

namespace Kapsel

open Grammar Fallible Authority

namespace Application

open Gateway Gateway.Journal

variable {C : Crypto}

/-! ## The predicates of the classification -/

/-- The columns show the operation at the requested generation, on the attempted Deployment. -/
def RowEstablished (r : Record .kubernetes) : Prop :=
  (rowObservation r).establishesGeneration ((r.value .operationId).toText.getD [])
    ((r.value .immutableImageDigest).toText.getD []) (rowOutcome r) = true

/-- The columns establish success. -/
def RowSucceeds (r : Record .kubernetes) : Prop :=
  RowEstablished r ∧ (rowObservation r).replicaCountsEstablishAvailability = true ∧
    (rowObservation r).availableCondition = true ∧
    (rowObservation r).progressDeadlineExceeded = false

/-- The columns establish failure. -/
def RowFails (r : Record .kubernetes) : Prop :=
  RowEstablished r ∧ (rowObservation r).progressDeadlineExceeded = true

theorem classification_succeeded {r : Record .kubernetes}
    (h : rowClassification r = .succeeded) : RowSucceeds r := by
  unfold rowClassification ReceiverObservation.observationResult at h
  split_ifs at h with hfailed hsucceeded
  rw [Bool.and_eq_true, Bool.and_eq_true] at hsucceeded
  obtain ⟨hestablished, hreplicas, havailable⟩ := hsucceeded
  refine ⟨hestablished, hreplicas, havailable, ?_⟩
  rw [Bool.and_eq_true, not_and] at hfailed
  exact Bool.eq_false_iff.mpr (hfailed hestablished)

theorem classification_failed {r : Record .kubernetes} (h : rowClassification r = .failed) :
    RowFails r := by
  unfold rowClassification ReceiverObservation.observationResult at h
  split_ifs at h with hfailed hsucceeded
  rw [Bool.and_eq_true] at hfailed
  exact hfailed

/-! ## Reports -/

/-- A retained operation is the decoded row of its identity. -/
theorem retainedOperation_eq_ok {db : Database} {id : Text}
    {authorize : Bytes → Except GatewayError (AuthorizedRequest C)} {retained : RetainedOperation}
    (h : Journal.retainedOperation C db id authorize = .ok (some retained)) :
    ∃ r a, stored db .kubernetes id = some r ∧
      r.value .signedAuthorizationGrant = .blob retained.signedGrant ∧
      authorize retained.signedGrant = .ok a ∧ retained.request = a.request.toAdapterRequest ∧
      authorizedRecordOn C db a = .ok (some retained.operation) := by
  unfold Journal.retainedOperation at h
  obtain ⟨record, hread, h⟩ := bind_eq_ok.mp h
  cases record with
  | none => cases h
  | some r =>
    obtain ⟨bytes, hbytes, h⟩ := bind_eq_ok.mp h
    obtain ⟨_, -, h⟩ := bind_eq_ok.mp h
    obtain ⟨a, ha, h⟩ := bind_eq_ok.mp h
    obtain ⟨found, hfound, h⟩ := bind_eq_ok.mp h
    cases found with
    | none => cases h
    | some operation =>
      obtain rfl := Option.some.inj (Except.ok.inj h)
      exact ⟨r, a, readTable_eq_ok hread, Record.getBlob_eq_ok.mp hbytes, ha, rfl, hfound⟩

/-- A retained grant is for the identity that it is retained under. -/
theorem operationId_of_authorizeRetained {trust : List AuthorizationTrust} {id : Text}
    {bytes : Bytes} {a : AuthorizedRequest C} (h : authorizeRetained trust id bytes = .ok a) :
    a.request.operationId = id := by
  obtain ⟨verified, -, h⟩ := bind_eq_ok.mp h
  obtain ⟨_, hsame, h⟩ := bind_eq_ok.mp h
  obtain ⟨request, hrequest, h⟩ := bind_eq_ok.mp h
  have hrequest' := ValidatedRequest.tryFrom_eq_ok.mp hrequest
  unfold AuthorizedRequest.bind at h
  split at h
  · obtain rfl := Except.ok.inj h
    have hname := of_decide_eq_true (require_eq_ok.mp hsame)
    show request.request.operationId = id
    rw [hrequest']
    exact hname
  · cases h

/-- A status of success or failure is that of a finalized operation with that result. -/
theorem finalized_of_statusOf {operation : LoadedOperation} {status : OperationStatus}
    (h : statusOf operation.state operation.targetRejection operation.result = .ok status) :
    (status = .succeeded → operation.state = .finalized ∧ operation.result = some .succeeded) ∧
      (status = .failed → operation.state = .finalized ∧ operation.result = some .failed) := by
  unfold statusOf at h
  split at h
  · obtain rfl := Except.ok.inj h
    exact ⟨fun h => (nomatch h), fun h => (nomatch h)⟩
  · obtain rfl := Except.ok.inj h
    exact ⟨fun h => (nomatch h), fun h => (nomatch h)⟩
  · obtain rfl := Except.ok.inj h
    exact ⟨fun h => (nomatch h), fun h => (nomatch h)⟩
  · obtain rfl := Except.ok.inj h
    exact ⟨fun h => (nomatch h), fun h => (nomatch h)⟩
  · split at h
    · obtain rfl := Except.ok.inj h
      exact ⟨fun h => (nomatch h), fun h => (nomatch h)⟩
    · cases h
  · rename_i hstate
    split at h
    · rename_i hresult
      obtain rfl := Except.ok.inj h
      exact ⟨fun _ => ⟨hstate, hresult⟩, fun h => (nomatch h)⟩
    · rename_i hresult
      obtain rfl := Except.ok.inj h
      exact ⟨fun h => (nomatch h), fun _ => ⟨hstate, hresult⟩⟩
    · obtain rfl := Except.ok.inj h
      exact ⟨fun h => (nomatch h), fun h => (nomatch h)⟩
    · cases h

/-- The result of a decoded finalized row is the classification of its columns. -/
theorem classification_of_result {r : Record .kubernetes} {loaded : LoadedOperation}
    (h : decode C r = .ok loaded) (hstate : loaded.state = .finalized) {result : OperationResult}
    (hresult : loaded.result = some result) : rowClassification r = result := by
  obtain ⟨s, -, hstatement, hclassified, -⟩ := decoded_result h (.inr hstate)
  unfold LoadedOperation.result at hresult
  rw [hstatement, Option.map_some, hclassified] at hresult
  exact Option.some.inj hresult

/-- **Whatever a row holds, what decodes is sound.**  For every row of the declared types that
decodes: a frozen result is the classification recomputed from the row's own columns; the
receipt of a finalized row has the digest of its bytes, and these decode to its key and to the
statement rebuilt from the columns; an approved attempt was at the approved target, which
preflight saw; a stale approval has an approved target and a different one that preflight saw;
an operation that was not attempted has no column of an attempt, a response, an observation, a
result or a receipt; the attempt marker is 1 in the attempted states and 0 in the others.  And a
status of success or failure is only ever made of a finalized row whose own columns establish
it.  The columns `available_condition` and `progress_deadline_exceeded` of the table are in none of
this: nothing reads them, and they may hold anything. -/
theorem hostile_row_sound (C : Crypto) :
    (∀ (r : Record .kubernetes) (loaded : LoadedOperation), decode C r = .ok loaded →
      (loaded.state = .receiverObserved ∨ loaded.state = .finalized →
        ∃ s, receiptStatement r = .ok s ∧ loaded.statement = some s ∧
          s.result = rowClassification r ∧
          r.value .result = .text (rowClassification r).asSql) ∧
      (loaded.state = .finalized →
        ∃ bytes keyId s, r.value .receiptBytes = .blob bytes ∧
          r.value .receiptKeyId = .text keyId ∧
          r.value .receiptDigest = .text (digestHex C bytes) ∧ receiptStatement r = .ok s ∧
          decodeFrozenReceipt bytes = .ok (keyId, s)) ∧
      (∀ approved attempt, loaded.requestFacts.approvedTarget = some approved →
        loaded.attempt = some attempt →
        attempt.target.toApproved = approved ∧
          loaded.requestFacts.preflightTarget = some approved ∧
          r.value .approvedUid = .text approved.uid ∧
          r.value .approvedResourceVersion = .text approved.resourceVersion ∧
          r.value .targetUid = .text approved.uid ∧
          r.value .targetResourceVersion = .text approved.resourceVersion ∧
          r.value .preflightUid = .text approved.uid ∧
          r.value .preflightResourceVersion = .text approved.resourceVersion) ∧
      (r.value .targetRejection = .text TargetRejection.staleApproval.asSql →
        ∃ approved preflight, loaded.requestFacts.approvedTarget = some approved ∧
          loaded.requestFacts.preflightTarget = some preflight ∧ approved ≠ preflight ∧
          r.value .approvedUid = .text approved.uid ∧
          r.value .approvedResourceVersion = .text approved.resourceVersion ∧
          r.value .preflightUid = .text preflight.uid ∧
          r.value .preflightResourceVersion = .text preflight.resourceVersion) ∧
      (loaded.state ∉ attemptedStates → ∀ c ∈ effectColumns, r.value c = .null) ∧
      r.value .applyAttempted =
        .integer (sqlBool (decide (loaded.state ∈ attemptedStates)))) ∧
    (∀ (db : Database) (id : Text) (trust : List AuthorizationTrust)
      (retained : RetainedOperation) (status : OperationStatus),
      Journal.retainedOperation C db id (authorizeRetained trust id) = .ok (some retained) →
      statusOf retained.operation.state retained.operation.targetRejection
        retained.operation.result = .ok status →
      ∃ r, stored db .kubernetes id = some r ∧ decode C r = .ok retained.operation ∧
        (status = .succeeded → retained.operation.state = .finalized ∧ RowSucceeds r) ∧
        (status = .failed → retained.operation.state = .finalized ∧ RowFails r)) := by
  refine ⟨fun r loaded h => ⟨decoded_result h, decoded_receipt h,
    fun _ _ => decoded_attempt_target h, decoded_stale h, decoded_untouched h,
    decoded_applyAttempted h⟩, fun db id trust retained status hretained hstatus => ?_⟩
  obtain ⟨r, a, hr, -, hauthorize, -, hfound⟩ := retainedOperation_eq_ok hretained
  obtain ⟨r', hr', hdecode, -⟩ := authorizedRecordOn_eq_ok hfound
  rw [operationId_of_authorizeRetained hauthorize, hr] at hr'
  obtain rfl := Option.some.inj hr'
  obtain ⟨hsucceeded, hfailed⟩ := finalized_of_statusOf hstatus
  refine ⟨r, hr, hdecode, fun h => ?_, fun h => ?_⟩
  · obtain ⟨hstate, hresult⟩ := hsucceeded h
    exact ⟨hstate, classification_succeeded (classification_of_result hdecode hstate hresult)⟩
  · obtain ⟨hstate, hresult⟩ := hfailed h
    exact ⟨hstate, classification_failed (classification_of_result hdecode hstate hresult)⟩

end Application
end Kapsel
