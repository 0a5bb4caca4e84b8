import Kapsel.Gateway.Original
import Kapsel.Gateway.Standing

/-!
# Status and receipt agree

The status of an operation is projected from the columns of its row, by one function for each
effect.  The receipt is the signed bytes of the row.  Both begin with the same reads, so on a
journal that stands still they are two functions of one tuple.

`Attests` says what the bytes of a receipt must have to do with the projection: they decode to a
statement of the identity, its result is the status, and the projected facts are fields of it.
`agreed_git` and `agreed_kubernetes` go through what a row can decode to, and `agreed_on` puts them
together.  Nothing is assumed of the row, so the theorem holds of every journal and not only of those
that the gateway wrote.
-/

namespace Kapsel

open Grammar Fallible Authority Interaction Interaction.Program

namespace Gateway

open Journal Application

variable {C : Crypto}

/-! ## Agreement -/

/-- The status of a result. -/
def resultStatus : OperationResult → OperationStatus
  | .succeeded => .succeeded
  | .failed => .failed
  | .unknown => .unknown

/-- The bytes are a receipt of the identity with this status, about these targets. -/
inductive Attests (id : Text) (status : OperationStatus) (targets : OperationTargets)
    (bytes : Bytes) : Prop
  | kubernetes (keyId : Text) (s : ReceiptStatement) :
      decodeFrozenReceipt bytes = .ok (keyId, s) → s.operationId = id →
      resultStatus s.result = status →
      targets = {
        approvedTarget := s.approvedTarget
        attemptTarget := some ⟨s.targetUid, s.targetResourceVersion⟩
        observedTarget := some ⟨s.receiverUid, s.observedResourceVersion⟩ } →
      Attests id status targets bytes
  | git (keyId : Text) (s : GitStatement) :
      GitStatement.decode bytes = .ok (keyId, s) → s.authorization.operationId = id →
      resultStatus s.result = status →
      targets = { git := some ⟨s.authorization, true, some s.acknowledgement, some s.observed⟩ } →
      Attests id status targets bytes

/-- What a status and a receipt of one tuple can be together. -/
inductive Agreed (C : Crypto) (id : Text) :
    Except ServiceError (OperationStatus × OperationTargets) →
    Except ServiceError OperationReceipt → Prop
  | error (error : ServiceError) : Agreed C id (.error error) (.error error)
  | notFound : Agreed C id (.ok (.notFound, {})) (.ok .notFound)
  | notReady (status : OperationStatus) (targets : OperationTargets) :
      (status = .inProgress ∨ ∃ rejection, status = .notAttempted rejection) →
      Agreed C id (.ok (status, targets)) (.ok .notReady)
  | ready (result : OperationResult) (targets : OperationTargets) (bytes : Bytes) :
      Attests id (resultStatus result) targets bytes →
      Agreed C id (.ok (resultStatus result, targets)) (.ok (.ready bytes (digestHex C bytes)))

/-! ## Rows of the two tables -/

/-- Without its receipt a row is never finalized, and its statement is one of the grant. -/
theorem phaseOf_unfinished {state : Text} {rejection : Option Text}
    {acknowledgement : Option Acknowledgement} {seen : Option ObservedRef} {phase : GitPhase}
    (h : phaseOf state rejection acknowledgement seen = .ok phase) {b : GitBinding C} :
    (∀ s f, phase ≠ .finalized s f) ∧
      ∀ s, phase.statement b = some s → s.authorization = b.authorization := by
  unfold phaseOf at h
  split at h
  · split_ifs at h <;> obtain rfl := Except.ok.inj h <;>
      exact ⟨fun _ _ h => (nomatch h), fun _ h => nomatch h⟩
  · split_ifs at h
    obtain rfl := Except.ok.inj h
    exact ⟨fun _ _ h => (nomatch h), fun _ h => nomatch h⟩
  · split_ifs at h
    obtain rfl := Except.ok.inj h
    refine ⟨fun _ _ h => (nomatch h), fun s hs => ?_⟩
    rw [← Option.some.inj hs]
    rfl
  · cases h

/-- What a Git row decodes to: a finalized one has the receipt of its own statement. -/
theorem decodeRecord_finalized {r : Record .git} {b : GitBinding C} {statement : GitStatement}
    {receipt : FrozenReceipt} (h : decodeRecord r b = .ok (.finalized statement receipt)) :
    receipt.digest = digestHex C receipt.bytes ∧
      GitStatement.decode receipt.bytes = .ok (receipt.keyId, statement) ∧
      statement.authorization = b.authorization := by
  unfold decodeRecord at h
  iterate 11 obtain ⟨_, -, h⟩ := bind_eq_ok.mp h
  obtain ⟨found, hreceipt, h⟩ := bind_eq_ok.mp h
  obtain ⟨phase, hphase, h⟩ := bind_eq_ok.mp h
  obtain ⟨acknowledgement, -, hphase⟩ := bind_eq_ok.mp hphase
  obtain ⟨seen, -, hphase⟩ := bind_eq_ok.mp hphase
  obtain ⟨hunfinished, hstatement⟩ := phaseOf_unfinished (b := b) hphase
  cases found with
  | none => exact absurd (Except.ok.inj h) (hunfinished statement receipt)
  | some frozen =>
    obtain ⟨s, hs, h⟩ := bind_eq_ok.mp h
    obtain ⟨⟨keyId, decoded⟩, hdecoded, h⟩ := bind_eq_ok.mp h
    obtain ⟨_, hsame, h⟩ := bind_eq_ok.mp h
    obtain ⟨rfl, rfl⟩ := GitPhase.finalized.inj (Except.ok.inj h)
    rw [require_eq_ok, Bool.and_eq_true, decide_eq_true_eq, decide_eq_true_eq] at hsame
    obtain ⟨rfl, rfl⟩ := hsame
    refine ⟨?_, mapError_eq_ok.mp hdecoded, hstatement _ (present_eq_ok.mp hs)⟩
    unfold decodeReceipt at hreceipt
    split at hreceipt
    · split_ifs at hreceipt with hdigest
      obtain rfl := Option.some.inj (Except.ok.inj hreceipt)
      exact hdigest.2.symm
    · split_ifs at hreceipt
      cases Except.ok.inj hreceipt
    · cases hreceipt

section
variable {trust : List AuthorizationTrust} {db : Database} {id : Text}

theorem agreed_git {b : GitBinding C} {phase : GitPhase}
    (h : Journal.retainedGit db id trust = .ok (some (b, phase))) :
    Agreed C id (RetainedTuple.git b phase).status (.ok (RetainedTuple.git b phase).receipt) := by
  obtain ⟨r, bytes, -, -, -, hid, hdecode⟩ := retainedGit_eq_ok h
  cases phase with
  | authorized => exact .notReady _ _ (.inl rfl)
  | notAttempted rejection =>
    cases rejection with
    | staleRef => exact .notReady _ _ (.inr ⟨_, rfl⟩)
    | invalidObjects => exact .notReady _ _ (.inr ⟨_, rfl⟩)
  | attempted acknowledgement => exact .notReady _ _ (.inl rfl)
  | observed acknowledgement seen => exact .notReady _ _ (.inl rfl)
  | finalized statement receipt =>
    obtain ⟨hdigest, hbytes, hauthorization⟩ := decodeRecord_finalized hdecode
    have hattests : Attests id (resultStatus statement.result)
        { git := some ⟨b.authorization, true, some statement.acknowledgement,
          some statement.observed⟩ } receipt.bytes := by
      refine .git receipt.keyId statement hbytes ?_ rfl ?_
      · rw [hauthorization]
        exact hid
      · rw [hauthorization]
    have hready : Agreed C id (.ok (resultStatus statement.result, _)) (.ok (.ready _ _)) :=
      .ready statement.result _ _ hattests
    have hstatus : (RetainedTuple.git b (.finalized statement receipt)).status =
        .ok (resultStatus statement.result, { git := some ⟨b.authorization, true,
          some statement.acknowledgement, some statement.observed⟩ }) := by
      show (statusOf .finalized none (some statement.result)).map _ = _
      cases statement.result <;> rfl
    have hreceipt : (RetainedTuple.git b (.finalized statement receipt)).receipt =
        .ready receipt.bytes (digestHex C receipt.bytes) := by
      rw [← hdigest]
      rfl
    rw [hstatus, hreceipt]
    exact hready

theorem agreed_kubernetes {retained : RetainedOperation}
    (h : Journal.retainedOperation C db id (authorizeRetained trust id) = .ok (some retained)) :
    Agreed C id (RetainedTuple.kubernetes (C := C) retained).status
      (.ok (RetainedTuple.kubernetes (C := C) retained).receipt) := by
  obtain ⟨r, a, hr, -, hauthorize, -, hfound⟩ := retainedOperation_eq_ok h
  obtain ⟨r', hr', hdecode, -⟩ := authorizedRecordOn_eq_ok hfound
  rw [operationId_of_authorizeRetained hauthorize, hr] at hr'
  obtain rfl := Option.some.inj hr'
  obtain ⟨grant, request, operation⟩ := retained
  cases operation with
  | requested operation => exact .notReady _ _ (.inl rfl)
  | authorized operation => exact .notReady _ _ (.inl rfl)
  | notAttempted operation => exact .notReady _ _ (.inr ⟨_, rfl⟩)
  | applyStarted operation => exact .notReady _ _ (.inl rfl)
  | receiverObserved operation => exact .notReady _ _ (.inl rfl)
  | finalized operation =>
    obtain ⟨hdigest, s, hbytes, hstatement, hid, happroved, hattempt⟩ := decoded_finalized hdecode
    have hname : s.operationId = id :=
      Value.text.inj (hid.symm.trans (value_operationId_of_stored hr))
    have hstatus : (RetainedTuple.kubernetes (C := C) ⟨grant, request, .finalized operation⟩).status =
        .ok (resultStatus s.result, (LoadedOperation.finalized operation).targets) := by
      show (statusOf .finalized none (some operation.receiverObserved.statement.result)).map _ = _
      rw [hstatement]
      cases s.result <;> rfl
    have hreceipt : (RetainedTuple.kubernetes (C := C)
        ⟨grant, request, .finalized operation⟩).receipt =
          .ready operation.receipt.bytes (digestHex C operation.receipt.bytes) := by
      rw [← hdigest]
      rfl
    rw [hstatus, hreceipt]
    refine .ready _ _ _ (.kubernetes operation.receipt.keyId s hbytes hname rfl ?_)
    rw [← happroved, ← hattempt, ← hstatement]
    rfl

/-- **What is read of one tuple agrees.** -/
theorem agreed_on (C : Crypto) (trust : List AuthorizationTrust) (db : Database) (id : Text) :
    Agreed C id (statusOn C trust db id) (receiptOn C trust db id) := by
  unfold statusOn receiptOn tupleOn
  cases hgit : retainedGitOn C trust db id with
  | error error => exact .error _
  | ok found =>
    obtain ⟨_, -, hgit⟩ := bind_eq_ok.mp hgit
    cases found with
    | some pair => exact agreed_git hgit
    | none =>
      cases hkubernetes : retainedOperationOn C trust db id with
      | error error => exact .error _
      | ok found =>
        obtain ⟨_, -, hkubernetes⟩ := bind_eq_ok.mp hkubernetes
        cases found with
        | some retained => exact agreed_kubernetes hkubernetes
        | none => exact .notFound

end

/-- What agreement says of the two results, whatever they are. -/
theorem Agreed.facts {id : Text} {status : Except ServiceError (OperationStatus × OperationTargets)}
    {receipt : Except ServiceError OperationReceipt} (h : Agreed C id status receipt) :
    ((∃ result targets, status = .ok (resultStatus result, targets)) ↔
      ∃ bytes sha256, receipt = .ok (.ready bytes sha256)) ∧
    ((∃ targets, status = .ok (.inProgress, targets) ∨
        ∃ rejection, status = .ok (.notAttempted rejection, targets)) ↔ receipt = .ok .notReady) ∧
    ((∃ targets, status = .ok (.notFound, targets)) ↔ receipt = .ok .notFound) ∧
    (∀ error, status = .error error ↔ receipt = .error error) ∧
    ∀ reported targets bytes sha256, status = .ok (reported, targets) →
      receipt = .ok (.ready bytes sha256) →
        sha256 = digestHex C bytes ∧ Attests id reported targets bytes := by
  cases h with
  | error error => simp
  | notFound =>
    have hresult : ∀ result, OperationStatus.notFound ≠ resultStatus result := by
      intro result
      cases result <;> exact fun h => nomatch h
    simp [hresult]
  | notReady reported targets hreported =>
    have hresult : ∀ result, reported ≠ resultStatus result := by
      rcases hreported with rfl | ⟨rejection, rfl⟩ <;> intro result <;> cases result <;>
        exact fun h => nomatch h
    rcases hreported with rfl | ⟨rejection, rfl⟩ <;> simp [hresult]
  | ready result targets bytes hattests =>
    have hfinished : resultStatus result ≠ .inProgress ∧ resultStatus result ≠ .notFound ∧
        ∀ rejection, resultStatus result ≠ .notAttempted rejection := by
      cases result <;>
        exact ⟨fun h => (nomatch h), fun h => (nomatch h), fun _ h => nomatch h⟩
    obtain ⟨hprogress, hfound, hattempted⟩ := hfinished
    refine ⟨⟨fun _ => ⟨_, _, rfl⟩, fun _ => ⟨_, _, rfl⟩⟩, ?_, ?_, ?_, ?_⟩
    · simp [hprogress, hattempted]
    · simp [hfound]
    · simp
    · intro reported targets' bytes' sha256 hstatus hreceipt
      obtain ⟨rfl, rfl⟩ := Prod.mk.inj (Except.ok.inj hstatus)
      obtain ⟨rfl, rfl⟩ := OperationReceipt.ready.inj (Except.ok.inj hreceipt)
      exact ⟨rfl, hattests⟩

/-- **Status and receipt agree**, on every journal that stands still, for every identity and
under every trust.  The status is a result exactly when the receipt is ready, unfinished or not
attempted exactly when it is not ready, and not found exactly when it is not found; an error of
the one is the error of the other.  The digest of a receipt is that of its bytes, and the bytes
attest what the status reports. -/
theorem status_receipt_agree (C : Crypto) (outside : Outside) (s : ℕ) (w : World)
    (trust : List AuthorizationTrust) (id : Text) :
    ∃ status receipt,
      Concludes (healthy outside s) w (Application.status (C := C) trust id) status ∧
      Concludes (healthy outside s) w (Application.receipt (C := C) trust id) receipt ∧
      ((∃ result targets, status = .ok (resultStatus result, targets)) ↔
        ∃ bytes sha256, receipt = .ok (.ready bytes sha256)) ∧
      ((∃ targets, status = .ok (.inProgress, targets) ∨
          ∃ rejection, status = .ok (.notAttempted rejection, targets)) ↔
        receipt = .ok .notReady) ∧
      ((∃ targets, status = .ok (.notFound, targets)) ↔ receipt = .ok .notFound) ∧
      (∀ error, status = .error error ↔ receipt = .error error) ∧
      ∀ reported targets bytes sha256, status = .ok (reported, targets) →
        receipt = .ok (.ready bytes sha256) →
          sha256 = digestHex C bytes ∧ Attests id reported targets bytes := by
  have hstands := standsAt_healthy (C := C) outside s w
  exact ⟨_, _, concludes_status hstands, concludes_receipt hstands, (agreed_on C trust w.db id).facts⟩

end Gateway
end Kapsel
