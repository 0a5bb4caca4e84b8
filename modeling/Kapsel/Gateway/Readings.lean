import Kapsel.Application.Reports
import Kapsel.Gateway.Sessions

/-!
# What the service reads of an identity

`select`, `admitted_state`, `status`, `receipt` and every entry of a history page begin in the
same way: a snapshot for the Git table, and if that has no row, another snapshot for the
Kubernetes table.  `Reads` is what such a beginning may find, with the snapshots; what each
function then answers is a function of it.

The catalog is looked at only where `Reads` found nothing.
-/

namespace Kapsel

open Grammar Fallible Authority Interaction Interaction.Program

namespace Gateway

open Journal Application

variable {C : Crypto}

/-! ## Tuples -/

/-- What is retained under an identity, authenticated. -/
inductive RetainedTuple (C : Crypto) where
  | git (b : GitBinding C) (phase : GitPhase)
  | kubernetes (retained : RetainedOperation)
  | nothing

/-- What the two snapshots may show. -/
inductive Reads (C : Crypto) (trust : List AuthorizationTrust) (id : Text) :
    Past C → RetainedTuple C → Prop
  | git (db : Database) (b : GitBinding C) (phase : GitPhase) :
      Journal.retainedGit db id trust = .ok (some (b, phase)) →
      Reads C trust id [readOf db] (.git b phase)
  | kubernetes (db db' : Database) (retained : RetainedOperation) :
      Journal.retainedGit (C := C) db id trust = .ok none →
      Journal.retainedOperation C db' id (authorizeRetained trust id) = .ok (some retained) →
      Reads C trust id [readOf db', readOf db] (.kubernetes retained)
  | nothing (db db' : Database) :
      Journal.retainedGit (C := C) db id trust = .ok none →
      Journal.retainedOperation C db' id (authorizeRetained trust id) = .ok none →
      Reads C trust id [readOf db', readOf db] .nothing

namespace RetainedTuple

/-- The status of what is retained. -/
def status : RetainedTuple C → Except ServiceError (OperationStatus × OperationTargets)
  | git b phase =>
      let retained := RetainedGitOperation.fromPhase b phase
      (statusOf retained.state retained.rejection retained.result).map fun status =>
        (status, { git := some retained.targets })
  | kubernetes retained =>
      (statusOf retained.operation.state retained.operation.targetRejection
        retained.operation.result).map fun status => (status, retained.operation.targets)
  | nothing => .ok (.notFound, {})

/-- The receipt of what is retained. -/
def receipt : RetainedTuple C → OperationReceipt
  | git b phase =>
      match (RetainedGitOperation.fromPhase b phase).receipt with
      | none => .notReady
      | some (bytes, sha256) => .ready bytes sha256
  | kubernetes retained => loadedReceipt retained.operation
  | nothing => .notFound

/-- The selection of what is retained, or of the catalog when nothing is. -/
def selection (approvals : List SelectableApproval) (id : Text) :
    RetainedTuple C → Except ServiceError Selection
  | git b phase => .ok (.git b.grant (some phase.state))
  | kubernetes retained => retainedSelection retained
  | nothing => catalogSelection approvals id

end RetainedTuple

/-- What a selection selects has the identity that it was made for. -/
theorem Reads.requestIdentity {trust : List AuthorizationTrust} {id : Text} {past : Past C}
    {tuple : RetainedTuple C} (h : Reads C trust id past tuple)
    {approvals : List SelectableApproval} {request : SetDeploymentImageRequest}
    {signedGrant : Bytes} {state : Option OperationState}
    (hselection : tuple.selection approvals id = .ok (.kubernetes request signedGrant state)) :
    request.operationId = id := by
  cases h with
  | git db b phase _ => cases hselection
  | kubernetes db db' retained _ hretained =>
    obtain ⟨_, -, hselected⟩ := bind_eq_ok.mp hselection
    obtain ⟨rfl, -, -⟩ := Selection.kubernetes.inj (Except.ok.inj hselected)
    obtain ⟨_, a, -, -, hauthorize, hsame, -⟩ := retainedOperation_eq_ok hretained
    rw [hsame]
    exact operationId_of_authorizeRetained hauthorize
  | nothing db db' _ _ =>
    have hcatalog : catalogSelection approvals id = .ok (.kubernetes request signedGrant state) :=
      hselection
    unfold catalogSelection at hcatalog
    split at hcatalog
    · cases hcatalog
    · rename_i approval hfind
      have hname : approval.handle.operationId = id := by
        simpa using List.find?_some hfind
      have hselected := Except.ok.inj hcatalog
      unfold SelectableApproval.selection at hselected
      split at hselected
      · rename_i hhandle
        obtain ⟨rfl, -, -⟩ := Selection.kubernetes.inj hselected
        rw [hhandle] at hname
        exact hname
      · cases hselected

/-! ## The beginnings -/

section
variable {permits : Past C → Call C → Prop} (hread : ∀ past, permits past .read)
  {trust : List AuthorizationTrust} {id : Text} {past : Past C}
include hread

/-- The status is that of what was read. -/
theorem ensures_status_reads :
    Ensures permits past (status (C := C) trust id) fun past' result =>
      ∃ own tuple, past' = own ++ past ∧ Reads C trust id own tuple ∧
        tuple.status = .ok result := by
  refine (ensures_mapErr (ensures_retainedGit hread)).bind fun past₁ found h₁ => ?_
  obtain ⟨db, rfl, retained, hretained, rfl⟩ := h₁
  cases retained with
  | some pair =>
    obtain ⟨b, phase⟩ := pair
    refine ensures_checked fun status hstatus => ensures_pure ?_
    refine ⟨[readOf db], .git b phase, rfl, .git db b phase hretained, ?_⟩
    exact map_eq_ok.mpr ⟨status, hstatus, rfl⟩
  | none =>
    refine (ensures_mapErr (ensures_retainedOperation hread)).bind fun past₂ found₂ h₂ => ?_
    obtain ⟨db₂, rfl, hfound⟩ := h₂
    cases found₂ with
    | some retained₂ =>
      refine ensures_checked fun status hstatus => ensures_pure ?_
      refine ⟨[readOf db₂, readOf db], .kubernetes retained₂, rfl,
        .kubernetes db db₂ retained₂ hretained hfound, ?_⟩
      exact map_eq_ok.mpr ⟨status, hstatus, rfl⟩
    | none =>
      exact ensures_pure ⟨[readOf db₂, readOf db], .nothing, rfl,
        .nothing db db₂ hretained hfound, rfl⟩

/-- The receipt is that of what was read. -/
theorem ensures_receipt_reads :
    Ensures permits past (receipt (C := C) trust id) fun past' result =>
      ∃ own tuple, past' = own ++ past ∧ Reads C trust id own tuple ∧
        tuple.receipt = result := by
  refine (ensures_mapErr (ensures_retainedGit hread)).bind fun past₁ found h₁ => ?_
  obtain ⟨db, rfl, retained, hretained, rfl⟩ := h₁
  cases retained with
  | some pair =>
    obtain ⟨b, phase⟩ := pair
    have hresult : ∀ result, (RetainedTuple.git b phase).receipt = result →
        ∃ own tuple, readOf db :: past = own ++ past ∧ Reads C trust id own tuple ∧
          tuple.receipt = result :=
      fun result h => ⟨[readOf db], .git b phase, rfl, .git db b phase hretained, h⟩
    show Ensures permits _ (match (RetainedGitOperation.fromPhase b phase).receipt with
      | none => pure OperationReceipt.notReady
      | some (bytes, sha256) => pure (OperationReceipt.ready bytes sha256)) _
    cases hreceipt : (RetainedGitOperation.fromPhase b phase).receipt with
    | none =>
      refine ensures_pure (hresult _ ?_)
      simp only [RetainedTuple.receipt, hreceipt]
    | some pair =>
      obtain ⟨bytes, sha256⟩ := pair
      refine ensures_pure (hresult _ ?_)
      simp only [RetainedTuple.receipt, hreceipt]
  | none =>
    refine (ensures_mapErr (ensures_retainedOperation hread)).bind fun past₂ found₂ h₂ => ?_
    obtain ⟨db₂, rfl, hfound⟩ := h₂
    cases found₂ with
    | some retained₂ =>
      exact ensures_pure ⟨[readOf db₂, readOf db], .kubernetes retained₂, rfl,
        .kubernetes db db₂ retained₂ hretained hfound, rfl⟩
    | none =>
      exact ensures_pure ⟨[readOf db₂, readOf db], .nothing, rfl,
        .nothing db db₂ hretained hfound, rfl⟩

/-- The selection is that of what was read. -/
theorem ensures_selection_reads {approvals : List SelectableApproval} :
    Ensures permits past (retainedForSelection (C := C) trust approvals id)
      fun past' result => ∃ own tuple, past' = own ++ past ∧ Reads C trust id own tuple ∧
        tuple.selection approvals id = .ok result := by
  refine (ensures_mapErr (ensures_retainedGit hread)).bind fun past₁ found h₁ => ?_
  obtain ⟨db, rfl, retained, hretained, rfl⟩ := h₁
  cases retained with
  | some pair =>
    obtain ⟨b, phase⟩ := pair
    exact ensures_pure ⟨[readOf db], .git b phase, rfl, .git db b phase hretained, rfl⟩
  | none =>
    refine (ensures_mapErr (ensures_retainedOperation hread)).bind fun past₂ found₂ h₂ => ?_
    obtain ⟨db₂, rfl, hfound⟩ := h₂
    cases found₂ with
    | some retained₂ =>
      exact ensures_check fun selected hselected => ⟨[readOf db₂, readOf db],
        .kubernetes retained₂, rfl, .kubernetes db db₂ retained₂ hretained hfound, hselected⟩
    | none =>
      exact ensures_check fun selected hselected => ⟨[readOf db₂, readOf db], .nothing, rfl,
        .nothing db db₂ hretained hfound, hselected⟩

end

end Gateway
end Kapsel
