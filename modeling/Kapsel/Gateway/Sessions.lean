import Kapsel.Gateway.Protocol

/-!
# Every session keeps to the protocol

The passes of `Kapsel.Gateway.Passes`, one after the other, and at the end `program_meets`:
the program of every entry only asks what `allowed` permits.  The two interesting cases are
a fresh attempt, where the permission and the adapter call have to follow the confirmed
commit at once, and the reconcile loop, which is an induction on the turns with the lease
and the binding as its invariant.
-/

namespace Kapsel

open Grammar Fallible Authority Interaction Interaction.Program

namespace Gateway

open Journal Application

variable {C : Crypto} {entry : Entry} {past : Past C} {a : AuthorizedRequest C}
  {b : GitBinding C}

/-! ## Bindings -/

theorem signedGrant_of_verifyGrantWith {bytes : Bytes} {authorities : List AuthorizationTrust}
    {v : VerifiedAuthorization C} (h : verifyGrantWith C bytes authorities = .ok v) :
    v.signedGrant = bytes := by
  induction authorities with
  | nil => cases h
  | cons trust authorities ih =>
    unfold verifyGrantWith at h
    split at h
    · rename_i verified hverified
      obtain rfl := Except.ok.inj h
      unfold verifyAuthorizationGrant at hverified
      split at hverified
      · rw [← Except.ok.inj hverified]
      · cases hverified
    · exact ih h
    · cases h

theorem boundBy_of_bind {authorities : List AuthorizationTrust} {bytes : Bytes}
    {request : ValidatedRequest} {verified : VerifiedAuthorization C}
    (hverified : verifyGrantWith C bytes authorities = .ok verified)
    (hbind : AuthorizedRequest.bind C request verified = .ok a) : BoundBy authorities a := by
  unfold AuthorizedRequest.bind at hbind
  split at hbind
  · obtain rfl := Except.ok.inj hbind
    show verifyGrantWith C verified.signedGrant authorities = .ok verified
    rw [signedGrant_of_verifyGrantWith hverified, hverified]
  · cases hbind

theorem boundBy_of_bindAuthorization {authorities : List AuthorizationTrust}
    {request : SetDeploymentImageRequest} {bytes : Bytes}
    (h : bindAuthorization C authorities request bytes = .ok a) : BoundBy authorities a := by
  obtain ⟨verified, hverified, h⟩ := bind_eq_ok.mp h
  obtain ⟨request', -, h⟩ := bind_eq_ok.mp h
  exact boundBy_of_bind hverified h

/-! ## Submission -/

theorem ensures_markRequestedAuthorized : Ensures (allowed entry) past (markRequestedAuthorized a)
    fun _ _ => True := by
  refine (ensures_operation allowed_read _).bind fun past₁ loaded _ => ?_
  split
  · exact (ensures_markAuthorized _).mono fun _ _ _ => trivial
  · exact ensures_throw _
  · exact ensures_throw _

theorem ensures_submitBound : Ensures (allowed entry) past (submitBound a) fun _ _ => True := by
  refine (ensures_existingSubmission allowed_read a).bind fun past₁ existing _ => ?_
  split
  · exact ensures_markRequestedAuthorized.bind fun _ _ _ => ensures_pure trivial
  · exact ensures_pure trivial
  · refine (ensures_replace (.insertRequested a) trivial trivial).bind fun past₂ _ _ => ?_
    exact ensures_markRequestedAuthorized.bind fun _ _ _ => ensures_pure trivial

theorem ensures_submitAuthorized {authorities : List AuthorizationTrust}
    {request : SetDeploymentImageRequest} {signedGrant : Bytes} :
    Ensures (allowed entry) past (submitAuthorized (C := C) authorities request signedGrant)
      fun _ _ => True :=
  ensures_checked fun _ _ => ensures_checked fun _ _ => ensures_checked fun _ _ =>
    ensures_submitBound

/-! ## One pass over a Kubernetes operation -/

theorem ensures_requireAuthorized {permits : Past C → Call C → Prop}
    (hread : ∀ past, permits past .read) : Ensures permits past (requireAuthorized a)
      fun past' _ => Quiet past past' := by
  refine (ensures_authorizedOperation hread a).bind fun past₁ loaded h₁ => ?_
  cases loaded with
  | some operation => exact ensures_pure h₁.1
  | none => exact ensures_throw _

theorem ensures_requireStarted : Ensures (allowed entry) past (requireStarted a)
    fun past' started => Quiet past past' ∧ Shows past' a (.applyStarted started) := by
  refine (ensures_authorizedOperation allowed_read a).bind fun past₁ loaded h₁ => ?_
  split
  · exact ensures_pure ⟨h₁.1, h₁.2 _ rfl⟩
  · exact ensures_throw _

theorem ensures_preflightTarget {operation : AuthorizedOperation} (hheld : Held past) :
    Ensures (allowed entry) past (preflightTarget a operation)
      fun past' found => past <:+ past' ∧ ∀ target ∈ found,
        identified operation.request.request.toAdapterRequest (.ok target.target) ∈ past' := by
  refine ensures_ask trivial fun targetRead => (ensures_requireAuthorized allowed_read).bind fun past₁ _ h₁ => ?_
  have hpast : past <:+ past₁ := (List.suffix_cons _ _).trans h₁.1
  have hmem : identified _ targetRead ∈ past₁ := h₁.1.subset List.mem_cons_self
  cases targetRead with
  | error error =>
    cases error with
    | transient => exact ensures_throw _
    | permanent rejection =>
      refine (ensures_markNotAttempted (hheld.mono hpast) hmem).bind fun past₂ _ h₂ => ?_
      exact ensures_pure ⟨hpast.trans h₂, fun _ hnone => nomatch hnone⟩
  | ok target =>
    refine ensures_checked fun validated hvalidated => ensures_pure ⟨hpast, fun target' h' => ?_⟩
    obtain rfl := Option.some.inj h'
    rw [ValidatedTargetIdentity.tryFrom_eq_ok.mp (mapError_eq_ok.mp hvalidated)]
    exact hmem

theorem ensures_dispatch {operation : AuthorizedOperation} {permission : DispatchPermission}
    (hheld : Held past) (hmade : PermissionMade past operation permission)
    (hshows : Shows past a (.authorized operation)) :
    Ensures (allowed entry) past (dispatch a permission) fun past' _ => past <:+ past' := by
  refine ensures_requireStarted.bind fun past₁ started h₁ => ?_
  refine ensures_ask (h₁.1.2.trans hmade.last) fun answer => ensures_checked fun outcome houtcome => ?_
  obtain rfl := mapError_eq_ok.mp houtcome
  refine (ensures_requireAuthorized allowed_read).bind fun past₂ _ h₂ => ?_
  have hpast : past₁ <:+ past₂ := (List.suffix_cons _ _).trans h₂.1
  have hlast : lastAct past₂ = some (applied permission outcome) :=
    h₂.2.trans (latest_cons_of_not_silent rfl)
  refine (ensures_recordApplyOutcome (hheld.mono (h₁.1.1.trans hpast)) hlast hmade.request
    (hshows.mono (h₁.1.1.trans hpast)) (h₁.2.mono hpast)).bind fun past₃ _ h₃ => ?_
  exact ensures_requireStarted.mono fun past₄ _ h₄ =>
    ((h₁.1.1.trans hpast).trans h₃).trans h₄.1.1

theorem ensures_freshAttempt {operation : AuthorizedOperation} (hheld : Held past)
    (hbound : BoundBy entry.authorities a) (hshows : Shows past a (.authorized operation)) :
    Ensures (allowed entry) past (freshAttempt a operation) fun past' _ => past <:+ past' := by
  refine (ensures_preflightTarget hheld).bind fun past₁ found h₁ => ?_
  cases found with
  | none => exact ensures_pure h₁.1
  | some target =>
    refine (ensures_beginAttempt (hheld.mono h₁.1) hbound (hshows.mono h₁.1)
      (h₁.2 target rfl)).bind fun past₂ made h₂ => ?_
    have hpast := h₁.1.trans h₂.1
    cases made with
    | none => exact ensures_pure hpast
    | some permission =>
      refine (ensures_dispatch (hheld.mono hpast) (h₂.2 permission rfl) (hshows.mono hpast)).bind
        fun past₃ _ h₃ => ensures_pure (hpast.trans h₃)

theorem ensures_observeAndFreeze {attempted : ApplyStartedOperation} (hheld : Held past) :
    Ensures (allowed entry) past (observeAndFreeze a attempted) fun _ _ => True := by
  refine ensures_ask trivial fun answer => ensures_checked fun observation _ => ?_
  refine (ensures_requireAuthorized allowed_read).bind fun past₁ _ h₁ => ?_
  refine (ensures_freezeObservation (hheld.mono ((List.suffix_cons _ _).trans h₁.1))).bind
    fun _ _ _ => ensures_pure trivial

theorem ensures_runLockedOperationOnce (hheld : Held past) (hbound : BoundBy entry.authorities a) :
    Ensures (allowed entry) past (runLockedOperationOnce a) fun _ _ => True := by
  refine (ensures_authorizedOperation allowed_read a).bind fun past₁ loaded h₁ => ?_
  have hheld₁ := hheld.mono h₁.1.1
  split
  · rename_i operation
    refine (ensures_freshAttempt hheld₁ hbound (h₁.2 _ rfl)).bind fun past₂ attempted h₂ => ?_
    cases attempted with
    | none => exact ensures_pure trivial
    | some attempted =>
      exact (ensures_observeAndFreeze (hheld₁.mono h₂)).bind fun _ _ _ => ensures_pure trivial
  · exact (ensures_observeAndFreeze hheld₁).bind fun _ _ _ => ensures_pure trivial
  · exact ensures_pure trivial

/-! ## Admission and the loop -/

theorem ensures_finalizeReceipt {operation : ReceiverObservedOperation}
    {settings : ReceiptSettings} (hheld : Held past) :
    Ensures (allowed entry) past (finalizeReceipt (C := C) operation settings) fun _ _ => True :=
  ensures_checked fun _ _ => (ensures_commitReceipt hheld).bind fun _ _ _ => ensures_pure trivial

theorem ensures_admitRequested : Ensures (allowed entry) past (admitRequested a)
    fun _ _ => True := by
  refine (ensures_existingSubmission allowed_read a).bind fun past₁ existing _ => ?_
  cases existing with
  | some state => exact ensures_pure trivial
  | none =>
    exact (ensures_replace (.insertRequested a) trivial trivial).bind fun _ _ _ =>
      ensures_pure trivial

/-- A session that was admitted has the lease. -/
theorem ensures_admitServiceOperation {existing : Option OperationState}
    {admission : Action C GatewayError OperationState}
    (hadmission : ∀ past', Held past' → Ensures (allowed entry) past' admission fun _ _ => True) :
    Ensures (allowed entry) past (admitServiceOperation existing admission)
      fun past' admitted => admitted.isSome → Held past' := by
  unfold admitServiceOperation
  split
  · exact ensures_ask trivial fun _ => ensures_pure fun h => nomatch h
  · refine ensures_ask trivial fun locked => ?_
    cases locked with
    | error error => exact ensures_throw _
    | ok got =>
      cases got with
      | false => exact ensures_ask trivial fun _ => ensures_throw _
      | true =>
        have hheld : Held (⟨Call.tryLockWorker, Except.ok true⟩ :: past : Past C) :=
          List.mem_cons_self
        refine (ensures_lift (hadmission _ hheld).suffix).bind fun past₁ result h₁ => ?_
        split
        · rename_i state
          refine ensures_ask trivial fun _ => ensures_pure fun _ => ?_
          exact (hheld.mono (h₁ state rfl).1).mono (List.suffix_cons _ _)
        · exact ensures_ask trivial fun _ => ensures_pure fun h => nomatch h
        · exact ensures_throw _

theorem ensures_reconcileTurn {request : SetDeploymentImageRequest} {signedGrant : Bytes}
    {adapter : Bool} {settings : Option ReceiptSettings} (hheld : Held past)
    (hbound : BoundBy entry.authorities a) :
    Ensures (allowed entry) past
      (reconcileTurn entry.authorities request signedGrant adapter settings a)
      fun _ _ => True := by
  refine (ensures_mapErr (ensures_authorizedOperation allowed_read a)).bind fun past₁ loaded h₁ => ?_
  have hheld₁ := hheld.mono h₁.1.1
  cases loaded with
  | none => exact ensures_pure trivial
  | some operation =>
    have hattempt : Ensures (allowed entry) past₁
        (if adapter then do
            let advanced ← mapErr .advancement (runLockedOperationOnce a)
            return .inl advanced.isSome
          else throw (.blocked .receiverUnavailable) :
          Action C ReconciliationError (Bool ⊕ Option LoadedOperation)) fun _ _ => True := by
      split
      · exact (ensures_mapErr (ensures_runLockedOperationOnce hheld₁ hbound)).bind
          fun _ _ _ => ensures_pure trivial
      · exact ensures_throw _
    cases operation with
    | requested operation =>
      exact (ensures_mapErr ensures_submitAuthorized).bind fun _ _ _ => ensures_pure trivial
    | authorized operation => exact hattempt
    | applyStarted operation => exact hattempt
    | receiverObserved operation =>
      cases settings with
      | none => exact ensures_throw _
      | some settings =>
        exact (ensures_mapErr (ensures_finalizeReceipt hheld₁)).bind fun _ _ _ =>
          ensures_pure trivial
    | notAttempted operation => exact ensures_pure trivial
    | finalized operation => exact ensures_pure trivial

theorem ensures_reconcileLoop {request : SetDeploymentImageRequest} {signedGrant : Bytes}
    {adapter : Bool} {settings : Option ReceiptSettings} (turns : ℕ) (hheld : Held past)
    (hbound : BoundBy entry.authorities a) :
    Ensures (allowed entry) past
      (reconcileLoop entry.authorities request signedGrant adapter settings a turns)
      fun _ _ => True := by
  induction turns generalizing past with
  | zero => exact ensures_pure trivial
  | succ turns ih =>
    refine (ensures_reconcileTurn hheld hbound).suffix.bind fun past₁ result h₁ => ?_
    split
    · exact ensures_pure trivial
    · exact ih (hheld.mono h₁.1)
    · refine ensures_checked fun a' _ => ?_
      exact ensures_mapErr ((ensures_authorizedOperation allowed_read a').mono fun _ _ _ => trivial)

theorem ensures_reconcileLockedWithAdapter {request : SetDeploymentImageRequest}
    {signedGrant : Bytes} {adapter : Bool} {settings : Option ReceiptSettings} {turns : ℕ}
    (hheld : Held past) :
    Ensures (allowed entry) past (reconcileLockedWithAdapter (C := C) entry.authorities request
      signedGrant adapter settings turns) fun _ _ => True :=
  ensures_checked fun _ ha => ensures_reconcileLoop turns hheld
    (boundBy_of_bindAuthorization (mapError_eq_ok.mp ha))

theorem ensures_admitAndReconcile {request : SetDeploymentImageRequest} {signedGrant : Bytes}
    {adapter : Bool} {settings : Option ReceiptSettings} {turns : ℕ} :
    Ensures (allowed entry) past (admitAndReconcile (C := C) entry.authorities request signedGrant
      adapter settings turns) fun _ _ => True := by
  refine ensures_checked fun a ha => ?_
  refine (ensures_mapErr (ensures_authorizedOperation allowed_read a)).bind fun past₁ existing _ => ?_
  refine (ensures_admitServiceOperation fun _ _ => ensures_admitRequested).bind
    fun past₂ admitted h₂ => ?_
  cases admitted with
  | none => exact ensures_pure trivial
  | some state =>
    exact (ensures_reconcileLockedWithAdapter (h₂ rfl)).bind fun _ _ _ => ensures_pure trivial

/-! ## Git -/

theorem ensures_prepare {receiver : GitReceiver} {authorization : GitRefAuthorization} :
    Ensures (allowed entry) past (prepare (C := C) receiver authorization)
      fun past' _ => past <:+ past' := by
  refine ensures_ask trivial fun prepared => ?_
  split
  · exact ensures_pure (List.suffix_cons _ _)
  · exact ensures_pure (List.suffix_cons _ _)

theorem ensures_requireReceiver {receiver : Option GitReceiver} :
    Ensures (allowed entry) past (requireReceiver (C := C) receiver)
      fun past' _ => past <:+ past' := by
  cases receiver with
  | some receiver => exact ensures_pure (List.suffix_refl _)
  | none => exact ensures_throw _

theorem ensures_requireGitPhase {permits : Past C → Call C → Prop}
    (hread : ∀ past, permits past .read) : Ensures permits past (requireGitPhase b)
      fun past' phase => past <:+ past' ∧ ∃ db record, past' = readOf db :: past ∧
        stored db .git b.authorization.operationId = some record ∧
        decodeRecord record b = .ok phase := by
  refine (ensures_gitOperation hread).bind fun past₁ phase h₁ => ?_
  cases phase with
  | some phase => exact ensures_pure ⟨h₁.1.1, h₁.2 phase rfl⟩
  | none => exact ensures_throw _

theorem ensures_freshGitAttempt {receiver : GitReceiver} (hheld : Held past) :
    Ensures (allowed entry) past (freshGitAttempt b receiver) fun past' _ => past <:+ past' := by
  refine ensures_prepare.bind fun past₁ result h₁ => ?_
  split
  · refine (ensures_beginGitAttempt (hheld.mono h₁)).bind fun past₂ permission h₂ => ?_
    refine ensures_ask h₂.2.1 fun acknowledgement => ?_
    have hpast := (h₁.trans h₂.1).trans (List.suffix_cons
      (⟨Call.send permission, acknowledgement⟩ : Exchange (Call C) Answer) past₂)
    exact (ensures_recordGitAcknowledgement (hheld.mono hpast) (latest_cons_of_not_silent rfl)
      h₂.2.2).mono fun _ _ h₃ => hpast.trans h₃
  · exact (ensures_rejectGit (hheld.mono h₁)).mono fun _ _ h₂ => h₁.trans h₂
  · exact (ensures_rejectGit (hheld.mono h₁)).mono fun _ _ h₂ => h₁.trans h₂
  · exact ensures_throw _

theorem ensures_advanceAuthorized {receiver : Option GitReceiver} {phase : GitPhase}
    (hheld : Held past) : Ensures (allowed entry) past (advanceAuthorized b receiver phase)
      fun past' _ => past <:+ past' := by
  unfold advanceAuthorized
  split
  · refine ensures_requireReceiver.bind fun past₁ receiver' h₁ => ?_
    refine (ensures_freshGitAttempt (hheld.mono h₁)).bind fun past₂ _ h₂ => ?_
    exact (ensures_requireGitPhase allowed_read).mono fun _ _ h₃ => (h₁.trans h₂).trans h₃.1
  · exact ensures_pure (List.suffix_refl _)

theorem ensures_advanceAttempted {receiver : Option GitReceiver} (phase : GitPhase)
    (hheld : Held past) : Ensures (allowed entry) past (advanceAttempted b receiver phase)
      fun past' _ => past <:+ past' := by
  cases phase with
  | attempted acknowledgement =>
    refine ensures_requireReceiver.bind fun past₁ receiver' h₁ => ensures_ask trivial fun seen => ?_
    have hpast := h₁.trans (List.suffix_cons
      (⟨Call.observeRef receiver', seen⟩ : Exchange (Call C) Answer) past₁)
    refine (ensures_freezeGitObservation (hheld.mono hpast)).bind fun past₂ _ h₂ => ?_
    exact (ensures_requireGitPhase allowed_read).mono fun _ _ h₃ => (hpast.trans h₂).trans h₃.1
  | _ => exact ensures_pure (List.suffix_refl _)

theorem ensures_advanceObserved {signing : Option ReceiptSettings} (phase : GitPhase)
    (hheld : Held past) : Ensures (allowed entry) past (advanceObserved b signing phase)
      fun _ _ => True := by
  cases phase with
  | observed acknowledgement seen =>
    cases signing with
    | none => exact ensures_pure trivial
    | some settings =>
      refine ensures_checked fun bytes _ => (ensures_commitGitReceipt hheld).bind fun _ _ _ => ?_
      exact (ensures_requireGitPhase allowed_read).mono fun _ _ _ => trivial
  | _ => exact ensures_pure trivial

theorem ensures_advance {receiver : Option GitReceiver} {signing : Option ReceiptSettings}
    (hheld : Held past) :
    Ensures (allowed entry) past (advance b receiver signing) fun _ _ => True := by
  refine (ensures_requireGitPhase allowed_read).bind fun past₁ phase h₁ => ensures_checked fun _ _ => ?_
  refine (ensures_advanceAuthorized (hheld.mono h₁.1)).bind fun past₂ phase₂ h₂ => ?_
  refine (ensures_advanceAttempted phase₂ (hheld.mono (h₁.1.trans h₂))).bind
    fun past₃ phase₃ h₃ => ?_
  exact ensures_advanceObserved phase₃ (hheld.mono ((h₁.1.trans h₂).trans h₃))

theorem ensures_openNeededReceiver {configuration : Option GitReceiver}
    {admitted : OperationState} :
    Ensures (allowed entry) past (openNeededReceiver (C := C) configuration admitted)
      fun past' _ => past <:+ past' := by
  unfold openNeededReceiver
  split
  · cases configuration with
    | none => exact ensures_throw _
    | some receiver =>
      exact ensures_ask trivial fun opened => ensures_checked fun _ _ =>
        ensures_pure (List.suffix_cons _ _)
  · exact ensures_pure (List.suffix_refl _)

theorem ensures_admitAndReconcileGit {id : Text} {grant : Bytes}
    {configuration : Option GitReceiver} {signing : Option ReceiptSettings} :
    Ensures (allowed entry) past (admitAndReconcileGit (C := C) entry.authorities id grant
      configuration signing) fun _ _ => True := by
  refine ensures_checked fun b _ => ensures_checked fun _ _ => ?_
  refine (ensures_mapErr (ensures_gitOperation allowed_read)).bind fun past₁ existing _ => ?_
  refine (ensures_admitServiceOperation fun _ _ => ensures_insertGit.bind fun _ _ _ =>
    ensures_pure trivial).bind fun past₂ admitted h₂ => ?_
  cases admitted with
  | none => exact ensures_pure trivial
  | some state =>
    refine ensures_openNeededReceiver.bind fun past₃ receiver h₃ => ?_
    refine (ensures_mapErr (ensures_advance ((h₂ rfl).mono h₃))).bind fun past₄ phase _ => ?_
    split
    · exact ensures_throw _
    · exact ensures_pure trivial

/-! ## The service application

Its reads are harmless under any protocol that permits reads. -/

section
variable {permits : Past C → Call C → Prop} (hread : ∀ past, permits past .read)
  {trust : List AuthorizationTrust} {id : Text}
include hread

theorem ensures_retainedGit : Ensures permits past (retainedGit (C := C) trust id)
    fun past' found => ∃ db, past' = readOf db :: past ∧ ∃ retained,
      Journal.retainedGit (C := C) db id trust = .ok retained ∧
        found = retained.map fun p => RetainedGitOperation.fromPhase p.1 p.2 :=
  ensures_checked fun _ _ => (ensures_snapshot hread).bind fun _ db hdb =>
    ensures_checked fun retained hretained => ensures_pure ⟨db, hdb, retained, hretained, rfl⟩

theorem ensures_retainedOperation : Ensures permits past (retainedOperation (C := C) trust id)
    fun past' found => ∃ db, past' = readOf db :: past ∧
      Journal.retainedOperation C db id (authorizeRetained trust id) = .ok found :=
  ensures_checked fun _ _ => (ensures_snapshot hread).bind fun _ db hdb =>
    ensures_check fun _ hfound => ⟨db, hdb, hfound⟩

theorem ensures_historyIds (after : Option Text) :
    Ensures permits past (historyIds (C := C) after) fun _ _ => True :=
  ensures_checked fun _ _ => (ensures_snapshot hread).bind fun _ _ _ =>
    ensures_checked fun _ _ => ensures_checked fun _ _ => ensures_pure trivial

theorem ensures_checkApproval (approval : SelectableApproval) :
    Ensures permits past (checkApproval (C := C) trust approval) fun _ _ => True := by
  unfold checkApproval
  split
  · rename_i request target label _
    have hoperation : Ensures permits past (Gateway.authorizedOperation (C := C) trust request
        approval.signedGrant) fun _ _ => True :=
      ensures_checked fun a _ => (ensures_authorizedOperation hread a).mono fun _ _ _ => trivial
    exact hoperation.bind fun _ _ _ => ensures_pure trivial
  · have hoperation : Ensures permits past (Gateway.authorizedGit (C := C) trust
        approval.signedGrant) fun _ _ => True :=
      ensures_checked fun b _ => (ensures_gitOperation hread).bind fun _ _ _ =>
        ensures_pure trivial
    exact hoperation.bind fun _ _ _ => ensures_pure trivial

theorem ensures_checkApprovals (approvals : List SelectableApproval) :
    Ensures permits past (checkApprovals (C := C) trust approvals) fun _ _ => True := by
  induction approvals generalizing past with
  | nil => exact ensures_pure trivial
  | cons approval rest ih =>
    exact (ensures_mapErr (ensures_checkApproval hread approval)).bind fun _ _ _ => ih

theorem ensures_retainedForSelection {approvals : List SelectableApproval} :
    Ensures permits past (retainedForSelection (C := C) trust approvals id)
      fun past' _ => Quiet past past' := by
  refine (ensures_mapErr (ensures_retainedGit hread)).bind fun past₁ found h₁ => ?_
  obtain ⟨db, rfl, -⟩ := h₁
  cases found with
  | some retained => exact ensures_pure (quiet_cons_read _)
  | none =>
    refine (ensures_mapErr (ensures_retainedOperation hread)).bind fun past₂ found₂ h₂ => ?_
    obtain ⟨db₂, rfl, -⟩ := h₂
    have hquiet : Quiet past (readOf db₂ :: readOf db :: past) :=
      (quiet_cons_read _).trans (quiet_cons_read _)
    cases found₂ with
    | some retained => exact ensures_check fun _ _ => hquiet
    | none => exact ensures_check fun _ _ => hquiet

theorem ensures_status :
    Ensures permits past (status (C := C) trust id) fun past' _ => Quiet past past' := by
  refine (ensures_mapErr (ensures_retainedGit hread)).bind fun past₁ found h₁ => ?_
  obtain ⟨db, rfl, -⟩ := h₁
  cases found with
  | some retained => exact ensures_checked fun _ _ => ensures_pure (quiet_cons_read _)
  | none =>
    refine (ensures_mapErr (ensures_retainedOperation hread)).bind fun past₂ found₂ h₂ => ?_
    obtain ⟨db₂, rfl, -⟩ := h₂
    have hquiet : Quiet past (readOf db₂ :: readOf db :: past) :=
      (quiet_cons_read _).trans (quiet_cons_read _)
    cases found₂ with
    | some retained => exact ensures_checked fun _ _ => ensures_pure hquiet
    | none => exact ensures_pure hquiet

theorem ensures_receipt :
    Ensures permits past (receipt (C := C) trust id) fun past' _ => Quiet past past' := by
  refine (ensures_mapErr (ensures_retainedGit hread)).bind fun past₁ found h₁ => ?_
  obtain ⟨db, rfl, -⟩ := h₁
  cases found with
  | some retained =>
    dsimp only
    split
    · exact ensures_pure (quiet_cons_read _)
    · exact ensures_pure (quiet_cons_read _)
  | none =>
    refine (ensures_mapErr (ensures_retainedOperation hread)).bind fun past₂ found₂ h₂ => ?_
    obtain ⟨db₂, rfl, -⟩ := h₂
    have hquiet : Quiet past (readOf db₂ :: readOf db :: past) :=
      (quiet_cons_read _).trans (quiet_cons_read _)
    cases found₂ with
    | some retained => exact ensures_pure hquiet
    | none => exact ensures_pure hquiet

theorem ensures_historyEntries (ids : List Text) :
    Ensures permits past (historyEntries (C := C) trust ids) fun _ _ => True := by
  induction ids generalizing past with
  | nil => exact ensures_pure trivial
  | cons id rest ih =>
    exact (ensures_lift (ensures_status hread)).bind fun _ _ _ =>
      ih.bind fun _ _ _ => ensures_pure trivial

end

/-- The pass of a selection keeps to the protocol of its effect. -/
theorem ensures_selectedPass {id : Text} {execution : ServiceExecution} {turns : ℕ}
    (selected : Selection) :
    Ensures (allowed entry) past (selectedPass (C := C) entry.authorities id execution turns
      selected) fun _ _ => True := by
  cases selected with
  | kubernetes request signedGrant state => exact ensures_admitAndReconcile
  | git signedGrant state => exact ensures_admitAndReconcileGit

theorem ensures_select {approvals : List SelectableApproval} {id : Text}
    {execution : ServiceExecution} {turns : ℕ} :
    Ensures (allowed entry) past
      (select (C := C) entry.authorities approvals id execution turns) fun _ _ => True := by
  refine (ensures_retainedForSelection allowed_read).bind fun past₁ selected _ => ?_
  refine ensures_checked fun _ _ => ?_
  refine (ensures_lift (ensures_selectedPass selected)).bind fun past₂ ended _ => ?_
  cases ended with
  | ok u => exact ensures_pure trivial
  | error error => exact ensures_check fun _ _ => trivial

/-! ## Entries -/

theorem meets_discard {ε α : Type} {permits : Past C → Call C → Prop} {p : Action C ε α}
    (h : Ensures permits past p fun _ _ => True) :
    (discard p).Meets permits past fun _ _ => True :=
  (meets_bind p.run _).mpr (Meets.mono h fun _ _ _ => trivial)

theorem ensures_withLease {α : Type} {permits : Past C → Call C → Prop}
    {p : Action C GatewayError α} (hlock : permits past .tryLockWorker)
    (h : Ensures permits (leased :: past) p fun _ _ => True) :
    Ensures permits past (withLease p) fun _ _ => True := by
  refine ensures_ask hlock fun locked => ?_
  cases locked with
  | error error => exact ensures_throw _
  | ok got =>
    cases got with
    | false => exact ensures_pure trivial
    | true => exact h.bind fun _ _ _ => ensures_pure trivial

/-- **Every session keeps to the protocol.** -/
theorem program_meets (entry : Entry) :
    (entry.program C).Meets (allowed entry) [] fun _ _ => True := by
  unfold Entry.program
  cases entry.command with
  | submitAuthorized request signedGrant => exact meets_discard ensures_submitAuthorized
  | admitAndReconcile request signedGrant adapter settings turns =>
    exact meets_discard ensures_admitAndReconcile
  | reconcileLocked request signedGrant adapter settings turns =>
    have hpass : Ensures (allowed entry) [leased] (reconcileLockedWithAdapter (C := C)
        entry.authorities request signedGrant adapter settings turns) fun _ _ => True :=
      ensures_reconcileLockedWithAdapter List.mem_cons_self
    exact meets_discard (ensures_withLease trivial
      ((ensures_lift hpass).mono fun _ _ _ => trivial))
  | runLockedOperationOnce request signedGrant =>
    exact meets_discard (ensures_withLease trivial (ensures_checked fun _ ha =>
      ensures_runLockedOperationOnce List.mem_cons_self (boundBy_of_bindAuthorization ha)))
  | admitAndReconcileGit id grant configuration signing =>
    exact meets_discard ensures_admitAndReconcileGit
  | advance grant receiver signing =>
    exact meets_discard (ensures_withLease trivial (ensures_checked fun _ _ =>
      ensures_advance List.mem_cons_self))
  | historyIds after => exact meets_discard (ensures_historyIds allowed_read after)
  | authorizedOperation request signedGrant =>
    exact meets_discard (ensures_checked fun a _ =>
      (ensures_authorizedOperation allowed_read a).mono fun _ _ _ => trivial)
  | retainedOperation id =>
    exact meets_discard ((ensures_retainedOperation allowed_read).mono fun _ _ _ => trivial)
  | authorizedGit grant =>
    exact meets_discard (ensures_checked fun _ _ => (ensures_gitOperation allowed_read).bind fun _ _ _ =>
      ensures_pure trivial)
  | retainedGit id =>
    exact meets_discard ((ensures_retainedGit allowed_read).mono fun _ _ _ => trivial)
  | openService approvals =>
    exact meets_discard (ensures_checked fun _ _ =>
      (ensures_checkApprovals allowed_read _).bind fun _ _ _ => ensures_pure trivial)
  | select approvals id execution turns => exact meets_discard ensures_select
  | admittedState approvals id =>
    exact meets_discard ((ensures_retainedForSelection allowed_read).bind fun _ _ _ =>
      ensures_pure trivial)
  | status id => exact meets_discard ((ensures_status allowed_read).mono fun _ _ _ => trivial)
  | receipt id => exact meets_discard ((ensures_receipt allowed_read).mono fun _ _ _ => trivial)
  | history after =>
    exact meets_discard ((ensures_mapErr (ensures_historyIds allowed_read after)).bind fun _ _ _ =>
      (ensures_historyEntries allowed_read _).bind fun _ _ _ => ensures_pure trivial)

end Gateway
end Kapsel
