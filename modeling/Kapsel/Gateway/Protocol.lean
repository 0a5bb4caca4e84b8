import Kapsel.Gateway.Entries

/-!
# The protocol of a session

What a session of the gateway may ask, given only what it asked before.  `allowed` says it
for each question, and `program_meets` proves that the program of every entry keeps to it.
From here on no proof looks at a program again.

Three things about the past matter.  `Held` is the worker lease.  `Shows` is an
authenticated read that found the row of a request.  `lastAct` is the newest exchange that
is not a read: a dispatch permission may only be made when the newest act is the confirmed
commit of the attempt, and the adapter may only be called when the newest act is the
permission.  Reads in between are harmless, and this is why they are passed over.

Of a write two things are known.  `Transition.Guarded` is what the writer checked about the
record that it read and about the facts that it was given; `Licensed` is what the session
went through before it asked.
-/

namespace Kapsel

open Grammar Fallible Authority Interaction Interaction.Program

namespace Gateway

open Journal

variable {C : Crypto}

/-! ## The past of a session -/

/-- The exchanges of a session, newest first. -/
abbrev Past (C : Crypto) : Type := List (Exchange (Call C) Answer)

/-- A read that was answered. -/
def readOf (db : Database) : Exchange (Call C) Answer := ⟨.read, .ok db⟩

/-- A write that was confirmed. -/
def confirmed (x : Transition C) : Exchange (Call C) Answer := ⟨.replace x, .ok ()⟩

/-- The lease was granted. -/
def leased : Exchange (Call C) Answer := ⟨.tryLockWorker, .ok true⟩

/-- Preflight was answered. -/
def identified (request : SetDeploymentImageRequest) (answer : Except TargetReadError TargetIdentity) :
    Exchange (Call C) Answer := ⟨.identify request, answer⟩

/-- A dispatch permission was made. -/
def granted (permission : DispatchPermission) : Exchange (Call C) Answer :=
  ⟨.grantPermission permission, ()⟩

/-- The adapter applied and answered. -/
def applied (permission : DispatchPermission) (outcome : ApplyOutcome) :
    Exchange (Call C) Answer := ⟨.apply permission, .ok outcome⟩

/-- A Git dispatch permission was made. -/
def gitGranted (permission : GitDispatchPermission) : Exchange (Call C) Answer :=
  ⟨.grantGitPermission permission, ()⟩

/-- The receiver was sent the transition and answered. -/
def sent (permission : GitDispatchPermission) (acknowledgement : Acknowledgement) :
    Exchange (Call C) Answer := ⟨.send permission, acknowledgement⟩

/-- The exchange is a read. -/
def isRead (x : Exchange (Call C) Answer) : Bool :=
  match x.call with
  | .read => true
  | _ => false

/-- The newest exchange that is not a read. -/
def lastAct (past : Past C) : Option (Exchange (Call C) Answer) := latest isRead past

/-- The session has the worker lease. -/
def Held (past : Past C) : Prop := leased ∈ past

/-- An authenticated read of the session found the row of the request. -/
def Shows (past : Past C) (a : AuthorizedRequest C) (loaded : LoadedOperation) : Prop :=
  ∃ db, readOf db ∈ past ∧ authorizedRecordOn C db a = .ok (some loaded)

/-- Nothing but reads happened since. -/
def Quiet (past past' : Past C) : Prop := past <:+ past' ∧ lastAct past' = lastAct past

/-- The grant of the request verifies under the authorities of the handle. -/
def BoundBy (authorities : List AuthorizationTrust) (a : AuthorizedRequest C) : Prop :=
  verifyGrantWith C a.authorization.signedGrant authorities = .ok a.authorization

section
variable {past past' past'' : Past C} {a : AuthorizedRequest C} {loaded : LoadedOperation}

theorem Held.mono (h : Held past) (hpast : past <:+ past') : Held past' := hpast.subset h

theorem Shows.mono (h : Shows past a loaded) (hpast : past <:+ past') : Shows past' a loaded := by
  obtain ⟨db, hdb, hread⟩ := h
  exact ⟨db, hpast.subset hdb, hread⟩

theorem Quiet.trans (h : Quiet past past') (h' : Quiet past' past'') : Quiet past past'' :=
  ⟨h.1.trans h'.1, h'.2.trans h.2⟩

theorem quiet_cons_read (answer : Except SqliteError Database) :
    Quiet past (⟨.read, answer⟩ :: past) :=
  ⟨List.suffix_cons _ _, latest_cons_of_silent rfl⟩

end

/-! ## What is asked of a write -/

/-- What the writer checked. -/
def Transition.Guarded : Transition C → Prop
  | .insertRequested _ => True
  | .markAuthorized expected a => ∃ operation, decode C expected = .ok (.requested operation) ∧
      operation.request.request = a.request
  | .markNotAttempted expected operation _ => decode C expected = .ok (.authorized operation)
  | .markStaleApproval expected operation observed =>
      decode C expected = .ok (.authorized operation) ∧
        ∃ approved, operation.approvedTarget = some approved ∧ observed.toApproved ≠ approved
  | .markApplyStarted expected operation target =>
      decode C expected = .ok (.authorized operation) ∧
        ∀ approved ∈ operation.approvedTarget, target.toApproved = approved
  | .recordApplyOutcome expected operation outcome =>
      decode C expected = .ok (.applyStarted operation) ∧ outcome.validate = .ok () ∧
        checkOutcome expected outcome = .ok ()
  | .freezeObservation expected operation observation =>
      decode C expected = .ok (.applyStarted operation) ∧ observation.validate = .ok ()
  | .commitReceipt expected operation receipt =>
      decode C expected = .ok (.receiverObserved operation) ∧
        receipt.operationId = operation.operationId ∧ checkReceipt C operation receipt = .ok ()
  | .insertGit _ => True
  | .beginGitAttempt original b => decodeRecord original b = .ok .authorized
  | .rejectGit original b _ => decodeRecord original b = .ok .authorized
  | .recordGitAcknowledgement original b _ => decodeRecord original b = .ok (.attempted none)
  | .freezeGitObservation original b retained seen columns =>
      decodeRecord original b = .ok (.attempted retained) ∧ observedColumns seen = .ok columns
  | .commitGitReceipt original b bytes keyId => ∃ acknowledgement seen,
      decodeRecord original b = .ok (.observed acknowledgement seen) ∧
        GitStatement.decode bytes = .ok (keyId, b.statement acknowledgement seen)

/-- What the session went through. -/
def Licensed (past : Past C) : Transition C → Prop
  | .insertRequested _ => True
  | .markAuthorized _ a => ∃ loaded, Shows past a loaded
  | .markNotAttempted _ operation rejection => Held past ∧
      identified operation.request.request.toAdapterRequest (.error (.permanent rejection)) ∈ past
  | .markStaleApproval .. => Held past
  | .markApplyStarted .. => Held past
  | .recordApplyOutcome _ started outcome => Held past ∧ ∃ permission a operation,
      lastAct past = some (applied permission outcome) ∧
        operation.request.request = permission.request ∧
        Shows past a (.authorized operation) ∧ Shows past a (.applyStarted started)
  | .freezeObservation .. => Held past
  | .commitReceipt .. => Held past
  | .insertGit _ => True
  | .beginGitAttempt .. => Held past
  | .rejectGit .. => Held past
  | .recordGitAcknowledgement _ b acknowledgement => Held past ∧ ∃ permission,
      lastAct past = some (sent permission acknowledgement) ∧
        permission.prepared.authorization = b.authorization
  | .freezeGitObservation .. => Held past
  | .commitGitReceipt .. => Held past

/-- What a session may ask after its own past. -/
def allowed (entry : Entry) (past : Past C) : Call C → Prop
  | .replace x => x.Guarded ∧ Licensed past x
  | .grantPermission permission => ∃ expected operation a,
      lastAct past = some (confirmed (.markApplyStarted expected operation permission.target)) ∧
        permission.request = operation.request.request ∧
        BoundBy entry.authorities a ∧ Shows past a (.authorized operation) ∧
        identified permission.request.toAdapterRequest (.ok permission.target.target) ∈ past
  | .apply permission => lastAct past = some (granted permission)
  | .grantGitPermission permission => ∃ original b,
      lastAct past = some (confirmed (.beginGitAttempt original b)) ∧
        permission.prepared.authorization = b.authorization
  | .send permission => lastAct past = some (gitGranted permission)
  | _ => True

/-! ## Reads

Reads are harmless under any protocol that permits them. -/

section
variable {permits : Past C → Call C → Prop} (hread : ∀ past, permits past .read)
  {past : Past C} {b : GitBinding C}
include hread

theorem ensures_snapshot : Ensures permits past Storage.snapshot
    fun past' db => past' = readOf db :: past := by
  refine ensures_ask (hread past) fun answer => ensures_check fun db hdb => ?_
  rw [mapError_eq_ok.mp hdb]
  rfl

/-- The read that `authorized_operation` makes. -/
theorem ensures_authorizedOperation_read (a : AuthorizedRequest C) :
    Ensures permits past (Storage.authorizedOperation a)
      fun past' loaded => ∃ db, past' = readOf db :: past ∧
        authorizedRecordOn C db a = .ok loaded :=
  (ensures_snapshot hread).bind fun _ db hdb => ensures_check fun _ hloaded => ⟨db, hdb, hloaded⟩

theorem ensures_authorizedOperation (a : AuthorizedRequest C) :
    Ensures permits past (Storage.authorizedOperation a)
      fun past' loaded => Quiet past past' ∧ ∀ operation ∈ loaded, Shows past' a operation := by
  refine (ensures_authorizedOperation_read hread a).mono fun past' loaded h => ?_
  obtain ⟨db, rfl, hloaded⟩ := h
  refine ⟨quiet_cons_read _, fun operation hoperation => ⟨db, List.mem_cons_self, ?_⟩⟩
  rw [hloaded, Option.mem_def.mp hoperation]

theorem ensures_existingSubmission (a : AuthorizedRequest C) :
    Ensures permits past (Storage.existingSubmission a)
      fun past' state => Quiet past past' ∧ (state.isSome → ∃ loaded, Shows past' a loaded) := by
  refine (ensures_authorizedOperation hread a).bind fun past' loaded h => ensures_pure ?_
  refine ⟨h.1, fun hsome => ?_⟩
  rw [Option.isSome_map] at hsome
  exact ⟨_, h.2 _ (Option.get_mem hsome)⟩

theorem ensures_operation (id : Text) : Ensures permits past (Storage.operation (C := C) id)
    fun past' _ => Quiet past past' :=
  (ensures_snapshot hread).bind fun _ _ hdb => ensures_check fun _ _ => hdb ▸ quiet_cons_read _

theorem ensures_boundRecord (id : Text) (loaded : LoadedOperation) :
    Ensures permits past (Storage.boundRecord (C := C) id loaded)
      fun past' record => Quiet past past' ∧ decode C record = .ok loaded :=
  (ensures_snapshot hread).bind fun _ _ hdb => ensures_check fun _ hrecord =>
    ⟨hdb ▸ quiet_cons_read _, (boundRecord_eq_ok hrecord).2⟩

theorem ensures_gitRecord : Ensures permits past (Storage.gitRecord b)
    fun past' found => Quiet past past' ∧ ∀ record ∈ found, ∃ db, past' = readOf db :: past ∧
      stored db .git b.authorization.operationId = some record := by
  refine (ensures_snapshot hread).bind fun past₁ db h₁ => ensures_checked fun record hrecord => ?_
  subst h₁
  have hstored := readTable_eq_ok hrecord
  cases record with
  | some record =>
    refine ensures_pure ⟨quiet_cons_read _, fun record' h' => ⟨db, rfl, ?_⟩⟩
    rw [hstored, Option.mem_def.mp h']
  | none =>
    refine (ensures_snapshot hread).bind fun past₂ db' h₂ => ensures_checked fun other _ => ?_
    subst h₂
    exact ensures_checked fun _ _ => ensures_pure
      ⟨(quiet_cons_read _).trans (quiet_cons_read _), fun _ hnone => nomatch hnone⟩

theorem ensures_gitOperation : Ensures permits past (Storage.gitOperation b)
    fun past' found => Quiet past past' ∧ ∀ phase ∈ found, ∃ db record,
      past' = readOf db :: past ∧ stored db .git b.authorization.operationId = some record ∧
        decodeRecord record b = .ok phase := by
  refine (ensures_gitRecord hread).bind fun past₁ record h₁ => ?_
  cases record with
  | none => exact ensures_pure ⟨h₁.1, fun _ hnone => nomatch hnone⟩
  | some record =>
    refine ensures_checked fun phase hphase => ensures_pure ⟨h₁.1, fun phase' h' => ?_⟩
    obtain ⟨db, hpast, hstored⟩ := h₁.2 record rfl
    refine ⟨db, record, hpast, hstored, ?_⟩
    rw [hphase, Option.some.inj h']

theorem ensures_gitWrite : Ensures permits past (Storage.gitWrite b)
    fun past' found => Quiet past past' ∧ decodeRecord found.1 b = .ok found.2 := by
  refine (ensures_gitRecord hread).bind fun past₁ record h₁ => ?_
  cases record with
  | none => exact ensures_throw _
  | some record => exact ensures_checked fun phase hphase => ensures_pure ⟨h₁.1, hphase⟩

end

/-! ## The journal keeps to the protocol -/

section
variable {entry : Entry} {past : Past C} {a : AuthorizedRequest C} {b : GitBinding C}

theorem allowed_read (past : Past C) : allowed entry past .read := trivial

theorem ensures_replace (x : Transition C) (hguarded : x.Guarded) (hlicensed : Licensed past x) :
    Ensures (allowed entry) past (Storage.replace x)
      fun past' _ => past <:+ past' ∧ lastAct past' = some (confirmed x) := by
  refine ensures_ask ⟨hguarded, hlicensed⟩ fun answer => ensures_check fun u hu => ?_
  subst hu
  exact ⟨List.suffix_cons _ _, latest_cons_of_not_silent rfl⟩

theorem ensures_markAuthorized (operation : RequestedOperation) :
    Ensures (allowed entry) past (Storage.markAuthorized operation a)
      fun past' _ => past <:+ past' := by
  refine ensures_checked fun _ hsame => (ensures_existingSubmission allowed_read a).bind fun past₁ state h₁ => ?_
  refine ensures_checked fun _ hstate => ?_
  obtain rfl := of_decide_eq_true (require_eq_ok.mp hstate)
  refine (ensures_boundRecord allowed_read _ _).bind fun past₂ record h₂ => ?_
  obtain ⟨loaded, hloaded⟩ := h₁.2 rfl
  refine (ensures_replace (.markAuthorized record a) ⟨operation, h₂.2, ?_⟩
    ⟨loaded, hloaded.mono h₂.1.1⟩).mono
    fun past₃ _ h₃ => (h₁.1.1.trans h₂.1.1).trans h₃.1
  exact of_decide_eq_true (require_eq_ok.mp hsame)

theorem ensures_markNotAttempted {operation : AuthorizedOperation} {rejection : TargetRejection}
    (hheld : Held past) (hrejected : identified operation.request.request.toAdapterRequest
      (.error (.permanent rejection)) ∈ past) :
    Ensures (allowed entry) past (Storage.markNotAttempted operation rejection)
      fun past' _ => past <:+ past' := by
  refine (ensures_boundRecord allowed_read _ _).bind fun past₁ record h₁ => ?_
  exact (ensures_replace (.markNotAttempted record operation rejection) h₁.2
    ⟨hheld.mono h₁.1.1, h₁.1.1.subset hrejected⟩).mono
    fun past₂ _ h₂ => h₁.1.1.trans h₂.1

theorem ensures_markStaleApproval {operation : AuthorizedOperation} {approved : ApprovedTarget}
    {observed : ValidatedTargetIdentity} (hheld : Held past)
    (hhas : operation.approvedTarget = some approved) (hstale : observed.toApproved ≠ approved) :
    Ensures (allowed entry) past (Storage.markStaleApproval operation observed)
      fun past' _ => past <:+ past' := by
  refine (ensures_boundRecord allowed_read _ _).bind fun past₁ record h₁ => ?_
  exact (ensures_replace (.markStaleApproval record operation observed)
    ⟨h₁.2, approved, hhas, hstale⟩ (hheld.mono h₁.1.1)).mono
    fun past₂ _ h₂ => h₁.1.1.trans h₂.1

theorem ensures_markApplyStarted {operation : AuthorizedOperation}
    {target : ValidatedTargetIdentity} (hheld : Held past)
    (happroved : ∀ approved ∈ operation.approvedTarget, target.toApproved = approved) :
    Ensures (allowed entry) past (Storage.markApplyStarted (C := C) operation target)
      fun past' _ => past <:+ past' ∧ ∃ expected,
        lastAct past' = some (confirmed (.markApplyStarted expected operation target)) := by
  refine (ensures_boundRecord allowed_read _ _).bind fun past₁ record h₁ => ?_
  exact (ensures_replace (.markApplyStarted record operation target) ⟨h₁.2, happroved⟩
    (hheld.mono h₁.1.1)).mono
    fun past₂ _ h₂ => ⟨h₁.1.1.trans h₂.1, record, h₂.2⟩

/-- What a permission says of the past of its session. -/
structure PermissionMade (past : Past C) (operation : AuthorizedOperation)
    (permission : DispatchPermission) : Prop where
  last : lastAct past = some (granted permission)
  request : operation.request.request = permission.request

theorem ensures_startAttempt {operation : AuthorizedOperation} {target : ValidatedTargetIdentity}
    (hheld : Held past)
    (happroved : ∀ approved ∈ operation.approvedTarget, target.toApproved = approved)
    (hbound : BoundBy entry.authorities a) (hshows : Shows past a (.authorized operation))
    (hidentified : identified operation.request.request.toAdapterRequest (.ok target.target) ∈
      past) :
    Ensures (allowed entry) past (Storage.startAttempt operation target)
      fun past' made => past <:+ past' ∧
        ∀ permission ∈ made, PermissionMade past' operation permission := by
  refine (ensures_markApplyStarted hheld happroved).bind fun past₁ _ h₁ => ?_
  obtain ⟨hpast, expected, hlast⟩ := h₁
  refine ensures_ask ⟨expected, operation, a, hlast, rfl, hbound, hshows.mono hpast,
    hpast.subset hidentified⟩ fun _ => ensures_pure ⟨hpast.trans (List.suffix_cons _ _), ?_⟩
  intro permission hpermission
  obtain rfl := Option.some.inj hpermission
  exact ⟨latest_cons_of_not_silent rfl, rfl⟩

theorem ensures_beginAttempt {operation : AuthorizedOperation}
    {observed : ValidatedTargetIdentity} (hheld : Held past)
    (hbound : BoundBy entry.authorities a) (hshows : Shows past a (.authorized operation))
    (hidentified : identified operation.request.request.toAdapterRequest (.ok observed.target) ∈
      past) :
    Ensures (allowed entry) past (Storage.beginAttempt operation observed)
      fun past' made => past <:+ past' ∧
        ∀ permission ∈ made, PermissionMade past' operation permission := by
  refine (ensures_boundRecord allowed_read _ _).bind fun past₁ record h₁ => ?_
  have hpast := h₁.1.1
  cases happroved : operation.approvedTarget with
  | none =>
    refine (ensures_startAttempt (hheld.mono hpast) ?_ hbound (hshows.mono hpast)
      (hpast.subset hidentified)).mono fun past₂ _ h₂ => ⟨hpast.trans h₂.1, h₂.2⟩
    rw [happroved]
    exact fun _ hnone => nomatch hnone
  | some approved =>
    dsimp only
    split
    · rename_i hstale
      refine (ensures_markStaleApproval (hheld.mono hpast) happroved ?_).bind fun past₂ _ h₂ =>
        ensures_pure ⟨hpast.trans h₂, fun _ hnone => nomatch hnone⟩
      rintro rfl
      exact hstale.elim (fun h => h rfl) fun h => h rfl
    · rename_i hfresh
      rw [not_or, not_ne_iff, not_ne_iff] at hfresh
      -- the attempt is made on the approved target, which is the one that was observed
      refine ensures_checked fun target htarget => ?_
      have hsame : target.target = observed.target := by
        rw [ValidatedTargetIdentity.tryFrom_eq_ok.mp (mapError_eq_ok.mp htarget)]
        exact congr (congrArg TargetIdentity.mk hfresh.1.symm) hfresh.2.symm
      have hseen : identified operation.request.request.toAdapterRequest (.ok target.target) ∈
          past₁ := by
        rw [hsame]
        exact hpast.subset hidentified
      refine (ensures_startAttempt (hheld.mono hpast) ?_ hbound (hshows.mono hpast) hseen).mono
        fun past₂ _ h₂ => ⟨hpast.trans h₂.1, h₂.2⟩
      rw [happroved]
      intro approved' h'
      obtain rfl := Option.some.inj h'
      exact congrArg (fun t : TargetIdentity => (⟨t.deploymentUid, t.resourceVersion⟩ :
        ApprovedTarget)) (ValidatedTargetIdentity.tryFrom_eq_ok.mp (mapError_eq_ok.mp htarget))

theorem ensures_recordApplyOutcome {operation : AuthorizedOperation}
    {started : ApplyStartedOperation} {permission : DispatchPermission} {outcome : ApplyOutcome}
    (hheld : Held past) (hlast : lastAct past = some (applied permission outcome))
    (hrequest : operation.request.request = permission.request)
    (hshows : Shows past a (.authorized operation)) (hstarted : Shows past a (.applyStarted started)) :
    Ensures (allowed entry) past (Storage.recordApplyOutcome (C := C) started outcome)
      fun past' _ => past <:+ past' := by
  refine ensures_checked fun _ hvalid => (ensures_boundRecord allowed_read _ _).bind fun past₁ record h₁ => ?_
  refine ensures_checked fun _ hchecked => ?_
  exact (ensures_replace (.recordApplyOutcome record started outcome) ⟨h₁.2, hvalid, hchecked⟩
    ⟨hheld.mono h₁.1.1, permission, a, operation, h₁.1.2.trans hlast, hrequest,
      hshows.mono h₁.1.1, hstarted.mono h₁.1.1⟩).mono fun past₂ _ h₂ => h₁.1.1.trans h₂.1

theorem ensures_freezeObservation {started : ApplyStartedOperation}
    {observation : ReceiverObservation} (hheld : Held past) :
    Ensures (allowed entry) past (Storage.freezeObservation (C := C) started observation)
      fun past' _ => past <:+ past' := by
  refine ensures_checked fun _ hvalid => (ensures_boundRecord allowed_read _ _).bind fun past₁ record h₁ => ?_
  exact (ensures_replace (.freezeObservation record started observation) ⟨h₁.2, hvalid⟩
    (hheld.mono h₁.1.1)).mono fun past₂ _ h₂ => h₁.1.1.trans h₂.1

theorem ensures_commitReceipt {observed : ReceiverObservedOperation} {receipt : FrozenReceipt}
    (hheld : Held past) :
    Ensures (allowed entry) past (Storage.commitReceipt (C := C) observed receipt)
      fun past' _ => past <:+ past' := by
  refine ensures_checked fun _ hid => (ensures_boundRecord allowed_read _ _).bind fun past₁ record h₁ => ?_
  refine ensures_checked fun _ hchecked => ?_
  exact (ensures_replace (.commitReceipt record observed receipt)
    ⟨h₁.2, of_decide_eq_true (require_eq_ok.mp hid), hchecked⟩ (hheld.mono h₁.1.1)).mono
    fun past₂ _ h₂ => h₁.1.1.trans h₂.1

/-! ## The Git half of the journal -/

theorem ensures_insertGit : Ensures (allowed entry) past (Storage.insertGit b)
    fun past' _ => past <:+ past' := by
  refine (ensures_gitOperation allowed_read).bind fun past₁ existing h₁ => ?_
  cases existing with
  | some existing => exact ensures_pure h₁.1.1
  | none =>
    exact (ensures_replace (.insertGit b) trivial trivial).bind fun past₂ _ h₂ =>
      ensures_pure (h₁.1.1.trans h₂.1)

theorem ensures_beginGitAttempt {prepared : PreparedTransition} (hheld : Held past) :
    Ensures (allowed entry) past (Storage.beginGitAttempt b prepared)
      fun past' permission => past <:+ past' ∧ lastAct past' = some (gitGranted permission) ∧
        permission.prepared.authorization = b.authorization := by
  refine ensures_checked fun _ hsame => (ensures_gitWrite allowed_read).bind fun past₁ found h₁ => ?_
  obtain ⟨original, phase⟩ := found
  refine ensures_checked fun _ hphase => ?_
  obtain rfl := of_decide_eq_true (require_eq_ok.mp hphase)
  have hauthorization := of_decide_eq_true (require_eq_ok.mp hsame)
  refine (ensures_replace (.beginGitAttempt original b) h₁.2 (hheld.mono h₁.1.1)).bind
    fun past₂ _ h₂ => ensures_ask ⟨original, b, h₂.2, hauthorization⟩ fun _ => ensures_pure ?_
  exact ⟨(h₁.1.1.trans h₂.1).trans (List.suffix_cons _ _), latest_cons_of_not_silent rfl,
    hauthorization⟩

theorem ensures_rejectGit {rejection : GitRejection} (hheld : Held past) :
    Ensures (allowed entry) past (Storage.rejectGit b rejection) fun past' _ => past <:+ past' := by
  refine (ensures_gitWrite allowed_read).bind fun past₁ found h₁ => ?_
  obtain ⟨original, phase⟩ := found
  refine ensures_checked fun _ hphase => ?_
  obtain rfl := of_decide_eq_true (require_eq_ok.mp hphase)
  exact (ensures_replace (.rejectGit original b rejection) h₁.2 (hheld.mono h₁.1.1)).mono
    fun past₂ _ h₂ => h₁.1.1.trans h₂.1

theorem ensures_recordGitAcknowledgement {permission : GitDispatchPermission}
    {acknowledgement : Acknowledgement} (hheld : Held past)
    (hlast : lastAct past = some (sent permission acknowledgement))
    (hauthorization : permission.prepared.authorization = b.authorization) :
    Ensures (allowed entry) past (Storage.recordGitAcknowledgement b acknowledgement)
      fun past' _ => past <:+ past' := by
  refine (ensures_gitWrite allowed_read).bind fun past₁ found h₁ => ?_
  obtain ⟨original, phase⟩ := found
  refine ensures_checked fun _ hphase => ?_
  obtain rfl := of_decide_eq_true (require_eq_ok.mp hphase)
  exact (ensures_replace (.recordGitAcknowledgement original b acknowledgement) h₁.2
    ⟨hheld.mono h₁.1.1, permission, h₁.1.2.trans hlast, hauthorization⟩).mono
    fun past₂ _ h₂ => h₁.1.1.trans h₂.1

theorem ensures_freezeGitObservation {seen : ObservedRef} (hheld : Held past) :
    Ensures (allowed entry) past (Storage.freezeGitObservation b seen)
      fun past' _ => past <:+ past' := by
  refine (ensures_gitWrite allowed_read).bind fun past₁ found h₁ => ?_
  obtain ⟨original, phase⟩ := found
  cases phase with
  | attempted retained =>
    refine ensures_checked fun columns hcolumns => ?_
    exact (ensures_replace (.freezeGitObservation original b retained seen columns)
      ⟨h₁.2, hcolumns⟩ (hheld.mono h₁.1.1)).mono fun past₂ _ h₂ => h₁.1.1.trans h₂.1
  | _ => exact ensures_throw _

theorem ensures_commitGitReceipt {bytes : Bytes} (hheld : Held past) :
    Ensures (allowed entry) past (Storage.commitGitReceipt b bytes)
      fun past' _ => past <:+ past' := by
  refine (ensures_gitWrite allowed_read).bind fun past₁ found h₁ => ?_
  obtain ⟨original, phase⟩ := found
  cases phase with
  | observed acknowledgement seen =>
    refine ensures_checked fun decoded hdecoded => ?_
    obtain ⟨keyId, statement⟩ := decoded
    refine ensures_checked fun _ hsame => ?_
    obtain rfl := of_decide_eq_true (require_eq_ok.mp hsame)
    exact (ensures_replace (.commitGitReceipt original b bytes keyId)
      ⟨acknowledgement, seen, h₁.2, mapError_eq_ok.mp hdecoded⟩ (hheld.mono h₁.1.1)).mono
      fun past₂ _ h₂ => h₁.1.1.trans h₂.1
  | _ => exact ensures_throw _

end

end Gateway
end Kapsel
