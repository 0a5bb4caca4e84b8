import Kapsel.Gateway.Sessions
import Kapsel.Journal.Hostile

/-!
# What a session does for its approval

A session that admits or advances acts for one approval: the request that a Kubernetes grant
authorizes, or the binding of a Git grant.  `Approval` is either of them, so that both effects
have one protocol.

`Acting p` is the protocol of a session that has the lease, from its admission on.  A write is
the insertion of the approval's own row, after reads that found its identity in neither table,
or it moves the row of the approval, after a read that found it.  The receiver is asked about
the approval only, after a read that found the row, and apart from the dispatch itself right
after a read that found it authorized or attempted.  The lease is not taken again and nothing is acknowledged.

`acting_reconcileLocked` and `acting_advance` say that the two passes keep to it.
-/

namespace Kapsel

open Grammar Fallible Authority Interaction Interaction.Program

namespace Gateway

open Journal

variable {C : Crypto}

/-! ## Approvals -/

/-- What a session acts for. -/
inductive Approval (C : Crypto) where
  | kubernetes (a : AuthorizedRequest C)
  | git (b : GitBinding C)

namespace Approval

/-- The table of the effect. -/
def table : Approval C → Table
  | kubernetes _ => .kubernetes
  | git _ => .git

/-- The identity that the grant names. -/
def operationId : Approval C → Text
  | kubernetes a => a.request.operationId
  | git b => b.authorization.operationId

/-- The bytes of the grant. -/
def grant : Approval C → Bytes
  | kubernetes a => a.authorization.signedGrant
  | git b => b.grant

/-- The insertion that admits the approval. -/
def admission : Approval C → Transition C
  | kubernetes a => .insertRequested a
  | git b => .insertGit b

/-- The state of the row that is inserted. -/
def admittedState : Approval C → OperationState
  | kubernetes _ => .requested
  | git _ => .authorized

/-- The request that a Kubernetes adapter is asked about. -/
def request : Approval C → Option ValidatedRequest
  | kubernetes a => some a.request
  | git _ => none

/-- The transition that a Git receiver is asked about. -/
def transition : Approval C → Option GitRefAuthorization
  | kubernetes _ => none
  | git b => some b.authorization

/-- An authenticated read of this snapshot finds the row of the approval in this state. -/
def Finds (p : Approval C) (db : Database) (state : OperationState) : Prop :=
  match p with
  | kubernetes a => ∃ loaded, authorizedRecordOn C db a = .ok (some loaded) ∧ loaded.state = state
  | git b => ∃ record phase, stored db .git b.authorization.operationId = some record ∧
      decodeRecord record b = .ok phase ∧ phase.state = state

/-- By these reads, newest first, the identity is in neither table.  The Git half reads its own
table first and the other one in a transaction of its own. -/
def Misses (p : Approval C) (reads : Past C) : Prop :=
  match p with
  | kubernetes a => ∃ db, reads = [readOf db] ∧ authorizedRecordOn C db a = .ok none
  | git b => ∃ db db', reads = [readOf db', readOf db] ∧
      readTable db b.authorization.operationId .git = .ok none ∧
      readTable db' b.authorization.operationId .kubernetes = .ok none

/-- A read of the session found the row. -/
def Shown (p : Approval C) (past : Past C) : Prop := ∃ db state, readOf db ∈ past ∧ p.Finds db state

/-- The newest exchange is a read that found the row authorized or attempted. -/
def Current (p : Approval C) (past : Past C) : Prop :=
  ∃ db rest state, past = readOf db :: rest ∧ p.Finds db state ∧
    (state = .authorized ∨ state = .applyStarted)

/-- The write moves the row of the identity. -/
structure Updates (p : Approval C) (x : Transition C) : Prop where
  table : x.replacement.table = p.table
  expected : x.replacement.expected.isSome = true
  operationId : x.replacement.next.value .operationId = .text p.operationId

/-- The writes of a session that acts for the approval. -/
def Writes (p : Approval C) (past : Past C) (x : Transition C) : Prop :=
  (x = p.admission ∧ ∃ reads rest, past = reads ++ rest ∧ p.Misses reads) ∨
    (p.Updates x ∧ p.Shown past)

theorem Shown.mono {p : Approval C} {past past' : Past C} (h : p.Shown past)
    (hpast : past <:+ past') : p.Shown past' := by
  obtain ⟨db, state, hread, hfinds⟩ := h
  exact ⟨db, state, hpast.subset hread, hfinds⟩

theorem Current.shown {p : Approval C} {past : Past C} (h : p.Current past) : p.Shown past := by
  obtain ⟨db, rest, state, rfl, hfinds, -⟩ := h
  exact ⟨db, state, List.mem_cons_self, hfinds⟩

end Approval

/-- What a session asks that acts for the approval under the lease. -/
def Acting (p : Approval C) (past : Past C) : Call C → Prop
  | .read => True
  | .replace x => p.Writes past x
  | .tryLockWorker => False
  | .acknowledge _ => False
  | .identify request => p.Current past ∧ p.request.map (·.toAdapterRequest) = some request
  | .grantPermission permission => p.request = some permission.request
  | .apply permission => p.Shown past ∧ p.request = some permission.request
  | .observe request _ => p.Current past ∧ p.request.map (·.toAdapterRequest) = some request
  | .openReceiver _ => True
  | .prepare _ authorization => p.Current past ∧ p.transition = some authorization
  | .grantGitPermission permission => p.transition = some permission.prepared.authorization
  | .send permission => p.Shown past ∧ p.transition = some permission.prepared.authorization
  | .observeRef _ => p.Current past

theorem acting_read (p : Approval C) (past : Past C) : Acting p past .read := trivial

/-- What a session asks that only writes for the approval. -/
def Writing (p : Approval C) (past : Past C) : Call C → Prop
  | .read => True
  | .replace x => p.Writes past x
  | _ => False

theorem writing_read (p : Approval C) (past : Past C) : Writing p past .read := trivial

theorem acting_of_writing {p : Approval C} {past : Past C} {c : Call C}
    (h : Writing p past c) : Acting p past c := by
  cases c with
  | read => trivial
  | replace x => exact h
  | _ => exact h.elim

/-! ## Writes -/

section
variable {past : Past C} {a : AuthorizedRequest C} {p : Approval C}

/-- An updating write keeps the identity of the record that it replaces. -/
theorem updates_of_stored {a : AuthorizedRequest C} {x : Transition C} {db : Database}
    {previous next : Record .kubernetes} (hx : x.replacement = ⟨.kubernetes, some previous, next⟩)
    (hstored : stored db .kubernetes a.request.operationId = some previous)
    (hkeeps : next.value .operationId = previous.value .operationId) :
    (Approval.kubernetes a).Updates x := by
  have hid := value_operationId_of_stored hstored
  refine ⟨?_, ?_, ?_⟩
  · rw [hx]
    rfl
  · rw [hx]
    rfl
  · rw [hx]
    exact hkeeps.trans hid

theorem updates_of_gitStored {b : GitBinding C} {x : Transition C} {db : Database}
    {previous next : Record .git} (hx : x.replacement = ⟨.git, some previous, next⟩)
    (hstored : stored db .git b.authorization.operationId = some previous)
    (hkeeps : next.value .operationId = previous.value .operationId) :
    (Approval.git b).Updates x := by
  have hid := value_operationId_of_stored hstored
  refine ⟨?_, ?_, ?_⟩
  · rw [hx]
    rfl
  · rw [hx]
    rfl
  · rw [hx]
    exact hkeeps.trans hid

theorem writing_replace {x : Transition C} (hwrites : p.Writes past x) :
    Ensures (Writing p) past (Storage.replace x) fun past' _ => past' = confirmed x :: past := by
  refine ensures_ask hwrites fun answer => ensures_check fun u hu => ?_
  subst hu
  rfl

theorem acting_replace {x : Transition C} (hwrites : p.Writes past x) :
    Ensures (Acting p) past (Storage.replace x) fun past' _ => past' = confirmed x :: past :=
  (writing_replace hwrites).relax fun _ _ => acting_of_writing

/-- The read of `bound_record`, with the row that it found. -/
theorem acting_boundRecord {permits : Past C → Call C → Prop} (hread : ∀ past, permits past .read)
    (id : Text) (loaded : LoadedOperation) :
    Ensures permits past (Storage.boundRecord (C := C) id loaded)
      fun past' record => past <:+ past' ∧ ∃ db, stored db .kubernetes id = some record :=
  (ensures_snapshot hread).bind fun _ db hdb => ensures_check fun _ hrecord =>
    ⟨hdb ▸ List.suffix_cons _ _, db, (boundRecord_eq_ok hrecord).1⟩

/-- **A writer that replaces the row it has just read again.** -/
theorem writing_update {loaded : LoadedOperation} {id : Text} {x : Record .kubernetes → Transition C}
    {next : Record .kubernetes → Record .kubernetes} (hid : id = a.request.operationId)
    (hx : ∀ expected, (x expected).replacement = ⟨.kubernetes, some expected, next expected⟩)
    (hkeeps : ∀ expected, (next expected).value .operationId = expected.value .operationId)
    (hshown : (Approval.kubernetes a).Shown past) :
    Ensures (Writing (.kubernetes a)) past (do
      let expected ← Storage.boundRecord id loaded
      Storage.replace (x expected)) fun past' _ => past <:+ past' := by
  refine (acting_boundRecord (writing_read _) id loaded).bind fun past₁ record h₁ => ?_
  obtain ⟨hpast, db, hstored⟩ := h₁
  rw [hid] at hstored
  refine (writing_replace (.inr ⟨updates_of_stored (hx record) hstored (hkeeps record),
    hshown.mono hpast⟩)).mono fun past₂ _ h₂ => ?_
  rw [h₂]
  exact hpast.trans (List.suffix_cons _ _)

theorem acting_update {loaded : LoadedOperation} {id : Text} {x : Record .kubernetes → Transition C}
    {next : Record .kubernetes → Record .kubernetes} (hid : id = a.request.operationId)
    (hx : ∀ expected, (x expected).replacement = ⟨.kubernetes, some expected, next expected⟩)
    (hkeeps : ∀ expected, (next expected).value .operationId = expected.value .operationId)
    (hshown : (Approval.kubernetes a).Shown past) :
    Ensures (Acting (.kubernetes a)) past (do
      let expected ← Storage.boundRecord id loaded
      Storage.replace (x expected)) fun past' _ => past <:+ past' :=
  (writing_update hid hx hkeeps hshown).relax fun _ _ => acting_of_writing

theorem shown_of_shows {loaded : LoadedOperation} (h : Shows past a loaded) :
    (Approval.kubernetes a).Shown past := by
  obtain ⟨db, hread, hloaded⟩ := h
  exact ⟨db, loaded.state, hread, loaded, hloaded, rfl⟩

theorem writing_markAuthorized (operation : RequestedOperation) :
    Ensures (Writing (.kubernetes a)) past (Storage.markAuthorized operation a)
      fun past' _ => past <:+ past' := by
  refine ensures_checked fun _ hsame => ?_
  refine (ensures_existingSubmission (writing_read _) a).bind fun past₁ state h₁ => ?_
  refine ensures_checked fun _ hstate => ?_
  obtain rfl := of_decide_eq_true (require_eq_ok.mp hstate)
  obtain ⟨loaded, hloaded⟩ := h₁.2 rfl
  have hrequest : operation.request.request = a.request :=
    of_decide_eq_true (require_eq_ok.mp hsame)
  refine (writing_update (x := fun expected => .markAuthorized expected a) (by rw [hrequest])
    (fun _ => rfl) (fun _ => rfl) (shown_of_shows hloaded)).mono fun _ _ h₂ => h₁.1.1.trans h₂

/-! ## One pass over a Kubernetes operation -/

section
variable {operation : AuthorizedOperation} {started : ApplyStartedOperation}

theorem acting_markNotAttempted {rejection : TargetRejection}
    (hrequest : operation.request.request = a.request)
    (hshown : (Approval.kubernetes a).Shown past) :
    Ensures (Acting (.kubernetes a)) past (Storage.markNotAttempted (C := C) operation rejection)
      fun past' _ => past <:+ past' :=
  acting_update (x := fun expected => .markNotAttempted expected operation rejection)
    (by rw [hrequest]) (fun _ => rfl) (fun _ => rfl) hshown

theorem acting_markStaleApproval {observed : ValidatedTargetIdentity}
    (hrequest : operation.request.request = a.request)
    (hshown : (Approval.kubernetes a).Shown past) :
    Ensures (Acting (.kubernetes a)) past (Storage.markStaleApproval (C := C) operation observed)
      fun past' _ => past <:+ past' :=
  acting_update (x := fun expected => .markStaleApproval expected operation observed)
    (by rw [hrequest]) (fun _ => rfl) (fun _ => rfl) hshown

theorem acting_startAttempt {target : ValidatedTargetIdentity}
    (hrequest : operation.request.request = a.request)
    (hshown : (Approval.kubernetes a).Shown past) :
    Ensures (Acting (.kubernetes a)) past (Storage.startAttempt (C := C) operation target)
      fun past' made => past <:+ past' ∧ ∀ permission ∈ made, permission.request = a.request := by
  have hmark : Ensures (Acting (.kubernetes a)) past
      (Storage.markApplyStarted (C := C) operation target) fun past' _ => past <:+ past' :=
    acting_update (x := fun expected => .markApplyStarted expected operation target)
      (by rw [hrequest]) (fun _ => rfl) (fun _ => rfl) hshown
  refine hmark.bind fun past₁ _ h₁ => ?_
  have hnames : Acting (.kubernetes a) past₁
      (.grantPermission ⟨operation.request.request, target⟩) := by
    show some a.request = some operation.request.request
    rw [hrequest]
  refine ensures_ask hnames fun _ => ensures_pure ⟨h₁.trans (List.suffix_cons _ _), ?_⟩
  intro permission hpermission
  obtain rfl := Option.some.inj hpermission
  exact hrequest

theorem acting_beginAttempt {observed : ValidatedTargetIdentity}
    (hrequest : operation.request.request = a.request)
    (hshown : (Approval.kubernetes a).Shown past) :
    Ensures (Acting (.kubernetes a)) past (Storage.beginAttempt (C := C) operation observed)
      fun past' made => past <:+ past' ∧ ∀ permission ∈ made, permission.request = a.request := by
  refine (acting_boundRecord (acting_read _) _ _).bind fun past₁ _ h₁ => ?_
  have hshown₁ := hshown.mono h₁.1
  split
  · split
    · refine (acting_markStaleApproval hrequest hshown₁).bind fun past₂ _ h₂ => ?_
      exact ensures_pure ⟨h₁.1.trans h₂, fun _ hnone => nomatch hnone⟩
    · refine ensures_checked fun target _ => ?_
      exact (acting_startAttempt hrequest hshown₁).mono fun _ _ h₂ => ⟨h₁.1.trans h₂.1, h₂.2⟩
  · exact (acting_startAttempt hrequest hshown₁).mono fun _ _ h₂ => ⟨h₁.1.trans h₂.1, h₂.2⟩

/-- The newest exchange is a read that found this operation. -/
def Found (a : AuthorizedRequest C) (past : Past C) (loaded : LoadedOperation) : Prop :=
  ∃ db rest, past = readOf db :: rest ∧ authorizedRecordOn C db a = .ok (some loaded)

theorem Found.request {loaded : LoadedOperation} (h : Found a past loaded) :
    loaded.requestFacts.request = a.request := by
  obtain ⟨db, rest, -, hloaded⟩ := h
  exact request_of_authorizedRecordOn hloaded

theorem Found.current {loaded : LoadedOperation} (h : Found a past loaded)
    (hstate : loaded.state = .authorized ∨ loaded.state = .applyStarted) :
    (Approval.kubernetes a).Current past := by
  obtain ⟨db, rest, rfl, hloaded⟩ := h
  exact ⟨db, rest, loaded.state, rfl, ⟨loaded, hloaded, rfl⟩, hstate⟩

theorem Found.shown {loaded : LoadedOperation} (h : Found a past loaded) :
    (Approval.kubernetes a).Shown past := by
  obtain ⟨db, rest, rfl, hloaded⟩ := h
  exact ⟨db, loaded.state, List.mem_cons_self, loaded, hloaded, rfl⟩

theorem acting_authorizedOperation : Ensures (Acting p) past (Storage.authorizedOperation a)
    fun past' loaded => past <:+ past' ∧ ∀ operation ∈ loaded, Found a past' operation := by
  refine (ensures_authorizedOperation_read (acting_read _) a).mono fun past' loaded h => ?_
  obtain ⟨db, rfl, hloaded⟩ := h
  refine ⟨List.suffix_cons _ _, fun operation hoperation => ⟨db, past, rfl, ?_⟩⟩
  rw [hloaded, Option.mem_def.mp hoperation]

theorem acting_requireAuthorized : Ensures (Acting p) past (requireAuthorized a)
    fun past' _ => past <:+ past' :=
  (ensures_requireAuthorized (acting_read _)).mono fun _ _ h => h.1

theorem acting_requireStarted : Ensures (Acting p) past (requireStarted a)
    fun past' started => past <:+ past' ∧ Found a past' (.applyStarted started) := by
  refine acting_authorizedOperation.bind fun past₁ loaded h₁ => ?_
  split
  · exact ensures_pure ⟨h₁.1, h₁.2 _ rfl⟩
  · exact ensures_throw _

theorem acting_preflightTarget (hfound : Found a past (.authorized operation)) :
    Ensures (Acting (.kubernetes a)) past (preflightTarget a operation)
      fun past' _ => past <:+ past' := by
  have hrequest : operation.request.request = a.request := hfound.request
  have hnames : Acting (.kubernetes a) past
      (.identify operation.request.request.toAdapterRequest) := by
    refine ⟨hfound.current (.inl rfl), ?_⟩
    show some a.request.toAdapterRequest = some operation.request.request.toAdapterRequest
    rw [hrequest]
  refine ensures_ask hnames fun targetRead => ?_
  refine acting_requireAuthorized.bind fun past₁ _ h₁ => ?_
  have hpast : past <:+ past₁ := (List.suffix_cons _ _).trans h₁
  split
  · exact ensures_throw _
  · refine (acting_markNotAttempted hrequest (hfound.shown.mono hpast)).bind fun past₂ _ h₂ => ?_
    exact ensures_pure (hpast.trans h₂)
  · exact ensures_checked fun _ _ => ensures_pure hpast

theorem acting_recordApplyOutcome {outcome : ApplyOutcome} (hrequest : started.request = a.request)
    (hshown : (Approval.kubernetes a).Shown past) :
    Ensures (Acting (.kubernetes a)) past (Storage.recordApplyOutcome (C := C) started outcome)
      fun past' _ => past <:+ past' := by
  refine ensures_checked fun _ _ => ?_
  refine (acting_boundRecord (acting_read _) _ _).bind fun past₁ record h₁ => ?_
  obtain ⟨hpast, db, hstored⟩ := h₁
  rw [hrequest] at hstored
  refine ensures_checked fun _ _ => ?_
  have hid := value_operationId_of_stored hstored
  have hupdates : (Approval.kubernetes a).Updates (.recordApplyOutcome record started outcome) :=
    ⟨rfl, rfl, hid⟩
  refine (acting_replace (.inr ⟨hupdates, hshown.mono hpast⟩)).mono fun past₂ _ h₂ => ?_
  rw [h₂]
  exact hpast.trans (List.suffix_cons _ _)

theorem acting_dispatch {permission : DispatchPermission} (hrequest : permission.request = a.request) :
    Ensures (Acting (.kubernetes a)) past (dispatch a permission)
      fun past' started => past <:+ past' ∧ Found a past' (.applyStarted started) := by
  refine acting_requireStarted.bind fun past₁ started h₁ => ?_
  have hnames : Acting (.kubernetes a) past₁ (.apply permission) := by
    refine ⟨h₁.2.shown, ?_⟩
    show some a.request = some permission.request
    rw [hrequest]
  refine ensures_ask hnames fun answer => ensures_checked fun outcome _ => ?_
  refine acting_requireAuthorized.bind fun past₂ _ h₂ => ?_
  have hpast : past₁ <:+ past₂ := (List.suffix_cons _ _).trans h₂
  refine (acting_recordApplyOutcome h₁.2.request (h₁.2.shown.mono hpast)).bind fun past₃ _ h₃ => ?_
  exact acting_requireStarted.mono fun _ _ h₄ =>
    ⟨((h₁.1.trans hpast).trans h₃).trans h₄.1, h₄.2⟩

theorem acting_freshAttempt (hfound : Found a past (.authorized operation)) :
    Ensures (Acting (.kubernetes a)) past (freshAttempt a operation)
      fun past' attempted => past <:+ past' ∧
        ∀ started ∈ attempted, Found a past' (.applyStarted started) := by
  have hrequest : operation.request.request = a.request := hfound.request
  refine (acting_preflightTarget hfound).bind fun past₁ found h₁ => ?_
  cases found with
  | none => exact ensures_pure ⟨h₁, fun _ hnone => nomatch hnone⟩
  | some target =>
    refine (acting_beginAttempt hrequest (hfound.shown.mono h₁)).bind fun past₂ made h₂ => ?_
    have hpast := h₁.trans h₂.1
    cases made with
    | none => exact ensures_pure ⟨hpast, fun _ hnone => nomatch hnone⟩
    | some permission =>
      refine (acting_dispatch (h₂.2 permission rfl)).bind fun past₃ started h₃ => ?_
      refine ensures_pure ⟨hpast.trans h₃.1, fun started' h' => ?_⟩
      obtain rfl := Option.some.inj h'
      exact h₃.2

theorem acting_observeAndFreeze (hfound : Found a past (.applyStarted started)) :
    Ensures (Acting (.kubernetes a)) past (observeAndFreeze a started)
      fun past' _ => past <:+ past' := by
  have hrequest : started.request = a.request := hfound.request
  have hnames : Acting (.kubernetes a) past
      (.observe started.request.toAdapterRequest started.classificationOutcome) := by
    refine ⟨hfound.current (.inr rfl), ?_⟩
    show some a.request.toAdapterRequest = some started.request.toAdapterRequest
    rw [hrequest]
  refine ensures_ask hnames fun answer => ensures_checked fun observation _ => ?_
  refine acting_requireAuthorized.bind fun past₁ _ h₁ => ?_
  have hpast : past <:+ past₁ := (List.suffix_cons _ _).trans h₁
  have hfreeze : Ensures (Acting (.kubernetes a)) past₁
      (Storage.freezeObservation (C := C) started observation) fun past' _ => past₁ <:+ past' :=
    ensures_checked fun _ _ =>
      acting_update (x := fun expected => .freezeObservation expected started observation)
        (by rw [hrequest]) (fun _ => rfl) (fun _ => rfl) (hfound.shown.mono hpast)
  exact hfreeze.bind fun past₂ _ h₂ => ensures_pure (hpast.trans h₂)

theorem acting_runLockedOperationOnce :
    Ensures (Acting (.kubernetes a)) past (runLockedOperationOnce a)
      fun past' _ => past <:+ past' := by
  refine acting_authorizedOperation.bind fun past₁ loaded h₁ => ?_
  split
  · refine (acting_freshAttempt (h₁.2 _ rfl)).bind fun past₂ attempted h₂ => ?_
    cases attempted with
    | none => exact ensures_pure (h₁.1.trans h₂.1)
    | some started =>
      exact (acting_observeAndFreeze (h₂.2 started rfl)).bind fun past₃ _ h₃ =>
        ensures_pure ((h₁.1.trans h₂.1).trans h₃)
  · exact (acting_observeAndFreeze (h₁.2 _ rfl)).bind fun past₂ _ h₂ =>
      ensures_pure (h₁.1.trans h₂)
  · exact ensures_pure h₁.1

end

/-! ## Submission, receipts and the loop -/

theorem acting_existingSubmission {permits : Past C → Call C → Prop}
    (hread : ∀ past, permits past .read) (a : AuthorizedRequest C) :
    Ensures permits past (Storage.existingSubmission a)
      fun past' state => ∃ db loaded, past' = readOf db :: past ∧
        authorizedRecordOn C db a = .ok loaded ∧ state = loaded.map (·.state) := by
  refine (ensures_authorizedOperation_read hread a).bind fun past' loaded h => ?_
  obtain ⟨db, hpast, hloaded⟩ := h
  exact ensures_pure ⟨db, loaded, hpast, hloaded, rfl⟩

theorem writing_markRequestedAuthorized :
    Ensures (Writing (.kubernetes a)) past (markRequestedAuthorized a)
      fun past' _ => past <:+ past' := by
  refine (ensures_operation (writing_read _) _).bind fun past₁ loaded h₁ => ?_
  split
  · exact (writing_markAuthorized _).mono fun _ _ h₂ => h₁.1.trans h₂
  · exact ensures_throw _
  · exact ensures_throw _

theorem writing_submitBound : Ensures (Writing (.kubernetes a)) past (submitBound a)
    fun past' _ => past <:+ past' := by
  refine (acting_existingSubmission (writing_read _) a).bind fun past₁ existing h₁ => ?_
  obtain ⟨db, loaded, rfl, hloaded, rfl⟩ := h₁
  have hpast : past <:+ readOf db :: past := List.suffix_cons _ _
  split
  · exact writing_markRequestedAuthorized.bind fun _ _ h₂ => ensures_pure (hpast.trans h₂)
  · exact ensures_pure hpast
  · rename_i hnone
    obtain rfl := Option.map_eq_none_iff.mp hnone
    have hwrites : (Approval.kubernetes a).Writes (readOf db :: past) (.insertRequested a) :=
      .inl ⟨rfl, [readOf db], past, rfl, db, rfl, hloaded⟩
    refine (writing_replace hwrites).bind fun past₂ _ h₂ => ?_
    subst h₂
    exact writing_markRequestedAuthorized.bind fun _ _ h₃ =>
      ensures_pure ((hpast.trans (List.suffix_cons _ _)).trans h₃)

theorem writing_submitAuthorized {authorities : List AuthorizationTrust}
    {request : SetDeploymentImageRequest} {signedGrant : Bytes}
    (hbind : bindAuthorization C authorities request signedGrant = .ok a) :
    Ensures (Writing (.kubernetes a)) past
      (submitAuthorized (C := C) authorities request signedGrant)
      fun past' _ => past <:+ past' := by
  obtain ⟨verified, hverified, hbind⟩ := bind_eq_ok.mp hbind
  obtain ⟨validated, hvalidated, hbind⟩ := bind_eq_ok.mp hbind
  refine ensures_checked fun validated' hvalidated' => ?_
  obtain rfl := Except.ok.inj (hvalidated.symm.trans hvalidated')
  refine ensures_checked fun verified' hverified' => ?_
  obtain rfl := Except.ok.inj (hverified.symm.trans hverified')
  refine ensures_checked fun a' ha' => ?_
  obtain rfl := Except.ok.inj (hbind.symm.trans ha')
  exact writing_submitBound

theorem acting_finalizeReceipt {operation : ReceiverObservedOperation}
    {settings : ReceiptSettings} (hfound : Found a past (.receiverObserved operation)) :
    Ensures (Acting (.kubernetes a)) past (finalizeReceipt (C := C) operation settings)
      fun past' _ => past <:+ past' := by
  have hrequest : operation.applyStarted.request = a.request := hfound.request
  refine ensures_checked fun receipt _ => ?_
  have hcommit : Ensures (Acting (.kubernetes a)) past
      (Storage.commitReceipt (C := C) operation receipt) fun past' _ => past <:+ past' := by
    refine ensures_checked fun _ _ => ?_
    refine (acting_boundRecord (acting_read _) _ _).bind fun past₁ record h₁ => ?_
    obtain ⟨hpast, db, hstored⟩ := h₁
    have hid := value_operationId_of_stored hstored
    rw [show operation.operationId = a.request.operationId from
      congrArg ValidatedRequest.operationId hrequest] at hid
    have hupdates : (Approval.kubernetes a).Updates (.commitReceipt record operation receipt) :=
      ⟨rfl, rfl, hid⟩
    refine ensures_checked fun _ _ => ?_
    refine (acting_replace (.inr ⟨hupdates, hfound.shown.mono hpast⟩)).mono fun past₂ _ h₂ => ?_
    rw [h₂]
    exact hpast.trans (List.suffix_cons _ _)
  exact hcommit.bind fun _ _ h₁ => ensures_pure h₁

section
variable {authorities : List AuthorizationTrust} {request : SetDeploymentImageRequest}
  {signedGrant : Bytes} {adapter : Bool} {settings : Option ReceiptSettings}

theorem acting_reconcileTurn
    (hbind : bindAuthorization C authorities request signedGrant = .ok a) :
    Ensures (Acting (.kubernetes a)) past
      (reconcileTurn authorities request signedGrant adapter settings a)
      fun past' _ => past <:+ past' := by
  refine (ensures_mapErr acting_authorizedOperation).bind fun past₁ loaded h₁ => ?_
  cases loaded with
  | none => exact ensures_pure h₁.1
  | some operation =>
    have hfound := h₁.2 operation rfl
    have hattempt : Ensures (Acting (.kubernetes a)) past₁
        (if adapter then do
            let advanced ← mapErr .advancement (runLockedOperationOnce a)
            return .inl advanced.isSome
          else throw (.blocked .receiverUnavailable) :
          Action C ReconciliationError (Bool ⊕ Option LoadedOperation))
        fun past' _ => past <:+ past' := by
      split
      · exact (ensures_mapErr acting_runLockedOperationOnce).bind fun _ _ h₂ =>
          ensures_pure (h₁.1.trans h₂)
      · exact ensures_throw _
    cases operation with
    | requested operation =>
      have hsubmit : Ensures (Acting (.kubernetes a)) past₁
          (submitAuthorized (C := C) authorities request signedGrant)
          fun past' _ => past₁ <:+ past' :=
        (writing_submitAuthorized hbind).relax fun _ _ => acting_of_writing
      exact (ensures_mapErr hsubmit).bind fun _ _ h₂ => ensures_pure (h₁.1.trans h₂)
    | authorized operation => exact hattempt
    | applyStarted operation => exact hattempt
    | receiverObserved operation =>
      cases settings with
      | none => exact ensures_throw _
      | some settings =>
        exact (ensures_mapErr (acting_finalizeReceipt hfound)).bind fun _ _ h₂ =>
          ensures_pure (h₁.1.trans h₂)
    | notAttempted operation => exact ensures_pure h₁.1
    | finalized operation => exact ensures_pure h₁.1

theorem acting_reconcileLoop (turns : ℕ)
    (hbind : bindAuthorization C authorities request signedGrant = .ok a) :
    Ensures (Acting (.kubernetes a)) past
      (reconcileLoop authorities request signedGrant adapter settings a turns)
      fun _ _ => True := by
  induction turns generalizing past with
  | zero => exact ensures_pure trivial
  | succ turns ih =>
    refine (acting_reconcileTurn hbind).bind fun past₁ result _ => ?_
    split
    · exact ensures_pure trivial
    · exact ih
    · exact ensures_checked fun a' _ => ensures_mapErr
        (acting_authorizedOperation.mono fun _ _ _ => trivial)

/-- **The reconcile loop acts for its request only.** -/
theorem acting_reconcileLocked {turns : ℕ}
    (hbind : bindAuthorization C authorities request signedGrant = .ok a) :
    Ensures (Acting (.kubernetes a)) past
      (reconcileLockedWithAdapter (C := C) authorities request signedGrant adapter settings turns)
      fun _ _ => True := by
  refine ensures_checked fun a' ha' => ?_
  obtain rfl := Except.ok.inj (hbind.symm.trans (mapError_eq_ok.mp ha'))
  exact acting_reconcileLoop turns hbind

end

/-! ## Git -/

section
variable {b : GitBinding C}

/-- The newest exchange is a read that found the row of the binding in this phase. -/
def GitFound (b : GitBinding C) (past : Past C) (phase : GitPhase) : Prop :=
  ∃ db rest record, past = readOf db :: rest ∧
    stored db .git b.authorization.operationId = some record ∧
    decodeRecord record b = .ok phase

theorem GitFound.current {phase : GitPhase} (h : GitFound b past phase)
    (hstate : phase.state = .authorized ∨ phase.state = .applyStarted) :
    (Approval.git b).Current past := by
  obtain ⟨db, rest, record, rfl, hstored, hphase⟩ := h
  exact ⟨db, rest, phase.state, rfl, ⟨record, phase, hstored, hphase, rfl⟩, hstate⟩

theorem acting_requireGitPhase : Ensures (Acting p) past (requireGitPhase b)
    fun past' phase => past <:+ past' ∧ GitFound b past' phase := by
  refine (ensures_requireGitPhase (acting_read _)).mono fun past' phase h => ⟨h.1, ?_⟩
  obtain ⟨-, db, record, hpast, hstored, hphase⟩ := h
  exact ⟨db, past, record, hpast, hstored, hphase⟩

theorem acting_gitWrite : Ensures (Acting p) past (Storage.gitWrite b)
    fun past' found => past <:+ past' ∧ ∃ db rest, past' = readOf db :: rest ∧
      stored db .git b.authorization.operationId = some found.1 ∧
      decodeRecord found.1 b = .ok found.2 := by
  refine (ensures_gitRecord (acting_read _)).bind fun past₁ record h₁ => ?_
  cases record with
  | none => exact ensures_throw _
  | some record =>
    refine ensures_checked fun phase hphase => ensures_pure ⟨h₁.1.1, ?_⟩
    obtain ⟨db, hpast, hstored⟩ := h₁.2 record rfl
    exact ⟨db, past, hpast, hstored, hphase⟩

/-- A Git write that replaces the row it has just read. -/
theorem acting_gitReplace {x : Transition C} {db : Database} {rest : Past C}
    {original next : Record .git} {phase : GitPhase} (hpast : past = readOf db :: rest)
    (hstored : stored db .git b.authorization.operationId = some original)
    (hphase : decodeRecord original b = .ok phase)
    (hx : x.replacement = ⟨.git, some original, next⟩)
    (hkeeps : next.value .operationId = original.value .operationId) :
    Ensures (Acting (.git b)) past (Storage.replace x) fun past' _ => past <:+ past' := by
  have hshown : (Approval.git b).Shown past := by
    refine ⟨db, phase.state, ?_, original, phase, hstored, hphase, rfl⟩
    rw [hpast]
    exact List.mem_cons_self
  refine (acting_replace (.inr ⟨updates_of_gitStored hx hstored hkeeps, hshown⟩)).mono
    fun past' _ h => ?_
  rw [h]
  exact List.suffix_cons _ _

theorem acting_beginGitAttempt {prepared : PreparedTransition} :
    Ensures (Acting (.git b)) past (Storage.beginGitAttempt b prepared)
      fun past' permission => past <:+ past' ∧
        permission.prepared.authorization = b.authorization := by
  refine ensures_checked fun _ hsame => acting_gitWrite.bind fun past₁ found h₁ => ?_
  obtain ⟨original, phase⟩ := found
  obtain ⟨hpast, db, rest, hread, hstored, hphase⟩ := h₁
  have hauthorization : prepared.authorization = b.authorization :=
    of_decide_eq_true (require_eq_ok.mp hsame)
  refine ensures_checked fun _ _ => ?_
  refine (acting_gitReplace hread hstored hphase (x := .beginGitAttempt original b) rfl rfl).bind
    fun past₂ _ h₂ => ?_
  have hnames : Acting (.git b) past₂ (.grantGitPermission ⟨prepared⟩) := by
    show some b.authorization = some prepared.authorization
    rw [hauthorization]
  exact ensures_ask hnames fun _ => ensures_pure
    ⟨(hpast.trans h₂).trans (List.suffix_cons _ _), hauthorization⟩

theorem acting_rejectGit {rejection : GitRejection} :
    Ensures (Acting (.git b)) past (Storage.rejectGit b rejection)
      fun past' _ => past <:+ past' := by
  refine acting_gitWrite.bind fun past₁ found h₁ => ?_
  obtain ⟨original, phase⟩ := found
  obtain ⟨hpast, db, rest, hread, hstored, hphase⟩ := h₁
  refine ensures_checked fun _ _ => ?_
  exact (acting_gitReplace hread hstored hphase (x := .rejectGit original b rejection) rfl rfl).mono
    fun _ _ h₂ => hpast.trans h₂

theorem acting_recordGitAcknowledgement {acknowledgement : Acknowledgement} :
    Ensures (Acting (.git b)) past (Storage.recordGitAcknowledgement b acknowledgement)
      fun past' _ => past <:+ past' := by
  refine acting_gitWrite.bind fun past₁ found h₁ => ?_
  obtain ⟨original, phase⟩ := found
  obtain ⟨hpast, db, rest, hread, hstored, hphase⟩ := h₁
  refine ensures_checked fun _ _ => ?_
  exact (acting_gitReplace hread hstored hphase
    (x := .recordGitAcknowledgement original b acknowledgement) rfl rfl).mono
    fun _ _ h₂ => hpast.trans h₂

theorem acting_freezeGitObservation {seen : ObservedRef} :
    Ensures (Acting (.git b)) past (Storage.freezeGitObservation b seen)
      fun past' _ => past <:+ past' := by
  refine acting_gitWrite.bind fun past₁ found h₁ => ?_
  obtain ⟨original, phase⟩ := found
  obtain ⟨hpast, db, rest, hread, hstored, hphase⟩ := h₁
  cases phase with
  | attempted retained =>
    refine ensures_checked fun columns _ => ?_
    exact (acting_gitReplace hread hstored hphase
      (x := .freezeGitObservation original b retained seen columns) rfl rfl).mono
      fun _ _ h₂ => hpast.trans h₂
  | _ => exact ensures_throw _

theorem acting_commitGitReceipt {bytes : Bytes} :
    Ensures (Acting (.git b)) past (Storage.commitGitReceipt b bytes)
      fun past' _ => past <:+ past' := by
  refine acting_gitWrite.bind fun past₁ found h₁ => ?_
  obtain ⟨original, phase⟩ := found
  obtain ⟨hpast, db, rest, hread, hstored, hphase⟩ := h₁
  cases phase with
  | observed acknowledgement seen =>
    refine ensures_checked fun decoded _ => ?_
    obtain ⟨keyId, statement⟩ := decoded
    refine ensures_checked fun _ _ => ?_
    exact (acting_gitReplace hread hstored hphase
      (x := .commitGitReceipt original b bytes keyId) rfl rfl).mono fun _ _ h₂ => hpast.trans h₂
  | _ => exact ensures_throw _

theorem acting_freshGitAttempt {receiver : GitReceiver} (hcurrent : (Approval.git b).Current past) :
    Ensures (Acting (.git b)) past (freshGitAttempt b receiver) fun past' _ => past <:+ past' := by
  have hprepare : Ensures (Acting (.git b)) past (prepare (C := C) receiver b.authorization)
      fun past' _ => past <:+ past' := by
    refine ensures_ask ⟨hcurrent, rfl⟩ fun prepared => ?_
    split
    · exact ensures_pure (List.suffix_cons _ _)
    · exact ensures_pure (List.suffix_cons _ _)
  refine hprepare.bind fun past₁ result h₁ => ?_
  split
  · refine acting_beginGitAttempt.bind fun past₂ permission h₂ => ?_
    have hnames : Acting (.git b) past₂ (.send permission) := by
      refine ⟨hcurrent.shown.mono (h₁.trans h₂.1), ?_⟩
      show some b.authorization = some permission.prepared.authorization
      rw [h₂.2]
    refine ensures_ask hnames fun acknowledgement => ?_
    exact acting_recordGitAcknowledgement.mono fun _ _ h₃ =>
      ((h₁.trans h₂.1).trans (List.suffix_cons _ _)).trans h₃
  · exact acting_rejectGit.mono fun _ _ h₂ => h₁.trans h₂
  · exact acting_rejectGit.mono fun _ _ h₂ => h₁.trans h₂
  · exact ensures_throw _

theorem acting_requireReceiver {receiver : Option GitReceiver} :
    Ensures (Acting p) past (requireReceiver (C := C) receiver) fun past' _ => past' = past := by
  cases receiver with
  | some receiver => exact ensures_pure rfl
  | none => exact ensures_throw _

theorem acting_advanceAuthorized {receiver : Option GitReceiver} {phase : GitPhase}
    (hfound : GitFound b past phase) :
    Ensures (Acting (.git b)) past (advanceAuthorized b receiver phase)
      fun past' phase' => past <:+ past' ∧ GitFound b past' phase' := by
  unfold advanceAuthorized
  split
  · rename_i hphase
    subst hphase
    refine acting_requireReceiver.bind fun past₁ receiver' h₁ => ?_
    subst h₁
    refine (acting_freshGitAttempt (hfound.current (.inl rfl))).bind fun past₂ _ h₂ => ?_
    exact acting_requireGitPhase.mono fun _ _ h₃ => ⟨h₂.trans h₃.1, h₃.2⟩
  · exact ensures_pure ⟨List.suffix_refl _, hfound⟩

theorem acting_advanceAttempted {receiver : Option GitReceiver} {phase : GitPhase}
    (hfound : GitFound b past phase) :
    Ensures (Acting (.git b)) past (advanceAttempted b receiver phase)
      fun past' _ => past <:+ past' := by
  cases phase with
  | attempted acknowledgement =>
    refine acting_requireReceiver.bind fun past₁ receiver' h₁ => ?_
    subst h₁
    refine ensures_ask (hfound.current (.inr rfl)) fun seen => ?_
    refine acting_freezeGitObservation.bind fun past₂ _ h₂ => ?_
    exact acting_requireGitPhase.mono fun _ _ h₃ =>
      ((List.suffix_cons _ _).trans h₂).trans h₃.1
  | _ => exact ensures_pure (List.suffix_refl _)

theorem acting_advanceObserved {signing : Option ReceiptSettings} (phase : GitPhase) :
    Ensures (Acting (.git b)) past (advanceObserved b signing phase) fun _ _ => True := by
  cases phase with
  | observed acknowledgement seen =>
    cases signing with
    | none => exact ensures_pure trivial
    | some settings =>
      refine ensures_checked fun bytes _ => acting_commitGitReceipt.bind fun _ _ _ => ?_
      exact acting_requireGitPhase.mono fun _ _ _ => trivial
  | _ => exact ensures_pure trivial

/-- **The pass over a Git operation acts for its binding only.** -/
theorem acting_advance {receiver : Option GitReceiver} {signing : Option ReceiptSettings} :
    Ensures (Acting (.git b)) past (advance b receiver signing) fun _ _ => True := by
  refine acting_requireGitPhase.bind fun past₁ phase h₁ => ensures_checked fun _ _ => ?_
  refine (acting_advanceAuthorized h₁.2).bind fun past₂ phase₂ h₂ => ?_
  refine (acting_advanceAttempted h₂.2).bind fun past₃ phase₃ _ => ?_
  exact acting_advanceObserved phase₃

theorem acting_openNeededReceiver {configuration : Option GitReceiver}
    {admitted : OperationState} :
    Ensures (Acting p) past (openNeededReceiver (C := C) configuration admitted)
      fun past' _ => past <:+ past' := by
  unfold openNeededReceiver
  split
  · cases configuration with
    | none => exact ensures_throw _
    | some receiver =>
      exact ensures_ask trivial fun opened => ensures_checked fun _ _ =>
        ensures_pure (List.suffix_cons _ _)
  · exact ensures_pure (List.suffix_refl _)

end

end

end Gateway
end Kapsel
