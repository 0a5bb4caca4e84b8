import Kapsel.Gateway.Admission
import Kapsel.Gateway.History
import Kapsel.Gateway.Readings

/-!
# Which approval a session acts for

A call names a grant, or an identity only.  `Serves` says which approval the session then acts
for: the one that the grant of the call makes under the authorities of the handle, or, for a
selection, the one that it selected after what it read: a Git row, or no Git row and a Kubernetes
row, or neither and an entry of the catalog.

`program_serves` says that the program of every entry keeps to the protocol of its approval, and
`Execution.serves` carries this to every exchange of every run.  As before, no proof looks at a
program after this.
-/

namespace Kapsel

open Grammar Fallible Authority Interaction Interaction.Program

namespace Gateway

open Journal Application

variable {C : Crypto}

/-! ## Approvals of a call -/

/-- The approval that a Kubernetes grant makes. -/
def Approves (C : Crypto) (authorities : List AuthorizationTrust)
    (request : SetDeploymentImageRequest) (signedGrant : Bytes) (p : Approval C) : Prop :=
  ∃ a, p = .kubernetes a ∧ bindAuthorization C authorities request signedGrant = .ok a

/-- The approval that a Git grant makes. -/
def ApprovesGit (C : Crypto) (authorities : List AuthorizationTrust) (grant : Bytes)
    (p : Approval C) : Prop :=
  ∃ b, p = .git b ∧ GitBinding.verify C grant authorities = .ok b

section
variable {authorities : List AuthorizationTrust} {request : SetDeploymentImageRequest}
  {grant : Bytes} {p q : Approval C}

theorem bindAuthorization_eq_ok {a : AuthorizedRequest C}
    (h : bindAuthorization C authorities request grant = .ok a) :
    a.request.operationId = request.operationId ∧ a.authorization.signedGrant = grant := by
  obtain ⟨verified, hverified, h⟩ := bind_eq_ok.mp h
  obtain ⟨validated, hvalidated, h⟩ := bind_eq_ok.mp h
  have hrequest := ValidatedRequest.tryFrom_eq_ok.mp hvalidated
  unfold AuthorizedRequest.bind at h
  split at h
  · obtain rfl := Except.ok.inj h
    refine ⟨?_, signedGrant_of_verifyGrantWith hverified⟩
    show validated.request.operationId = request.operationId
    rw [hrequest]
  · cases h

theorem grant_of_verify {b : GitBinding C} (h : GitBinding.verify C grant authorities = .ok b) :
    b.grant = grant := by
  obtain ⟨_, -, hwith⟩ := bind_eq_ok.mp h
  clear h
  induction authorities with
  | nil => cases hwith
  | cons trust authorities ih =>
    unfold GitBinding.verifyWith at hwith
    split at hwith
    · obtain rfl := Except.ok.inj hwith
      rfl
    · exact ih hwith

/-- The approval is for the identity of the request and has the bytes of the grant. -/
theorem Approves.facts (h : Approves C authorities request grant p) :
    p.table = .kubernetes ∧ p.operationId = request.operationId ∧ p.grant = grant := by
  obtain ⟨a, rfl, hbind⟩ := h
  exact ⟨rfl, bindAuthorization_eq_ok hbind⟩

theorem ApprovesGit.facts (h : ApprovesGit C authorities grant p) :
    p.table = .git ∧ p.grant = grant := by
  obtain ⟨b, rfl, hverify⟩ := h
  exact ⟨rfl, grant_of_verify hverify⟩

theorem Approves.unique (h : Approves C authorities request grant p)
    (h' : Approves C authorities request grant q) : q = p := by
  obtain ⟨a, rfl, hbind⟩ := h
  obtain ⟨a', rfl, hbind'⟩ := h'
  rw [Except.ok.inj (hbind.symm.trans hbind')]

theorem ApprovesGit.unique (h : ApprovesGit C authorities grant p)
    (h' : ApprovesGit C authorities grant q) : q = p := by
  obtain ⟨b, rfl, hverify⟩ := h
  obtain ⟨b', rfl, hverify'⟩ := h'
  rw [Except.ok.inj (hverify.symm.trans hverify')]

end

/-- The approval that a selection makes. -/
def SelectionApproves (C : Crypto) (authorities : List AuthorizationTrust) (id : Text)
    (p : Approval C) : Selection → Prop
  | .kubernetes request signedGrant _ => Approves C authorities request signedGrant p
  | .git signedGrant _ => ApprovesGit C authorities signedGrant p ∧ p.operationId = id

/-- The approval that the session of an entry acts for, after these reads. -/
def Serves (entry : Entry) (start : Past C) (p : Approval C) : Prop :=
  match entry.command with
  | .submitAuthorized request signedGrant =>
      start = [] ∧ Approves C entry.authorities request signedGrant p
  | .admitAndReconcile request signedGrant _ _ _ =>
      start = [] ∧ Approves C entry.authorities request signedGrant p
  | .reconcileLocked request signedGrant _ _ _ =>
      start = [] ∧ Approves C entry.authorities request signedGrant p
  | .runLockedOperationOnce request signedGrant =>
      start = [] ∧ Approves C entry.authorities request signedGrant p
  | .admitAndReconcileGit id grant _ _ =>
      start = [] ∧ ApprovesGit C entry.authorities grant p ∧ p.operationId = id
  | .advance grant _ _ => start = [] ∧ ApprovesGit C entry.authorities grant p
  | .select approvals id _ _ => ∃ tuple selected, Reads C entry.authorities id start tuple ∧
      tuple.selection approvals id = .ok selected ∧
        SelectionApproves C entry.authorities id p selected
  | _ => False

/-- What the session of an entry may ask after its own past. -/
def serving (entry : Entry) (past : Past C) (c : Call C) : Prop :=
  c = .read ∨ (c = .tryLockWorker ∧ Calm past) ∨
    ∃ p own start, past = own ++ start ∧ Serves entry start p ∧ Passing p own c

theorem serving_read {entry : Entry} (past : Past C) : serving entry past .read := .inl rfl

section
variable {entry : Entry} {past : Past C} {p : Approval C}

/-! ## Identities -/

/-- The identity that a call names. -/
def Command.identity : Command → Option Text
  | .submitAuthorized request _ => some request.operationId
  | .admitAndReconcile request _ _ _ _ => some request.operationId
  | .reconcileLocked request _ _ _ _ => some request.operationId
  | .runLockedOperationOnce request _ => some request.operationId
  | .admitAndReconcileGit id _ _ _ => some id
  | .select _ id _ _ => some id
  | _ => none

/-- **A session acts for the identity that its call names.** -/
theorem Serves.operationId (h : Serves entry past p) {id : Text}
    (hid : entry.command.identity = some id) : p.operationId = id := by
  obtain ⟨authorities, command⟩ := entry
  cases command with
  | submitAuthorized => exact h.2.facts.2.1.trans (Option.some.inj hid)
  | admitAndReconcile => exact h.2.facts.2.1.trans (Option.some.inj hid)
  | reconcileLocked => exact h.2.facts.2.1.trans (Option.some.inj hid)
  | runLockedOperationOnce => exact h.2.facts.2.1.trans (Option.some.inj hid)
  | admitAndReconcileGit => exact h.2.2.trans (Option.some.inj hid)
  | select =>
    obtain ⟨tuple, selected, hreads, hselection, happroves⟩ := h
    obtain rfl := Option.some.inj hid
    cases selected with
    | git signedGrant state => exact happroves.2
    | kubernetes request signedGrant state =>
      exact happroves.facts.2.1.trans (hreads.requestIdentity hselection)
  | _ => cases hid

/-! ## Passes -/

/-- A pass for the approval, after the reads that chose it. -/
theorem serving_of_passing {ε α : Type} {q : Action C ε α} {start : Past C}
    (hserves : Serves entry start p) (h : Ensures (Passing p) past q fun _ _ => True) :
    Ensures (serving entry) (past ++ start) q fun _ _ => True := by
  refine (Meets.relax (Meets.shift h) fun past' c hc => ?_).mono fun _ _ _ _ _ => trivial
  obtain ⟨own, rfl, hpassing⟩ := hc
  exact .inr (.inr ⟨p, own, start, rfl, hserves, hpassing⟩)

/-- A session that only writes for the approval. -/
theorem passing_of_writing {ε α : Type} {q : Action C ε α} {post : Past C → α → Prop}
    (h : Ensures (Writing p) past q post) (hgoing : ¬ Declined past) :
    Ensures (Passing p) past q post := by
  have hkeep : ∀ past' c (answer : Answer c), Writing p past' c → ¬ Declined past' →
      ¬ Declined (⟨c, answer⟩ :: past') := by
    intro past' c answer hwriting hpast'
    refine not_declined_cons hpast' fun decision => .inl fun heq => ?_
    obtain rfl : c = .acknowledge decision := congrArg Exchange.call heq
    exact hwriting
  refine (Meets.relax (Meets.keeps h hkeep hgoing) fun past' c hc => ?_).mono
    fun past' r hr a ha => hr.1 a ha
  obtain ⟨hwriting, hgoing'⟩ := hc
  cases c with
  | read => trivial
  | replace x => exact ⟨hwriting, hgoing'⟩
  | _ => exact hwriting.elim

theorem not_declined_nil : ¬ Declined ([] : Past C) := calm_nil.not_declined

theorem not_declined_leased : ¬ Declined ([leased] : Past C) := (calm_nil.lock _).not_declined

/-- A pass that begins with the lease in hand. -/
theorem serving_of_acting {ε α : Type} {q : Action C ε α} (hserves : Serves entry [] p)
    (h : Ensures (Acting p) [leased] q fun _ _ => True) :
    Ensures (serving entry) [leased] q fun _ _ => True :=
  serving_of_passing hserves (passing_of_acting h List.mem_cons_self not_declined_leased)

theorem serving_lock : serving entry ([] : Past C) .tryLockWorker := .inr (.inl ⟨rfl, calm_nil⟩)

theorem serving_admitAndReconcile {request : SetDeploymentImageRequest} {signedGrant : Bytes}
    {adapter : Bool} {settings : Option ReceiptSettings} {turns : ℕ} {start : Past C}
    (hserves : ∀ p, Approves C entry.authorities request signedGrant p → Serves entry start p) :
    Ensures (serving entry) start (admitAndReconcile (C := C) entry.authorities request
      signedGrant adapter settings turns) fun _ _ => True := by
  cases hbind : bindAuthorization C entry.authorities request signedGrant with
  | ok a =>
    have hpass : Ensures (serving entry) ([] ++ start) (admitAndReconcile (C := C)
        entry.authorities request signedGrant adapter settings turns) fun _ _ => True :=
      serving_of_passing (hserves _ ⟨a, rfl, hbind⟩) (passing_admitAndReconcile hbind)
    exact hpass
  | error error =>
    refine ensures_checked fun a ha => ?_
    rw [hbind] at ha
    cases ha

theorem serving_admitAndReconcileGit {id : Text} {grant : Bytes}
    {configuration : Option GitReceiver} {signing : Option ReceiptSettings} {start : Past C}
    (hserves : ∀ p, ApprovesGit C entry.authorities grant p → p.operationId = id →
      Serves entry start p) :
    Ensures (serving entry) start (admitAndReconcileGit (C := C) entry.authorities id grant
      configuration signing) fun _ _ => True := by
  cases hverify : GitBinding.verify C grant entry.authorities with
  | ok b =>
    by_cases hid : b.authorization.operationId = id
    · have hpass : Ensures (serving entry) ([] ++ start) (admitAndReconcileGit (C := C)
          entry.authorities id grant configuration signing) fun _ _ => True :=
        serving_of_passing (hserves _ ⟨b, rfl, hverify⟩ hid) (passing_admitAndReconcileGit hverify)
      exact hpass
    · refine ensures_checked fun b' hb' => ensures_checked fun _ hsame => ?_
      obtain rfl := Except.ok.inj (hverify.symm.trans (mapError_eq_ok.mp hb'))
      exact absurd (of_decide_eq_true (require_eq_ok.mp hsame)) hid
  | error error =>
    refine ensures_checked fun b hb => ?_
    rw [hverify] at hb
    cases hb

theorem serving_select {approvals : List SelectableApproval} {id : Text}
    {execution : ServiceExecution} {turns : ℕ}
    (hcommand : entry.command = .select approvals id execution turns) :
    Ensures (serving entry) []
      (select (C := C) entry.authorities approvals id execution turns) fun _ _ => True := by
  refine (ensures_selection_reads serving_read).bind fun start selected hselected => ?_
  obtain ⟨own, tuple, rfl, hreads, hselection⟩ := hselected
  rw [List.append_nil]
  have hserves : ∀ p, SelectionApproves C entry.authorities id p selected →
      Serves entry own p := by
    intro p hp
    unfold Serves
    rw [hcommand]
    exact ⟨tuple, selected, hreads, hselection, hp⟩
  have hpass : Ensures (serving entry) own
      (selectedPass (C := C) entry.authorities id execution turns selected) fun _ _ => True := by
    cases selected with
    | kubernetes request signedGrant state => exact serving_admitAndReconcile hserves
    | git signedGrant state =>
      exact serving_admitAndReconcileGit fun p hp hid => hserves p ⟨hp, hid⟩
  refine ensures_checked fun _ _ => ?_
  refine (ensures_lift hpass).bind fun past₂ ended _ => ?_
  cases ended with
  | ok u => exact ensures_pure trivial
  | error error => exact ensures_check fun _ _ => trivial

theorem serving_submitAuthorized {request : SetDeploymentImageRequest} {signedGrant : Bytes}
    (hserves : ∀ p, Approves C entry.authorities request signedGrant p → Serves entry [] p) :
    Ensures (serving entry) [] (submitAuthorized (C := C) entry.authorities request signedGrant)
      fun _ _ => True := by
  cases hbind : bindAuthorization C entry.authorities request signedGrant with
  | ok a =>
    have hwriting : Ensures (Writing (.kubernetes a)) [] (submitAuthorized (C := C)
        entry.authorities request signedGrant) fun _ _ => True :=
      (writing_submitAuthorized hbind).mono fun _ _ _ => trivial
    exact serving_of_passing (hserves _ ⟨a, rfl, hbind⟩)
      (passing_of_writing hwriting not_declined_nil)
  | error error =>
    -- nothing is asked before the grant is bound
    refine ensures_checked fun request' hrequest => ensures_checked fun verified hverified => ?_
    refine ensures_checked fun a ha => ?_
    have hbound : bindAuthorization C entry.authorities request signedGrant = .ok a :=
      bind_eq_ok.mpr ⟨verified, hverified, bind_eq_ok.mpr ⟨request', hrequest, ha⟩⟩
    rw [hbind] at hbound
    cases hbound

end

/-! ## Entries -/

/-- **Every session keeps to the protocol of its approval.** -/
theorem program_serves (entry : Entry) :
    (entry.program C).Meets (serving entry) [] fun _ _ => True := by
  have hserves : ∀ (start : Past C) (p : Approval C) command, entry.command = command →
      Serves ⟨entry.authorities, command⟩ start p → Serves entry start p := by
    rintro start p command rfl h
    exact h
  unfold Entry.program
  cases hcommand : entry.command with
  | submitAuthorized request signedGrant =>
    exact meets_discard (serving_submitAuthorized fun p hp => hserves _ p _ hcommand ⟨rfl, hp⟩)
  | admitAndReconcile request signedGrant adapter settings turns =>
    exact meets_discard (serving_admitAndReconcile fun p hp => hserves _ p _ hcommand ⟨rfl, hp⟩)
  | reconcileLocked request signedGrant adapter settings turns =>
    refine meets_discard (ensures_withLease serving_lock ?_)
    have hpass : Ensures (serving entry) [leased] (reconcileLockedWithAdapter (C := C)
        entry.authorities request signedGrant adapter settings turns) fun _ _ => True := by
      cases hbind : bindAuthorization C entry.authorities request signedGrant with
      | ok a =>
        exact serving_of_acting (hserves _ _ _ hcommand ⟨rfl, a, rfl, hbind⟩)
          (acting_reconcileLocked hbind)
      | error error =>
        refine ensures_checked fun a ha => ?_
        rw [hbind] at ha
        cases ha
    exact (ensures_lift hpass).mono fun _ _ _ => trivial
  | runLockedOperationOnce request signedGrant =>
    refine meets_discard (ensures_withLease serving_lock (ensures_checked fun a ha => ?_))
    exact serving_of_acting (hserves _ _ _ hcommand ⟨rfl, a, rfl, ha⟩)
      (acting_runLockedOperationOnce.mono fun _ _ _ => trivial)
  | admitAndReconcileGit id grant configuration signing =>
    exact meets_discard (serving_admitAndReconcileGit fun p hp hid =>
      hserves _ p _ hcommand ⟨rfl, hp, hid⟩)
  | advance grant receiver signing =>
    refine meets_discard (ensures_withLease serving_lock (ensures_checked fun b hb => ?_))
    exact serving_of_acting (hserves _ _ _ hcommand ⟨rfl, b, rfl, hb⟩) acting_advance
  | historyIds after => exact meets_discard (ensures_historyIds serving_read after)
  | authorizedOperation request signedGrant =>
    exact meets_discard (ensures_checked fun a _ =>
      (ensures_authorizedOperation serving_read a).mono fun _ _ _ => trivial)
  | retainedOperation id =>
    exact meets_discard ((ensures_retainedOperation serving_read).mono fun _ _ _ => trivial)
  | authorizedGit grant =>
    exact meets_discard (ensures_checked fun _ _ =>
      (ensures_gitOperation serving_read).bind fun _ _ _ => ensures_pure trivial)
  | retainedGit id =>
    exact meets_discard ((ensures_retainedGit serving_read).mono fun _ _ _ => trivial)
  | openService approvals =>
    exact meets_discard (ensures_checked fun _ _ =>
      (ensures_checkApprovals serving_read _).bind fun _ _ _ => ensures_pure trivial)
  | select approvals id execution turns => exact meets_discard (serving_select hcommand)
  | admittedState approvals id =>
    exact meets_discard ((ensures_retainedForSelection serving_read).bind fun _ _ _ =>
      ensures_pure trivial)
  | status id => exact meets_discard ((ensures_status serving_read).mono fun _ _ _ => trivial)
  | receipt id => exact meets_discard ((ensures_receipt serving_read).mono fun _ _ _ => trivial)
  | history after =>
    exact meets_discard ((ensures_mapErr (ensures_historyIds serving_read after)).bind fun _ _ _ =>
      (ensures_historyEntries serving_read _).bind fun _ _ _ => ensures_pure trivial)

/-! ## Runs -/

theorem Execution.serves (e : Execution C) :
    Conforms (environment C) serving e.moments e.world := by
  obtain ⟨live, hrun⟩ := e.run
  exact (hrun.conforms program_serves).1

end Gateway
end Kapsel
