import Kapsel.Gateway.Namespace

/-!
# The original authority wins

An identity that has a row is governed by the grant in the row.  The service looks for the row
first, in two snapshots, and turns to its catalog only when both show nothing; and a pass that
was chosen from the catalog looks again, with the lease, before it writes.

`Authentic` is a tuple that was read from the row of an identity and authenticated by the grant
in that row.  `authentic_of_reads` says that a session which starts while the row is there never
reads anything else, `Execution.retained_authority` that whoever writes or consults a receiver for
an identity does it with the grant that is retained, and `ensures_checkApprovals_original` that a
catalog with another grant for the identity does not open.
-/

namespace Kapsel

open Grammar Fallible Authority Interaction Interaction.Program

namespace Gateway

open Journal Application

variable {C : Crypto}

/-! ## Authenticated tuples -/

/-- The tuple is that of the row of the identity, authenticated by the grant of the row. -/
inductive Authentic (C : Crypto) (trust : List AuthorizationTrust) (db : Database) (id : Text)
    (grant : Bytes) : Table → RetainedTuple C → Prop
  | git (b : GitBinding C) (phase : GitPhase) (r : Record .git) :
      GitBinding.verify C grant trust = .ok b → b.authorization.operationId = id →
      stored db .git id = some r → decodeRecord r b = .ok phase →
      Authentic C trust db id grant .git (.git b phase)
  | kubernetes (retained : RetainedOperation) (a : AuthorizedRequest C) :
      retained.signedGrant = grant → authorizeRetained trust id grant = .ok a →
      retained.request = a.request.toAdapterRequest →
      authorizedRecordOn C db a = .ok (some retained.operation) →
      Authentic C trust db id grant .kubernetes (.kubernetes retained)

section
variable {trust : List AuthorizationTrust} {db : Database} {id : Text} {grant : Bytes} {t : Table}

theorem retainedGit_eq_ok {b : GitBinding C} {phase : GitPhase}
    (h : Journal.retainedGit db id trust = .ok (some (b, phase))) :
    ∃ r bytes, stored db .git id = some r ∧ r.value .signedAuthorizationGrant = .blob bytes ∧
      GitBinding.verify C bytes trust = .ok b ∧ b.authorization.operationId = id ∧
      decodeRecord r b = .ok phase := by
  unfold Journal.retainedGit at h
  obtain ⟨record, hread, h⟩ := bind_eq_ok.mp h
  cases record with
  | none => cases h
  | some r =>
    obtain ⟨bytes, hbytes, h⟩ := bind_eq_ok.mp h
    obtain ⟨b', hverify, h⟩ := bind_eq_ok.mp h
    obtain ⟨_, hid, h⟩ := bind_eq_ok.mp h
    obtain ⟨phase', hphase, h⟩ := bind_eq_ok.mp h
    obtain ⟨rfl, rfl⟩ := Prod.mk.inj (Option.some.inj (Except.ok.inj h))
    exact ⟨r, bytes, readTable_eq_ok hread, Record.getBlob_eq_ok.mp hbytes, hverify,
      of_decide_eq_true (require_eq_ok.mp hid), hphase⟩

theorem stored_of_retainedGit_none (h : Journal.retainedGit (C := C) db id trust = .ok none) :
    stored db .git id = none := by
  unfold Journal.retainedGit at h
  obtain ⟨record, hread, h⟩ := bind_eq_ok.mp h
  cases record with
  | none => exact readTable_eq_ok hread
  | some r =>
    obtain ⟨_, -, h⟩ := bind_eq_ok.mp h
    obtain ⟨_, -, h⟩ := bind_eq_ok.mp h
    obtain ⟨_, -, h⟩ := bind_eq_ok.mp h
    obtain ⟨_, -, h⟩ := bind_eq_ok.mp h
    cases h

theorem stored_of_retainedOperation_none
    {authorize : Bytes → Except GatewayError (AuthorizedRequest C)}
    (h : Journal.retainedOperation C db id authorize = .ok none) :
    stored db .kubernetes id = none := by
  unfold Journal.retainedOperation at h
  obtain ⟨record, hread, h⟩ := bind_eq_ok.mp h
  cases record with
  | none => exact readTable_eq_ok hread
  | some r =>
    obtain ⟨_, -, h⟩ := bind_eq_ok.mp h
    obtain ⟨_, -, h⟩ := bind_eq_ok.mp h
    obtain ⟨_, -, h⟩ := bind_eq_ok.mp h
    obtain ⟨found, -, h⟩ := bind_eq_ok.mp h
    cases found with
    | none => cases h
    | some operation => cases h

/-- The snapshot has the identity under this effect with this grant, and not under the other. -/
def Governs (db : Database) (t : Table) (id : Text) (grant : Bytes) : Prop :=
  RetainsGrant db t id grant ∧ stored db t.other id = none

/-- The row of an identity is one row. -/
theorem Governs.agree (h : Governs db t id grant) {t' : Table} {grant' : Bytes}
    (h' : RetainsGrant db t' id grant') : t' = t ∧ grant' = grant := by
  obtain ⟨⟨r, hr, hgrant⟩, hother⟩ := h
  obtain ⟨r', hr', hgrant'⟩ := h'
  by_cases ht : t' = t
  · subst ht
    obtain rfl := Option.some.inj (hr.symm.trans hr')
    exact ⟨rfl, Value.blob.inj (hgrant'.symm.trans hgrant)⟩
  · obtain rfl : t' = t.other := by
      revert ht
      cases t <;> cases t' <;> decide
    cases hother.symm.trans hr'

/-- What is read is nothing, or the tuple of a row. -/
theorem Reads.authentic {own : Past C} {tuple : RetainedTuple C} (h : Reads C trust id own tuple) :
    tuple = .nothing ∨ ∃ db t grant, readOf db ∈ own ∧ RetainsGrant db t id grant ∧
      Authentic C trust db id grant t tuple := by
  cases h with
  | git db b phase hretained =>
    obtain ⟨r, bytes, hr, hbytes, hverify, hid, hphase⟩ := retainedGit_eq_ok hretained
    exact .inr ⟨db, .git, bytes, List.mem_cons_self, ⟨r, hr, hbytes⟩,
      .git b phase r hverify hid hr hphase⟩
  | kubernetes db db' retained hgit hretained =>
    obtain ⟨r, a, hr, hbytes, hauthorize, hrequest, hfound⟩ := retainedOperation_eq_ok hretained
    exact .inr ⟨db', .kubernetes, retained.signedGrant, List.mem_cons_self, ⟨r, hr, hbytes⟩,
      .kubernetes retained a rfl hauthorize hrequest hfound⟩
  | nothing db db' hgit hkubernetes => exact .inl rfl

/-- **What is read of an identity that has a row is the row**, authenticated by its own grant. -/
theorem authentic_of_reads {own : Past C} {tuple : RetainedTuple C}
    (h : Reads C trust id own tuple) (hgoverns : ∀ db, readOf db ∈ own → Governs db t id grant) :
    ∃ db, readOf db ∈ own ∧ Authentic C trust db id grant t tuple := by
  rcases h.authentic with rfl | ⟨db, t', grant', hread, hretains, hauthentic⟩
  · cases h with
    | nothing db db' hgit hkubernetes =>
      obtain ⟨⟨r, hr, -⟩, -⟩ := hgoverns db' List.mem_cons_self
      obtain ⟨⟨r₁, hr₁, -⟩, -⟩ := hgoverns db (List.mem_cons_of_mem _ List.mem_cons_self)
      cases t with
      | git => cases (stored_of_retainedGit_none hgit).symm.trans hr₁
      | kubernetes => cases (stored_of_retainedOperation_none hkubernetes).symm.trans hr
  · obtain ⟨rfl, rfl⟩ := (hgoverns db hread).agree hretains
    exact ⟨db, hread, hauthentic⟩

/-- A selection of an authenticated tuple has the retained grant and the retained state. -/
theorem Authentic.selection {tuple : RetainedTuple C} (h : Authentic C trust db id grant t tuple)
    {approvals : List SelectableApproval} {selected : Selection}
    (hselection : tuple.selection approvals id = .ok selected) :
    selected.signedGrant = grant ∧ selected.retainedState.isSome = true := by
  cases h with
  | git b phase r hverify _ _ _ =>
    obtain rfl := Except.ok.inj hselection
    exact ⟨grant_of_verify hverify, rfl⟩
  | kubernetes retained a hgrant _ _ _ =>
    obtain ⟨_, -, hselected⟩ := bind_eq_ok.mp hselection
    obtain rfl := Except.ok.inj hselected
    exact ⟨hgrant, rfl⟩

/-- The approval of a selection of an authenticated tuple. -/
theorem Authentic.approval {tuple : RetainedTuple C} (h : Authentic C trust db id grant t tuple)
    {approvals : List SelectableApproval} {selected : Selection}
    (hselection : tuple.selection approvals id = .ok selected) {p : Approval C}
    (happroves : SelectionApproves C trust id p selected) : p.table = t ∧ p.grant = grant := by
  have hgrant := (h.selection hselection).1
  cases h with
  | git b phase r _ _ _ _ =>
    obtain rfl := Except.ok.inj hselection
    exact ⟨happroves.1.facts.1, happroves.1.facts.2.trans hgrant⟩
  | kubernetes retained a _ _ _ _ =>
    obtain ⟨_, -, hselected⟩ := bind_eq_ok.mp hselection
    obtain rfl := Except.ok.inj hselected
    exact ⟨happroves.facts.1, happroves.facts.2.2.trans hgrant⟩

end

/-! ## Opening a catalog -/

/-- The handle of a Git approval is what its grant says. -/
def GitCoherent (C : Crypto) (approval : SelectableApproval) : Prop :=
  ∀ authorization label, approval.handle = .git authorization label →
    ∃ trust grant, verifyGitRefGrant C approval.signedGrant trust = .ok grant ∧
      grant.authorization = authorization

theorem gitCoherent_of_approvedHandle {approval : ServiceApproval}
    {trust : List AuthorizationTrust} {handle : ApprovedAction}
    (h : approvedHandle C approval trust = .ok handle) :
    GitCoherent C ⟨handle, approval.signedGrant⟩ := by
  rintro authorization label rfl
  induction trust with
  | nil => cases h
  | cons appointment trust ih =>
    unfold approvedHandle at h
    split at h
    · dsimp only at h
      split at h
      · cases h
      · cases Except.ok.inj h
    · split at h
      · rename_i grant hgrant
        obtain ⟨rfl, rfl⟩ := ApprovedAction.git.inj (Except.ok.inj h)
        exact ⟨appointment, grant, hgrant, rfl⟩
      · exact ih h

theorem gitCoherent_of_selectApprovals {trust : List AuthorizationTrust}
    {approvals : List SelectableApproval} {rest : List ServiceApproval}
    {selectable : List SelectableApproval}
    (h : selectApprovals C trust approvals rest = .ok selectable)
    (hbefore : ∀ approval ∈ approvals, GitCoherent C approval) :
    ∀ approval ∈ selectable, GitCoherent C approval := by
  induction rest generalizing approvals with
  | nil =>
    obtain rfl := Except.ok.inj h
    exact hbefore
  | cons approval rest ih =>
    unfold selectApprovals at h
    obtain ⟨handle, hhandle, h⟩ := bind_eq_ok.mp h
    obtain ⟨_, -, h⟩ := bind_eq_ok.mp h
    refine ih h fun approval' hmem => ?_
    rcases List.mem_append.mp hmem with hmem | hmem
    · exact hbefore approval' hmem
    · obtain rfl := List.mem_singleton.mp hmem
      exact gitCoherent_of_approvedHandle hhandle

/-- The catalog of an accepted configuration. -/
theorem gitCoherent_of_validateConfiguration {configuration : ServiceConfiguration}
    {selectable : List SelectableApproval}
    (h : validateConfiguration C configuration = .ok selectable) :
    ∀ approval ∈ selectable, GitCoherent C approval := by
  obtain ⟨_, -, h⟩ := bind_eq_ok.mp h
  obtain ⟨_, -, h⟩ := bind_eq_ok.mp h
  obtain ⟨_, -, h⟩ := bind_eq_ok.mp h
  obtain ⟨_, -, h⟩ := bind_eq_ok.mp h
  exact gitCoherent_of_selectApprovals h fun _ hmem => absurd hmem List.not_mem_nil

/-- Every snapshot of the session has the identity under this effect with this grant. -/
def Governed (t : Table) (id : Text) (grant : Bytes) (past : Past C) : Prop :=
  ∀ db, readOf db ∈ past → Governs db t id grant

section
variable {trust : List AuthorizationTrust} {t : Table} {id : Text} {grant : Bytes} {past : Past C}

theorem Governed.of_suffix {past' : Past C} (h : Governed t id grant past')
    (hpast : past <:+ past') : Governed t id grant past := fun db hdb => h db (hpast.subset hdb)

/-- A look for an identity that has a row finds the row, and it has the grant of the approval. -/
theorem Governs.of_finds {db : Database} {p : Approval C} {state : OperationState}
    (h : Governs db t p.operationId grant) (hfinds : p.Finds db state) :
    p.table = t ∧ p.grant = grant := by
  refine h.agree ?_
  cases p with
  | kubernetes a =>
    obtain ⟨loaded, hloaded, -⟩ := hfinds
    obtain ⟨r, hr, -, hgrant⟩ := authorizedRecordOn_eq_ok hloaded
    exact ⟨r, hr, hgrant⟩
  | git b =>
    obtain ⟨r, phase, hr, hdecode, -⟩ := hfinds
    exact ⟨r, hr, grant_of_decodeRecord hdecode⟩

/-- A look for an identity that has a row does not miss. -/
theorem Governed.not_misses {p : Approval C} {reads : Past C}
    (h : Governed t p.operationId grant reads) : ¬ p.Misses reads := by
  intro hmisses
  have hnothing := hmisses.readsNothing
  cases p with
  | kubernetes a =>
    obtain ⟨db, rfl, hkubernetes, hgit⟩ := hnothing
    obtain ⟨⟨r, hr, -⟩, -⟩ := h db List.mem_cons_self
    cases t with
    | kubernetes => cases hkubernetes.symm.trans hr
    | git => cases hgit.symm.trans hr
  | git b =>
    obtain ⟨db, db', rfl, hgit, hkubernetes⟩ := hnothing
    obtain ⟨⟨r, hr, -⟩, -⟩ := h db (List.mem_cons_of_mem _ List.mem_cons_self)
    obtain ⟨⟨r', hr', -⟩, -⟩ := h db' List.mem_cons_self
    cases t with
    | kubernetes => cases hkubernetes.symm.trans hr'
    | git => cases hgit.symm.trans hr

/-- What a look found of an identity that has a row: the grant of the approval is the retained
one. -/
theorem Governed.of_looks {p : Approval C} {past' : Past C} {found : Option OperationState}
    (h : Governed t p.operationId grant past') (hlooks : Looks p past past' found) :
    p.table = t ∧ p.grant = grant := by
  cases found with
  | some state =>
    obtain ⟨db, rfl, hfinds⟩ := hlooks
    exact (h db List.mem_cons_self).of_finds hfinds
  | none =>
    obtain ⟨reads, rfl, hmisses⟩ := hlooks
    exact absurd hmisses (Governed.not_misses fun db hdb => h db (List.mem_append_left _ hdb))

/-! ## Results of the reads -/

/-- The check of an entry of the catalog: its grant is the retained one. -/
theorem ensures_checkApproval_original {approval : SelectableApproval}
    (hcoherent : GitCoherent C approval) :
    Ensures (fun _ _ => True) past (checkApproval (C := C) trust approval) fun past' _ =>
      ∀ t grant, Governed t approval.handle.operationId grant past' →
        approval.signedGrant = grant := by
  unfold checkApproval
  split
  · rename_i request target label hhandle
    have hoperation : Ensures (fun _ _ => True) past
        (Gateway.authorizedOperation (C := C) trust request approval.signedGrant)
        fun past' _ => ∀ t grant, Governed t approval.handle.operationId grant past' →
          approval.signedGrant = grant := by
      refine ensures_checked fun a ha => ?_
      obtain ⟨hid, hgrant⟩ := bindAuthorization_eq_ok ha
      have hlook : Settles (fun _ _ => True) past (Storage.authorizedOperation a)
          (fun past' loaded => Looks (.kubernetes a) past past' (loaded.map (·.state)))
          fun _ => True := settles_authorizedOperation fun _ => trivial
      refine hlook.ensures.mono fun past' loaded hlooks t grant hgoverned => ?_
      have hname : approval.handle.operationId = (Approval.kubernetes a).operationId := by
        rw [hhandle]
        exact hid.symm
      rw [hname] at hgoverned
      exact hgrant.symm.trans (hgoverned.of_looks hlooks).2
    exact hoperation.bind fun _ _ h => ensures_pure h
  · rename_i authorization label hhandle
    have hoperation : Ensures (fun _ _ => True) past
        (Gateway.authorizedGit (C := C) trust approval.signedGrant)
        fun past' _ => ∀ t grant, Governed t approval.handle.operationId grant past' →
          approval.signedGrant = grant := by
      refine ensures_checked fun b hb => ?_
      have hgrant := grant_of_verify hb
      have hlook : Settles (fun _ _ => True) past (Storage.gitOperation b)
          (fun past' found => Looks (.git b) past past' (found.map (·.state)))
          fun _ => True := settles_gitOperation fun _ => trivial
      refine hlook.ensures.bind fun past' found hlooks => ensures_pure fun t grant hgoverned => ?_
      have hname : approval.handle.operationId = (Approval.git b).operationId := by
        obtain ⟨appointment, verified, hverified, rfl⟩ := hcoherent authorization label hhandle
        obtain ⟨trust', hauthentic⟩ := b.authentic
        rw [hgrant] at hauthentic
        rw [hhandle, verifyGitRefGrant_deterministic hverified hauthentic]
        rfl
      rw [hname] at hgoverned
      exact hgrant.symm.trans (hgoverned.of_looks hlooks).2
    exact hoperation.bind fun _ _ h => ensures_pure h

theorem ensures_checkApprovals_original {approvals : List SelectableApproval}
    (hcoherent : ∀ approval ∈ approvals, GitCoherent C approval) :
    Ensures (fun _ _ => True) past (checkApprovals (C := C) trust approvals) fun past' _ =>
      ∀ approval ∈ approvals, ∀ t grant, Governed t approval.handle.operationId grant past' →
        approval.signedGrant = grant := by
  induction approvals generalizing past with
  | nil => exact ensures_pure fun approval hmem => absurd hmem List.not_mem_nil
  | cons approval rest ih =>
    have hhead := hcoherent approval List.mem_cons_self
    have hrest : ∀ approval' ∈ rest, GitCoherent C approval' :=
      fun approval' hmem => hcoherent approval' (List.mem_cons_of_mem _ hmem)
    refine (ensures_mapErr (ensures_checkApproval_original hhead)).bind fun past₁ _ h₁ => ?_
    refine (ih hrest).suffix.mono fun past₂ _ h₂ approval' hmem t grant hgoverned => ?_
    rcases List.mem_cons.mp hmem with rfl | hmem
    · exact h₁ t grant (hgoverned.of_suffix h₂.1)
    · exact h₂.2 approval' hmem t grant hgoverned

/-- **A catalog that opens has the retained grant for every identity that has a row.** -/
theorem ensures_openService_original {configuration : ServiceConfiguration} :
    Ensures (fun _ _ => True) past (openService (C := C) configuration) fun past' selectable =>
      ∀ approval ∈ selectable, ∀ t grant, Governed t approval.handle.operationId grant past' →
        approval.signedGrant = grant := by
  refine ensures_checked fun selectable hselectable => ?_
  exact (ensures_checkApprovals_original (gitCoherent_of_validateConfiguration hselectable)).bind
    fun _ _ h => ensures_pure h

/-- Every entry of a page is what was read of its identity. -/
theorem ensures_historyEntries_reads (ids : List Text) :
    Ensures (fun _ _ => True) past (historyEntries (C := C) trust ids) fun past' entries =>
      ∀ shown ∈ entries, ∀ found, shown.status = .ok found → ∃ reads tuple,
        (∀ x ∈ reads, x ∈ past') ∧ Reads C trust shown.operationId reads tuple ∧
          tuple.status = .ok found := by
  induction ids generalizing past with
  | nil => exact ensures_pure fun shown hmem => absurd hmem List.not_mem_nil
  | cons id rest ih =>
    refine (ensures_lift (ensures_status_reads fun _ => trivial)).bind fun past₁ found h₁ => ?_
    refine ih.suffix.bind fun past₂ entries h₂ => ensures_pure fun shown hmem status hstatus => ?_
    rcases List.mem_cons.mp hmem with rfl | hmem
    · obtain ⟨reads, tuple, rfl, hreads, hfound⟩ := h₁ status hstatus
      exact ⟨reads, tuple, fun x hx => h₂.1.subset (List.mem_append_left _ hx), hreads, hfound⟩
    · exact h₂.2 shown hmem status hstatus

theorem ensures_history_reads {after : Option Text} :
    Ensures (fun _ _ => True) past (Application.history (C := C) trust after) fun past' page =>
      ∀ shown ∈ page.entries, ∀ found, shown.status = .ok found → ∃ reads tuple,
        (∀ x ∈ reads, x ∈ past') ∧ Reads C trust shown.operationId reads tuple ∧
          tuple.status = .ok found :=
  (ensures_mapErr (ensures_historyIds (fun _ => trivial) after)).bind fun _ _ _ =>
    (ensures_historyEntries_reads _).bind fun _ _ h => ensures_pure h

/-- A selection that ends without an error made its choice from what it read. -/
theorem ensures_select_reads {approvals : List SelectableApproval} {execution : ServiceExecution}
    {turns : ℕ} :
    Ensures (fun _ _ => True) past (select (C := C) trust approvals id execution turns)
      fun past' _ => ∃ reads tuple selected, (∀ x ∈ reads, x ∈ past') ∧
        Reads C trust id reads tuple ∧ tuple.selection approvals id = .ok selected := by
  refine (ensures_selection_reads fun _ => trivial).bind fun past₁ selected h₁ => ?_
  obtain ⟨reads, tuple, rfl, hreads, hselection⟩ := h₁
  have hrest : Ensures (fun _ _ => True) (reads ++ past) (do
      check (require (execution.receiptSigning.all fun settings => identityIsValid settings.keyId)
        .configuration)
      classified (selectedPass (C := C) trust id execution turns selected)) fun _ _ => True :=
    ensures_of_forall fun _ _ _ => trivial
  refine hrest.suffix.mono fun past₂ _ h₂ => ⟨reads, tuple, selected, fun x hx => ?_, hreads,
    hselection⟩
  exact h₂.1.subset (List.mem_append_left _ hx)

end

/-! ## Calls on an identity that has a row -/

/-- A read of the session showed the row of the identity, and by the authorities of the handle
its own grant authenticates this tuple. -/
def Retells (e : Execution C) (s : ℕ) (trust : List AuthorizationTrust) (t : Table) (id : Text)
    (grant : Bytes) (tuple : RetainedTuple C) : Prop :=
  ∃ m ∈ e.moments, m.session = s ∧ m.deed = .act (readOf m.before.db) ∧
    Authentic C trust m.before.db id grant t tuple

section
variable {e : Execution C} {s : ℕ} {t : Table} {id : Text} {grant : Bytes}
  {trust : List AuthorizationTrust}

/-- The snapshots of a session that starts while the row is there. -/
theorem Execution.governed_of_start (e : Execution C) {m₀ : Event C} {entry : Entry}
    (hm₀ : m₀ ∈ e.moments) (hstart : m₀.deed = .start entry)
    (hretains : RetainsGrant m₀.before.db t id grant) :
    Governed t id grant (history m₀.session e.moments) := by
  intro db hread
  obtain ⟨m, hm, hs, hdeed⟩ := mem_history.mp hread
  obtain rfl := e.sound.reads m hm db hdeed
  have hretains' := hretains.evolves (e.evolves_of_start hm₀ hstart hm hs hdeed)
  have hrow := hretains'
  obtain ⟨r, hr, -⟩ := hrow
  exact ⟨hretains', e.separate hm _ _ _ hr⟩

/-- What such a session reads of the identity. -/
theorem retells_of_reads (hgoverned : Governed t id grant (history s e.moments))
    {reads : Past C} {tuple : RetainedTuple C} (hmem : ∀ x ∈ reads, x ∈ history s e.moments)
    (hreads : Reads C trust id reads tuple) : Retells e s trust t id grant tuple := by
  obtain ⟨db, hread, hauthentic⟩ :=
    authentic_of_reads hreads fun db hdb => hgoverned db (hmem _ hdb)
  obtain ⟨m, hm, hs, hdeed⟩ := mem_history.mp (hmem _ hread)
  obtain rfl := e.sound.reads m hm db hdeed
  exact ⟨m, hm, hs, hdeed, hauthentic⟩

/-- What the calls on an identity that has a row are worth: a call that does not fail reports the
row, as the retained grant authenticates it. -/
structure RetainedDecides (e : Execution C) (s : ℕ) (entry : Entry) (t : Table) (id : Text)
    (grant : Bytes) : Prop where
  statusIs : ∀ trust result,
    Returns (status (C := C) trust id).run (history s e.moments) (.ok result) →
      ∃ tuple, Retells e s trust t id grant tuple ∧ tuple.status = .ok result
  receiptIs : ∀ trust result,
    Returns (receipt (C := C) trust id).run (history s e.moments) (.ok result) →
      ∃ tuple, Retells e s trust t id grant tuple ∧ tuple.receipt = result
  pageShows : ∀ trust after page,
    Returns (Application.history (C := C) trust after).run (history s e.moments) (.ok page) →
      ∀ shown ∈ page.entries, shown.operationId = id → ∀ found, shown.status = .ok found →
        ∃ tuple, Retells e s trust t id grant tuple ∧ tuple.status = .ok found
  stateIs : ∀ trust approvals state,
    Returns (admittedState (C := C) trust approvals id).run (history s e.moments) (.ok state) →
      ∃ tuple selected, Retells e s trust t id grant tuple ∧
        tuple.selection approvals id = .ok selected ∧ selected.signedGrant = grant ∧
        selected.retainedState = state ∧ state.isSome = true
  selects : ∀ trust approvals execution turns stop,
    Returns (select (C := C) trust approvals id execution turns).run (history s e.moments)
      (.ok stop) → ∃ tuple selected, Retells e s trust t id grant tuple ∧
        tuple.selection approvals id = .ok selected ∧ selected.signedGrant = grant
  /-- A selection acts for no other approval than the retained one, even if it fails later. -/
  actsFor : ∀ approvals execution turns, entry.command = .select approvals id execution turns →
    ∀ own start p, history s e.moments = own ++ start → Serves entry start p →
      p.table = t ∧ p.operationId = id ∧ p.grant = grant
  /-- A catalog that opens has no other grant for the identity. -/
  catalogHas : ∀ configuration selectable,
    Returns (openService (C := C) configuration).run (history s e.moments) (.ok selectable) →
      ∀ approval ∈ selectable, approval.handle.operationId = id → approval.signedGrant = grant

theorem retainedDecides_of_governed {entry : Entry}
    (hgoverned : Governed t id grant (history s e.moments)) :
    RetainedDecides e s entry t id grant where
  statusIs trust result hreturns := by
    have hensures : Ensures (fun _ _ => True) [] (Application.status (C := C) trust id) _ :=
      ensures_status_reads fun _ => trivial
    obtain ⟨reads, tuple, hpast, hreads, hresult⟩ := hensures.returns hreturns
    rw [List.append_nil] at hpast
    exact ⟨tuple, retells_of_reads hgoverned (fun x hx => hpast ▸ hx) hreads, hresult⟩
  receiptIs trust result hreturns := by
    have hensures : Ensures (fun _ _ => True) [] (Application.receipt (C := C) trust id) _ :=
      ensures_receipt_reads fun _ => trivial
    obtain ⟨reads, tuple, hpast, hreads, hresult⟩ := hensures.returns hreturns
    rw [List.append_nil] at hpast
    exact ⟨tuple, retells_of_reads hgoverned (fun x hx => hpast ▸ hx) hreads, hresult⟩
  pageShows trust after page hreturns := by
    rintro shown hshown rfl found hfound
    obtain ⟨reads, tuple, hmem, hreads, hresult⟩ :=
      ensures_history_reads.returns hreturns shown hshown found hfound
    exact ⟨tuple, retells_of_reads hgoverned hmem hreads, hresult⟩
  stateIs trust approvals state hreturns := by
    have hensures : Ensures (fun _ _ => True) []
        (Application.admittedState (C := C) trust approvals id) fun past' state =>
          ∃ selected, (∃ own tuple, past' = own ++ [] ∧ Reads C trust id own tuple ∧
            tuple.selection approvals id = .ok selected) ∧ selected.retainedState = state :=
      (ensures_selection_reads fun _ => trivial).bind fun _ selected h =>
        ensures_pure ⟨selected, h, rfl⟩
    obtain ⟨selected, ⟨reads, tuple, hpast, hreads, hselection⟩, rfl⟩ := hensures.returns hreturns
    rw [List.append_nil] at hpast
    have hretells := retells_of_reads hgoverned (fun x hx => hpast ▸ hx) hreads
    have hmoment := hretells
    obtain ⟨m, -, -, -, hauthentic⟩ := hmoment
    obtain ⟨hgrant, hstate⟩ := hauthentic.selection hselection
    exact ⟨tuple, selected, hretells, hselection, hgrant, rfl, hstate⟩
  selects trust approvals execution turns stop hreturns := by
    obtain ⟨reads, tuple, selected, hmem, hreads, hselection⟩ :=
      ensures_select_reads.returns hreturns
    have hretells := retells_of_reads hgoverned hmem hreads
    have hmoment := hretells
    obtain ⟨m, -, -, -, hauthentic⟩ := hmoment
    exact ⟨tuple, selected, hretells, hselection, (hauthentic.selection hselection).1⟩
  actsFor approvals execution turns hcommand own start p hhistory hserves := by
    have hnames : entry.command.identity = some id := by
      rw [hcommand]
      rfl
    have hid := hserves.operationId hnames
    unfold Serves at hserves
    rw [hcommand] at hserves
    obtain ⟨tuple, selected, hreads, hselection, happroves⟩ := hserves
    have hmem : ∀ x ∈ start, x ∈ history s e.moments :=
      fun x hx => hhistory ▸ List.mem_append_right own hx
    obtain ⟨m, -, -, -, hauthentic⟩ := retells_of_reads hgoverned hmem hreads
    obtain ⟨htable, hgrant⟩ := hauthentic.approval hselection happroves
    exact ⟨htable, hid, hgrant⟩
  catalogHas configuration selectable hreturns := by
    rintro approval hmem rfl
    exact ensures_openService_original.returns hreturns approval hmem t grant hgoverned

end

/-! ## The approval of an exchange -/

section
variable {trust : List AuthorizationTrust} {id : Text} {own own' start start' : Past C}

/-- The same session reads one tuple. -/
theorem Reads.unique {tuple tuple' : RetainedTuple C} (h : Reads C trust id start tuple)
    (h' : Reads C trust id start' tuple') (hpast : own ++ start = own' ++ start') :
    tuple' = tuple := by
  -- both beginnings end with the oldest exchange of the session
  have holdest : ∀ {l l' : Past C} {db db' : Database}, l ++ [readOf db] = l' ++ [readOf db'] →
      l = l' ∧ db = db' := by
    intro l l' db db' heq
    obtain ⟨hinit, hlast⟩ := List.append_inj' heq rfl
    have hread : readOf db = (readOf db' : Exchange (Call C) Answer) := (List.cons.inj hlast).1
    unfold readOf at hread
    cases hread
    exact ⟨hinit, rfl⟩
  have hpair : ∀ (l : Past C) (db db' : Database),
      l ++ [readOf db', readOf db] = (l ++ [readOf db']) ++ [readOf db] := by
    intro l db db'
    rw [List.append_assoc]
    rfl
  have hgit : ∀ {db db' : Database} {found found' : Option (GitBinding C × GitPhase)},
      db = db' → Journal.retainedGit db id trust = .ok found →
      Journal.retainedGit db' id trust = .ok found' → found = found' := by
    rintro db _ found found' rfl hfound hfound'
    exact Except.ok.inj (hfound.symm.trans hfound')
  cases h with
  | git db b phase hfound =>
    cases h' with
    | git db' b' phase' hfound' =>
      cases hgit (holdest hpast).2 hfound hfound'
      rfl
    | kubernetes db' db₂ retained hfound' _ =>
      rw [hpair] at hpast
      cases hgit (holdest hpast).2 hfound hfound'
    | nothing db' db₂ hfound' _ =>
      rw [hpair] at hpast
      cases hgit (holdest hpast).2 hfound hfound'
  | kubernetes db db₂ retained hfound hretained =>
    rw [hpair] at hpast
    cases h' with
    | git db' b' phase' hfound' => cases hgit (holdest hpast).2 hfound hfound'
    | kubernetes db' db₂' retained' hfound' hretained' =>
      rw [hpair] at hpast
      obtain rfl := (holdest (holdest hpast).1).2
      cases hretained.symm.trans hretained'
      rfl
    | nothing db' db₂' hfound' hnone =>
      rw [hpair] at hpast
      obtain rfl := (holdest (holdest hpast).1).2
      cases hretained.symm.trans hnone
  | nothing db db₂ hfound hnone =>
    rw [hpair] at hpast
    cases h' with
    | git db' b' phase' hfound' => cases hgit (holdest hpast).2 hfound hfound'
    | kubernetes db' db₂' retained' hfound' hretained' =>
      rw [hpair] at hpast
      obtain rfl := (holdest (holdest hpast).1).2
      cases hnone.symm.trans hretained'
    | nothing db' db₂' hfound' hnone' => rfl

/-- **A session acts for one approval.** -/
theorem Serves.unique {entry : Entry} {p q : Approval C} (h : Serves entry start p)
    (h' : Serves entry start' q) (hpast : own ++ start = own' ++ start') : q = p := by
  obtain ⟨authorities, command⟩ := entry
  cases command with
  | submitAuthorized => exact h.2.unique h'.2
  | admitAndReconcile => exact h.2.unique h'.2
  | reconcileLocked => exact h.2.unique h'.2
  | runLockedOperationOnce => exact h.2.unique h'.2
  | admitAndReconcileGit => exact h.2.1.unique h'.2.1
  | advance => exact h.2.unique h'.2
  | select approvals id execution turns =>
    obtain ⟨tuple, selected, hreads, hselection, happroves⟩ := h
    obtain ⟨tuple', selected', hreads', hselection', happroves'⟩ := h'
    obtain rfl := hreads.unique hreads' hpast
    obtain rfl := Except.ok.inj (hselection.symm.trans hselection')
    cases selected with
    | kubernetes request signedGrant state => exact Approves.unique happroves happroves'
    | git signedGrant state => exact ApprovesGit.unique happroves.1 happroves'.1
  | _ => exact h.elim

end

/-- A question for an adapter or a receiver about an operation. -/
def Call.consults : Call C → Bool
  | .identify _ => true
  | .apply _ => true
  | .observe _ _ => true
  | .prepare _ _ => true
  | .send _ => true
  | .observeRef _ => true
  | _ => false

/-- The session acts for the approval, and what it does here belongs to its pass. -/
def ActsFor (earlier : List (Event C)) (m : Event C) (p : Approval C) : Prop :=
  ∃ entry own start c answer, active m.session earlier = some entry ∧
    m.deed = .act ⟨c, answer⟩ ∧ history m.session earlier = own ++ start ∧
    Serves entry start p ∧ Passing p own c

section
variable {p : Approval C} {later earlier : List (Event C)} {m : Event C} {c : Call C}
  {answer : Answer c}

theorem ActsFor.unique {q : Approval C} (h : ActsFor earlier m p) (h' : ActsFor earlier m q) :
    q = p := by
  obtain ⟨entry, own, start, _, _, hactive, -, hhistory, hserves, -⟩ := h
  obtain ⟨entry', own', start', _, _, hactive', -, hhistory', hserves', -⟩ := h'
  obtain rfl := Option.some.inj (hactive.symm.trans hactive')
  exact hserves.unique hserves' (hhistory.symm.trans hhistory')

/-- A receiver is asked only after a read that found the row. -/
theorem Passing.shown_of_consults {own : Past C} (h : Passing p own c)
    (hc : c.consults = true) : p.Shown own := by
  cases c with
  | identify => exact h.1.1.shown
  | observe => exact h.1.1.shown
  | prepare => exact h.1.1.shown
  | observeRef => exact h.1.shown
  | apply => exact h.1.1
  | send => exact h.1.1
  | _ => cases hc

/-- A row that was found is still there. -/
theorem Execution.governs_of_shown (e : Execution C) (hsplit : e.moments = later ++ m :: earlier)
    {own start : Past C} (hhistory : history m.session earlier = own ++ start)
    (hshown : p.Shown own) : Governs m.before.db p.table p.operationId p.grant := by
  obtain ⟨db, state, hread, hfinds⟩ := hshown
  have hm : m ∈ e.moments := by
    rw [hsplit]
    exact List.mem_append_right _ List.mem_cons_self
  have hsplit' : e.moments = (later ++ [m]) ++ earlier := by
    rw [hsplit, List.append_assoc]
    rfl
  have hmem : readOf db ∈ history m.session earlier := by
    rw [hhistory]
    exact List.mem_append_left start hread
  obtain ⟨m', hm', -, -, hafter, hlawful⟩ := e.exists_read hsplit' hmem
  have hevolves := e.evolves_of_mem hsplit hm'
  rw [hafter] at hevolves
  have hretains := (hfinds.retains hlawful).grant.evolves hevolves
  have hrow := hretains
  obtain ⟨r, hr, -⟩ := hrow
  exact ⟨hretains, e.separate hm _ _ _ hr⟩

/-- Who changes the journal, or asks a receiver, acts for an approval. -/
theorem Execution.exists_actsFor (e : Execution C) (hsplit : e.moments = later ++ m :: earlier)
    (hdeed : m.deed = .act ⟨c, answer⟩)
    (hmatters : c.consults = true ∨ m.after.db ≠ m.before.db) : ∃ p, ActsFor earlier m p := by
  have hm : m ∈ e.moments := by
    rw [hsplit]
    exact List.mem_append_right _ List.mem_cons_self
  have hwrite : m.after.db ≠ m.before.db → ∃ x, c = .replace x := by
    intro hne
    obtain ⟨x, ⟨answer', hdeed'⟩, -⟩ := e.commits_of_ne hm hne
    exact ⟨x, congrArg Exchange.call (Deed.act.inj (hdeed.symm.trans hdeed'))⟩
  have hconforms := e.serves
  rw [hsplit] at hconforms
  obtain ⟨entry, hactive, hserving, -⟩ := hconforms.of_append.exchange hdeed
  rcases hserving with rfl | ⟨rfl, -⟩ | ⟨p, own, start, hhistory, hserves, hpassing⟩
  · rcases hmatters with hconsults | hne
    · cases hconsults
    · obtain ⟨x, hx⟩ := hwrite hne
      cases hx
  · rcases hmatters with hconsults | hne
    · cases hconsults
    · obtain ⟨x, hx⟩ := hwrite hne
      cases hx
  · exact ⟨p, entry, own, start, c, answer, hactive, hdeed, hhistory, hserves, hpassing⟩

/-- An admission that takes effect finds the identity in neither table. -/
theorem Execution.absent_of_admission (e : Execution C) (hm : m ∈ e.moments)
    {answer : Answer (.replace p.admission)} (hdeed : m.deed = .act ⟨.replace p.admission, answer⟩)
    (hne : m.after.db ≠ m.before.db) : ∀ t, stored m.before.db t p.operationId = none := by
  obtain ⟨x, hcommits⟩ := e.commits_of_ne hm hne
  obtain ⟨t, id, before, after, hcommits', hmoves⟩ := e.moves hm hcommits
  obtain ⟨answer', hdeed'⟩ := hcommits.1
  have hx : p.admission = x :=
    Call.replace.inj (congrArg Exchange.call (Deed.act.inj (hdeed.symm.trans hdeed')))
  subst hx
  have hboth : ∀ {t : Table} {id : Text} {after : Record t},
      Commits m.before.db m.after.db id none after →
      ∀ t', stored m.before.db t' id = none := by
    intro t id after hcommit t'
    by_cases ht : t' = t
    · subst ht
      exact hcommit.before
    · obtain rfl : t' = t.other := by
        revert ht
        cases t <;> cases t' <;> decide
      exact hcommit.fresh rfl
  cases p with
  | kubernetes a =>
    cases hmoves with
    | insertRequested =>
      obtain rfl := id_of_phaseRecord hcommits'
      exact hboth hcommits'
    | advance hadvances _ => cases hadvances
    | gitAdvance hadvances _ => cases hadvances
  | git b =>
    cases hmoves with
    | insertGit =>
      obtain rfl := id_of_gitRecord hcommits'
      exact hboth hcommits'
    | advance hadvances _ => cases hadvances
    | gitAdvance hadvances _ => cases hadvances

/-- **Whoever writes or asks a receiver for an identity does it under the retained grant**, or
admits the identity where neither table has it. -/
theorem Execution.retained_authority (e : Execution C) (hsplit : e.moments = later ++ m :: earlier)
    (hdeed : m.deed = .act ⟨c, answer⟩)
    (hmatters : c.consults = true ∨ m.after.db ≠ m.before.db) (hacts : ActsFor earlier m p) :
    (Governs m.before.db p.table p.operationId p.grant ∧ c ≠ .replace p.admission) ∨
      (c = .replace p.admission ∧ ∀ t, stored m.before.db t p.operationId = none) := by
  have hm : m ∈ e.moments := by
    rw [hsplit]
    exact List.mem_append_right _ List.mem_cons_self
  obtain ⟨entry, own, start, c', answer', -, hdeed', hhistory, -, hpassing⟩ := hacts
  cases hdeed.symm.trans hdeed'
  rcases hmatters with hconsults | hne
  · refine .inl ⟨e.governs_of_shown hsplit hhistory (hpassing.shown_of_consults hconsults), ?_⟩
    rintro rfl
    cases hconsults
  · obtain ⟨x, ⟨answer₂, hdeed₂⟩, -⟩ := e.commits_of_ne hm hne
    obtain rfl : c = .replace x := congrArg Exchange.call (Deed.act.inj (hdeed.symm.trans hdeed₂))
    rcases hpassing.1 with ⟨rfl, -⟩ | ⟨hupdates, hshown⟩
    · exact .inr ⟨rfl, e.absent_of_admission hm hdeed hne⟩
    · refine .inl ⟨e.governs_of_shown hsplit hhistory hshown, fun hadmission => ?_⟩
      obtain rfl := Call.replace.inj hadmission
      have hexpected := hupdates.expected
      cases p with
      | kubernetes a => cases hexpected
      | git b => cases hexpected

end

/-! ## The main theorem -/

/-- **The original authority wins.**  In every run: a call on an identity that has a row when the
call starts reports the row as the retained grant authenticates it, acts for the retained grant
only, or fails, and a catalog with another grant for the identity does not open.  And whoever
changes a row or asks a receiver, whatever catalog or grant it was given and whenever it was
opened, does it under the grant in the row of the identity; only the admission itself finds no row,
and then neither table has one. -/
theorem original_authority_wins (e : Execution C) :
    (∀ m₀ ∈ e.moments, ∀ entry t id grant, m₀.deed = .start entry →
      RetainsGrant m₀.before.db t id grant →
        RetainedDecides e m₀.session entry t id grant) ∧
    (∀ later m earlier c answer, e.moments = later ++ m :: earlier → m.deed = .act ⟨c, answer⟩ →
      (c.consults = true ∨ m.after.db ≠ m.before.db) →
      ∃ p, ActsFor earlier m p ∧ (∀ q, ActsFor earlier m q → q = p) ∧
        ((Governs m.before.db p.table p.operationId p.grant ∧ c ≠ .replace p.admission) ∨
          (c = .replace p.admission ∧ ∀ t, stored m.before.db t p.operationId = none))) := by
  constructor
  · intro m₀ hm₀ entry t id grant hstart hretains
    exact retainedDecides_of_governed (e.governed_of_start hm₀ hstart hretains)
  · intro later m earlier c answer hsplit hdeed hmatters
    obtain ⟨p, hacts⟩ := e.exists_actsFor hsplit hdeed hmatters
    exact ⟨p, hacts, fun q hq => hacts.unique hq,
      e.retained_authority hsplit hdeed hmatters hacts⟩

end Gateway
end Kapsel
