import Kapsel.Application.Catalog
import Kapsel.Gateway.Agreement
import Kapsel.Gateway.Browsing

/-!
# What the renderers are given

Everything that a reply shows comes from a verified grant or from a row of the journal, and the
checks on these bound every text.  `Presentable` says what is known of a status and its targets,
`ReceiptPresentable` of a receipt and `ActionPresentable` of an entry of the catalog.

* `presentable_of_reads`: what is read from lawful snapshots is presentable.
* `actionPresentable_of_validateConfiguration`: so is every entry of an accepted catalog.
* `ensures_history_presentable`: so is every entry of a page of the history, whatever other
  sessions write between its snapshots.
-/

namespace Kapsel

open Grammar Fallible Authority Interaction Interaction.Program

namespace Daemon

open Gateway Gateway.Journal Application

variable {C : Crypto}

/-! ## Statuses -/

/-- The rejections of the Kubernetes effect. -/
def kubernetesRejections : List TargetRejection :=
  [.deploymentNotFound, .containerNotFound, .invalidTarget, .staleApproval]

/-- The rejections of the Git effect. -/
def gitRejections : List TargetRejection := [.gitStaleRef, .gitInvalidObjects]

/-- What is known of a status and its targets, whoever reads them. -/
inductive Presentable : OperationStatus → OperationTargets → Prop
  | notFound : Presentable .notFound {}
  | kubernetes (status : OperationStatus) (approvedTarget attemptTarget : Option ApprovedTarget)
      (observedTarget : Option ObservedTarget) :
      status ≠ .notFound → (∀ rejection, status = .notAttempted rejection →
        rejection ∈ kubernetesRejections) →
      (∀ target ∈ approvedTarget, target.isValid = true) →
      (∀ target ∈ attemptTarget, target.isValid = true) →
      (∀ target ∈ observedTarget, target.uid.all factIsValid = true ∧
        target.resourceVersion.all factIsValid = true) →
      Presentable status { approvedTarget, attemptTarget, observedTarget }
  | git (status : OperationStatus) (targets : GitOperationTargets) :
      status ≠ .notFound → (∀ rejection, status = .notAttempted rejection →
        rejection ∈ gitRejections) →
      targets.approval.Valid → (∀ seen ∈ targets.observedRef, SeenValid seen) →
      Presentable status { git := some targets }

/-- What decodes has a rejection that the decoder knows. -/
theorem readable_of_decode {a : AuthorizedRequest C} {p : Phase} {loaded : LoadedOperation}
    (h : Journal.decode C (phaseRecord a p) = .ok loaded) : p.Readable := by
  cases p with
  | rejected rejection =>
    obtain ⟨row, statement, f, hfacts⟩ := established_of_decode h
    have hcolumn : Value.text rejection.asSql = .optionalText row.targetRejection :=
      hfacts.snapshot.targetRejection
    have hknown : ∃ known, TargetRejection.fromSql rejection.asSql = .ok known := by
      rcases optional_mapM_eq_ok hfacts.accepted.rejection with ⟨hnone, -⟩ | ⟨word, known, hsome, -, hsql⟩
      · rw [hnone] at hcolumn
        cases hcolumn
      · rw [hsome] at hcolumn
        rw [Value.text.inj hcolumn]
        exact ⟨known, hsql⟩
    obtain ⟨known, hsql⟩ := hknown
    show rejection ∈ productionRejections
    cases rejection with
    | deploymentNotFound => decide
    | containerNotFound => decide
    | invalidTarget => decide
    | staleApproval =>
      -- a stale approval shows the target that preflight saw, and this row has none
      obtain ⟨_, _, -, -, -, -, -, hpreflight, -⟩ := decoded_stale h rfl
      cases hpreflight
    | gitStaleRef =>
      have hunknown : TargetRejection.fromSql TargetRejection.gitStaleRef.asSql =
        .error .invalidPersistedState := by decide
      cases hunknown.symm.trans hsql
    | gitInvalidObjects =>
      have hunknown : TargetRejection.fromSql TargetRejection.gitInvalidObjects.asSql =
        .error .invalidPersistedState := by decide
      cases hunknown.symm.trans hsql
  | _ => trivial

/-- What decodes of a lawful row is its phase. -/
theorem eq_loaded_of_decode {a : AuthorizedRequest C} {p : Phase} {loaded : LoadedOperation}
    (hvalid : p.Valid a) (h : Journal.decode C (phaseRecord a p) = .ok loaded) : loaded = p.loaded a :=
  Except.ok.inj (h.symm.trans (decode_phase hvalid (readable_of_decode h)))

/-- The targets of a phase are what its grant and its observations hold. -/
theorem presentable_loaded {a : AuthorizedRequest C} {p : Phase} (hvalid : p.Valid a)
    (hreadable : p.Readable) {status : OperationStatus}
    (h : statusOf (p.loaded a).state (p.loaded a).targetRejection (p.loaded a).result =
      .ok status) : Presentable status (p.loaded a).targets := by
  have happroved := isValid_of_approvedTarget a
  have hseen : ∀ (v : ValidatedTargetIdentity), ∀ target ∈ some v.toApproved,
      target.isValid = true := by
    rintro v target ⟨⟩
    exact v.isValid_toApproved
  have hpreflight : ∀ (v : ValidatedTargetIdentity), ∀ target ∈ some
      (⟨some v.toApproved.uid, some v.toApproved.resourceVersion⟩ : ObservedTarget),
      target.uid.all factIsValid = true ∧ target.resourceVersion.all factIsValid = true := by
    rintro v target ⟨⟩
    have hboth := v.isValid_toApproved
    simp only [ApprovedTarget.isValid, List.all_cons, List.all_nil, Bool.and_true,
      Bool.and_eq_true] at hboth
    exact hboth
  have hobserved : ∀ observation : ReceiverObservation, observation.Valid → ∀ target ∈ some
      (⟨observation.deploymentUid, observation.resourceVersion⟩ : ObservedTarget),
      target.uid.all factIsValid = true ∧ target.resourceVersion.all factIsValid = true := by
    rintro observation hobservation target ⟨⟩
    exact ⟨hobservation.facts _ List.mem_cons_self,
      hobservation.facts _ (List.mem_cons_of_mem _ List.mem_cons_self)⟩
  cases p with
  | requested =>
    obtain rfl := Except.ok.inj h
    exact .kubernetes _ _ none none (by decide) (by rintro _ ⟨⟩) happroved
      (by rintro _ ⟨⟩) (by rintro _ ⟨⟩)
  | authorized =>
    obtain rfl := Except.ok.inj h
    exact .kubernetes _ _ none none (by decide) (by rintro _ ⟨⟩) happroved
      (by rintro _ ⟨⟩) (by rintro _ ⟨⟩)
  | rejected rejection =>
    obtain rfl := Except.ok.inj h
    have hmem : rejection ∈ productionRejections := hreadable
    refine .kubernetes _ _ none none (by rintro ⟨⟩) ?_ happroved (by rintro _ ⟨⟩)
      (by rintro _ ⟨⟩)
    intro other hother
    obtain rfl := OperationStatus.notAttempted.inj hother
    show rejection ∈ kubernetesRejections
    revert hmem
    cases rejection <;> decide
  | stale seen =>
    obtain rfl := Except.ok.inj h
    refine .kubernetes _ _ none _ (by rintro ⟨⟩) ?_ happroved (by rintro _ ⟨⟩)
      (hpreflight seen)
    intro other hother
    obtain rfl := OperationStatus.notAttempted.inj hother
    show TargetRejection.staleApproval ∈ kubernetesRejections
    decide
  | attempted target response =>
    obtain rfl := Except.ok.inj h
    exact .kubernetes _ _ _ _ (by decide) (by rintro _ ⟨⟩) happroved (hseen target)
      (hpreflight target)
  | observed target response observation =>
    obtain rfl := Except.ok.inj h
    exact .kubernetes _ _ _ _ (by decide) (by rintro _ ⟨⟩) happroved (hseen target)
      (hobserved observation hvalid.2)
  | finalized target response observation receipt =>
    have hfinal : status ≠ .notFound ∧ ∀ rejection, status ≠ .notAttempted rejection := by
      have hresult : statusOf .finalized none (some (frozenResult a target response observation)) =
        .ok status := h
      cases hfrozen : frozenResult a target response observation <;> rw [hfrozen] at hresult <;>
        obtain rfl := Except.ok.inj hresult <;> exact ⟨by decide, (by rintro _ ⟨⟩)⟩
    exact .kubernetes _ _ _ _ hfinal.1 (fun r h => absurd h (hfinal.2 r)) happroved (hseen target)
      (hobserved observation hvalid.2.1)

theorem presentable_git {b : GitBinding C} {phase : GitPhase} (hvalid : phase.Valid b)
    {status : OperationStatus} {targets : OperationTargets}
    (h : (RetainedTuple.git b phase).status = .ok (status, targets)) : Presentable status targets := by
  obtain ⟨trust, hverified⟩ := b.verified
  obtain ⟨status', hstatus, hpair⟩ := map_eq_ok.mp h
  obtain ⟨rfl, rfl⟩ := Prod.mk.inj hpair
  cases phase with
  | authorized =>
    obtain rfl := Except.ok.inj hstatus
    exact .git _ _ (by decide) (fun _ h => nomatch h) hverified.valid fun _ h => nomatch h
  | notAttempted rejection =>
    cases rejection with
    | staleRef =>
      obtain rfl := Except.ok.inj hstatus
      refine .git _ _ (by decide) ?_ hverified.valid fun _ h => nomatch h
      rintro _ ⟨⟩
      decide
    | invalidObjects =>
      obtain rfl := Except.ok.inj hstatus
      refine .git _ _ (by decide) ?_ hverified.valid fun _ h => nomatch h
      rintro _ ⟨⟩
      decide
  | attempted acknowledgement =>
    obtain rfl := Except.ok.inj hstatus
    exact .git _ _ (by decide) (fun _ h => nomatch h) hverified.valid fun _ h => nomatch h
  | observed acknowledgement seen =>
    obtain rfl := Except.ok.inj hstatus
    refine .git _ _ (by decide) (fun _ h => nomatch h) hverified.valid ?_
    rintro _ ⟨⟩
    exact hvalid
  | finalized statement receipt =>
    have hfinal : status' ≠ .notFound ∧ ∀ rejection, status' ≠ .notAttempted rejection := by
      have hresult : statusOf .finalized none (some statement.result) = .ok status' := hstatus
      cases hfrozen : statement.result <;> rw [hfrozen] at hresult <;>
        obtain rfl := Except.ok.inj hresult <;> exact ⟨by decide, fun _ h => nomatch h⟩
    refine .git _ _ hfinal.1 (fun r h => absurd h (hfinal.2 r)) hverified.valid ?_
    rintro _ ⟨⟩
    exact hvalid.2.1

section
variable {trust : List AuthorizationTrust} {id : Text} {own : Past C} {tuple : RetainedTuple C}

/-- **What is read from lawful snapshots is presentable.** -/
theorem presentable_of_reads (h : Reads C trust id own tuple)
    (hlawful : ∀ db, readOf db ∈ own → Lawful C db) {status : OperationStatus}
    {targets : OperationTargets} (hstatus : tuple.status = .ok (status, targets)) :
    Presentable status targets := by
  rcases h.authentic with rfl | ⟨db, t, grant, hread, -, hauthentic⟩
  · obtain ⟨rfl, rfl⟩ := Prod.mk.inj (Except.ok.inj hstatus)
    exact .notFound
  · cases hauthentic with
    | git b phase r hverify hid hr hdecode =>
      obtain ⟨b', phase', -, rfl, hvalid⟩ := (hlawful db hread).gitPhase hr
      obtain ⟨rfl, rfl⟩ := phase_of_decodeRecord hvalid hdecode
      exact presentable_git hvalid hstatus
    | kubernetes retained a hgrant hauthorize hrequest hfound =>
      obtain ⟨r, hr, hdecode, -⟩ := authorizedRecordOn_eq_ok hfound
      obtain ⟨a', phase, -, rfl, hvalid⟩ := (hlawful db hread).phase hr
      obtain ⟨status', hstatus', hpair⟩ := map_eq_ok.mp hstatus
      obtain ⟨rfl, rfl⟩ := Prod.mk.inj hpair
      rw [eq_loaded_of_decode hvalid hdecode] at hstatus' ⊢
      exact presentable_loaded hvalid (readable_of_decode hdecode) hstatus'

/-! ## Receipts -/

/-- What is known of a receipt: it is within its bound, and the digest is that of its bytes. -/
def ReceiptPresentable (C : Crypto) : OperationReceipt → Prop
  | .ready bytes sha256 => bytes.length ≤ 16 * 1024 ∧ sha256 = digestHex C bytes
  | _ => True

theorem length_of_decode {bytes : Bytes} {keyId : Text} {statement : GitStatement}
    (h : GitStatement.decode bytes = .ok (keyId, statement)) : bytes.length ≤ 16 * 1024 := by
  obtain ⟨envelope, henvelope, -⟩ := bind_eq_ok.mp h
  exact (Receipt.parseEnvelope_eq_ok henvelope).1

theorem receiptPresentable_of_reads (h : Reads C trust id own tuple)
    (hlawful : ∀ db, readOf db ∈ own → Lawful C db) : ReceiptPresentable C tuple.receipt := by
  rcases h.authentic with rfl | ⟨db, t, grant, hread, -, hauthentic⟩
  · trivial
  · cases hauthentic with
    | git b phase r hverify hid hr hdecode =>
      obtain ⟨b', phase', -, rfl, hvalid⟩ := (hlawful db hread).gitPhase hr
      obtain ⟨rfl, rfl⟩ := phase_of_decodeRecord hvalid hdecode
      cases phase with
      | finalized statement receipt =>
        exact ⟨length_of_decode hvalid.2.2.2.1, hvalid.2.2.2.2.symm⟩
      | _ => trivial
    | kubernetes retained a hgrant hauthorize hrequest hfound =>
      obtain ⟨r, hr, hdecode, -⟩ := authorizedRecordOn_eq_ok hfound
      obtain ⟨a', phase, -, rfl, hvalid⟩ := (hlawful db hread).phase hr
      show ReceiptPresentable C (loadedReceipt retained.operation)
      rw [eq_loaded_of_decode hvalid hdecode]
      cases phase with
      | finalized target response observation receipt =>
        have hreceipt := hvalid.2.2
        exact ⟨(bounds_of_decodeFrozenReceipt hreceipt.embedded).1, hreceipt.digest.symm⟩
      | _ => trivial

end

/-! ## The history -/

/-- What is known of an entry of the history. -/
structure EntryPresentable (entry : HistoryEntry) : Prop where
  operationId : identityIsValid entry.operationId = true
  status : ∀ status targets, entry.status = .ok (status, targets) → Presentable status targets

/-- What is known of a page of the history. -/
structure PagePresentable (page : HistoryPage) : Prop where
  length_le : page.entries.length ≤ 8
  entries : ∀ entry ∈ page.entries, EntryPresentable entry
  nextCursor : page.nextCursor.all identityIsValid = true

/-- Every snapshot in the past is lawful. -/
def LawfulPast (past : Past C) : Prop := ∀ db, readOf db ∈ past → Lawful C db

section
variable {permits : Past C → Call C → Prop} (hread : ∀ past, permits past .read)
  {trust : List AuthorizationTrust} {id : Text} {past : Past C}
include hread

theorem ensures_status_presentable :
    Ensures permits past (status (C := C) trust id) fun past' found =>
      LawfulPast past' → Presentable found.1 found.2 := by
  refine (ensures_status_reads hread).mono fun past' found h hlawful => ?_
  obtain ⟨own, tuple, rfl, hreads, hstatus⟩ := h
  exact presentable_of_reads hreads
    (fun db hdb => hlawful db (List.mem_append_left _ hdb)) hstatus

theorem ensures_receipt_presentable :
    Ensures permits past (receipt (C := C) trust id) fun past' found =>
      LawfulPast past' → ReceiptPresentable C found := by
  refine (ensures_receipt_reads hread).mono fun past' found h hlawful => ?_
  obtain ⟨own, tuple, rfl, hreads, rfl⟩ := h
  exact receiptPresentable_of_reads hreads fun db hdb => hlawful db (List.mem_append_left _ hdb)

theorem ensures_historyEntries_presentable {ids : List Text} (hids : ids.all identityIsValid = true) :
    Ensures permits past (historyEntries (C := C) trust ids) fun past' entries =>
      entries.length = ids.length ∧
        (LawfulPast past' → ∀ entry ∈ entries, EntryPresentable entry) := by
  induction ids generalizing past with
  | nil => exact ensures_pure ⟨rfl, fun _ _ h => nomatch h⟩
  | cons id rest ih =>
    rw [List.all_cons, Bool.and_eq_true] at hids
    refine (ensures_lift (ensures_status_presentable hread)).bind fun past₁ found hfound => ?_
    refine (ih hids.2).suffix.bind fun past₂ entries h => ensures_pure ?_
    obtain ⟨hsuffix, hlength, hentries⟩ := h
    refine ⟨congrArg (· + 1) hlength, fun hlawful entry hentry => ?_⟩
    rcases List.mem_cons.mp hentry with rfl | hentry
    · refine ⟨hids.1, fun status targets hstatus => ?_⟩
      exact hfound (status, targets) hstatus fun db hdb => hlawful db (hsuffix.subset hdb)
    · exact hentries hlawful entry hentry

/-- **Every page of the history is presentable**, whatever is written between its snapshots. -/
theorem ensures_history_presentable {after : Option Text} :
    Ensures permits past (Application.history (C := C) trust after) fun past' page =>
      LawfulPast past' → PagePresentable page := by
  have hids : Ensures permits past (Gateway.historyIds (C := C) after)
      fun _ ids => ids.all identityIsValid = true :=
    ensures_checked fun _ _ => (ensures_snapshot hread).bind fun past₁ db hpast₁ =>
      ensures_checked fun ids _ => ensures_checked fun _ hvalid =>
        ensures_pure (require_eq_ok.mp hvalid)
  refine (ensures_mapErr hids).bind fun past₁ ids hvalid => ?_
  have hshown : (ids.take 8).all identityIsValid = true := by
    rw [List.all_eq_true] at hvalid ⊢
    exact fun id hid => hvalid id (List.mem_of_mem_take hid)
  refine (ensures_historyEntries_presentable hread hshown).bind fun past₂ entries h => ?_
  obtain ⟨hlength, hentries⟩ := h
  refine ensures_pure fun hlawful => ⟨?_, hentries hlawful, ?_⟩
  · show entries.length ≤ 8
    rw [hlength]
    exact List.length_take_le 8 ids
  · show (if 8 < ids.length then (ids.take 8).getLast? else none).all identityIsValid = true
    split
    · cases hlast : (ids.take 8).getLast? with
      | none => rfl
      | some id => exact List.all_eq_true.mp hshown id (List.mem_of_getLast? hlast)
    · rfl

end

/-! ## The catalog -/

/-- What is known of an entry of the catalog. -/
def ActionPresentable : ApprovedAction → Prop
  | .kubernetes request target label =>
      identityIsValid request.operationId = true ∧ dnsLabelIsValid request.namespace = true ∧
        dnsSubdomainIsValid request.deployment = true ∧ dnsLabelIsValid request.container = true ∧
        immutableImageIsValid request.immutableImageDigest = true ∧ target.isValid = true ∧
        label.length ≤ 128 ∧ (label.all fun b => 32 ≤ b && b ≤ 126) = true
  | .git authorization label =>
      authorization.Valid ∧ label.length ≤ 128 ∧ (label.all fun b => 32 ≤ b && b ≤ 126) = true

theorem actionPresentable_of_approvedHandle {approval : ServiceApproval}
    (hbounds : approval.withinBounds = true) {trust : List AuthorizationTrust}
    {handle : ApprovedAction} (h : approvedHandle C approval trust = .ok handle) :
    ActionPresentable handle := by
  simp only [ServiceApproval.withinBounds, Bool.and_eq_true, decide_eq_true_eq] at hbounds
  obtain ⟨⟨-, hlength⟩, hlabel⟩ := hbounds
  induction trust with
  | nil => cases h
  | cons appointment trust ih =>
    unfold approvedHandle at h
    split at h
    · rename_i grant hgrant
      dsimp only at h
      split at h
      · cases h
      · rename_i target htarget
        obtain rfl := Except.ok.inj h
        have hvalid := (verifyAuthorizationGrant_eq_ok hgrant).valid
        exact ⟨hvalid.operationId, hvalid.namespace, hvalid.deployment, hvalid.container,
          hvalid.immutableImageDigest, hvalid.approvedTarget target htarget, hlength, hlabel⟩
    · split at h
      · rename_i grant hgrant
        obtain rfl := Except.ok.inj h
        exact ⟨(verifyGitRefGrant_eq_ok hgrant).valid, hlength, hlabel⟩
      · exact ih h

theorem actionPresentable_of_selectApprovals {trust : List AuthorizationTrust}
    {approvals selectable : List SelectableApproval} {rest : List ServiceApproval}
    (h : selectApprovals C trust approvals rest = .ok selectable)
    (hbounds : rest.all ServiceApproval.withinBounds = true)
    (hbefore : ∀ approval ∈ approvals, ActionPresentable approval.handle) :
    ∀ approval ∈ selectable, ActionPresentable approval.handle := by
  induction rest generalizing approvals with
  | nil =>
    obtain rfl := Except.ok.inj h
    exact hbefore
  | cons approval rest ih =>
    rw [List.all_cons, Bool.and_eq_true] at hbounds
    obtain ⟨handle, hhandle, h⟩ := bind_eq_ok.mp h
    obtain ⟨_, -, h⟩ := bind_eq_ok.mp h
    refine ih h hbounds.2 fun other hother => ?_
    rcases List.mem_append.mp hother with hother | hother
    · exact hbefore other hother
    · obtain rfl := List.mem_singleton.mp hother
      exact actionPresentable_of_approvedHandle hbounds.1 hhandle

/-- **Every entry of an accepted catalog is presentable.** -/
theorem actionPresentable_of_validateConfiguration {configuration : ServiceConfiguration}
    {approvals : List SelectableApproval}
    (h : validateConfiguration C configuration = .ok approvals) :
    ∀ approval ∈ approvals, ActionPresentable approval.handle := by
  obtain ⟨_, -, h⟩ := bind_eq_ok.mp h
  obtain ⟨_, hbounds, h⟩ := bind_eq_ok.mp h
  obtain ⟨_, -, h⟩ := bind_eq_ok.mp h
  obtain ⟨_, -, h⟩ := bind_eq_ok.mp h
  exact actionPresentable_of_selectApprovals h (require_eq_ok.mp hbounds) fun _ h => nomatch h

/-- What is known of a page of the catalog. -/
structure CatalogPresentable (page : CatalogPage) : Prop where
  length_le : page.entries.length ≤ 8
  entries : ∀ entry ∈ page.entries, ActionPresentable entry
  nextCursor : page.nextCursor.all identityIsValid = true

theorem ActionPresentable.operationId {action : ApprovedAction} (h : ActionPresentable action) :
    identityIsValid action.operationId = true := by
  cases action with
  | kubernetes request target label => exact h.1
  | git authorization label => exact h.1.operationId

theorem catalogPresentable {approvals : List SelectableApproval}
    (h : ∀ approval ∈ approvals, ActionPresentable approval.handle) {after : Option Text}
    {page : CatalogPage} (hpage : listCatalog approvals after = .ok page) :
    CatalogPresentable page := by
  obtain ⟨entries, hentries, hpage⟩ := bind_eq_ok.mp hpage
  obtain ⟨start, -, hstart⟩ := bind_eq_ok.mp hentries
  obtain rfl := Except.ok.inj hstart
  have hpresentable : ∀ entry ∈ ((approvals.drop start).take 8).map (·.handle),
      ActionPresentable entry := by
    intro entry hentry
    obtain ⟨approval, happroval, rfl⟩ := List.mem_map.mp hentry
    exact h approval (List.mem_of_mem_drop (List.mem_of_mem_take happroval))
  have hlength : (((approvals.drop start).take 8).map (·.handle)).length ≤ 8 := by
    rw [List.length_map]
    exact List.length_take_le 8 _
  split at hpage
  · obtain rfl := Except.ok.inj hpage
    exact ⟨hlength, hpresentable, rfl⟩
  · rename_i last hlast
    obtain ⟨rest, -, hpage⟩ := bind_eq_ok.mp hpage
    obtain rfl := Except.ok.inj hpage
    refine ⟨hlength, hpresentable, ?_⟩
    show (if rest.isEmpty then none else some last.operationId).all identityIsValid = true
    split
    · rfl
    · exact (hpresentable last (List.mem_of_getLast? hlast)).operationId

end Daemon
end Kapsel
