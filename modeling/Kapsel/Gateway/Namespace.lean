import Kapsel.Gateway.Capacity

/-!
# One namespace of identities

The two tables share their identities, and no constraint of the database says so.  What keeps an
identity out of the other table is the check inside the transaction of an insertion: it looks at
both tables, and the transactions are serial.

From this the rest follows.  A row stays where it is, so whoever writes under the other effect is
refused by the transaction, and whoever reads under the other effect finds a conflict, in the
first snapshot that it takes or in the second.  `Elsewhere` is what such a session sees, and
`Blocked` says that an action does not succeed while it sees nothing else.
-/

namespace Kapsel

open Grammar Fallible Authority Interaction Interaction.Program

namespace Gateway

open Journal Application

variable {C : Crypto}

/-! ## Every run -/

/-- No identity is in both tables. -/
def Separate (db : Database) : Prop :=
  ∀ t id r, stored db t id = some r → stored db t.other id = none

theorem Journal.Table.other_other (t : Table) : t.other.other = t := by
  cases t <;> rfl

theorem Separate.moves {db db' : Database} {t : Table} {id : Text} {before : Option (Record t)}
    {after : Record t} (h : Separate db) (hcommits : Commits db db' id before after) :
    Separate db' := by
  -- the row of the commit was not in the other table before, and the other table is as it was
  have hother : stored db t.other id = none := by
    cases before with
    | none => exact hcommits.fresh rfl
    | some r => exact h t id r hcommits.before
  have hframe : ∀ id', stored db' t.other id' = stored db t.other id' := fun id' =>
    stored_of_commits hcommits fun ht => absurd ht (other_ne t)
  intro t' id' r hr
  by_cases ht : t' = t
  · subst ht
    rw [hframe]
    by_cases hid : id' = id
    · rw [hid]
      exact hother
    · rw [hcommits.elsewhere id' hid] at hr
      exact h t' id' r hr
  · obtain rfl : t' = t.other := by
      revert ht
      cases t <;> cases t' <;> decide
    rw [hframe] at hr
    have hnone := h t.other id' r hr
    rw [Table.other_other] at hnone ⊢
    by_cases hid : id' = id
    · rw [hid, hother] at hr
      cases hr
    · rw [hcommits.elsewhere id' hid]
      exact hnone

/-- **No interleaving puts an identity into both tables.** -/
theorem separate_of_conforms {moments : List (Event C)} {w : World}
    (h : Conforms (environment C) allowed moments w) : Separate w.db := by
  induction h with
  | initial =>
    intro t id r hr
    cases (stored_empty t id).symm.trans hr
  | start _ _ _ _ ih => exact ih
  | stop _ _ _ hleaves ih =>
    obtain rfl := hleaves
    exact ih
  | @act moments w s entry c a w' hconforms hactive hallowed hreacts ih =>
    rcases reacts_cases hreacts with rfl | ⟨x, rfl, hcommit, -⟩ | ⟨-, -, rfl⟩
    · exact ih
    · obtain ⟨t, id, before, after, hcommits, -⟩ :=
        (sound_of_conforms hconforms).moves hactive hallowed.1 hallowed.2 hcommit
      exact ih.moves hcommits
    · exact ih

theorem Execution.separate (e : Execution C) {m : Event C} (hm : m ∈ e.moments) :
    Separate m.before.db := by
  obtain ⟨_, _, -, hconforms⟩ := e.exists_conforms hm
  exact separate_of_conforms hconforms.tail.1

/-! ## What opening checks -/

theorem hasSharedIdentity_of_separate {db : Database} (h : Separate db) :
    hasSharedIdentity db = false := by
  unfold hasSharedIdentity
  rw [List.any_eq_false]
  intro k hk
  rw [Bool.not_eq_true, List.any_eq_false]
  intro g hg hsame
  obtain ⟨id, r, hid, hr, -⟩ := exists_stored_of_mem hk
  obtain ⟨id', r', hid', hr', -⟩ := exists_stored_of_mem hg
  rw [hid, hid'] at hsame
  obtain rfl := Value.text.inj (of_decide_eq_true hsame)
  have hnone := h .kubernetes id r hr
  cases hnone.symm.trans hr'

theorem requirePersistedBounds_of_lawful {db : Database} (h : Lawful C db)
    (hcapacity : WithinCapacity db) (t : Table) : requirePersistedBounds db t = .ok () := by
  have hcount : (db t).rows.length ≤ operationCountMax := by
    have hcounts := counts_eq db t
    unfold WithinCapacity at hcapacity
    rw [hcounts] at hcapacity
    unfold operationCountMax
    omega
  have hrows : (db t).rows.all (rowWithinBounds t) = true := by
    rw [List.all_eq_true]
    intro row hrow
    obtain ⟨id, r, -, hr, rfl⟩ := exists_stored_of_mem hrow
    refine rowWithinBounds_of_withinBounds ?_
    cases h t id r hr with
    | kubernetes a p hvalid => exact withinBounds_of_small (small_phaseRecord hvalid)
    | git b p hvalid => exact withinBounds_of_small (small_gitRecord hvalid)
  unfold requirePersistedBounds
  rw [require_eq_ok, Bool.and_eq_true, decide_eq_true_eq]
  exact ⟨hcount, hrows⟩

/-- **Opening accepts what the gateway wrote.** -/
theorem Execution.requireAllPersistedBounds_eq_ok (e : Execution C) :
    requireAllPersistedBounds e.world.db = .ok () := by
  have hbounds := requirePersistedBounds_of_lawful e.sound.lawful (within_of_conforms e.conforms)
  have hshared := hasSharedIdentity_of_separate (separate_of_conforms e.conforms)
  unfold requireAllPersistedBounds
  rw [bind_of_ok (hbounds .kubernetes), bind_of_ok (hbounds .git), hshared]
  rfl

/-! ## Writes under the other effect -/

section
variable {m : Event C} {t : Table} {id : Text}

/-- **An identity of the other effect is never written**, and the writer is told. -/
theorem Execution.foreign_write (e : Execution C) (hm : m ∈ e.moments) {x : Transition C}
    {answer : Except GatewayError Unit} (hdeed : m.deed = .act ⟨.replace x, answer⟩)
    (hid : x.replacement.next.value .operationId = .text id)
    {r : Record x.replacement.table.other}
    (hrow : stored m.before.db x.replacement.table.other id = some r) :
    m.after.db = m.before.db ∧ ∃ error, answer = .error error ∧
      (error = .operationIdentityConflict ∨ error = .invalidTransition ∨ StorageError error) := by
  have hnone : stored m.before.db x.replacement.table id = none := by
    have hseparate := e.separate hm _ _ _ hrow
    rwa [Table.other_other] at hseparate
  have hforeign : replaceSqlite m.before.db x.replacement.expected x.replacement.next =
      .error (if x.replacement.expected = none then .operationIdentityConflict
        else .invalidTransition) := replaceSqlite_foreign hid hnone hrow
  rcases e.reacts_of_mem hm hdeed with ⟨hcommit, -, -⟩ | ⟨hsame, error, herror, hrefused⟩
  · cases hforeign.symm.trans hcommit
  · refine ⟨congrArg World.db hsame, error, herror, ?_⟩
    rcases hrefused with hstorage | hown
    · exact .inr (.inr hstorage)
    · have herror' := Except.error.inj (hforeign.symm.trans hown)
      split at herror'
      · exact .inl herror'.symm
      · exact .inr (.inl herror'.symm)

end

/-! ## Reads under the other effect -/

/-- Every snapshot of the session has the identity in the other table. -/
def Elsewhere (t : Table) (id : Text) (past : Past C) : Prop :=
  ∀ db, readOf db ∈ past → stored db t id = none ∧ (stored db t.other id).isSome = true

/-- The action does not succeed while it sees nothing else. -/
def Blocked {ε α : Type} (t : Table) (id : Text) (past : Past C) (q : Action C ε α) : Prop :=
  Ensures (fun _ _ => True) past q fun past' _ => ¬ Elsewhere t id past'

section
variable {ε α β : Type} {t : Table} {id : Text} {past : Past C} {q : Action C ε α}

theorem Elsewhere.of_suffix {past' : Past C} (h : Elsewhere t id past') (hpast : past <:+ past') :
    Elsewhere t id past := fun db hdb => h db (hpast.subset hdb)

/-- An action that begins with a blocked one is blocked. -/
theorem Blocked.bind (h : Blocked t id past q) (f : α → Action C ε β) :
    Blocked t id past (q >>= f) := by
  refine Ensures.bind h fun past₁ a hblocked => ?_
  have hfree : Ensures (fun _ _ => True) past₁ (f a) fun past' _ => past₁ <:+ past' :=
    Meets.mono (meets_free _) fun _ _ hsuffix _ _ => hsuffix
  exact hfree.mono fun past₂ _ hsuffix helsewhere => hblocked (helsewhere.of_suffix hsuffix)

theorem Blocked.mapErr {ε' : Type} (h : Blocked t id past q) (f : ε → ε') :
    Blocked t id past (mapErr f q) := ensures_mapErr h

/-- A check before a blocked action. -/
theorem blocked_checked {result : Except ε β} {f : β → Action C ε α}
    (h : ∀ b, result = .ok b → Blocked t id past (f b)) :
    Blocked t id past (check result >>= f) := ensures_checked h

theorem free_read (past : Past C) : (fun (_ : Past C) (_ : Call C) => True) past .read := trivial

/-- **The authenticated read of a Kubernetes operation** finds the conflict. -/
theorem blocked_authorizedOperation {a : AuthorizedRequest C} :
    Blocked .kubernetes a.request.operationId past (Storage.authorizedOperation a) := by
  refine (ensures_authorizedOperation_read free_read a).mono fun past' loaded h helsewhere => ?_
  obtain ⟨db, rfl, hloaded⟩ := h
  obtain ⟨hnone, hother⟩ := helsewhere db List.mem_cons_self
  obtain ⟨r, hr⟩ := Option.isSome_iff_exists.mp hother
  cases (authorizedRecordOn_git hnone hr).symm.trans hloaded

/-- **The reads of a Git operation** find the conflict. -/
theorem blocked_gitRecord {b : GitBinding C} :
    Blocked .git b.authorization.operationId past (Storage.gitRecord b) := by
  refine (ensures_snapshot free_read).bind fun past₁ db h₁ => ensures_checked fun record hrecord => ?_
  subst h₁
  have hstored := readTable_eq_ok hrecord
  cases record with
  | some record =>
    refine ensures_pure fun helsewhere => ?_
    obtain ⟨hnone, -⟩ := helsewhere db List.mem_cons_self
    cases hnone.symm.trans hstored
  | none =>
    refine (ensures_snapshot free_read).bind fun past₂ db' h₂ => ensures_checked fun other hother => ?_
    subst h₂
    refine ensures_checked fun _ habsent => ensures_pure fun helsewhere => ?_
    obtain ⟨-, hpresent⟩ := helsewhere db' List.mem_cons_self
    have hsome : other.isSome = true := readTable_eq_ok hother ▸ hpresent
    have hisNone : other.isNone = true := require_eq_ok.mp habsent
    rw [Option.isNone_iff_eq_none.mp hisNone] at hsome
    cases hsome

theorem blocked_gitOperation {b : GitBinding C} :
    Blocked .git b.authorization.operationId past (Storage.gitOperation b) :=
  blocked_gitRecord.bind _

/-! ## Calls under the other effect -/

section
variable {authorities : List AuthorizationTrust} {request : SetDeploymentImageRequest}
  {signedGrant : Bytes}

theorem blocked_existingSubmission {a : AuthorizedRequest C} :
    Blocked .kubernetes a.request.operationId past (Storage.existingSubmission a) :=
  blocked_authorizedOperation.bind _

theorem blocked_submitAuthorized :
    Blocked .kubernetes request.operationId past
      (submitAuthorized (C := C) authorities request signedGrant) := by
  refine blocked_checked fun request' hrequest => blocked_checked fun verified hverified => ?_
  refine blocked_checked fun a ha => ?_
  have hbind : bindAuthorization C authorities request signedGrant = .ok a :=
    bind_eq_ok.mpr ⟨verified, hverified, bind_eq_ok.mpr ⟨request', hrequest, ha⟩⟩
  rw [← (bindAuthorization_eq_ok hbind).1]
  exact blocked_existingSubmission.bind _

theorem blocked_admitAndReconcile {adapter : Bool} {settings : Option ReceiptSettings}
    {turns : ℕ} : Blocked .kubernetes request.operationId past
      (admitAndReconcile (C := C) authorities request signedGrant adapter settings turns) := by
  refine blocked_checked fun a ha => ?_
  rw [← (bindAuthorization_eq_ok (mapError_eq_ok.mp ha)).1]
  exact (blocked_authorizedOperation.mapErr _).bind _

theorem blocked_runLockedOperationOnce :
    Blocked .kubernetes request.operationId past (do
      let authorized ← check (bindAuthorization C authorities request signedGrant)
      runLockedOperationOnce authorized) := by
  refine blocked_checked fun a ha => ?_
  rw [← (bindAuthorization_eq_ok ha).1]
  exact blocked_authorizedOperation.bind _

theorem blocked_authorizedRead :
    Blocked .kubernetes request.operationId past
      (Gateway.authorizedOperation (C := C) authorities request signedGrant) := by
  refine blocked_checked fun a ha => ?_
  rw [← (bindAuthorization_eq_ok ha).1]
  exact blocked_authorizedOperation

/-- The reconcile loop finds no operation. -/
theorem ensures_reconcileLocked_blocked {adapter : Bool} {settings : Option ReceiptSettings}
    {turns : ℕ} : Ensures (fun _ _ => True) past
      (reconcileLockedWithAdapter (C := C) authorities request signedGrant adapter settings turns)
      fun past' found => found.isSome = true → ¬ Elsewhere .kubernetes request.operationId past' := by
  refine ensures_checked fun a ha => ?_
  cases turns with
  | zero => exact ensures_pure fun h => nomatch h
  | succ turns =>
    have hblocked : Blocked .kubernetes request.operationId past
        (reconcileLoop authorities request signedGrant adapter settings a (turns + 1)) := by
      rw [← (bindAuthorization_eq_ok (mapError_eq_ok.mp ha)).1]
      exact ((blocked_authorizedOperation.mapErr _).bind _).bind _
    exact Ensures.mono hblocked fun _ _ h _ => h

theorem blocked_admitAndReconcileGit {grant : Bytes} {configuration : Option GitReceiver}
    {signing : Option ReceiptSettings} : Blocked .git id past
      (admitAndReconcileGit (C := C) authorities id grant configuration signing) := by
  refine blocked_checked fun b hb => blocked_checked fun _ hid => ?_
  rw [← of_decide_eq_true (require_eq_ok.mp hid)]
  exact (blocked_gitOperation.mapErr _).bind _

theorem blocked_advance {b : GitBinding C} {receiver : Option GitReceiver}
    {signing : Option ReceiptSettings} :
    Blocked .git b.authorization.operationId past (advance b receiver signing) :=
  (blocked_gitOperation.bind _).bind _

end

end

/-- Whether the call returned a value that counts. -/
def returned {ε α : Type} (q : Action C ε α) (counts : α → Bool) :
    Program (Call C) Answer Bool := do
  let r ← q.run
  return match r with
    | .ok a => counts a
    | .error _ => false

/-- The table and the identity of a call of one effect, and the call, with whether it succeeded.
A call behind the lease succeeds only if it had the lease, and the reconcile loop only if it
found the operation. -/
def Entry.underEffect (C : Crypto) (entry : Entry) :
    Option (Table × Text × Program (Call C) Answer Bool) :=
  match entry.command with
  | .submitAuthorized request signedGrant => some (.kubernetes, request.operationId,
      returned (submitAuthorized entry.authorities request signedGrant) fun _ => true)
  | .admitAndReconcile request signedGrant adapter settings turns =>
      some (.kubernetes, request.operationId, returned (admitAndReconcile entry.authorities request
        signedGrant adapter settings turns) fun _ => true)
  | .reconcileLocked request signedGrant adapter settings turns =>
      some (.kubernetes, request.operationId, returned (withLease (ExceptT.lift
        (reconcileLockedWithAdapter entry.authorities request signedGrant adapter settings
          turns).run)) fun found => found.any fun r => r.toOption.join.isSome)
  | .runLockedOperationOnce request signedGrant => some (.kubernetes, request.operationId,
      returned (withLease (do
        let authorized ← check (bindAuthorization C entry.authorities request signedGrant)
        runLockedOperationOnce authorized)) Option.isSome)
  | .authorizedOperation request signedGrant => some (.kubernetes, request.operationId,
      returned (Gateway.authorizedOperation entry.authorities request signedGrant) fun _ => true)
  | .admitAndReconcileGit id grant configuration signing => some (.git, id,
      returned (admitAndReconcileGit entry.authorities id grant configuration signing)
        fun _ => true)
  | .advance grant receiver signing =>
      (GitBinding.verify C grant entry.authorities).toOption.map fun b =>
        (.git, b.authorization.operationId, returned (withLease (do
          let b ← check (GitBinding.verify C grant entry.authorities)
          advance b receiver signing)) Option.isSome)
  | .authorizedGit grant => (GitBinding.verify C grant entry.authorities).toOption.map fun b =>
      (.git, b.authorization.operationId,
        returned (authorizedGit entry.authorities grant) fun _ => true)
  | _ => none

section
variable {ε α : Type} {t : Table} {id : Text} {past : Past C}

theorem meets_returned {q : Action C ε α} {counts : α → Bool}
    (h : Ensures (fun _ _ => True) past q fun past' a => counts a = true →
      ¬ Elsewhere t id past') :
    (returned q counts).Meets (fun _ _ => True) past fun past' succeeded =>
      Elsewhere t id past' → succeeded = false := by
  refine (meets_bind q.run _).mpr (Meets.mono h fun past' r hr helsewhere => ?_)
  cases r with
  | error error => rfl
  | ok a => exact Bool.eq_false_iff.mpr fun hcounts => hr a rfl hcounts helsewhere

theorem meets_returned_of_blocked {q : Action C ε α} (h : Blocked t id past q)
    (counts : α → Bool) :
    (returned q counts).Meets (fun _ _ => True) past fun past' succeeded =>
      Elsewhere t id past' → succeeded = false :=
  meets_returned (Ensures.mono h fun _ _ hblocked _ => hblocked)

/-- A blocked action behind the lease. -/
theorem ensures_withLease_blocked {q : Action C GatewayError α} {counts : α → Bool}
    (h : ∀ past, Ensures (fun _ _ => True) past q fun past' a => counts a = true →
      ¬ Elsewhere t id past') :
    Ensures (fun _ _ => True) past (withLease q) fun past' found => found.any counts = true →
      ¬ Elsewhere t id past' := by
  refine ensures_ask trivial fun locked => ?_
  cases locked with
  | error error => exact ensures_throw _
  | ok got =>
    cases got with
    | false => exact ensures_pure fun h => nomatch h
    | true => exact (h _).bind fun _ _ hvalue => ensures_pure hvalue

theorem meets_withLease_of_blocked {q : Action C GatewayError α}
    (h : ∀ past, Blocked t id past q) :
    (returned (withLease q) Option.isSome).Meets (fun _ _ => True) past fun past' succeeded =>
      Elsewhere t id past' → succeeded = false := by
  have hlocked : Ensures (fun _ _ => True) past (withLease q) fun past' found =>
      (found.any fun _ => true) = true → ¬ Elsewhere t id past' :=
    ensures_withLease_blocked fun past' => Ensures.mono (h past') fun _ _ hblocked _ => hblocked
  refine meets_returned (hlocked.mono fun past' found hfound hsome => hfound ?_)
  rw [Option.any_true]
  exact hsome

/-- **No call of one effect succeeds while it sees its identity under the other.** -/
theorem Entry.meets_underEffect {entry : Entry} {call : Program (Call C) Answer Bool}
    (h : entry.underEffect C = some (t, id, call)) :
    call.Meets (fun _ _ => True) past fun past' succeeded =>
      Elsewhere t id past' → succeeded = false := by
  obtain ⟨authorities, command⟩ := entry
  cases command with
  | submitAuthorized request signedGrant =>
    cases h
    exact meets_returned_of_blocked blocked_submitAuthorized _
  | admitAndReconcile request signedGrant adapter settings turns =>
    cases h
    exact meets_returned_of_blocked blocked_admitAndReconcile _
  | reconcileLocked request signedGrant adapter settings turns =>
    cases h
    refine meets_returned (ensures_withLease_blocked fun past' => ?_)
    refine (ensures_lift ensures_reconcileLocked_blocked).mono fun past'' r hr hcounts => ?_
    cases r with
    | error error => cases hcounts
    | ok found => exact hr found rfl hcounts
  | runLockedOperationOnce request signedGrant =>
    cases h
    exact meets_withLease_of_blocked fun _ => blocked_runLockedOperationOnce
  | authorizedOperation request signedGrant =>
    cases h
    exact meets_returned_of_blocked blocked_authorizedRead _
  | admitAndReconcileGit id grant configuration signing =>
    cases h
    exact meets_returned_of_blocked blocked_admitAndReconcileGit _
  | advance grant receiver signing =>
    obtain ⟨b, hb, heq⟩ := Option.map_eq_some_iff.mp h
    have hverify := toOption_eq_some.mp hb
    cases heq
    refine meets_withLease_of_blocked fun _ => blocked_checked fun b' hb' => ?_
    obtain rfl := Except.ok.inj (hverify.symm.trans hb')
    exact blocked_advance
  | authorizedGit grant =>
    obtain ⟨b, hb, heq⟩ := Option.map_eq_some_iff.mp h
    have hverify := toOption_eq_some.mp hb
    cases heq
    refine meets_returned_of_blocked (blocked_checked fun b' hb' => ?_) _
    obtain rfl := Except.ok.inj (hverify.symm.trans hb')
    exact blocked_gitOperation.bind _
  | _ => cases h

end

/-! ## The main theorem -/

section
variable {e : Execution C} {s : ℕ} {entry : Entry} {t : Table} {id : Text} {m₀ : Event C}
  {call : Program (Call C) Answer Bool}

/-- A session that acts at all under one effect acts for the identity of its call. -/
theorem Serves.underEffect {start : Past C} {p : Approval C} (hserves : Serves entry start p)
    (h : entry.underEffect C = some (t, id, call)) : p.table = t ∧ p.operationId = id := by
  obtain ⟨authorities, command⟩ := entry
  cases command with
  | submitAuthorized request signedGrant =>
    cases h
    exact ⟨hserves.2.facts.1, hserves.2.facts.2.1⟩
  | admitAndReconcile request signedGrant adapter settings turns =>
    cases h
    exact ⟨hserves.2.facts.1, hserves.2.facts.2.1⟩
  | reconcileLocked request signedGrant adapter settings turns =>
    cases h
    exact ⟨hserves.2.facts.1, hserves.2.facts.2.1⟩
  | runLockedOperationOnce request signedGrant =>
    cases h
    exact ⟨hserves.2.facts.1, hserves.2.facts.2.1⟩
  | admitAndReconcileGit id grant configuration signing =>
    cases h
    exact ⟨hserves.2.1.facts.1, hserves.2.2⟩
  | advance grant receiver signing =>
    obtain ⟨b, hb, heq⟩ := Option.map_eq_some_iff.mp h
    have hverify := toOption_eq_some.mp hb
    cases heq
    obtain rfl := hserves.2.unique ⟨b, rfl, hverify⟩
    exact ⟨rfl, rfl⟩
  | authorizedOperation request signedGrant => exact hserves.elim
  | authorizedGit grant => exact hserves.elim
  | _ => cases h

/-- The journal as the session found it at its start, when the session does something. -/
theorem Execution.evolves_of_start (e : Execution C) (hm₀ : m₀ ∈ e.moments)
    (hstart : m₀.deed = .start entry) {m : Event C} (hm : m ∈ e.moments)
    (hs : m.session = m₀.session) {x : Exchange (Call C) Answer} (hdeed : m.deed = .act x) :
    Evolves C m₀.before.db m.before.db := by
  obtain ⟨later, earlier, hsplit⟩ := List.append_of_mem hm
  have hbefore : m₀ ∈ earlier := by
    have hconforms := e.conforms
    have hm₀' := hm₀
    rw [hsplit] at hconforms hm₀'
    exact hconforms.start_mem hm₀' hstart hs hdeed
  exact (e.sound.past m₀ hm₀).2.1.trans (e.evolves_of_mem hsplit hbefore)

/-- A row that is there when the session starts is there whenever the session does something. -/
theorem Execution.row_of_start (e : Execution C) (hm₀ : m₀ ∈ e.moments)
    (hstart : m₀.deed = .start entry) {r : Record t} (hrow : stored m₀.before.db t id = some r)
    {m : Event C} (hm : m ∈ e.moments) (hs : m.session = m₀.session)
    {x : Exchange (Call C) Answer} (hdeed : m.deed = .act x) :
    ∃ r', stored m.before.db t id = some r' := by
  obtain ⟨r', hr', -⟩ := e.evolves_of_start hm₀ hstart hm hs hdeed t id r hrow
  exact ⟨r', hr'⟩

/-- A session whose identity is under the other effect sees it there and nowhere else. -/
theorem Execution.elsewhere_of_start (e : Execution C) (hm₀ : m₀ ∈ e.moments)
    (hstart : m₀.deed = .start entry) {r : Record t.other}
    (hrow : stored m₀.before.db t.other id = some r) :
    Elsewhere t id (history m₀.session e.moments) := by
  intro db hread
  obtain ⟨m, hm, hs, hdeed⟩ := mem_history.mp hread
  obtain rfl := e.sound.reads m hm db hdeed
  obtain ⟨r', hr'⟩ := e.row_of_start hm₀ hstart hrow hm hs hdeed
  have hnone := e.separate hm _ _ _ hr'
  rw [Table.other_other] at hnone
  refine ⟨hnone, ?_⟩
  rw [hr']
  rfl

/-- The writes of a session are for the approval that it acts for. -/
theorem Approval.Writes.replacement {p : Approval C} {past : Past C} {x : Transition C}
    (h : p.Writes past x) : x.replacement.table = p.table ∧
      x.replacement.next.value .operationId = .text p.operationId := by
  rcases h with ⟨rfl, -⟩ | ⟨hupdates, -⟩
  · refine ⟨?_, p.admission_operationId⟩
    cases p with
    | kubernetes a => rfl
    | git b => rfl
  · exact ⟨hupdates.table, hupdates.operationId⟩

/-- **A session whose identity is under the other effect changes nothing.** -/
theorem Execution.unchanged_of_foreign (e : Execution C) (hm₀ : m₀ ∈ e.moments)
    (hstart : m₀.deed = .start entry) (hentry : entry.underEffect C = some (t, id, call))
    {r : Record t.other} (hrow : stored m₀.before.db t.other id = some r) {m : Event C}
    (hm : m ∈ e.moments) (hs : m.session = m₀.session) : m.after.db = m.before.db := by
  by_contra hne
  obtain ⟨x, ⟨answer, hdeed⟩, -⟩ := e.commits_of_ne hm hne
  obtain ⟨r', hr'⟩ := e.row_of_start hm₀ hstart hrow hm hs hdeed
  have hmem := mem_history.mpr ⟨m, hm, hs, hdeed⟩
  obtain ⟨newer, older, hhistory⟩ := List.append_of_mem hmem
  have hserving := Execution.serving_of_history ⟨m₀, hm₀, rfl, hstart⟩
    (hhistory ▸ List.suffix_append newer (⟨.replace x, answer⟩ :: older))
  rcases hserving with hread | ⟨hlock, -⟩ | ⟨p, own, start, -, hserves, hpassing⟩
  · cases hread
  · cases hlock
  · obtain ⟨rfl, rfl⟩ := hserves.underEffect hentry
    obtain ⟨htable, hid⟩ := hpassing.1.replacement
    have hpresent : (stored m.before.db p.table.other p.operationId).isSome = true := by
      rw [hr']
      rfl
    rw [← htable] at hpresent
    obtain ⟨_, hpresent⟩ := Option.isSome_iff_exists.mp hpresent
    exact hne (e.foreign_write hm hdeed hid hpresent).1

end

/-- **One namespace.**  In every run: no identity is in both tables, so that opening accepts the
journal; a write under one effect for an identity that is under the other changes nothing and is
answered with an error; and a call of one effect --- an admission, an authenticated read or an
advancement --- for an identity that is under the other when the call starts does not succeed,
and no moment of it changes either table. -/
theorem one_identity_namespace (e : Execution C) :
    (∀ id, stored e.world.db .kubernetes id = none ∨ stored e.world.db .git id = none) ∧
    requireAllPersistedBounds e.world.db = .ok () ∧
    (∀ m ∈ e.moments, ∀ x answer id r, m.deed = .act ⟨.replace x, answer⟩ →
      x.replacement.next.value .operationId = .text id →
      stored m.before.db x.replacement.table.other id = some r →
      m.after.db = m.before.db ∧ ∃ error, answer = Except.error error ∧
        (error = .operationIdentityConflict ∨ error = .invalidTransition ∨ StorageError error)) ∧
    (∀ m₀ ∈ e.moments, ∀ entry t id call r, m₀.deed = .start entry →
      entry.underEffect C = some (t, id, call) →
      stored m₀.before.db (Table.other t) id = some r →
      (∀ m ∈ e.moments, m.session = m₀.session → m.after.db = m.before.db) ∧
        ∀ succeeded, Returns call (history m₀.session e.moments) succeeded →
          succeeded = false) := by
  refine ⟨fun id => ?_, e.requireAllPersistedBounds_eq_ok, ?_, ?_⟩
  · cases hrow : stored e.world.db .kubernetes id with
    | none => exact .inl rfl
    | some r => exact .inr (separate_of_conforms e.conforms .kubernetes id r hrow)
  · intro m hm x answer id r hdeed hid hrow
    exact e.foreign_write hm hdeed hid hrow
  · intro m₀ hm₀ entry t id call r hstart hentry hrow
    refine ⟨fun m hm hs => e.unchanged_of_foreign hm₀ hstart hentry hrow hm hs, ?_⟩
    intro succeeded hreturns
    have hmeets : call.Meets (fun _ _ => True) [] fun past succeeded =>
        Elsewhere t id past → succeeded = false := Entry.meets_underEffect hentry
    have hpost := hmeets.returns hreturns
    rw [List.append_nil] at hpost
    exact hpost (e.elsewhere_of_start hm₀ hstart hrow)

end Gateway
end Kapsel
