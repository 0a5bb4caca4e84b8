import Kapsel.Gateway.History

/-!
# Rows are written once

Every commit, of any writer in any interleaving, takes one row along an edge of its
lifecycle and leaves everything else alone (`Written`).  A column other than the state ---
and, for Kubernetes rows, other than `apply_attempted` --- is either as it was or had been
`NULL` (`Grows`).  Growing is transitive, so over the whole life of a row a column changes
at most once, a response or an acknowledgement is recorded at most once, and a row in a
terminal state never changes again.

The one column where this is not plain from the writers is `requested_generation`, which
the response may record and freezing writes again: the classification returns a recorded
generation unchanged.
-/

namespace Kapsel

open Grammar Fallible Authority Interaction Interaction.Program Relation

namespace Gateway

open Journal

variable {C : Crypto}

/-! ## Columns -/

/-- The columns that are not written once. -/
def Journal.Table.rewritable : Table → List Column
  | .kubernetes => [.state, .applyAttempted]
  | .git => [.state]

/-- Every other column is as it was, or was `NULL`. -/
def Grows {t : Table} (r r' : Record t) : Prop :=
  ∀ c ∉ t.rewritable, r.value c = .null ∨ r'.value c = r.value c

theorem Grows.refl {t : Table} (r : Record t) : Grows r r := fun _ _ => .inr rfl

theorem Grows.trans {t : Table} {r r' r'' : Record t} (h : Grows r r') (h' : Grows r' r'') :
    Grows r r'' := by
  intro c hc
  rcases h c hc with hnull | hsame
  · exact .inl hnull
  · rcases h' c hc with hnull' | hsame'
    · exact .inl (hsame.symm.trans hnull')
    · exact .inr (hsame'.trans hsame)

/-- A generation that the response recorded is the one that freezing writes. -/
theorem frozenGeneration_of_response (a : AuthorizedRequest C) (target : ValidatedTargetIdentity)
    {response : Option ApplyResponseFacts} (observation : ReceiverObservation) {generation : Int64}
    (h : response.bind (·.requestedGeneration) = some generation) :
    frozenGeneration a target response observation = some generation := by
  show (response.bind (·.requestedGeneration)).or _ = _
  rw [h]
  rfl

theorem grows_of_next (a : AuthorizedRequest C) {p p' : Phase} (h : p.Next p') :
    Grows (phaseRecord a p) (phaseRecord a p') := by
  intro c hc
  cases h with
  | observe target response observation =>
    by_cases hgeneration : c = .requestedGeneration
    · subst hgeneration
      cases hrecorded : response.bind (·.requestedGeneration) with
      | none =>
        refine .inl ?_
        show Value.optionalInteger (response.bind (·.requestedGeneration)) = .null
        rw [hrecorded]
        rfl
      | some generation =>
        refine .inr ?_
        show Value.optionalInteger (frozenGeneration a target response observation) =
          Value.optionalInteger (response.bind (·.requestedGeneration))
        rw [hrecorded, frozenGeneration_of_response a target observation hrecorded]
    · revert hc hgeneration
      cases c <;> intro hc hgeneration <;> first
        | exact .inr rfl
        | exact .inl rfl
        | exact absurd (by decide) hc
        | exact absurd rfl hgeneration
  | _ =>
    revert hc
    cases c <;> intro hc <;> first
      | exact .inr rfl
      | exact .inl rfl
      | exact absurd (by decide) hc

theorem grows_of_gitNext (b : GitBinding C) {p p' : GitPhase} (h : p.Next p') :
    Grows (gitRecord b p) (gitRecord b p') := by
  intro c hc
  revert hc
  cases h with
  | observe retained seen =>
    cases retained <;> cases c <;> intro hc <;> first
      | exact .inr rfl
      | exact .inl rfl
      | exact absurd (by decide) hc
  | _ =>
    cases c <;> intro hc <;> first
      | exact .inr rfl
      | exact .inl rfl
      | exact absurd (by decide) hc

theorem grows_of_rowNext {t : Table} {r r' : Record t} (h : RowNext C t r r') : Grows r r' := by
  cases h with
  | kubernetes a hnext => exact grows_of_next a hnext
  | git b hnext => exact grows_of_gitNext b hnext

/-! ## Terminal rows -/

/-- The states that a row ends in. -/
def terminalStates : List Value := [.text (utf8 "not_attempted"), .text (utf8 "finalized")]

theorem not_terminal_of_rowNext {t : Table} {r r' : Record t} (h : RowNext C t r r') :
    r.value .state ∉ terminalStates := by
  cases h with
  | kubernetes a hnext =>
    cases hnext <;> (rw [← List.contains_iff_mem]; exact Bool.false_ne_true)
  | git b hnext =>
    cases hnext <;> (rw [← List.contains_iff_mem]; exact Bool.false_ne_true)

/-- **What becomes of a row**: it is still there, it has grown, and it is the same if it was
terminal. -/
theorem grows_of_evolves {db db' : Database} {t : Table} {id : Text} {r : Record t}
    (h : Evolves C db db') (hr : stored db t id = some r) :
    ∃ r', stored db' t id = some r' ∧ Grows r r' ∧ (r.value .state ∈ terminalStates → r' = r) := by
  obtain ⟨r', hr', hnext⟩ := h t id r hr
  refine ⟨r', hr', ?_, fun hterminal => ?_⟩
  · clear hr hr'
    induction hnext with
    | refl => exact Grows.refl r
    | tail _ hstep ih => exact ih.trans (grows_of_rowNext hstep)
  · rcases hnext.cases_head with hsame | ⟨_, hstep, -⟩
    · exact hsame.symm
    · exact absurd hterminal (not_terminal_of_rowNext hstep)

/-! ## Edges -/

/-- The edges of the state column; an insertion comes from nothing. -/
def Journal.Table.edges : Table → List (Option OperationState × OperationState)
  | .kubernetes => [(none, .requested), (some .requested, .authorized),
      (some .authorized, .notAttempted), (some .authorized, .applyStarted),
      (some .applyStarted, .applyStarted), (some .applyStarted, .receiverObserved),
      (some .receiverObserved, .finalized)]
  | .git => [(none, .authorized), (some .authorized, .notAttempted),
      (some .authorized, .applyStarted), (some .applyStarted, .applyStarted),
      (some .applyStarted, .receiverObserved), (some .receiverObserved, .finalized)]

/-- The column that says that the receiver answered. -/
def Journal.Table.answerColumn : Table → Column
  | .kubernetes => .applyAccepted
  | .git => .acknowledgement

/-- The writers that record what the receiver answered. -/
def Transition.recordsResponse : Transition C → Bool
  | .recordApplyOutcome .. => true
  | .recordGitAcknowledgement .. => true
  | _ => false

/-- What one commit does. -/
structure Written (x : Transition C) (db db' : Database) (t : Table) (id : Text) : Prop where
  identity : x.replacement.next.value .operationId = .text id
  edge : ∃ s s' after, stored db' t id = some after ∧
    (stored db t id).map (·.value .state) = s.map (Value.text ·.asSql) ∧
    after.value .state = .text s'.asSql ∧ (s, s') ∈ t.edges ∧
    (s = some s' → x.recordsResponse = true)
  grows : ∀ r after, stored db t id = some r → stored db' t id = some after → Grows r after
  attempted : ∀ r after, stored db t id = some r → stored db' t id = some after →
    after.value .applyAttempted ≠ r.value .applyAttempted →
      r.value .applyAttempted = .integer 0 ∧ after.value .applyAttempted = .integer 1 ∧
        r.value .state = .text OperationState.authorized.asSql ∧
        after.value .state = .text OperationState.applyStarted.asSql
  elsewhere : ∀ id', id' ≠ id → stored db' t id' = stored db t id'
  otherTable : db' t.other = db t.other

section
variable {x : Transition C} {db db' : Database}

theorem edge_of_next {p p' : Phase} (h : p.Next p') :
    (some p.state, p'.state) ∈ Table.kubernetes.edges := by
  cases h <;> (simp only [Phase.state]; decide)

theorem edge_of_gitNext {p p' : GitPhase} (h : p.Next p') :
    (some p.state, p'.state) ∈ Table.git.edges := by
  cases h <;> (simp only [GitPhase.state]; decide)

theorem recordsResponse_of_advances {a : AuthorizedRequest C} {p p' : Phase}
    (h : Advances x a p p') (hstate : p.state = p'.state) : x.recordsResponse = true := by
  cases h with
  | recordApplyOutcome => rfl
  | _ => cases hstate

theorem recordsResponse_of_gitAdvances {b : GitBinding C} {p p' : GitPhase}
    (h : GitAdvances x b p p') (hstate : p.state = p'.state) : x.recordsResponse = true := by
  cases h with
  | recordGitAcknowledgement => rfl
  | _ => cases hstate

/-- `apply_attempted` is set when the attempt starts. -/
theorem applyAttempted_of_next (a : AuthorizedRequest C) {p p' : Phase} (h : p.Next p')
    (hchanged : phaseValue a p' .applyAttempted ≠ phaseValue a p .applyAttempted) :
    phaseValue a p .applyAttempted = .integer 0 ∧ phaseValue a p' .applyAttempted = .integer 1 ∧
      phaseValue a p .state = .text OperationState.authorized.asSql ∧
      phaseValue a p' .state = .text OperationState.applyStarted.asSql := by
  cases h with
  | attempt target => exact ⟨rfl, rfl, rfl, rfl⟩
  | _ => exact absurd rfl hchanged

theorem operationId_of_moves {t : Table} {before : Option (Record t)} {after : Record t}
    (h : Moves x t before after) :
    x.replacement.next.value .operationId = after.value .operationId := by
  cases h with
  | insertRequested => rfl
  | advance hadvances _ => cases hadvances <;> rfl
  | insertGit => rfl
  | gitAdvance hadvances _ => cases hadvances <;> rfl

theorem table_of_moves {t : Table} {before : Option (Record t)} {after : Record t}
    (h : Moves x t before after) : x.replacement.table = t := by
  cases h with
  | insertRequested => rfl
  | advance hadvances _ => cases hadvances <;> rfl
  | insertGit => rfl
  | gitAdvance hadvances _ => cases hadvances <;> rfl

/-- **What one commit does**, from the edge that it takes. -/
theorem written_of_moves {t : Table} {id : Text} {before : Option (Record t)} {after : Record t}
    (h : Commits db db' id before after) (hmoves : Moves x t before after) :
    Written x db db' t id := by
  have hgrows : ∀ r after', stored db t id = some r → stored db' t id = some after' →
      Grows r after' := by
    intro r after' hr hafter
    obtain rfl := Option.some.inj (h.after.symm.trans hafter)
    exact grows_of_rowNext (hmoves.rowNext r (h.before.symm.trans hr))
  have hidentity := (operationId_of_moves hmoves).trans h.operationId
  cases hmoves with
  | insertRequested a =>
    refine ⟨hidentity, ⟨none, .requested, _, h.after, by rw [h.before]; rfl, rfl, by decide,
      fun hs => nomatch hs⟩, hgrows, fun r _ hr => ?_, h.elsewhere, h.otherTable⟩
    cases h.before.symm.trans hr
  | @advance _ a p p' hadvances _ =>
    refine ⟨hidentity, ⟨some p.state, p'.state, _, h.after, by rw [h.before]; rfl, rfl,
      edge_of_next hadvances.next, fun hs => recordsResponse_of_advances hadvances
        (Option.some.inj hs)⟩, hgrows, fun r after' hr hafter hchanged => ?_, h.elsewhere,
      h.otherTable⟩
    obtain rfl := Option.some.inj (h.before.symm.trans hr)
    obtain rfl := Option.some.inj (h.after.symm.trans hafter)
    exact applyAttempted_of_next a hadvances.next hchanged
  | insertGit b =>
    refine ⟨hidentity, ⟨none, .authorized, _, h.after, by rw [h.before]; rfl, rfl, by decide,
      fun hs => nomatch hs⟩, hgrows, fun r _ hr => ?_, h.elsewhere, h.otherTable⟩
    cases h.before.symm.trans hr
  | @gitAdvance _ b p p' hadvances _ =>
    refine ⟨hidentity, ⟨some p.state, p'.state, _, h.after, by rw [h.before]; rfl, rfl,
      edge_of_gitNext hadvances.next, fun hs => recordsResponse_of_gitAdvances hadvances
        (Option.some.inj hs)⟩, hgrows, fun r after' hr hafter hchanged => ?_, h.elsewhere,
      h.otherTable⟩
    obtain rfl := Option.some.inj (h.before.symm.trans hr)
    obtain rfl := Option.some.inj (h.after.symm.trans hafter)
    exact absurd rfl hchanged

end

/-! ## Over a whole run -/

/-- The moment commits the write. -/
def CommitsAt (m : Event C) (x : Transition C) : Prop :=
  (∃ answer, m.deed = .act ⟨.replace x, answer⟩) ∧ Commit x m.before.db m.after.db

/-- The moment changes a column of a row. -/
def Changes (m : Event C) (t : Table) (id : Text) (c : Column) : Prop :=
  ∃ r r', stored m.before.db t id = some r ∧ stored m.after.db t id = some r' ∧
    r'.value c ≠ r.value c

/-- The moment records what the receiver answered for an identity. -/
def RecordsResponse (m : Event C) (t : Table) (id : Text) : Prop :=
  ∃ x, CommitsAt m x ∧ x.recordsResponse = true ∧ x.replacement.table = t ∧
    x.replacement.next.value .operationId = .text id

section
variable (e : Execution C) {m m' : Event C} {later middle earlier : List (Event C)}

theorem Execution.moves {x : Transition C} (hm : m ∈ e.moments) (hcommits : CommitsAt m x) :
    ∃ t id before after, Commits m.before.db m.after.db (t := t) id before after ∧
      Moves x t before after := by
  obtain ⟨⟨answer, hdeed⟩, hcommit⟩ := hcommits
  obtain ⟨earlier, -, -, hconforms⟩ := e.exists_conforms hm
  obtain ⟨entry, hactive, hallowed, -⟩ := hconforms.exchange hdeed
  exact (sound_of_conforms hconforms.tail.1).moves hactive hallowed.1 hallowed.2 hcommit

theorem Execution.written {x : Transition C} {t : Table} (hm : m ∈ e.moments)
    (hcommits : CommitsAt m x) (htable : x.replacement.table = t) :
    ∃ id, Written x m.before.db m.after.db t id := by
  obtain ⟨t', id, before, after, hwrite, hmoves⟩ := e.moves hm hcommits
  obtain rfl : t' = t := (table_of_moves hmoves).symm.trans htable
  exact ⟨id, written_of_moves hwrite hmoves⟩

/-- Only a committed write changes the database. -/
theorem Execution.commits_of_ne (hm : m ∈ e.moments) (hne : m.after.db ≠ m.before.db) :
    ∃ x, CommitsAt m x := by
  obtain ⟨earlier, -, -, hconforms⟩ := e.exists_conforms hm
  obtain ⟨s, deed, w, w'⟩ := m
  cases hconforms with
  | start => exact absurd rfl hne
  | stop _ _ _ hleaves =>
    obtain rfl := hleaves
    exact absurd rfl hne
  | act _ _ _ _ hreacts =>
    rcases reacts_cases hreacts with rfl | ⟨x, rfl, hcommit, -⟩ | ⟨-, -, rfl⟩
    · exact absurd rfl hne
    · exact ⟨x, ⟨_, rfl⟩, hcommit⟩
    · exact absurd rfl hne

/-- What becomes of the rows between two moments. -/
theorem Execution.evolves_between
    (hsplit : e.moments = later ++ m' :: (middle ++ m :: earlier)) :
    Evolves C m.before.db m.after.db ∧ Evolves C m.after.db m'.before.db ∧
      Evolves C m'.before.db m'.after.db := by
  have hconforms := e.conforms
  rw [hsplit] at hconforms
  have hlast := hconforms.of_append
  have hpast := (sound_of_conforms hlast.tail.1).past m
    (List.mem_append_right middle List.mem_cons_self)
  exact ⟨hpast.2.1, hpast.2.2, ((sound_of_conforms hlast).past m' List.mem_cons_self).2.1⟩

/-- **A column changes at most once.** -/
theorem Execution.changes_once (hsplit : e.moments = later ++ m' :: (middle ++ m :: earlier))
    {t : Table} {id : Text} {c : Column} (hc : c ∉ t.rewritable) (h : Changes m t id c) :
    ¬ Changes m' t id c := by
  obtain ⟨hfirst, hbetween, hlast⟩ := e.evolves_between hsplit
  obtain ⟨r, r', hr, hr', hne⟩ := h
  rintro ⟨r₁, r₁', hr₁, hr₁', hne₁⟩
  obtain ⟨_, hsame, hgrows, -⟩ := grows_of_evolves hfirst hr
  obtain rfl := Option.some.inj (hr'.symm.trans hsame)
  obtain ⟨_, hsame, hgrows', -⟩ := grows_of_evolves hbetween hr'
  obtain rfl := Option.some.inj (hr₁.symm.trans hsame)
  obtain ⟨_, hsame, hgrows₁, -⟩ := grows_of_evolves hlast hr₁
  obtain rfl := Option.some.inj (hr₁'.symm.trans hsame)
  have hnull : r.value c = .null := (hgrows c hc).resolve_right hne
  have hvalue : r₁.value c = r'.value c := by
    refine (hgrows' c hc).resolve_left fun hnull' => hne ?_
    rw [hnull', hnull]
  refine hne ?_
  have hnull₁ := (hgrows₁ c hc).resolve_right hne₁
  rw [← hvalue, hnull₁, hnull]

/-- Recording an answer changes the column of the answer. -/
theorem Execution.changes_of_recordsResponse (hm : m ∈ e.moments) {t : Table} {id : Text}
    (h : RecordsResponse m t id) :
    Changes m t id t.answerColumn := by
  obtain ⟨x, hcommits, hrecords, htable, hid⟩ := h
  obtain ⟨t', id', before, after, hwrite, hmoves⟩ := e.moves hm hcommits
  obtain rfl : t' = t := (table_of_moves hmoves).symm.trans htable
  obtain rfl : id' = id := by
    rw [operationId_of_moves hmoves, hwrite.operationId] at hid
    exact Value.text.inj hid
  cases hmoves with
  | insertRequested => cases hrecords
  | insertGit => cases hrecords
  | advance hadvances _ =>
    cases hadvances with
    | recordApplyOutcome =>
      exact ⟨_, _, hwrite.before, hwrite.after, fun hsame => nomatch hsame⟩
    | _ => cases hrecords
  | gitAdvance hadvances _ =>
    cases hadvances with
    | recordGitAcknowledgement =>
      exact ⟨_, _, hwrite.before, hwrite.after, fun hsame => nomatch hsame⟩
    | _ => cases hrecords

/-- **An answer is recorded at most once.** -/
theorem Execution.recordsResponse_once
    (hsplit : e.moments = later ++ m' :: (middle ++ m :: earlier)) {t : Table} {id : Text}
    (h : RecordsResponse m t id) : ¬ RecordsResponse m' t id := by
  intro h'
  have hm : m ∈ e.moments := by
    rw [hsplit]
    exact List.mem_append_right later (List.mem_cons_of_mem _
      (List.mem_append_right middle List.mem_cons_self))
  have hm' : m' ∈ e.moments := by
    rw [hsplit]
    exact List.mem_append_right later List.mem_cons_self
  refine e.changes_once hsplit ?_ (e.changes_of_recordsResponse hm h)
    (e.changes_of_recordsResponse hm' h')
  cases t <;> decide

/-- A row is never lost, grows, and stays as it is once it is terminal. -/
theorem Execution.row_between (hsplit : e.moments = later ++ m' :: (middle ++ m :: earlier))
    {t : Table} {id : Text} {r : Record t} (hr : stored m.after.db t id = some r) :
    ∃ r', stored m'.after.db t id = some r' ∧ Grows r r' ∧
      (r.value .state ∈ terminalStates → r' = r) := by
  obtain ⟨-, hbetween, hlast⟩ := e.evolves_between hsplit
  exact grows_of_evolves (hbetween.trans hlast) hr

end

/-- **The life of a Kubernetes row.**  Only committed writes change the journal.  Every
commit on a Kubernetes row takes it along an edge of the lifecycle, keeps every column that
had a value, sets `apply_attempted` only from 0 to 1 when the attempt starts, and leaves
every other row and the Git table alone.  Between any two moments a row is never lost, it
grows, and it stays as it is once it is terminal; a column changes at most once; a response
is recorded at most once. -/
theorem kubernetes_rows_written_once (e : Execution C) :
    (∀ m ∈ e.moments, m.after.db ≠ m.before.db → ∃ x, CommitsAt m x) ∧
    (∀ m ∈ e.moments, ∀ x, CommitsAt m x → x.replacement.table = .kubernetes →
      ∃ id, Written x m.before.db m.after.db .kubernetes id) ∧
    (∀ later m' middle m earlier, e.moments = later ++ m' :: (middle ++ m :: earlier) → ∀ id,
      (∀ r, stored m.after.db .kubernetes id = some r →
        ∃ r', stored m'.after.db .kubernetes id = some r' ∧ Grows r r' ∧
          (r.value .state ∈ terminalStates → r' = r)) ∧
      (∀ c ∉ Table.kubernetes.rewritable, Changes m .kubernetes id c →
        ¬ Changes m' .kubernetes id c) ∧
      ¬ (RecordsResponse m .kubernetes id ∧ RecordsResponse m' .kubernetes id)) := by
  refine ⟨fun m hm => e.commits_of_ne hm, fun m hm x hcommits htable => ?_,
    fun later m' middle m earlier hsplit id => ⟨fun r => e.row_between hsplit,
      fun c hc => e.changes_once hsplit hc, fun h => e.recordsResponse_once hsplit h.1 h.2⟩⟩
  exact e.written hm hcommits htable

/-- **The life of a Git row.**  Every commit on a Git row takes it along an edge of the
lifecycle, keeps every column but the state that had a value, and leaves every other row and
the Kubernetes table alone.  Between any two moments a row is never lost, it grows, and it
stays as it is once it is terminal; a column changes at most once; an acknowledgement is
recorded at most once, and freezing leaves a recorded one as it is. -/
theorem git_rows_written_once (e : Execution C) :
    (∀ m ∈ e.moments, m.after.db ≠ m.before.db → ∃ x, CommitsAt m x) ∧
    (∀ m ∈ e.moments, ∀ x, CommitsAt m x → x.replacement.table = .git →
      ∃ id, Written x m.before.db m.after.db .git id) ∧
    (∀ m ∈ e.moments, ∀ original b retained seen columns,
      CommitsAt m (.freezeGitObservation original b retained seen columns) → ∀ r r',
        stored m.before.db .git b.authorization.operationId = some r →
        stored m.after.db .git b.authorization.operationId = some r' →
        r.value .acknowledgement ≠ .null → r'.value .acknowledgement = r.value .acknowledgement) ∧
    (∀ later m' middle m earlier, e.moments = later ++ m' :: (middle ++ m :: earlier) → ∀ id,
      (∀ r, stored m.after.db .git id = some r →
        ∃ r', stored m'.after.db .git id = some r' ∧ Grows r r' ∧
          (r.value .state ∈ terminalStates → r' = r)) ∧
      (∀ c ∉ Table.git.rewritable, Changes m .git id c → ¬ Changes m' .git id c) ∧
      ¬ (RecordsResponse m .git id ∧ RecordsResponse m' .git id)) := by
  refine ⟨fun m hm => e.commits_of_ne hm, fun m hm x hcommits htable => e.written hm hcommits htable,
    fun m hm original b retained seen columns hcommits r r' hr hr' hrecorded => ?_,
    fun later m' middle m earlier hsplit id => ⟨fun r => e.row_between hsplit,
      fun c hc => e.changes_once hsplit hc, fun h => e.recordsResponse_once hsplit h.1 h.2⟩⟩
  obtain ⟨earlier, -, -, hconforms⟩ := e.exists_conforms hm
  have hevolves := ((sound_of_conforms hconforms).past m List.mem_cons_self).2.1
  obtain ⟨_, hsame, hgrows, -⟩ := grows_of_evolves hevolves hr
  obtain rfl := Option.some.inj (hr'.symm.trans hsame)
  exact (hgrows .acknowledgement (by decide)).resolve_left hrecorded

end Gateway
end Kapsel
