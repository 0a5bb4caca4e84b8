import Kapsel.Journal.Records

/-!
# Compare and set over whole runs

Any number of connections call `Io::replace`.  Transactions are serializable, so what
happens is some sequence of calls, each run on the database that the calls before it left.
`Untouched` says that no call of a stretch of the sequence committed on a given row;
`stored_of_untouched` is the frame rule, by induction on the stretch, and the chain of a
row's records is read off from it: a write sees what the write before it stored.

A stored record can come back.  Nothing in `Io::replace` forbids writing an earlier record
again, so two calls that expect the same record may both commit, but then a call between
them wrote that record back.
-/

namespace Kapsel

open Relational

namespace Gateway
namespace Journal

/-- A call of `Io::replace`. -/
structure Replacement where
  table : Table
  expected : Option (Record table)
  next : Record table

/-- The database after a call; a call that is refused or fails rolls back. -/
def Replacement.run (call : Replacement) (db : Database) : Database :=
  match replaceSqlite db call.expected call.next with
  | .ok db' => db'
  | .error _ => db

/-- The call commits. -/
def Replacement.commits (call : Replacement) (db : Database) : Bool :=
  (replaceSqlite db call.expected call.next).isOk

/-- The database after a sequence of calls. -/
def afterCalls : Database → List Replacement → Database
  | db, [] => db
  | db, call :: calls => afterCalls (call.run db) calls

/-- Which calls of a sequence commit. -/
def commitLog : Database → List Replacement → List Bool
  | _, [] => []
  | db, call :: calls => call.commits db :: commitLog (call.run db) calls

/-- The call commits on the row of `id` in table `t`. -/
def Replacement.Writes (call : Replacement) (db : Database) (t : Table) (id : Text) : Prop :=
  call.table = t ∧ call.next.value .operationId = .text id ∧ call.commits db = true

/-- No call of the sequence commits on the row. -/
def Untouched (t : Table) (id : Text) : Database → List Replacement → Prop
  | _, [] => True
  | db, call :: calls => ¬ call.Writes db t id ∧ Untouched t id (call.run db) calls

section
variable {db db' : Database} {t : Table} {id : Text} {call : Replacement}

theorem Replacement.commits_iff :
    call.commits db = true ↔ ∃ db', replaceSqlite db call.expected call.next = .ok db' := by
  unfold Replacement.commits
  cases replaceSqlite db call.expected call.next with
  | ok db' => exact ⟨fun _ => ⟨db', rfl⟩, fun _ => rfl⟩
  | error e => exact ⟨fun h => (nomatch h), fun h => nomatch h.choose_spec⟩

theorem Replacement.run_of_eq_ok (h : replaceSqlite db call.expected call.next = .ok db') :
    call.run db = db' := by
  rw [Replacement.run, h]

theorem Replacement.run_of_not_commits (h : ¬ call.commits db = true) : call.run db = db := by
  unfold Replacement.commits at h
  unfold Replacement.run
  cases hreplace : replaceSqlite db call.expected call.next with
  | ok db' =>
    rw [hreplace] at h
    exact absurd rfl h
  | error e => rfl

/-- One call: a row it does not write stays as it was. -/
theorem stored_run_of_not_writes (h : ¬ call.Writes db t id) :
    stored (call.run db) t id = stored db t id := by
  by_cases hcommits : call.commits db = true
  · obtain ⟨db', hreplace⟩ := Replacement.commits_iff.mp hcommits
    obtain ⟨id', hwrite⟩ := replaceSqlite_eq_ok hreplace
    rw [Replacement.run_of_eq_ok hreplace]
    by_cases htable : call.table = t
    · subst htable
      refine hwrite.elsewhere id fun hid => h ⟨rfl, ?_, hcommits⟩
      rw [hid]
      exact hwrite.operationId
    · have hother : t = call.table.other := by
        revert htable
        cases t <;> cases call.table <;> decide
      subst hother
      apply stored_congr
      rw [hwrite.otherTable]
  · rw [Replacement.run_of_not_commits hcommits]

/-- **The frame rule.** -/
theorem stored_of_untouched {calls : List Replacement} (h : Untouched t id db calls) :
    stored (afterCalls db calls) t id = stored db t id := by
  induction calls generalizing db with
  | nil => rfl
  | cons call calls ih =>
    rw [afterCalls, ih h.2]
    exact stored_run_of_not_writes h.1

/-- A stretch is untouched, or it has a last write. -/
theorem untouched_or_last_write (t : Table) (id : Text) (db : Database)
    (calls : List Replacement) :
    Untouched t id db calls ∨ ∃ before call after, calls = before ++ call :: after ∧
      call.Writes (afterCalls db before) t id ∧
      Untouched t id (call.run (afterCalls db before)) after := by
  induction calls generalizing db with
  | nil => exact .inl trivial
  | cons call calls ih =>
    rcases ih (call.run db) with hrest | ⟨before, last, after, rfl, hlast, hafter⟩
    · by_cases hwrites : call.Writes db t id
      · exact .inr ⟨[], call, calls, rfl, hwrites, hrest⟩
      · exact .inl ⟨hwrites, hrest⟩
    · exact .inr ⟨call :: before, last, after, rfl, hlast, hafter⟩

/-- What a write stored. -/
theorem stored_run_of_commits {expected : Option (Record t)} {next : Record t}
    (hid : next.value .operationId = .text id)
    (h : (⟨t, expected, next⟩ : Replacement).commits db = true) :
    stored db t id = expected ∧ expected ≠ some next ∧
      stored ((⟨t, expected, next⟩ : Replacement).run db) t id = some next := by
  obtain ⟨db', hreplace⟩ := Replacement.commits_iff.mp h
  obtain ⟨id', hwrite⟩ := replaceSqlite_eq_ok hreplace
  obtain rfl : id' = id := Value.text.inj (hwrite.operationId.symm.trans hid)
  rw [Replacement.run_of_eq_ok hreplace]
  exact ⟨hwrite.before, hwrite.changed, hwrite.after⟩

theorem afterCalls_append (db : Database) (calls calls' : List Replacement) :
    afterCalls db (calls ++ calls') = afterCalls (afterCalls db calls) calls' := by
  induction calls generalizing db with
  | nil => rfl
  | cons call calls ih => exact ih _

theorem Replacement.Writes.eq_mk (h : call.Writes db t id) :
    ∃ (expected : Option (Record t)) (next : Record t), call = ⟨t, expected, next⟩ := by
  obtain ⟨table, expected, next⟩ := call
  obtain rfl : table = t := h.1
  exact ⟨expected, next, rfl⟩

/-- **Two commits on one row that expect the same record** have a commit between them that
wrote that record back. -/
theorem exists_write_back {expected : Record t} {next next' : Record t}
    {mid : List Replacement} (hnext : next.value .operationId = .text id)
    (hnext' : next'.value .operationId = .text id)
    (h : (⟨t, some expected, next⟩ : Replacement).commits db = true)
    (h' : (⟨t, some expected, next'⟩ : Replacement).commits
      (afterCalls ((⟨t, some expected, next⟩ : Replacement).run db) mid) = true) :
    ∃ before seen after, mid = before ++ ⟨t, seen, expected⟩ :: after ∧
      (⟨t, seen, expected⟩ : Replacement).Writes
        (afterCalls ((⟨t, some expected, next⟩ : Replacement).run db) before) t id := by
  obtain ⟨-, hchanged, hstored⟩ := stored_run_of_commits hnext h
  obtain ⟨hseen, -, -⟩ := stored_run_of_commits hnext' h'
  rcases untouched_or_last_write t id ((⟨t, some expected, next⟩ : Replacement).run db) mid with
    huntouched | ⟨before, last, after, rfl, hlast, hafter⟩
  · -- without a write in between the first commit's record would still be there
    rw [stored_of_untouched huntouched, hstored] at hseen
    exact absurd hseen.symm hchanged
  · obtain ⟨seen, written, rfl⟩ := hlast.eq_mk
    obtain ⟨-, -, hwritten⟩ := stored_run_of_commits hlast.2.1 hlast.2.2
    rw [afterCalls_append, afterCalls, stored_of_untouched hafter, hwritten] at hseen
    obtain rfl := Option.some.inj hseen
    exact ⟨before, seen, after, rfl, hlast⟩

end

theorem ne_of_mem_assignments {t : Table} {expected next : Record t} {p : Column × ℕ}
    (h : p ∈ assignments (changes t.columns expected.values next.values)) :
    expected.value p.1 ≠ next.value p.1 := by
  obtain ⟨q, hq, rfl⟩ := List.mem_map.mp h
  obtain ⟨hmem, hdiffers⟩ := List.mem_filter.mp (List.fst_mem_of_mem_zipIdx hq)
  have hcolumn := List.mk_mem_zipIdx_iff_getElem?.mp hmem
  intro hsame
  refine of_decide_eq_true hdiffers ?_
  rw [Record.values, Record.values, List.getElem?_map, List.getElem?_map, hcolumn]
  exact congrArg some hsame

/-! ## The record store is linearizable -/

/-- **Compare and set.**  One call: an update commits exactly when the stored record is the
expected one, of texts that are texts, the next one differs and SQLite admits it; an insertion
commits exactly when the identity is in neither table, there is room and SQLite admits the
record; a commit stores exactly the next record and changes no other row, although it assigns
only differing columns; any other call changes nothing.  Any sequence of calls: a commit sees
what the commit before it on the same row stored, and two commits with the same expected record
have a commit between them that wrote it back. -/
theorem replace_linearizable :
    (∀ (db : Database) (t : Table) (id : Text) (expected next : Record t),
      next.value .operationId = .text id → Readable db t id →
        ((⟨t, some expected, next⟩ : Replacement).commits db = true ↔
          stored db t id = some expected ∧ expected.isUtf8 = true ∧ expected ≠ next ∧
            next.storable = true)) ∧
    (∀ (db : Database) (t : Table) (id : Text) (next : Record t),
      next.value .operationId = .text id → Readable db t id →
        ((⟨t, none, next⟩ : Replacement).commits db = true ↔
          stored db t id = none ∧ stored db t.other id = none ∧ HasRoom db ∧
            next.storable = true)) ∧
    (∀ (db : Database) (t : Table) (expected : Option (Record t)) (next : Record t),
      (⟨t, expected, next⟩ : Replacement).commits db = true →
        ∃ id, next.value .operationId = .text id ∧
          stored ((⟨t, expected, next⟩ : Replacement).run db) t id = some next ∧
          (∀ id', id' ≠ id →
            stored ((⟨t, expected, next⟩ : Replacement).run db) t id' = stored db t id') ∧
          (⟨t, expected, next⟩ : Replacement).run db t.other = db t.other) ∧
    (∀ (t : Table) (expected next : Record t),
      ∀ p ∈ assignments (changes t.columns expected.values next.values),
        expected.value p.1 ≠ next.value p.1) ∧
    (∀ (db : Database) (call : Replacement), call.commits db = false → call.run db = db) ∧
    (∀ (db : Database) (t : Table) (id : Text) (mid : List Replacement)
        (expected expected' : Option (Record t)) (next next' : Record t),
      next.value .operationId = .text id → next'.value .operationId = .text id →
        (⟨t, expected, next⟩ : Replacement).commits db = true →
        Untouched t id ((⟨t, expected, next⟩ : Replacement).run db) mid →
        (⟨t, expected', next'⟩ : Replacement).commits
          (afterCalls ((⟨t, expected, next⟩ : Replacement).run db) mid) = true →
        expected' = some next) ∧
    (∀ (db : Database) (t : Table) (id : Text) (mid : List Replacement)
        (expected next next' : Record t),
      next.value .operationId = .text id → next'.value .operationId = .text id →
        (⟨t, some expected, next⟩ : Replacement).commits db = true →
        (⟨t, some expected, next'⟩ : Replacement).commits
          (afterCalls ((⟨t, some expected, next⟩ : Replacement).run db) mid) = true →
        ∃ before seen after, mid = before ++ ⟨t, seen, expected⟩ :: after ∧
          (⟨t, seen, expected⟩ : Replacement).Writes
            (afterCalls ((⟨t, some expected, next⟩ : Replacement).run db) before) t id) := by
  refine ⟨fun db t id expected next hid hreadable => ?_, fun db t id next hid _ => ?_,
    fun db t expected next hcommits => ?_, fun t expected next p hp => ne_of_mem_assignments hp,
    fun db call hrefused => ?_, fun db t id mid expected expected' next next' hid hid' h hmid h' => ?_,
    fun db t id mid expected next next' hnext hnext' h h' => exists_write_back hnext hnext' h h'⟩
  · rw [Replacement.commits_iff]
    exact replaceSqlite_update hid hreadable
  · rw [Replacement.commits_iff]
    exact replaceSqlite_insert hid
  · obtain ⟨db', hreplace⟩ := Replacement.commits_iff.mp hcommits
    obtain ⟨id, hwrite⟩ := replaceSqlite_eq_ok hreplace
    rw [Replacement.run_of_eq_ok hreplace]
    exact ⟨id, hwrite.operationId, hwrite.after, hwrite.elsewhere, hwrite.otherTable⟩
  · apply Replacement.run_of_not_commits
    rw [hrefused]
    exact Bool.false_ne_true
  · obtain ⟨-, -, hstored⟩ := stored_run_of_commits hid h
    obtain ⟨hseen, -, -⟩ := stored_run_of_commits hid' h'
    rw [stored_of_untouched hmid, hstored] at hseen
    exact hseen.symm

theorem holds_repositoryId : Table.git.holds .repositoryId .text = true := by decide

theorem holds_refName : Table.git.holds .refName .text = true := by decide

theorem holds_oldCommit : Table.git.holds .oldCommit .text = true := by decide

theorem holds_newCommit : Table.git.holds .newCommit .text = true := by decide

theorem holds_state : Table.git.holds .state .text = true := by decide

/-- A complete Git record in some state. -/
def sampleRecord (state : String) : Record .git :=
  (((((Record.gitEmpty (utf8 "a")).setText .repositoryId (utf8 "r") holds_repositoryId).setText
    .refName (utf8 "refs/heads/approved") holds_refName).setText .oldCommit (utf8 "0")
    holds_oldCommit).setText .newCommit (utf8 "1") holds_newCommit).setText .state (utf8 state)
    holds_state

/-- Two things that the record store does not promise.  A record with a `NULL` in a
`NOT NULL` column is not inserted, although its identity is in neither table and there is
room; and two calls with the same expected record both commit when a third one wrote it
back in between. -/
theorem replace_refuses_incomplete_and_repeats :
    (stored Database.empty .kubernetes (utf8 "a") = none ∧
      stored Database.empty .git (utf8 "a") = none ∧ HasRoom Database.empty ∧
      (⟨.kubernetes, none, Record.empty (utf8 "a")⟩ : Replacement).commits Database.empty =
        false) ∧
    commitLog Database.empty
      [⟨.git, none, sampleRecord "authorized"⟩,
        ⟨.git, some (sampleRecord "authorized"), sampleRecord "apply_started"⟩,
        ⟨.git, some (sampleRecord "apply_started"), sampleRecord "authorized"⟩,
        ⟨.git, some (sampleRecord "authorized"), sampleRecord "apply_started"⟩] =
      [true, true, true, true] := by
  refine ⟨⟨stored_empty _ _, stored_empty _ _, ⟨by decide, by decide⟩, by decide +kernel⟩, ?_⟩
  decide +kernel

end Journal
end Gateway
end Kapsel
