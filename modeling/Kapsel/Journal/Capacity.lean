import Kapsel.Journal.Bounds

/-!
# Capacity, and what opening checks

`src/gateway/journal/capacity.rs` counts the rows of both tables: all of them, and those in an
unfinished state.  `counts_of_insert` and `counts_of_update` say what one commit does to the
two counts.  An insertion is admitted only while both counts are below their bounds, and an
update keeps the first count, so the bounds hold as long as no update makes a finished row
unfinished; that no writer does so is a matter of the lifecycle and is proved there.

Opening a journal checks the rows again: `requireRetainedBounds` is the logical part of
`require_retained_bounds` (the pages of the file are not modelled), and
`requireAllPersistedBounds` is the check of `src/gateway/journal/schema.rs` that no value is
too long and no identity is in both tables.
-/

namespace Kapsel

open Fallible Relational

namespace Gateway
namespace Journal

/-! ## Counting -/

/-- The row is in an unfinished state. -/
def unfinished (row : Column → Value) : Bool := unfinishedStates.contains (row .state)

/-- One for a row that is counted as unfinished. -/
def unfinishedWeight (row : Column → Value) : ℕ := if unfinished row then 1 else 0

section
variable {db db' : Database} {t : Table}

/-- The two counts, table by table. -/
theorem counts_eq (db : Database) (t : Table) :
    counts db = ((db t).rows.length + (db t.other).rows.length,
      (db t).rows.countP unfinished + (db t.other).rows.countP unfinished) := by
  have hfun : (fun row : Column → Value => unfinishedStates.contains (row .state)) = unfinished :=
    rfl
  cases t with
  | kubernetes => simp only [counts, List.length_append, List.countP_append, hfun, Table.other]
  | git =>
    simp only [counts, List.length_append, List.countP_append, hfun, Table.other]
    rw [Nat.add_comm, Nat.add_comm ((db .kubernetes).rows.countP unfinished)]

theorem counts_withTable (db : Database) (t : Table)
    (rows : Relation Column.operationId (admits t)) :
    counts (db.withTable t rows) = (rows.rows.length + (db t.other).rows.length,
      rows.rows.countP unfinished + (db t.other).rows.countP unfinished) := by
  rw [counts_eq _ t, Database.withTable_self, Database.withTable_of_ne _ (other_ne t)]

/-- **What an insertion does to the counts.** -/
theorem counts_of_insert {next : Record t} (h : replaceSqlite db none next = .ok db') :
    HasRoom db ∧ (counts db').1 = (counts db).1 + 1 ∧
      (counts db').2 = (counts db).2 + unfinishedWeight next.value := by
  unfold replaceSqlite at h
  obtain ⟨id, -, h⟩ := bind_eq_ok.mp h
  obtain ⟨retained, -, h⟩ := bind_eq_ok.mp h
  obtain ⟨_, -, h⟩ := bind_eq_ok.mp h
  obtain ⟨_, -, h⟩ := bind_eq_ok.mp h
  obtain ⟨_, hroom, h⟩ := bind_eq_ok.mp h
  unfold insertRecord at h
  split at h
  · cases h
  · rename_i rows hinsert
    obtain rfl := Except.ok.inj h
    have hlength := Relation.length_of_insert hinsert
    have hcount := Relation.countP_of_insert hinsert unfinished
    refine ⟨requireAdmission_eq_ok.mp hroom, ?_, ?_⟩
    · rw [counts_withTable, counts_eq db t]
      show rows.rows.length + _ = _ + 1
      omega
    · rw [counts_withTable, counts_eq db t]
      show rows.rows.countP unfinished + _ = _ + unfinishedWeight next.value
      unfold unfinishedWeight
      omega

/-- **What an update does to the counts.** -/
theorem counts_of_update {previous next : Record t}
    (h : replaceSqlite db (some previous) next = .ok db') :
    (counts db').1 = (counts db).1 ∧
      (counts db').2 + unfinishedWeight previous.value =
        (counts db).2 + unfinishedWeight next.value := by
  unfold replaceSqlite at h
  obtain ⟨id, hid, h⟩ := bind_eq_ok.mp h
  obtain ⟨retained, hread, h⟩ := bind_eq_ok.mp h
  obtain ⟨_, hretained, hupdated⟩ := bind_eq_ok.mp h
  rw [of_decide_eq_true (require_eq_ok.mp hretained)] at hread
  have hselect := stored_eq_some.mp (readTable_eq_ok hread)
  have hassign := assign_record previous next (.text id)
  obtain ⟨_, -, h⟩ := bind_eq_ok.mp hupdated
  simp only [parameter_last, Option.getD_some] at h
  split at h
  · cases h
  · rename_i rows count hupdate
    obtain ⟨_, -, h⟩ := bind_eq_ok.mp h
    obtain rfl := Except.ok.inj h
    have hlength := Relation.length_of_update hupdate
    have hcount := Relation.countP_of_update hupdate hselect unfinished
    rw [hassign] at hcount
    constructor
    · rw [counts_withTable, counts_eq db t]
      show rows.rows.length + _ = _
      omega
    · rw [counts_withTable, counts_eq db t]
      show rows.rows.countP unfinished + _ + unfinishedWeight previous.value =
        _ + unfinishedWeight next.value
      unfold unfinishedWeight
      omega

/-! ## Refusals -/

theorem requireAdmission_eq_error {error : GatewayError} :
    requireAdmission db = .error error ↔ ¬ HasRoom db ∧ error = .journalFull := by
  rw [requireAdmission, require_eq_error, Bool.and_eq_false_iff, decide_eq_false_iff_not,
    decide_eq_false_iff_not, ← not_and_or, eq_comm]
  rfl

/-- **A journal without room refuses a new identity**, whatever its record is. -/
theorem replaceSqlite_full {id : Text} {next : Record t}
    (hid : next.value .operationId = .text id) (hnone : stored db t id = none)
    (hother : stored db t.other id = none) (hroom : ¬ HasRoom db) :
    replaceSqlite db none next = .error .journalFull := by
  have hread := readTable_of_none hnone
  have habsent : (stored db t.other id).isNone = true := by
    rw [hother]
    rfl
  unfold replaceSqlite
  rw [bind_of_ok (Record.getText_eq_ok.mpr hid), bind_of_ok hread,
    bind_of_ok (require_of_true (decide_eq_true rfl)), bind_of_ok (require_of_true habsent),
    bind_of_error (requireAdmission_eq_error.mpr ⟨hroom, rfl⟩)]

theorem updateChangedColumns_ne_full {previous next : Record t} {id : Text} :
    updateChangedColumns db previous next id ≠ .error .journalFull := by
  have hrefusal : refusal next ≠ .journalFull := by
    unfold refusal
    split
    · exact fun h => nomatch h
    · exact fun h => nomatch h
  intro h
  rcases bind_eq_error.mp h with h | ⟨_, -, h⟩
  · cases (require_eq_error.mp h).2
  · dsimp only at h
    split at h
    · exact hrefusal (Except.error.inj h)
    · rcases bind_eq_error.mp h with h | ⟨_, -, h⟩
      · cases (require_eq_error.mp h).2
      · cases h

/-- **A full journal is only found for an identity that is in neither table.** -/
theorem absent_of_journalFull {id : Text} {expected : Option (Record t)} {next : Record t}
    (hid : next.value .operationId = .text id)
    (h : replaceSqlite db expected next = .error .journalFull) :
    expected = none ∧ stored db t id = none ∧ stored db t.other id = none ∧ ¬ HasRoom db := by
  unfold replaceSqlite at h
  rw [bind_of_ok (Record.getText_eq_ok.mpr hid)] at h
  rcases bind_eq_error.mp h with hread | ⟨retained, hread, h⟩
  · rcases readTable_eq_error hread with herror | herror
    · cases herror
    · cases herror
  · rcases bind_eq_error.mp h with hretained | ⟨_, hretained, h⟩
    · cases (require_eq_error.mp hretained).2
    · obtain rfl := of_decide_eq_true (require_eq_ok.mp hretained)
      cases retained with
      | some previous => exact absurd h updateChangedColumns_ne_full
      | none =>
        refine ⟨rfl, readTable_eq_ok hread, ?_⟩
        rcases bind_eq_error.mp h with hother | ⟨_, hother, h⟩
        · cases (require_eq_error.mp hother).2
        · refine ⟨Option.isNone_iff_eq_none.mp (require_eq_ok.mp hother), ?_⟩
          rcases bind_eq_error.mp h with hroom | ⟨_, -, h⟩
          · exact (requireAdmission_eq_error.mp hroom).1
          · unfold insertRecord at h
            split at h
            · have hrefusal := Except.error.inj h
              unfold refusal at hrefusal
              split at hrefusal
              · cases hrefusal
              · cases hrefusal
            · cases h

/-- **An identity of the other effect is never written under this one**: an insertion finds the
conflict, and an update finds no row. -/
theorem replaceSqlite_foreign {id : Text} {expected : Option (Record t)} {next : Record t}
    {r : Record t.other} (hid : next.value .operationId = .text id) (hnone : stored db t id = none)
    (hother : stored db t.other id = some r) :
    replaceSqlite db expected next =
      .error (if expected = none then .operationIdentityConflict else .invalidTransition) := by
  have hread := readTable_of_none hnone
  unfold replaceSqlite
  rw [bind_of_ok (Record.getText_eq_ok.mpr hid), bind_of_ok hread]
  cases expected with
  | none =>
    have hpresent : (stored db t.other id).isNone = false := by
      rw [hother]
      rfl
    rw [bind_of_ok (require_of_true (decide_eq_true rfl)),
      bind_of_error (require_of_false hpresent), if_pos rfl]
  | some previous =>
    rw [bind_of_error (require_of_false (decide_eq_false fun h => nomatch h)), if_neg]
    exact fun h => nomatch h

/-! ## What opening checks -/

/-- The logical part of `require_retained_bounds`. -/
def requireRetainedBounds (db : Database) : Except GatewayError Unit :=
  require ((counts db).1 ≤ identityCapacity && (counts db).2 ≤ unfinishedCapacity)
    .invalidPersistedState

/-- `OPERATION_COUNT_MAX`. -/
def operationCountMax : ℕ := 10000

/-- What `require_persisted_bounds` asks of a row. -/
def rowWithinBounds (t : Table) (row : Column → Value) : Bool :=
  ((t.columns.filter fun c => c.kind ≠ .integer).all fun c =>
    (row c).length ≤ persistedValueBytesMax) && (row .signedAuthorizationGrant).length ≤ 4096

/-- `require_persisted_bounds`. -/
def requirePersistedBounds (db : Database) (t : Table) : Except GatewayError Unit :=
  require ((db t).rows.length ≤ operationCountMax && (db t).rows.all (rowWithinBounds t))
    .invalidPersistedState

/-- An identity is in both tables. -/
def hasSharedIdentity (db : Database) : Bool :=
  (db .kubernetes).rows.any fun k => (db .git).rows.any fun g => k .operationId = g .operationId

/-- `require_all_persisted_bounds`. -/
def requireAllPersistedBounds (db : Database) : Except GatewayError Unit := do
  requirePersistedBounds db .kubernetes
  requirePersistedBounds db .git
  require (!hasSharedIdentity db) .invalidPersistedState

/-- Every row of a table is stored under its identity. -/
theorem exists_stored_of_mem {row : Column → Value} (h : row ∈ (db t).rows) :
    ∃ id r, row .operationId = .text id ∧ stored db t id = some r ∧ r.value = row := by
  have hadmitted := (db t).admitted row h
  have hfits := fits_of_admits hadmitted .operationId
  have hpresent : row .operationId ≠ .null := by
    rw [admits, Bool.and_eq_true, Bool.and_eq_true] at hadmitted
    have hnull := hadmitted.2.1
    rw [List.all_eq_true] at hnull
    have hmem : Column.operationId ∈ t.notNull := by
      cases t <;> decide
    exact of_decide_eq_true (hnull _ hmem)
  have hkind : ∀ k, t.holds .operationId k = true → k = .text := by
    intro k hk
    rw [Table.holds, Bool.and_eq_true, decide_eq_true_eq] at hk
    exact hk.2.symm
  cases hvalue : row .operationId with
  | null => exact absurd hvalue hpresent
  | integer v =>
    rw [hvalue] at hfits
    cases hkind _ hfits
  | blob v =>
    rw [hvalue] at hfits
    cases hkind _ hfits
  | text id =>
    refine ⟨id, ⟨row, fits_of_admits hadmitted⟩, rfl, ?_, rfl⟩
    exact stored_eq_some.mpr (Relation.select_eq_some.mpr ⟨h, hvalue⟩)

/-- Rows that a read accepts pass the check of opening. -/
theorem rowWithinBounds_of_withinBounds {r : Record t} (h : r.withinBounds = true) :
    rowWithinBounds t r.value = true := by
  have hcolumn : ∀ c ∈ t.columns, (r.value c).length ≤ fieldLimit c := by
    rw [Record.withinBounds, Bool.and_eq_true, List.all_eq_true] at h
    exact fun c hc => of_decide_eq_true (h.1 c hc)
  have hlimit : ∀ c, fieldLimit c ≤ persistedValueBytesMax := by
    intro c
    unfold fieldLimit persistedValueBytesMax
    split <;> omega
  rw [rowWithinBounds, Bool.and_eq_true, List.all_eq_true]
  constructor
  · intro c hc
    have hmem := (List.mem_filter.mp hc).1
    exact decide_eq_true ((hcolumn c hmem).trans (hlimit c))
  · have hmem : Column.signedAuthorizationGrant ∈ t.columns := by
      cases t <;> decide
    exact decide_eq_true (hcolumn _ hmem)

end

end Journal
end Gateway
end Kapsel
