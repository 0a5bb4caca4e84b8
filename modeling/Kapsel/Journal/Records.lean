import Kapsel.Interaction.Fallible
import Kapsel.Journal.Schema
import Kapsel.Relational.Relation
import Mathlib.Algebra.Order.BigOperators.Group.List

/-!
# The record store

`src/gateway/journal/records.rs` and `src/gateway/journal/capacity.rs`: bounded reads, the
admission capacity, and `Io::replace`, the one way to write.

A transaction is a function from the database before it to the database after it, or an
error, and an error leaves the database as it was.  That transactions are atomic and
serializable is assumed of SQLite, together with what it refuses: a `NULL` in a `NOT NULL`
column and a row whose encoded record is longer than `SQLITE_LIMIT_LENGTH`, which opening
sets to 64 KiB.

## Compare and set

`replaceSqlite` reads the row, compares all of it with what the caller expects, and then
updates only the columns that differ, each from its own numbered parameter.
`replaceSqlite_eq_ok` says what a commit establishes, `replaceSqlite_update` and
`replaceSqlite_insert` when there is one.  Everything else in the development uses these
and never looks at a statement again.
-/

namespace Kapsel

open Fallible Relational

namespace Gateway
namespace Journal

/-! ## Sizes -/

/-- The digits of a number below `10 ^ 19`. -/
def decimalDigits (n : ℕ) : ℕ := 1 + ((List.range 18).filter fun k => 10 ^ (k + 1) ≤ n).length

/-- `length(CAST(value AS BLOB))`, or zero for `NULL`: an integer is cast to its decimal
text. -/
def Value.length : Value → ℕ
  | .null => 0
  | .integer value => (if value < 0 then 1 else 0) + decimalDigits value.toInt.natAbs
  | .text value => value.length
  | .blob value => value.length

/-- The bytes that SQLite stores for an integer other than zero and one. -/
def integerBytes (value : Int64) : ℕ :=
  let magnitude := if value < 0 then (-(value.toInt + 1)).natAbs else value.toInt.natAbs
  if magnitude ≤ 127 then 1
  else if magnitude ≤ 32767 then 2
  else if magnitude ≤ 8388607 then 3
  else if magnitude ≤ 2147483647 then 4
  else if magnitude ≤ 140737488355327 then 6
  else 8

/-- The serial type of a stored value and the bytes of its content. -/
def Value.serial : Value → ℕ × ℕ
  | .null => (0, 0)
  | .integer value =>
      if value = 0 then (8, 0)
      else if value = 1 then (9, 0)
      else (integerBytes value, integerBytes value)
  | .text value => (2 * value.length + 13, value.length)
  | .blob value => (2 * value.length + 12, value.length)

/-- The bytes of a variable-length integer. -/
def varintLength (n : ℕ) : ℕ := 1 + ((List.range 8).filter fun k => 2 ^ (7 * (k + 1)) ≤ n).length

/-- The bytes of a record header around `types` bytes of serial types: it counts itself. -/
def headerBytes (types : ℕ) : ℕ :=
  if types ≤ 126 then types + 1
  else
    let size := types + varintLength types
    if varintLength types < varintLength size then size + 1 else size

/-- The bytes of an encoded record. -/
def recordBytes (values : List Value) : ℕ :=
  headerBytes (values.map fun v => varintLength v.serial.1).sum +
    (values.map fun v => v.serial.2).sum

/-- `PERSISTED_VALUE_BYTES_MAX` and `PERSISTED_ROW_BYTES_MAX`. -/
def persistedValueBytesMax : ℕ := 16 * 1024
def persistedRowBytesMax : ℕ := 64 * 1024

/-- `field_limit`. -/
def fieldLimit (c : Column) : ℕ :=
  if c = .signedAuthorizationGrant then 4096 else persistedValueBytesMax

/-- The bounds of `read_table`, for each value and for the whole row. -/
def Record.withinBounds {t : Table} (r : Record t) : Bool :=
  (t.columns.all fun c => (r.value c).length ≤ fieldLimit c) &&
    (t.columns.map fun c => (r.value c).length).sum ≤ persistedRowBytesMax

/-- `Record::from_sql` can convert every value.  A record that the code itself builds is so by
its type: its texts are `String`s. -/
def Record.isUtf8 {t : Table} (r : Record t) : Bool := t.columns.all fun c => (r.value c).isUtf8

/-! ## The database -/

/-- Every column. -/
def Column.every : List Column :=
  Table.kubernetes.columns ++
    [.repositoryId, .refName, .oldCommit, .newCommit, .acknowledgement, .observedRefKind,
      .observedCommit]

theorem Column.mem_every (c : Column) : c ∈ Column.every := by
  cases c <;> decide

/-- What SQLite lets a row of the table be. -/
def admits (t : Table) (row : Column → Value) : Bool :=
  (Column.every.all fun c => t.fits c (row c)) &&
    ((t.notNull.all fun c => row c ≠ .null) && recordBytes (t.columns.map row) ≤ persistedRowBytesMax)

/-- The record could be stored. -/
def Record.storable {t : Table} (r : Record t) : Bool := admits t r.value

/-- The two tables. -/
def Database : Type := (t : Table) → Relation Column.operationId (admits t)

/-- The journal of a fresh file. -/
def Database.empty : Database := fun _ => Relation.empty

/-- The database with other rows in one table. -/
def Database.withTable (db : Database) (t : Table) (rows : Relation Column.operationId (admits t)) :
    Database := fun t' => if h : t' = t then h ▸ rows else db t'

@[simp] theorem Database.withTable_self (db : Database) (t : Table)
    (rows : Relation Column.operationId (admits t)) : db.withTable t rows t = rows := dif_pos rfl

theorem Database.withTable_of_ne (db : Database) {t t' : Table} (h : t' ≠ t)
    (rows : Relation Column.operationId (admits t)) : db.withTable t rows t' = db t' := dif_neg h

theorem fits_of_admits {t : Table} {row : Column → Value} (h : admits t row = true) (c : Column) :
    t.fits c (row c) = true := by
  rw [admits, Bool.and_eq_true, List.all_eq_true] at h
  exact h.1 c (Column.mem_every c)

/-- The record that a table has for an identity. -/
def stored (db : Database) (t : Table) (id : Text) : Option (Record t) :=
  ((db t).select (.text id)).pmap (fun row h => ⟨row, h⟩) fun row h =>
    fits_of_admits ((db t).admitted row (Relation.mem_of_select h))

/-- `read_table`: the whole row is bounded and converted before any column of it is looked
at. -/
def readTable (db : Database) (id : Text) (t : Table) :
    Except GatewayError (Option (Record t)) :=
  match stored db t id with
  | none => .ok none
  | some record =>
      if record.withinBounds then
        if record.isUtf8 then .ok (some record) else .error (.database .conversion)
      else .error .invalidPersistedState

/-! ## Capacity -/

/-- `IDENTITY_CAPACITY`: the pages less the headroom, by the pages of one identity. -/
def identityCapacity : ℕ := (16384 - 256) / 32

/-- `UNFINISHED_CAPACITY`. -/
def unfinishedCapacity : ℕ := 32

/-- The states that `counts` counts as unfinished. -/
def unfinishedStates : List Value :=
  [.text (utf8 "requested"), .text (utf8 "authorized"), .text (utf8 "apply_started"),
    .text (utf8 "receiver_observed")]

/-- `counts`: the retained and the unfinished identities of both tables. -/
def counts (db : Database) : ℕ × ℕ :=
  let rows := (db .kubernetes).rows ++ (db .git).rows
  (rows.length, rows.countP fun row => unfinishedStates.contains (row .state))

/-- `require_admission`. -/
def requireAdmission (db : Database) : Except GatewayError Unit :=
  require ((counts db).1 < identityCapacity && (counts db).2 < unfinishedCapacity) .journalFull

/-! ## Replacing a record -/

/-- `changed_one`. -/
def changedOne (changed : ℕ) : Except GatewayError Unit :=
  require (changed = 1) .invalidTransition

/-- Why SQLite refuses a row. -/
def refusal {t : Table} (next : Record t) : GatewayError :=
  if t.notNull.all fun c => next.value c ≠ .null then .database .tooBig
  else .database .constraintViolation

/-- `update_changed_columns`: `UPDATE … SET c = ?1, … WHERE operation_id = ?n`, where the
last parameter is the identity. -/
def updateChangedColumns {t : Table} (db : Database) (previous next : Record t) (id : Text) :
    Except GatewayError Database := do
  let changed := changes t.columns previous.values next.values
  require (!changed.isEmpty) .invalidTransition
  let parameters := changedValues changed next.values ++ [.text id]
  let key := (parameter parameters parameters.length).getD .null
  match (db t).update key (assign (assignments changed) parameters) with
  | none => .error (refusal next)
  | some (rows, count) => do
      changedOne count
      return db.withTable t rows

/-- `INSERT INTO … VALUES (?1, …)`. -/
def insertRecord {t : Table} (db : Database) (next : Record t) : Except GatewayError Database :=
  match (db t).insert next.value with
  | none => .error (refusal next)
  | some rows => .ok (db.withTable t rows)

/-- `Io::replace_sqlite`. -/
def replaceSqlite {t : Table} (db : Database) (expected : Option (Record t)) (next : Record t) :
    Except GatewayError Database := do
  let id ← next.getText .operationId
  let retained ← readTable db id t
  require (retained = expected) .invalidTransition
  match expected with
  | some previous => updateChangedColumns db previous next id
  | none => do
      require (stored db t.other id).isNone .operationIdentityConflict
      requireAdmission db
      insertRecord db next

/-! ## What is stored -/

section
variable {db db' : Database} {t : Table} {id : Text}

theorem stored_eq_some {r : Record t} :
    stored db t id = some r ↔ (db t).select (.text id) = some r.value := by
  unfold stored
  rw [Option.pmap_eq_some_iff]
  constructor
  · rintro ⟨row, -, hselect, rfl⟩
    exact hselect
  · intro h
    exact ⟨r.value, r.fits, h, rfl⟩

theorem stored_eq_none : stored db t id = none ↔ (db t).select (.text id) = none := by
  unfold stored
  rw [Option.pmap_eq_none_iff]

/-- What is stored under an identity depends on the selected row only. -/
theorem stored_congr (h : (db' t).select (.text id) = (db t).select (.text id)) :
    stored db' t id = stored db t id := by
  ext r
  rw [stored_eq_some, stored_eq_some, h]

theorem value_operationId_of_stored {r : Record t} (h : stored db t id = some r) :
    r.value .operationId = .text id := Relation.key_of_select (stored_eq_some.mp h)

@[simp] theorem stored_empty (t : Table) (id : Text) : stored Database.empty t id = none :=
  stored_eq_none.mpr rfl

theorem readTable_eq_ok {record : Option (Record t)} (h : readTable db id t = .ok record) :
    stored db t id = record := by
  unfold readTable at h
  split at h
  · rename_i hstored
    rw [hstored]
    exact Except.ok.inj h
  · rename_i r hstored
    split at h
    · split at h
      · rw [hstored]
        exact Except.ok.inj h
      · cases h
    · cases h

theorem readTable_eq_error {error : GatewayError} (h : readTable db id t = .error error) :
    error = .invalidPersistedState ∨ error = .database .conversion := by
  unfold readTable at h
  split at h
  · cases h
  · split at h
    · split at h
      · cases h
      · exact .inr (Except.error.inj h).symm
    · exact .inl (Except.error.inj h).symm

theorem readTable_of_none (h : stored db t id = none) : readTable db id t = .ok none := by
  rw [readTable, h]

theorem readTable_of_some {r : Record t} (h : stored db t id = some r)
    (hbounds : r.withinBounds = true) (hutf8 : r.isUtf8 = true) :
    readTable db id t = .ok (some r) := by
  rw [readTable, h]
  exact (if_pos hbounds).trans (if_pos hutf8)

/-- A row with a text that is no `String` is not read at all. -/
theorem readTable_of_not_utf8 {r : Record t} (h : stored db t id = some r)
    (hbounds : r.withinBounds = true) (hutf8 : r.isUtf8 = false) :
    readTable db id t = .error (.database .conversion) := by
  rw [readTable, h]
  exact (if_pos hbounds).trans (if_neg (by rw [hutf8]; exact Bool.false_ne_true))

/-- What is read could be converted. -/
theorem isUtf8_of_readTable {r : Record t} (h : readTable db id t = .ok (some r)) :
    r.isUtf8 = true := by
  cases hutf8 : r.isUtf8 with
  | true => rfl
  | false =>
    rw [readTable, readTable_eq_ok h] at h
    simp only [hutf8, Bool.false_eq_true, if_false] at h
    split at h <;> cases h

end

/-! ## What a commit establishes -/

section
variable {db db' : Database} {t : Table}

/-- One committed write: which row it replaced, and that it touched no other. -/
structure Commits (db db' : Database) {t : Table} (id : Text) (expected : Option (Record t))
    (next : Record t) : Prop where
  operationId : next.value .operationId = .text id
  before : stored db t id = expected
  after : stored db' t id = some next
  storable : next.storable = true
  changed : expected ≠ some next
  fresh : expected = none → stored db t.other id = none
  elsewhere : ∀ id', id' ≠ id → stored db' t id' = stored db t id'
  otherTable : db' t.other = db t.other

theorem isEmpty_changes_iff {previous next : Record t} :
    (changes t.columns previous.values next.values).isEmpty = true ↔ previous = next := by
  rw [List.isEmpty_iff, changes, List.filter_eq_nil_iff]
  constructor
  · intro h
    apply Record.ext_values
    refine List.ext_getElem (by rw [Record.values, Record.values, List.length_map, List.length_map])
      fun i hi hi' => ?_
    have hlength : i < t.columns.length := by
      rwa [Record.values, List.length_map] at hi
    have hmem : (t.columns[i], i) ∈ t.columns.zipIdx := by
      rw [List.mk_mem_zipIdx_iff_getElem?]
      exact List.getElem?_eq_getElem hlength
    have hsame := h _ hmem
    rw [decide_eq_true_eq, not_ne_iff, List.getElem?_eq_getElem hi, List.getElem?_eq_getElem hi'] at hsame
    exact Option.some.inj hsame
  · rintro rfl p -
    simp

theorem parameter_last (parameters : List Value) (v : Value) :
    parameter (parameters ++ [v]) (parameters ++ [v]).length = some v := by
  rw [parameter, List.length_append, List.length_singleton, Nat.add_sub_cancel,
    List.getElem?_append_right le_rfl, Nat.sub_self]
  rfl

/-- The assignments turn the previous row into the next one, in every column. -/
theorem assign_record (previous next : Record t) (v : Value) :
    assign (assignments (changes t.columns previous.values next.values))
      (changedValues (changes t.columns previous.values next.values) next.values ++ [v])
      previous.value = next.value := by
  funext c
  by_cases hc : c ∈ t.columns
  · have hlength : previous.values.length = t.columns.length := List.length_map ..
    have hlength' : next.values.length = t.columns.length := List.length_map ..
    have hrow : t.columns.map previous.value = previous.values := rfl
    have hlaw := assign_changes t.nodup_columns hlength hlength' hrow [v]
    exact List.map_inj_left.mp hlaw c hc
  · rw [assign_changes_of_notMem hc, Record.value_of_notMem hc, Record.value_of_notMem hc]

theorem other_ne (t : Table) : t.other ≠ t := by
  cases t <;> decide

/-- An update of a stored row commits exactly when SQLite admits the next one. -/
theorem updateChangedColumns_eq_ok {id : Text} {previous next : Record t}
    (hprevious : stored db t id = some previous) (hid : next.value .operationId = .text id)
    (hchanged : previous ≠ next) :
    (∃ db', updateChangedColumns db previous next id = .ok db') ↔ next.storable = true := by
  have hselect := stored_eq_some.mp hprevious
  have hassign := assign_record previous next (.text id)
  have hempty : (!(changes t.columns previous.values next.values).isEmpty) = true := by
    rw [Bool.not_eq_true', Bool.eq_false_iff]
    exact fun h => hchanged (isEmpty_changes_iff.mp h)
  unfold updateChangedColumns
  simp only [require_of_true hempty, parameter_last, Option.getD_some]
  constructor
  · rintro ⟨db', h⟩
    obtain ⟨_, -, h⟩ := bind_eq_ok.mp h
    split at h
    · cases h
    · rename_i rows count hupdate
      have hadmits := Relation.admits_of_update hupdate hselect
      rw [hassign] at hadmits
      exact hadmits
  · intro hstorable
    obtain ⟨rows, hupdate⟩ := Relation.update_eq_some hselect
      (f := assign (assignments (changes t.columns previous.values next.values))
        (changedValues (changes t.columns previous.values next.values) next.values ++ [.text id]))
      (by rw [hassign]; exact hid) (by rw [hassign]; exact hstorable)
    refine ⟨db.withTable t rows, ?_⟩
    rw [hupdate]
    rfl

theorem commits_of_updateChangedColumns {id : Text} {previous next : Record t}
    (hprevious : stored db t id = some previous) (hid : next.value .operationId = .text id)
    (h : updateChangedColumns db previous next id = .ok db') :
    Commits db db' id (some previous) next := by
  have hselect := stored_eq_some.mp hprevious
  have hassign := assign_record previous next (.text id)
  have hchanged : previous ≠ next := by
    intro hsame
    unfold updateChangedColumns at h
    obtain ⟨_, hempty, -⟩ := bind_eq_ok.mp h
    rw [require_eq_ok, isEmpty_changes_iff.mpr hsame] at hempty
    cases hempty
  have hstorable := (updateChangedColumns_eq_ok hprevious hid hchanged).mp ⟨db', h⟩
  unfold updateChangedColumns at h
  obtain ⟨_, -, h⟩ := bind_eq_ok.mp h
  simp only [parameter_last, Option.getD_some] at h
  split at h
  · cases h
  · rename_i rows count hupdate
    obtain ⟨_, -, h⟩ := bind_eq_ok.mp h
    obtain rfl := Except.ok.inj h
    have hafter := Relation.select_update hupdate hselect (by rw [hassign]; exact hid)
    rw [hassign] at hafter
    refine ⟨hid, hprevious, ?_, hstorable, fun hsame => hchanged (Option.some.inj hsame),
      fun hnone => (nomatch hnone), fun id' hne => ?_, db.withTable_of_ne (other_ne t) _⟩
    · rw [stored_eq_some, Database.withTable_self, hafter, if_pos rfl]
    · apply stored_congr
      rw [Database.withTable_self, hafter, if_neg]
      exact fun hsame => hne (Value.text.inj hsame)

theorem commits_of_insertRecord {id : Text} {next : Record t} (hnone : stored db t id = none)
    (hother : stored db t.other id = none) (hid : next.value .operationId = .text id)
    (h : insertRecord db next = .ok db') : Commits db db' id none next := by
  unfold insertRecord at h
  split at h
  · cases h
  · rename_i rows hinsert
    obtain rfl := Except.ok.inj h
    have hafter := Relation.select_insert hinsert
    have hstorable := (Relation.insert_eq_some_iff.mp ⟨rows, hinsert⟩).2
    refine ⟨hid, hnone, ?_, hstorable, fun hsame => (nomatch hsame), fun _ => hother,
      fun id' hne => ?_, db.withTable_of_ne (other_ne t) _⟩
    · rw [stored_eq_some, Database.withTable_self, hafter, if_pos hid]
    · apply stored_congr
      rw [Database.withTable_self, hafter, if_neg]
      rw [hid]
      exact fun hsame => hne (Value.text.inj hsame).symm

/-- **What a commit establishes.** -/
theorem replaceSqlite_eq_ok {expected : Option (Record t)} {next : Record t}
    (h : replaceSqlite db expected next = .ok db') : ∃ id, Commits db db' id expected next := by
  unfold replaceSqlite at h
  obtain ⟨id, hid, h⟩ := bind_eq_ok.mp h
  obtain ⟨retained, hread, h⟩ := bind_eq_ok.mp h
  obtain ⟨_, hretained, h⟩ := bind_eq_ok.mp h
  obtain rfl := of_decide_eq_true (require_eq_ok.mp hretained)
  rw [Record.getText_eq_ok] at hid
  have hbefore := readTable_eq_ok hread
  refine ⟨id, ?_⟩
  cases retained with
  | some previous => exact commits_of_updateChangedColumns hbefore hid h
  | none =>
    obtain ⟨_, hother, h⟩ := bind_eq_ok.mp h
    obtain ⟨_, -, h⟩ := bind_eq_ok.mp h
    rw [require_eq_ok, Option.isNone_iff_eq_none] at hother
    exact commits_of_insertRecord hbefore hother hid h

/-- The row of the identity, if there is one, is within the bounds of a read. -/
def Readable (db : Database) (t : Table) (id : Text) : Prop :=
  ∀ r ∈ stored db t id, r.withinBounds = true

/-- **An update commits exactly when** the stored record is the expected one, of texts that can be
read, the next one differs, and SQLite admits it. -/
theorem replaceSqlite_update {id : Text} {expected next : Record t}
    (hid : next.value .operationId = .text id) (hreadable : Readable db t id) :
    (∃ db', replaceSqlite db (some expected) next = .ok db') ↔
      stored db t id = some expected ∧ expected.isUtf8 = true ∧ expected ≠ next ∧
        next.storable = true := by
  constructor
  · rintro ⟨db', h⟩
    obtain ⟨id', hcommits⟩ := replaceSqlite_eq_ok h
    obtain rfl : id' = id := Value.text.inj (hcommits.operationId.symm.trans hid)
    unfold replaceSqlite at h
    obtain ⟨_, -, h⟩ := bind_eq_ok.mp h
    obtain ⟨retained, hread, h⟩ := bind_eq_ok.mp h
    obtain ⟨_, hsame, -⟩ := bind_eq_ok.mp h
    obtain rfl := of_decide_eq_true (require_eq_ok.mp hsame)
    exact ⟨hcommits.before, isUtf8_of_readTable hread,
      fun hsame => hcommits.changed (congrArg some hsame), hcommits.storable⟩
  · rintro ⟨hbefore, hutf8, hchanged, hstorable⟩
    obtain ⟨db', hupdate⟩ := (updateChangedColumns_eq_ok hbefore hid hchanged).mpr hstorable
    refine ⟨db', ?_⟩
    unfold replaceSqlite
    refine bind_eq_ok.mpr ⟨id, Record.getText_eq_ok.mpr hid, ?_⟩
    refine bind_eq_ok.mpr ⟨some expected, ?_, ?_⟩
    · exact readTable_of_some hbefore (hreadable expected hbefore) hutf8
    · exact bind_eq_ok.mpr ⟨(), require_of_true (decide_eq_true rfl), hupdate⟩

/-- There is room for one more admission. -/
def HasRoom (db : Database) : Prop :=
  (counts db).1 < identityCapacity ∧ (counts db).2 < unfinishedCapacity

theorem requireAdmission_eq_ok {u : Unit} : requireAdmission db = .ok u ↔ HasRoom db := by
  rw [requireAdmission, require_eq_ok, Bool.and_eq_true, decide_eq_true_eq, decide_eq_true_eq]
  rfl

/-- **An insertion commits exactly when** the identity is in neither table, there is room,
and SQLite admits the record. -/
theorem replaceSqlite_insert {id : Text} {next : Record t}
    (hid : next.value .operationId = .text id) :
    (∃ db', replaceSqlite db none next = .ok db') ↔
      stored db t id = none ∧ stored db t.other id = none ∧ HasRoom db ∧
        next.storable = true := by
  constructor
  · rintro ⟨db', h⟩
    obtain ⟨id', hcommits⟩ := replaceSqlite_eq_ok h
    obtain rfl : id' = id := Value.text.inj (hcommits.operationId.symm.trans hid)
    refine ⟨hcommits.before, hcommits.fresh rfl, ?_, hcommits.storable⟩
    unfold replaceSqlite at h
    obtain ⟨_, -, h⟩ := bind_eq_ok.mp h
    obtain ⟨_, -, h⟩ := bind_eq_ok.mp h
    obtain ⟨_, -, h⟩ := bind_eq_ok.mp h
    obtain ⟨_, -, h⟩ := bind_eq_ok.mp h
    obtain ⟨_, hroom, -⟩ := bind_eq_ok.mp h
    exact requireAdmission_eq_ok.mp hroom
  · rintro ⟨hbefore, hother, hroom, hstorable⟩
    have hselect : (db t).select (next.value .operationId) = none := by
      rw [hid]
      exact stored_eq_none.mp hbefore
    obtain ⟨rows, hinsert⟩ := Relation.insert_eq_some_iff.mpr ⟨hselect, hstorable⟩
    refine ⟨db.withTable t rows, ?_⟩
    unfold replaceSqlite
    refine bind_eq_ok.mpr ⟨id, Record.getText_eq_ok.mpr hid, ?_⟩
    refine bind_eq_ok.mpr ⟨none, readTable_of_none hbefore, ?_⟩
    refine bind_eq_ok.mpr ⟨(), require_of_true (decide_eq_true rfl), ?_⟩
    refine bind_eq_ok.mpr ⟨(), require_of_true ?_, ?_⟩
    · rw [hother]
      rfl
    · refine bind_eq_ok.mpr ⟨(), requireAdmission_eq_ok.mpr hroom, ?_⟩
      rw [insertRecord, hinsert]

end

end Journal
end Gateway
end Kapsel
