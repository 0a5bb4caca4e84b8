import Kapsel.Gateway.Request
import Mathlib.Logic.Function.Basic

/-!
# Tables, columns and records of the journal

`src/gateway/journal/schema.rs` and the `Record` of `src/gateway/journal/records.rs`.

The journal has two `STRICT` tables.  A record of a table gives every column of that table
a value of the column's declared type or `NULL`; the source keeps the values in a vector
in the order of the columns and finds a value by the position of its column's name.
`Record.values` is that vector, and `Record.ext_values` says that it is all there is to a
record.  That the values have the declared types is a field of the record: no code of the
journal sets a column to a value of another type.
-/

namespace Kapsel

open Grammar

namespace Gateway
namespace Journal

/-- `Table`. -/
inductive Table where
  | kubernetes
  | git
  deriving DecidableEq, Repr

/-- `Table::other`. -/
def Table.other : Table → Table
  | .kubernetes => .git
  | .git => .kubernetes

/-- The columns of the two tables. -/
inductive Column where
  | operationId
  | namespace
  | deployment
  | container
  | immutableImageDigest
  | authorizationId
  | authorizationSignerKeyId
  | authorizationGrantDigest
  | signedAuthorizationGrant
  | state
  | writeStrategy
  | targetRejection
  | targetReadFailures
  | applyAttempted
  | targetUid
  | targetResourceVersion
  | applyAccepted
  | requestedGeneration
  | applyResourceVersion
  | receiverUid
  | receiverImage
  | receiverOperationMarker
  | currentGeneration
  | observedGeneration
  | receiverResourceVersion
  | desiredReplicas
  | updatedReplicas
  | availableReplicas
  | unavailableReplicas
  | availableCondition
  | progressDeadlineExceeded
  | result
  | receiptDigest
  | receiptBytes
  | receiptKeyId
  | rolloutConditionType
  | rolloutConditionStatus
  | rolloutConditionReason
  | approvedUid
  | approvedResourceVersion
  | preflightUid
  | preflightResourceVersion
  | repositoryId
  | refName
  | oldCommit
  | newCommit
  | acknowledgement
  | observedRefKind
  | observedCommit
  deriving DecidableEq, Repr

/-- `CURRENT_COLUMNS` and `GIT_COLUMNS`. -/
def Table.columns : Table → List Column
  | .kubernetes =>
      [.operationId, .namespace, .deployment, .container, .immutableImageDigest,
        .authorizationId, .authorizationSignerKeyId, .authorizationGrantDigest,
        .signedAuthorizationGrant, .state, .writeStrategy, .targetRejection,
        .targetReadFailures, .applyAttempted, .targetUid, .targetResourceVersion,
        .applyAccepted, .requestedGeneration, .applyResourceVersion, .receiverUid,
        .receiverImage, .receiverOperationMarker, .currentGeneration, .observedGeneration,
        .receiverResourceVersion, .desiredReplicas, .updatedReplicas, .availableReplicas,
        .unavailableReplicas, .availableCondition, .progressDeadlineExceeded, .result,
        .receiptDigest, .receiptBytes, .receiptKeyId, .rolloutConditionType,
        .rolloutConditionStatus, .rolloutConditionReason, .approvedUid,
        .approvedResourceVersion, .preflightUid, .preflightResourceVersion]
  | .git =>
      [.operationId, .repositoryId, .refName, .oldCommit, .newCommit, .authorizationId,
        .authorizationSignerKeyId, .authorizationGrantDigest, .signedAuthorizationGrant, .state,
        .targetRejection, .acknowledgement, .observedRefKind, .observedCommit, .receiptDigest,
        .receiptBytes, .receiptKeyId]

/-- The columns declared `NOT NULL`. -/
def Table.notNull : Table → List Column
  | .kubernetes =>
      [.operationId, .namespace, .deployment, .container, .immutableImageDigest, .state,
        .targetReadFailures, .applyAttempted]
  | .git => [.operationId, .repositoryId, .refName, .oldCommit, .newCommit, .state]

theorem Table.nodup_columns (t : Table) : t.columns.Nodup := by
  cases t <;> decide

/-- The type that a column declares. -/
inductive Kind where
  | text
  | integer
  | blob
  deriving DecidableEq, Repr

/-- The declared type of a column. -/
def Column.kind : Column → Kind
  | .signedAuthorizationGrant => .blob
  | .receiptBytes => .blob
  | .targetReadFailures => .integer
  | .applyAttempted => .integer
  | .applyAccepted => .integer
  | .requestedGeneration => .integer
  | .currentGeneration => .integer
  | .observedGeneration => .integer
  | .desiredReplicas => .integer
  | .updatedReplicas => .integer
  | .availableReplicas => .integer
  | .unavailableReplicas => .integer
  | .availableCondition => .integer
  | .progressDeadlineExceeded => .integer
  | _ => .text

/-- An SQLite value; no column is declared `REAL`. -/
inductive Value where
  | null
  | integer (value : Int64)
  | text (value : Text)
  | blob (value : Bytes)
  deriving DecidableEq

/-- A value that may be absent. -/
def Value.optionalText : Option Text → Value
  | none => .null
  | some value => .text value

def Value.optionalInteger : Option Int64 → Value
  | none => .null
  | some value => .integer value

def Value.optionalBlob : Option Bytes → Value
  | none => .null
  | some value => .blob value

/-- The value is one of `rusqlite::types::Value`, whose text is a `String`.  SQLite does not
check the bytes of a text. -/
def Value.isUtf8 : Value → Bool
  | .text value => utf8IsValid value
  | _ => true

/-- The table has this column, with this type. -/
def Table.holds (t : Table) (c : Column) (k : Kind) : Bool := t.columns.contains c && c.kind = k

/-- The value may stand in this column: it is `NULL`, or of the declared type. -/
def Table.fits (t : Table) (c : Column) : Value → Bool
  | .null => true
  | .integer _ => t.holds c .integer
  | .text _ => t.holds c .text
  | .blob _ => t.holds c .blob

/-- `Record`. -/
structure Record (t : Table) where
  value : Column → Value
  fits : ∀ c, t.fits c (value c) = true

namespace Record

variable {t : Table}

/-- The values in the order of the columns. -/
def values (r : Record t) : List Value := t.columns.map r.value

@[ext] theorem ext {r r' : Record t} (h : ∀ c, r.value c = r'.value c) : r = r' := by
  obtain ⟨value, hfits⟩ := r
  obtain ⟨value', hfits'⟩ := r'
  obtain rfl : value = value' := funext h
  rfl

/-- Outside its table a record has no value. -/
theorem value_of_notMem {r : Record t} {c : Column} (h : c ∉ t.columns) : r.value c = .null := by
  have hfits := r.fits c
  have hholds : ∀ k, t.holds c k = false := by
    intro k
    rw [Table.holds, List.contains_eq_mem, decide_eq_false h, Bool.false_and]
  cases hvalue : r.value c with
  | null => rfl
  | integer v =>
    rw [hvalue, Table.fits, hholds] at hfits
    cases hfits
  | text v =>
    rw [hvalue, Table.fits, hholds] at hfits
    cases hfits
  | blob v =>
    rw [hvalue, Table.fits, hholds] at hfits
    cases hfits

/-- **The values are all there is to a record.** -/
theorem ext_values {r r' : Record t} (h : r.values = r'.values) : r = r' := by
  ext c
  by_cases hc : c ∈ t.columns
  · exact List.map_inj_left.mp h c hc
  · rw [value_of_notMem hc, value_of_notMem hc]

instance : DecidableEq (Record t) := fun r r' =>
  decidable_of_iff (r.values = r'.values) ⟨ext_values, congrArg values⟩

/-! ## Setting a column -/

/-- `Record::set`. -/
def set (r : Record t) (c : Column) (v : Value) (h : t.fits c v = true) : Record t where
  value := Function.update r.value c v
  fits c' := by
    by_cases hc : c' = c
    · subst hc
      rw [Function.update_self]
      exact h
    · rw [Function.update_of_ne hc]
      exact r.fits c'

def setText (r : Record t) (c : Column) (v : Text) (h : t.holds c .text = true := by decide) :
    Record t :=
  r.set c (.text v) h

def setInteger (r : Record t) (c : Column) (v : Int64)
    (h : t.holds c .integer = true := by decide) : Record t :=
  r.set c (.integer v) h

def setBlob (r : Record t) (c : Column) (v : Bytes) (h : t.holds c .blob = true := by decide) :
    Record t :=
  r.set c (.blob v) h

/-- `Record::set_optional` of a text. -/
def setOptionalText (r : Record t) (c : Column) (v : Option Text)
    (h : t.holds c .text = true := by decide) : Record t :=
  r.set c (.optionalText v) (by
    cases v with
    | none => rfl
    | some v => exact h)

/-- `Record::set_optional` of an integer. -/
def setOptionalInteger (r : Record t) (c : Column) (v : Option Int64)
    (h : t.holds c .integer = true := by decide) : Record t :=
  r.set c (.optionalInteger v) (by
    cases v with
    | none => rfl
    | some v => exact h)

/-- A record without any value. -/
def null (t : Table) : Record t := ⟨fun _ => .null, fun _ => rfl⟩

theorem holds_applyAttempted : Table.kubernetes.holds .applyAttempted .integer = true := by decide

/-- `Record::empty`. -/
def empty (id : Text) : Record .kubernetes :=
  (((null .kubernetes).setText .operationId id).setInteger .targetReadFailures 0).setInteger
    .applyAttempted 0 holds_applyAttempted

/-- `Record::git_empty`. -/
def gitEmpty (id : Text) : Record .git := (null .git).setText .operationId id

/-! ## Getting a column

`Record::get` converts a value to the type that is asked for, or reports the row as
invalid. -/

/-- `get::<String>`. -/
def getText (r : Record t) (c : Column) : Except GatewayError Text :=
  match r.value c with
  | .text v => .ok v
  | _ => .error .invalidPersistedState

/-- `get::<Option<String>>`. -/
def getOptionalText (r : Record t) (c : Column) : Except GatewayError (Option Text) :=
  match r.value c with
  | .null => .ok none
  | .text v => .ok (some v)
  | _ => .error .invalidPersistedState

/-- `get::<i64>`. -/
def getInteger (r : Record t) (c : Column) : Except GatewayError Int64 :=
  match r.value c with
  | .integer v => .ok v
  | _ => .error .invalidPersistedState

/-- `get::<Option<i64>>`. -/
def getOptionalInteger (r : Record t) (c : Column) : Except GatewayError (Option Int64) :=
  match r.value c with
  | .null => .ok none
  | .integer v => .ok (some v)
  | _ => .error .invalidPersistedState

/-- `get::<Option<i32>>`: an integer outside the range is refused. -/
def getOptionalInt32 (r : Record t) (c : Column) : Except GatewayError (Option Int32) :=
  match r.value c with
  | .null => .ok none
  | .integer v => if v.toInt32.toInt64 = v then .ok (some v.toInt32)
      else .error .invalidPersistedState
  | _ => .error .invalidPersistedState

/-- `get::<Vec<u8>>`. -/
def getBlob (r : Record t) (c : Column) : Except GatewayError Bytes :=
  match r.value c with
  | .blob v => .ok v
  | _ => .error .invalidPersistedState

/-- `get::<Option<Vec<u8>>>`. -/
def getOptionalBlob (r : Record t) (c : Column) : Except GatewayError (Option Bytes) :=
  match r.value c with
  | .null => .ok none
  | .blob v => .ok (some v)
  | _ => .error .invalidPersistedState

/-- `Record::has_value`. -/
def hasValue (r : Record t) (c : Column) : Bool := r.value c ≠ .null

section
variable {r : Record t} {c : Column}

theorem getText_eq_ok {v : Text} : r.getText c = .ok v ↔ r.value c = .text v := by
  unfold getText
  cases r.value c <;> simp

theorem getBlob_eq_ok {v : Bytes} : r.getBlob c = .ok v ↔ r.value c = .blob v := by
  unfold getBlob
  cases r.value c <;> simp

theorem getInteger_of_eq {v : Int64} (h : r.value c = .integer v) : r.getInteger c = .ok v := by
  rw [getInteger, h]

theorem getOptionalText_of_eq {v : Option Text} (h : r.value c = .optionalText v) :
    r.getOptionalText c = .ok v := by
  rw [getOptionalText, h]
  cases v <;> rfl

theorem getInteger_eq_ok {v : Int64} : r.getInteger c = .ok v ↔ r.value c = .integer v := by
  unfold getInteger
  cases r.value c <;> simp

theorem getOptionalText_eq_ok {v : Option Text} :
    r.getOptionalText c = .ok v ↔ r.value c = .optionalText v := by
  refine ⟨fun h => ?_, getOptionalText_of_eq⟩
  unfold getOptionalText at h
  cases hvalue : r.value c with
  | null | text _ =>
    rw [hvalue] at h
    rw [← Except.ok.inj h]
    rfl
  | integer _ | blob _ =>
    rw [hvalue] at h
    cases h

theorem getOptionalInteger_of_eq {v : Option Int64} (h : r.value c = .optionalInteger v) :
    r.getOptionalInteger c = .ok v := by
  rw [getOptionalInteger, h]
  cases v <;> rfl

theorem getOptionalInteger_eq_ok {v : Option Int64} :
    r.getOptionalInteger c = .ok v ↔ r.value c = .optionalInteger v := by
  refine ⟨fun h => ?_, getOptionalInteger_of_eq⟩
  unfold getOptionalInteger at h
  cases hvalue : r.value c with
  | null | integer _ =>
    rw [hvalue] at h
    rw [← Except.ok.inj h]
    rfl
  | text _ | blob _ =>
    rw [hvalue] at h
    cases h

theorem getOptionalBlob_of_eq {v : Option Bytes} (h : r.value c = .optionalBlob v) :
    r.getOptionalBlob c = .ok v := by
  rw [getOptionalBlob, h]
  cases v <;> rfl

theorem getOptionalBlob_eq_ok {v : Option Bytes} :
    r.getOptionalBlob c = .ok v ↔ r.value c = .optionalBlob v := by
  unfold getOptionalBlob
  cases hvalue : r.value c <;> cases v <;> simp [Value.optionalBlob]

theorem getOptionalInt32_of_eq {v : Option Int32}
    (h : r.value c = .optionalInteger (v.map Int32.toInt64)) : r.getOptionalInt32 c = .ok v := by
  rw [getOptionalInt32, h]
  cases v with
  | none => rfl
  | some v =>
    show (if v.toInt64.toInt32.toInt64 = v.toInt64 then _ else _) = _
    rw [Int32.toInt32_toInt64, if_pos rfl]

theorem getOptionalInt32_eq_ok {v : Option Int32} :
    r.getOptionalInt32 c = .ok v ↔ r.value c = .optionalInteger (v.map Int32.toInt64) := by
  refine ⟨fun h => ?_, getOptionalInt32_of_eq⟩
  unfold getOptionalInt32 at h
  cases hvalue : r.value c with
  | null =>
    rw [hvalue] at h
    rw [← Except.ok.inj h]
    rfl
  | integer i =>
    rw [hvalue] at h
    dsimp only at h
    split at h
    · rename_i hrange
      rw [← Except.ok.inj h]
      exact congrArg Value.integer hrange.symm
    · cases h
  | text _ | blob _ =>
    rw [hvalue] at h
    cases h

end

end Record

end Journal
end Gateway
end Kapsel
