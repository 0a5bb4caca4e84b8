import Mathlib.Data.List.Nodup
import Mathlib.Data.List.Basic
import Mathlib.Logic.Function.Basic

/-!
# Relations with a primary key

A relation is a list of rows, a row gives each column a value.  Two things hold of every
relation and are part of its type: no two rows have the same value in the key column, and
every row is one that the relation admits.  An insertion or an update that would break
either is refused and there is no other way to change a relation.

* `select_insert`, `select_update`: what a row reads as after a write, at its own key and
  at every other key.
* `assign`: the row that a list of assignments with numbered parameters makes.
  `assign_changes` is the law of partial updates: assigning exactly the columns in which
  two rows differ, each from its own parameter, turns the one into the other.
* `countP_of_insert`, `countP_of_update`: how many rows of a kind there are after a write.
-/

namespace Kapsel
namespace Relational

variable {K V : Type} [DecidableEq V]

/-- Rows that are all admitted, with distinct values in the key column. -/
structure Relation (key : K) (admits : (K → V) → Bool) where
  rows : List (K → V)
  unique : (rows.map fun row => row key).Nodup
  admitted : ∀ row ∈ rows, admits row = true

namespace Relation

variable {key : K} {admits : (K → V) → Bool}

/-- The relation without rows. -/
def empty : Relation key admits := ⟨[], List.nodup_nil, fun _ h => absurd h List.not_mem_nil⟩

/-- The relation of some rows, if they may form one. -/
def ofRows (rows : List (K → V)) : Option (Relation key admits) :=
  if h : (rows.map fun row => row key).Nodup ∧ ∀ row ∈ rows, admits row = true then
    some ⟨rows, h.1, h.2⟩
  else none

/-- The row with the given key. -/
def select (r : Relation key admits) (k : V) : Option (K → V) :=
  r.rows.find? fun row => row key = k

/-- Insert a row. -/
def insert (r : Relation key admits) (row : K → V) : Option (Relation key admits) :=
  ofRows (row :: r.rows)

/-- The rows after `f` was applied to the row with the given key. -/
def updatedRows (r : Relation key admits) (k : V) (f : (K → V) → K → V) : List (K → V) :=
  r.rows.map fun row => if row key = k then f row else row

/-- Apply `f` to the rows with the given key; also the number of these rows. -/
def update (r : Relation key admits) (k : V) (f : (K → V) → K → V) :
    Option (Relation key admits × ℕ) :=
  (ofRows (r.updatedRows k f)).map fun r' => (r', r.rows.countP fun row => row key = k)

omit [DecidableEq V] in
@[ext] theorem ext {r r' : Relation key admits} (h : r.rows = r'.rows) : r = r' := by
  cases r
  cases r'
  congr

theorem ofRows_eq_some {rows : List (K → V)} {r : Relation key admits}
    (h : ofRows rows = some r) : r.rows = rows := by
  unfold ofRows at h
  split at h
  · rw [← Option.some.inj h]
  · cases h

@[simp] theorem select_empty (k : V) : (empty : Relation key admits).select k = none := rfl

theorem key_of_select {r : Relation key admits} {k : V} {row : K → V}
    (h : r.select k = some row) : row key = k := by
  simpa using List.find?_some h

theorem mem_of_select {r : Relation key admits} {k : V} {row : K → V}
    (h : r.select k = some row) : row ∈ r.rows := List.mem_of_find?_eq_some h

theorem select_eq_none {r : Relation key admits} {k : V} :
    r.select k = none ↔ ∀ row ∈ r.rows, row key ≠ k := by
  rw [select, List.find?_eq_none]
  simp

/-- A key selects the only row that has it. -/
theorem select_eq_some {r : Relation key admits} {k : V} {row : K → V} :
    r.select k = some row ↔ row ∈ r.rows ∧ row key = k := by
  constructor
  · exact fun h => ⟨mem_of_select h, key_of_select h⟩
  · rintro ⟨hmem, hkey⟩
    cases hselect : r.select k with
    | none => exact absurd hkey (select_eq_none.mp hselect row hmem)
    | some row' =>
      have hkey' := key_of_select hselect
      have hmem' := mem_of_select hselect
      have hinj := List.inj_on_of_nodup_map r.unique hmem' hmem (hkey'.trans hkey.symm)
      rw [hinj]

/-! ## Insertion -/

theorem insert_eq_some_iff {r : Relation key admits} {row : K → V} :
    (∃ r', r.insert row = some r') ↔ r.select (row key) = none ∧ admits row = true := by
  rw [select_eq_none]
  unfold insert ofRows
  constructor
  · rintro ⟨r', h⟩
    split at h
    · rename_i hrows
      rw [List.map_cons, List.nodup_cons, List.forall_mem_cons] at hrows
      refine ⟨fun row' hmem hkey => hrows.1.1 ?_, hrows.2.1⟩
      rw [← hkey]
      exact List.mem_map_of_mem hmem
    · cases h
  · rintro ⟨hkey, hadmits⟩
    refine ⟨_, dif_pos ⟨?_, ?_⟩⟩
    · rw [List.map_cons, List.nodup_cons]
      refine ⟨fun hmem => ?_, r.unique⟩
      obtain ⟨row', hmem', hkey'⟩ := List.mem_map.mp hmem
      exact hkey row' hmem' hkey'
    · rw [List.forall_mem_cons]
      exact ⟨hadmits, r.admitted⟩

theorem rows_of_insert {r r' : Relation key admits} {row : K → V} (h : r.insert row = some r') :
    r'.rows = row :: r.rows := ofRows_eq_some h

theorem select_insert {r r' : Relation key admits} {row : K → V} (h : r.insert row = some r')
    (k : V) : r'.select k = if row key = k then some row else r.select k := by
  rw [select, rows_of_insert h, List.find?_cons]
  by_cases hk : row key = k
  · rw [if_pos hk]
    simp [hk]
  · rw [if_neg hk]
    simp [hk, select]

/-! ## Update -/

theorem countP_key {r : Relation key admits} {k : V} {row : K → V} (h : r.select k = some row) :
    (r.rows.countP fun row => row key = k) = 1 := by
  have hmap : (r.rows.countP fun row => row key = k) = (r.rows.map fun row => row key).count k := by
    rw [List.count, List.countP_map]
    congr
  rw [hmap]
  refine List.count_eq_one_of_mem r.unique ?_
  rw [← key_of_select h]
  exact List.mem_map_of_mem (mem_of_select h)

theorem rows_of_update {r r' : Relation key admits} {k : V} {f : (K → V) → K → V} {n : ℕ}
    (h : r.update k f = some (r', n)) :
    r'.rows = r.updatedRows k f ∧ n = r.rows.countP fun row => row key = k := by
  unfold update at h
  rw [Option.map_eq_some_iff] at h
  obtain ⟨r₁, hrows, hpair⟩ := h
  obtain ⟨rfl, rfl⟩ := Prod.mk.inj hpair
  exact ⟨ofRows_eq_some hrows, rfl⟩

variable {r r' : Relation key admits} {k : V} {f : (K → V) → K → V} {row : K → V} {n : ℕ}

theorem map_key_updatedRows (hrow : r.select k = some row) (hf : f row key = k) :
    (r.updatedRows k f).map (fun row => row key) = r.rows.map fun row => row key := by
  rw [updatedRows, List.map_map]
  refine List.map_congr_left fun row' hmem => ?_
  show (if row' key = k then f row' else row') key = row' key
  by_cases hkey : row' key = k
  · have hsame : row' = row := by
      have hselect := select_eq_some.mpr ⟨hmem, hkey⟩
      rw [hrow] at hselect
      exact (Option.some.inj hselect).symm
    rw [if_pos hkey, hsame, hf, ← hkey, hsame]
  · rw [if_neg hkey]

/-- An update that keeps the key and gives an admitted row takes place, on one row. -/
theorem update_eq_some (hrow : r.select k = some row) (hkey : f row key = k)
    (hadmits : admits (f row) = true) : ∃ r', r.update k f = some (r', 1) := by
  have hrows : ((r.updatedRows k f).map fun row => row key).Nodup ∧
      ∀ row ∈ r.updatedRows k f, admits row = true := by
    refine ⟨?_, fun row' hmem => ?_⟩
    · rw [map_key_updatedRows hrow hkey]
      exact r.unique
    · obtain ⟨row₀, hmem₀, rfl⟩ := List.mem_map.mp hmem
      by_cases hkey₀ : row₀ key = k
      · have hselect := select_eq_some.mpr ⟨hmem₀, hkey₀⟩
        rw [hrow] at hselect
        rw [if_pos hkey₀, ← Option.some.inj hselect]
        exact hadmits
      · rw [if_neg hkey₀]
        exact r.admitted row₀ hmem₀
  refine ⟨⟨_, hrows.1, hrows.2⟩, ?_⟩
  rw [update, ofRows, dif_pos hrows, Option.map_some, countP_key hrow]

/-- What an update admits. -/
theorem admits_of_update (h : r.update k f = some (r', n)) (hrow : r.select k = some row) :
    admits (f row) = true := by
  obtain ⟨hrows, -⟩ := rows_of_update h
  refine r'.admitted (f row) ?_
  rw [hrows]
  refine List.mem_map.mpr ⟨row, mem_of_select hrow, ?_⟩
  rw [if_pos (key_of_select hrow)]

theorem select_update (h : r.update k f = some (r', n)) (hrow : r.select k = some row)
    (hkey : f row key = k) (k' : V) :
    r'.select k' = if k' = k then some (f row) else r.select k' := by
  obtain ⟨hrows, -⟩ := rows_of_update h
  by_cases hk : k' = k
  · subst hk
    rw [if_pos rfl, select_eq_some]
    refine ⟨?_, hkey⟩
    rw [hrows]
    refine List.mem_map.mpr ⟨row, mem_of_select hrow, ?_⟩
    rw [if_pos (key_of_select hrow)]
  · rw [if_neg hk]
    -- at another key both relations find the same row
    have hfind : ∀ row', row' ∈ r'.rows ∧ row' key = k' ↔ row' ∈ r.rows ∧ row' key = k' := by
      intro row'
      rw [hrows]
      constructor
      · rintro ⟨hmem, hkey'⟩
        obtain ⟨row₀, hmem₀, rfl⟩ := List.mem_map.mp hmem
        by_cases hkey₀ : row₀ key = k
        · have hselect := select_eq_some.mpr ⟨hmem₀, hkey₀⟩
          rw [hrow] at hselect
          obtain rfl := Option.some.inj hselect
          rw [if_pos hkey₀, hkey] at hkey'
          exact absurd hkey'.symm hk
        · rw [if_neg hkey₀] at hkey' ⊢
          exact ⟨hmem₀, hkey'⟩
      · rintro ⟨hmem, hkey'⟩
        refine ⟨List.mem_map.mpr ⟨row', hmem, ?_⟩, hkey'⟩
        rw [if_neg (by rw [hkey']; exact hk)]
    ext row'
    rw [select_eq_some, select_eq_some]
    exact hfind row'

/-! ## Counting rows -/

theorem length_of_insert (h : r.insert row = some r') : r'.rows.length = r.rows.length + 1 := by
  rw [rows_of_insert h, List.length_cons]

theorem countP_of_insert (h : r.insert row = some r') (p : (K → V) → Bool) :
    r'.rows.countP p = r.rows.countP p + if p row then 1 else 0 := by
  rw [rows_of_insert h, List.countP_cons]

theorem length_of_update (h : r.update k f = some (r', n)) : r'.rows.length = r.rows.length := by
  rw [(rows_of_update h).1, updatedRows, List.length_map]

/-- A row that an update takes from one kind to another is counted there instead. -/
theorem countP_of_update (h : r.update k f = some (r', n)) (hrow : r.select k = some row)
    (p : (K → V) → Bool) :
    r'.rows.countP p + (if p row then 1 else 0) = r.rows.countP p + if p (f row) then 1 else 0 := by
  obtain ⟨hmem, hkey⟩ := select_eq_some.mp hrow
  obtain ⟨before, after, hsplit⟩ := List.append_of_mem hmem
  have hunique := r.unique
  rw [hsplit, List.map_append, List.map_cons, List.nodup_append, List.nodup_cons] at hunique
  obtain ⟨-, ⟨hafter, -⟩, hbefore⟩ := hunique
  have hothers : ∀ rows : List (K → V), (∀ row' ∈ rows, row' key ≠ k) →
      rows.map (fun row => if row key = k then f row else row) = rows := by
    intro rows hne
    conv_rhs => rw [← List.map_id rows]
    refine List.map_congr_left fun row' hmem' => ?_
    rw [if_neg (hne row' hmem'), id_eq]
  have hkept := hothers before fun row' hmem' hsame =>
    hbefore _ (List.mem_map_of_mem hmem') _ List.mem_cons_self (hsame.trans hkey.symm)
  have hkept' := hothers after fun row' hmem' hsame =>
    hafter (hsame.trans hkey.symm ▸ List.mem_map_of_mem hmem')
  rw [(rows_of_update h).1, updatedRows, hsplit, List.map_append, List.map_cons, hkept, hkept',
    if_pos hkey, List.countP_append, List.countP_append, List.countP_cons, List.countP_cons]
  omega

end Relation

/-! ## Assignments with numbered parameters -/

variable [DecidableEq K]

/-- The value of a numbered parameter; numbers start at one. -/
def parameter (parameters : List V) (number : ℕ) : Option V := parameters[number - 1]?

/-- The row after `SET column = ?number, …`. -/
def assign (assignments : List (K × ℕ)) (parameters : List V) (row : K → V) : K → V :=
  fun column =>
    match assignments.lookup column with
    | none => row column
    | some number => (parameter parameters number).getD (row column)

/-- The columns in which two positional rows differ, with their positions. -/
def changes (columns : List K) (previous next : List V) : List (K × ℕ) :=
  columns.zipIdx.filter fun p => previous[p.2]? ≠ next[p.2]?

/-- The assignment of each changed column from the next parameter. -/
def assignments (changes : List (K × ℕ)) : List (K × ℕ) :=
  changes.zipIdx.map fun p => (p.1.1, p.2 + 1)

/-- The parameters of these assignments. -/
def changedValues (changes : List (K × ℕ)) (next : List V) : List V :=
  changes.filterMap fun p => next[p.2]?

section
variable {columns : List K} {previous next : List V}

omit [DecidableEq V] in
/-- The parameter numbers run along the changes. -/
theorem assign_numbered {changed : List (K × ℕ)} (hrange : ∀ p ∈ changed, p.2 < next.length)
    {parameters extra : List V} (start : ℕ)
    (hparameters : parameters.drop start = changedValues changed next ++ extra) (row : K → V)
    (column : K) :
    assign ((changed.zipIdx start).map fun p => (p.1.1, p.2 + 1)) parameters row column =
      match changed.lookup column with
      | none => row column
      | some position => (next[position]?).getD (row column) := by
  induction changed generalizing start with
  | nil => rfl
  | cons p changed ih =>
    obtain ⟨head, position⟩ := p
    rw [List.forall_mem_cons] at hrange
    have hposition : position < next.length := hrange.1
    have hhead : next[position]? = some next[position] := List.getElem?_eq_getElem hposition
    simp only [changedValues, List.filterMap_cons, hhead] at hparameters
    have hparameter : parameters[start]? = some next[position] := by
      rw [← List.head?_drop, hparameters]
      rfl
    have hrest : parameters.drop (start + 1) = changedValues changed next ++ extra := by
      rw [← List.drop_drop, hparameters]
      rfl
    have hrec := ih hrange.2 (start + 1) hrest
    by_cases hcolumn : column = head
    · subst hcolumn
      simp only [assign, List.zipIdx_cons, List.map_cons, List.lookup_cons_self, parameter,
        Nat.add_sub_cancel, hparameter, hhead]
    · have hne : (column == head) = false := beq_eq_false_iff_ne.mpr hcolumn
      simp only [assign, List.zipIdx_cons, List.map_cons, List.lookup_cons, hne] at hrec ⊢
      exact hrec

theorem lookup_filter_zipIdx (keep : ℕ → Bool) (hnodup : columns.Nodup) (start : ℕ) {i : ℕ}
    (hi : i < columns.length) :
    ((columns.zipIdx start).filter fun p => keep p.2).lookup columns[i] =
      if keep (start + i) then some (start + i) else none := by
  induction columns generalizing start i with
  | nil => exact absurd hi (Nat.not_lt_zero i)
  | cons column columns ih =>
    rw [List.nodup_cons] at hnodup
    have habsent : ∀ n, ((columns.zipIdx n).filter fun p => keep p.2).lookup column = none := by
      intro n
      rw [List.lookup_eq_none_iff]
      intro p hp
      have hmem := (List.mem_filter.mp hp).1
      have hcolumn := List.fst_mem_of_mem_zipIdx hmem
      rw [bne_iff_ne]
      rintro rfl
      exact hnodup.1 hcolumn
    rw [List.zipIdx_cons, List.filter_cons]
    cases i with
    | zero =>
      show List.lookup column _ = if keep start = true then some start else none
      by_cases hkeep : keep start = true
      · rw [if_pos hkeep, if_pos hkeep, List.lookup_cons_self]
      · rw [if_neg hkeep, if_neg hkeep, habsent]
    | succ i =>
      have hi' : i < columns.length := Nat.lt_of_succ_lt_succ hi
      have hrec := ih hnodup.2 (start + 1) hi'
      have hne : (columns[i] == column) = false := by
        rw [beq_eq_false_iff_ne]
        intro h
        exact hnodup.1 (h ▸ List.getElem_mem hi')
      rw [List.getElem_cons_succ, show start + (i + 1) = start + 1 + i by omega, ← hrec]
      by_cases hkeep : keep start = true
      · rw [if_pos hkeep, List.lookup_cons, hne]
      · rw [if_neg hkeep]

/-- **The law of partial updates.**  Assigning the differing columns turns a row that reads
`previous` into one that reads `next`. -/
theorem assign_changes (hnodup : columns.Nodup) (hprevious : previous.length = columns.length)
    (hnext : next.length = columns.length) {row : K → V} (hrow : columns.map row = previous)
    (extra : List V) :
    columns.map (assign (assignments (changes columns previous next))
      (changedValues (changes columns previous next) next ++ extra) row) = next := by
  refine List.ext_getElem (by rw [List.length_map, hnext]) fun i hi hi' => ?_
  rw [List.length_map] at hi
  have hrange : ∀ p ∈ changes columns previous next, p.2 < next.length := by
    intro p hp
    have hmem := (List.mem_filter.mp hp).1
    rw [hnext]
    exact (List.mem_zipIdx' hmem).1
  have hvalue : row columns[i] = previous[i] := by
    subst hrow
    rw [List.getElem_map]
  have hlookup : (changes columns previous next).lookup columns[i] =
      if previous[i]? ≠ next[i]? then some i else none := by
    have h := lookup_filter_zipIdx (fun n => decide (previous[n]? ≠ next[n]?)) hnodup 0 hi
    rw [Nat.zero_add] at h
    simpa [changes] using h
  have hassign := assign_numbered hrange 0
    (List.drop_zero (l := changedValues (changes columns previous next) next ++ extra)) row columns[i]
  rw [hlookup] at hassign
  rw [List.getElem_map]
  refine hassign.trans ?_
  have hnext? : next[i]? = some next[i] := List.getElem?_eq_getElem hi'
  by_cases hchanged : previous[i]? ≠ next[i]?
  · rw [if_pos hchanged]
    simp only [hnext?, Option.getD_some]
  · rw [if_neg hchanged]
    have hprevious? : previous[i]? = some previous[i] := List.getElem?_eq_getElem (by omega)
    rw [not_ne_iff, hprevious?, hnext?] at hchanged
    rw [hvalue, Option.some.inj hchanged]

/-- A column outside the list is not assigned. -/
theorem assign_changes_of_notMem {column : K} (hcolumn : column ∉ columns) (parameters : List V)
    (row : K → V) :
    assign (assignments (changes columns previous next)) parameters row column = row column := by
  have hlookup : (assignments (changes columns previous next)).lookup column = none := by
    rw [List.lookup_eq_none_iff]
    intro p hp
    obtain ⟨q, hq, rfl⟩ := List.mem_map.mp hp
    have hmem := (List.mem_filter.mp (List.fst_mem_of_mem_zipIdx hq)).1
    rw [bne_iff_ne]
    intro hsame
    have hfst : q.1.1 ∈ columns := List.fst_mem_of_mem_zipIdx hmem
    exact hcolumn (hsame ▸ hfst)
  unfold assign
  rw [hlookup]

end

end Relational
end Kapsel
