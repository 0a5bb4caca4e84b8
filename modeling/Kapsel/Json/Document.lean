import Mathlib.Data.List.Basic
import Mathlib.Data.List.Nodup

/-!
# JSON documents and how they are printed

A `Document` is a JSON text without its spaces: the members of an object stand in the order in
which they are written, and a name may stand there twice.  `print` writes it down in the compact
form, with the escapes that a text needs inside quotes.

* `print_splice`: two objects are joined into one by gluing their texts together.
* `Document.toValue` is the value that a document denotes.  Objects of values are maps in the order
  of their names, and of two members with the same name the second stands.
* `Document.distinct` says that no object has a name twice, for readers that refuse such texts.
* `lookup_toMap` and `perm_toMap`: putting distinct members in order loses none of them.
-/

namespace Kapsel
namespace Json

/-! ## Documents -/

/-- A JSON text. -/
inductive Document where
  | null
  | bool (value : Bool)
  | number (token : List UInt8)
  | string (text : List UInt8)
  | array (items : List Document)
  | object (members : List (List UInt8 × Document))

/-- The members of an object. -/
abbrev Members : Type := List (List UInt8 × Document)

/-! ## Printing -/

/-- One digit of a code point. -/
def hexDigit (value : UInt8) : UInt8 := if value < 10 then 48 + value else 87 + value

/-- One byte of a text inside quotes. -/
def escapeByte (b : UInt8) : List UInt8 :=
  if b = 34 then [92, 34]
  else if b = 92 then [92, 92]
  else if b = 8 then [92, 98]
  else if b = 9 then [92, 116]
  else if b = 10 then [92, 110]
  else if b = 12 then [92, 102]
  else if b = 13 then [92, 114]
  else if b < 32 then [92, 117, 48, 48, hexDigit (b / 16), hexDigit (b % 16)]
  else [b]

/-- A text inside quotes. -/
def quote (text : List UInt8) : List UInt8 := 34 :: text.flatMap escapeByte ++ [34]

/-- A byte that stands for itself inside quotes. -/
def isPlain (b : UInt8) : Bool := 32 ≤ b && b ≠ 34 && b ≠ 92

theorem escapeByte_of_isPlain {b : UInt8} (h : isPlain b = true) : escapeByte b = [b] := by
  simp only [isPlain, Bool.and_eq_true, decide_eq_true_eq] at h
  obtain ⟨⟨hcontrol, hquote⟩, hbackslash⟩ := h
  have hsmall : ¬ b < 32 := UInt8.not_lt.mpr hcontrol
  have hne : ∀ c : UInt8, c < 32 → b ≠ c := by
    rintro c hc rfl
    exact hsmall hc
  unfold escapeByte
  rw [if_neg hquote, if_neg hbackslash, if_neg (hne 8 (by decide)), if_neg (hne 9 (by decide)),
    if_neg (hne 10 (by decide)), if_neg (hne 12 (by decide)), if_neg (hne 13 (by decide)),
    if_neg hsmall]

theorem flatMap_escapeByte {text : List UInt8} (h : text.all isPlain = true) :
    text.flatMap escapeByte = text := by
  induction text with
  | nil => rfl
  | cons b text ih =>
    rw [List.all_cons, Bool.and_eq_true] at h
    rw [List.flatMap_cons, ih h.2, escapeByte_of_isPlain h.1]
    rfl

/-- The bytes that the escapes of a text add. -/
def textEscapes (text : List UInt8) : ℕ := (text.flatMap escapeByte).length - text.length

theorem length_escapeByte (b : UInt8) :
    1 ≤ (escapeByte b).length ∧ (escapeByte b).length ≤ 6 := by
  unfold escapeByte
  split_ifs <;> simp only [List.length_cons, List.length_nil] <;> omega

theorem length_flatMap_escapeByte (text : List UInt8) :
    text.length ≤ (text.flatMap escapeByte).length ∧
      (text.flatMap escapeByte).length ≤ 6 * text.length := by
  induction text with
  | nil => exact ⟨Nat.le_refl 0, Nat.le_refl 0⟩
  | cons b text ih =>
    have hbyte := length_escapeByte b
    rw [List.flatMap_cons, List.length_append, List.length_cons]
    omega

theorem length_quote (text : List UInt8) :
    (quote text).length = text.length + textEscapes text + 2 := by
  have hle := length_flatMap_escapeByte text
  unfold quote textEscapes
  rw [List.length_append, List.length_cons, List.length_singleton]
  omega

theorem textEscapes_le (text : List UInt8) : textEscapes text ≤ 5 * text.length := by
  have hle := length_flatMap_escapeByte text
  unfold textEscapes
  omega

theorem textEscapes_eq_zero {text : List UInt8} (h : text.all isPlain = true) :
    textEscapes text = 0 := by
  rw [textEscapes, flatMap_escapeByte h, Nat.sub_self]

namespace Document

mutual

/-- The compact form of a document. -/
def print : Document → List UInt8
  | null => [110, 117, 108, 108]
  | bool value => if value then [116, 114, 117, 101] else [102, 97, 108, 115, 101]
  | number token => token
  | string text => quote text
  | array items => 91 :: printItems items ++ [93]
  | object members => 123 :: printMembers members ++ [125]

def printItems : List Document → List UInt8
  | [] => []
  | item :: rest => item.print ++ printMoreItems rest

def printMoreItems : List Document → List UInt8
  | [] => []
  | item :: rest => 44 :: item.print ++ printMoreItems rest

def printMembers : List (List UInt8 × Document) → List UInt8
  | [] => []
  | (name, value) :: rest => quote name ++ 58 :: value.print ++ printMoreMembers rest

def printMoreMembers : List (List UInt8 × Document) → List UInt8
  | [] => []
  | (name, value) :: rest => 44 :: quote name ++ 58 :: value.print ++ printMoreMembers rest

end

theorem printMoreMembers_append (first second : Members) :
    printMoreMembers (first ++ second) = printMoreMembers first ++ printMoreMembers second := by
  induction first with
  | nil => rfl
  | cons member rest ih =>
    obtain ⟨name, value⟩ := member
    simp only [List.cons_append, printMoreMembers, ih, List.append_assoc]

theorem printMembers_append {first second : Members} (h : first ≠ []) :
    printMembers (first ++ second) = printMembers first ++ printMoreMembers second := by
  cases first with
  | nil => exact absurd rfl h
  | cons member rest =>
    obtain ⟨name, value⟩ := member
    simp only [List.cons_append, printMembers, printMoreMembers_append, List.append_assoc]

theorem printMoreMembers_eq {members : Members} (h : members ≠ []) :
    printMoreMembers members = 44 :: printMembers members := by
  cases members with
  | nil => exact absurd rfl h
  | cons member rest =>
    obtain ⟨name, value⟩ := member
    simp only [printMoreMembers, printMembers, List.cons_append]

/-- **Objects are joined by gluing their texts together**: the first without its last brace, a
comma, and the second without its first brace. -/
theorem print_splice {first second : Members} (h : first ≠ []) (h' : second ≠ []) :
    (object first).print.dropLast ++ 44 :: (object second).print.tail =
      (object (first ++ second)).print := by
  have hfirst : (object first).print.dropLast = 123 :: printMembers first := by
    show (123 :: printMembers first ++ [125]).dropLast = _
    rw [List.dropLast_concat]
  have hsecond : (object second).print.tail = printMembers second ++ [125] := rfl
  rw [hfirst, hsecond]
  show _ = 123 :: printMembers (first ++ second) ++ [125]
  rw [printMembers_append h, printMoreMembers_eq h']
  simp only [List.cons_append, List.append_assoc]

end Document

/-! ## Maps -/

/-- The map with the member put in its place. -/
def insert (name : List UInt8) (value : Document) : Members → Members
  | [] => [(name, value)]
  | (other, current) :: rest =>
      if name = other then (name, value) :: rest
      else if name < other then (name, value) :: (other, current) :: rest
      else (other, current) :: insert name value rest

/-- Put the members in their places, one after the other. -/
def insertAll : Members → Members → Members
  | map, [] => map
  | map, (name, value) :: rest => insertAll (insert name value map) rest

/-- The map of these members. -/
def toMap (members : Members) : Members := insertAll [] members

/-- The map without the member. -/
def remove (name : List UInt8) (map : Members) : Members := map.filter (·.1 ≠ name)

/-- The names of the members. -/
def names (members : Members) : List (List UInt8) := members.map (·.1)

section
variable {name other : List UInt8} {value : Document} {map members : Members}

theorem lookup_member :
    ((other, value) :: map).lookup name = if name = other then some value else map.lookup name := by
  by_cases h : name = other
  · rw [if_pos h, List.lookup_cons, h, beq_self_eq_true]
  · rw [if_neg h, List.lookup_cons, beq_eq_false_iff_ne.mpr h]

theorem lookup_insert :
    (insert name value map).lookup other =
      if other = name then some value else map.lookup other := by
  induction map with
  | nil => exact lookup_member
  | cons member rest ih =>
    obtain ⟨key, current⟩ := member
    unfold insert
    split
    · rename_i hsame
      subst hsame
      rw [lookup_member, lookup_member]
      split <;> rfl
    · rename_i hne
      split
      · exact lookup_member
      · rw [lookup_member, lookup_member, ih]
        by_cases hkey : other = key
        · subst hkey
          rw [if_pos rfl, if_pos rfl, if_neg (Ne.symm hne)]
        · rw [if_neg hkey, if_neg hkey]

theorem not_mem_names (h : name ∉ names ((other, value) :: map)) :
    name ≠ other ∧ name ∉ names map := by
  constructor
  · rintro rfl
    exact h List.mem_cons_self
  · intro hmem
    exact h (List.mem_cons_of_mem _ hmem)

theorem perm_insert (h : name ∉ names map) : (insert name value map).Perm ((name, value) :: map) := by
  induction map with
  | nil => exact List.Perm.refl _
  | cons member rest ih =>
    obtain ⟨key, current⟩ := member
    obtain ⟨hne, hrest⟩ := not_mem_names h
    unfold insert
    rw [if_neg hne]
    split
    · exact List.Perm.refl _
    · exact ((ih hrest).cons _).trans (List.Perm.swap _ _ _)

theorem names_perm (h : map.Perm members) : (names map).Perm (names members) := h.map _

theorem lookup_eq_none (h : name ∉ names members) : members.lookup name = none := by
  induction members with
  | nil => rfl
  | cons member rest ih =>
    obtain ⟨key, current⟩ := member
    obtain ⟨hne, hrest⟩ := not_mem_names h
    rw [lookup_member, if_neg hne]
    exact ih hrest

theorem lookup_insertAll (h : (names members).Nodup) :
    (insertAll map members).lookup name = (members.lookup name).or (map.lookup name) := by
  induction members generalizing map with
  | nil => rfl
  | cons member rest ih =>
    obtain ⟨key, value⟩ := member
    obtain ⟨hkey, hrest⟩ := List.nodup_cons.mp h
    rw [insertAll, ih hrest, lookup_insert, lookup_member]
    by_cases hsame : name = key
    · subst hsame
      rw [lookup_eq_none hkey, if_pos rfl, if_pos rfl]
      rfl
    · rw [if_neg hsame, if_neg hsame]

/-- **Putting distinct members in order finds each of them.** -/
theorem lookup_toMap (h : (names members).Nodup) :
    (toMap members).lookup name = members.lookup name := by
  rw [toMap, lookup_insertAll h]
  exact Option.or_none

theorem perm_insertAll (h : (names (members ++ map)).Nodup) :
    (insertAll map members).Perm (members ++ map) := by
  induction members generalizing map with
  | nil => exact List.Perm.refl _
  | cons member rest ih =>
    obtain ⟨key, value⟩ := member
    have hnodup : (key :: names (rest ++ map)).Nodup := h
    obtain ⟨hkey, hrest⟩ := List.nodup_cons.mp hnodup
    have hfresh : key ∉ names map := by
      intro hmem
      refine hkey ?_
      rw [names, List.map_append]
      exact List.mem_append_right _ hmem
    have hplaced : (insert key value map).Perm ((key, value) :: map) := perm_insert hfresh
    have hmoved : (rest ++ insert key value map).Perm ((key, value) :: (rest ++ map)) :=
      (hplaced.append_left rest).trans List.perm_middle
    refine (ih ?_).trans hmoved
    exact ((names_perm hmoved).nodup_iff).mpr hnodup

/-- **Putting distinct members in order loses none of them.** -/
theorem perm_toMap (h : (names members).Nodup) : (toMap members).Perm members := by
  have hperm : (insertAll [] members).Perm (members ++ []) :=
    perm_insertAll (by rwa [List.append_nil])
  rwa [List.append_nil] at hperm

end

/-! ## Values -/

namespace Document

mutual

/-- The value that a document denotes: of two members with one name the second stands. -/
def toValue : Document → Document
  | null => null
  | bool value => bool value
  | number token => number token
  | string text => string text
  | array items => array (toValues items)
  | object members => object (toMap (toMembers members))

def toValues : List Document → List Document
  | [] => []
  | item :: rest => item.toValue :: toValues rest

def toMembers : List (List UInt8 × Document) → List (List UInt8 × Document)
  | [] => []
  | (name, value) :: rest => (name, value.toValue) :: toMembers rest

end

mutual

/-- No object has a name twice. -/
def distinct : Document → Bool
  | null => true
  | bool _ => true
  | number _ => true
  | string _ => true
  | array items => distinctItems items
  | object members => decide (names members).Nodup && distinctMembers members

def distinctItems : List Document → Bool
  | [] => true
  | item :: rest => item.distinct && distinctItems rest

def distinctMembers : List (List UInt8 × Document) → Bool
  | [] => true
  | (_, value) :: rest => value.distinct && distinctMembers rest

end

theorem toValues_eq (items : List Document) : toValues items = items.map toValue := by
  induction items with
  | nil => rfl
  | cons item rest ih => rw [toValues, ih, List.map_cons]

theorem toMembers_eq (members : Members) :
    toMembers members = members.map fun member => (member.1, member.2.toValue) := by
  induction members with
  | nil => rfl
  | cons member rest ih =>
    obtain ⟨name, value⟩ := member
    rw [toMembers, ih, List.map_cons]

theorem distinctItems_eq (items : List Document) : distinctItems items = items.all distinct := by
  induction items with
  | nil => rfl
  | cons item rest ih => rw [distinctItems, ih, List.all_cons]

theorem distinctMembers_eq (members : Members) :
    distinctMembers members = members.all (·.2.distinct) := by
  induction members with
  | nil => rfl
  | cons member rest ih =>
    obtain ⟨name, value⟩ := member
    rw [distinctMembers, ih, List.all_cons]

@[simp] theorem names_toMembers (members : Members) : names (toMembers members) = names members := by
  rw [toMembers_eq, names, List.map_map]
  rfl

theorem distinct_object {members : Members} :
    (object members).distinct = true ↔
      (names members).Nodup ∧ ∀ member ∈ members, member.2.distinct = true := by
  rw [distinct, distinctMembers_eq, Bool.and_eq_true, decide_eq_true_eq, List.all_eq_true]

theorem distinct_array {items : List Document} :
    (array items).distinct = true ↔ ∀ item ∈ items, item.distinct = true := by
  rw [distinct, distinctItems_eq, List.all_eq_true]

theorem lookup_toMembers (members : Members) (name : List UInt8) :
    (toMembers members).lookup name = (members.lookup name).map toValue := by
  induction members with
  | nil => rfl
  | cons member rest ih =>
    obtain ⟨key, value⟩ := member
    rw [toMembers, lookup_member, lookup_member, ih]
    split <;> rfl

/-- The member of an object, if it is one and has it. -/
def get? : Document → List UInt8 → Option Document
  | object members, name => members.lookup name
  | _, _ => none

/-- The members of a value are the values of the members. -/
theorem get?_toValue {members : Members} (h : (names members).Nodup) (name : List UInt8) :
    (object members).toValue.get? name = (members.lookup name).map toValue := by
  show (toMap (toMembers members)).lookup name = _
  rw [lookup_toMap (by rwa [names_toMembers]), lookup_toMembers]

end Document

end Json
end Kapsel
