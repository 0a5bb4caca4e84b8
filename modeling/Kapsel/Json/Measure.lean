import Kapsel.Json.Reader

/-!
# How long a printed document is

The text of a document is as long as its bytes with nothing escaped (`plainLength`) and the bytes
that the escapes add (`escapes`); `length_print` puts them together.

`Measured` bounds the first and names the texts that the second comes from, for documents whose
texts are mostly plain.  There is one lemma for each way of building a document, so the measure of
a reply is put together in the order in which the reply is.
-/

namespace Kapsel
namespace Json
namespace Document

/-! ## Lengths -/

mutual

/-- How long the text of a document would be if nothing were escaped. -/
def plainLength : Document → ℕ
  | null => 4
  | bool value => if value then 4 else 5
  | number token => token.length
  | string text => text.length + 2
  | array items => plainItems items + if items.isEmpty then 2 else 1
  | object members => plainMembers members + if members.isEmpty then 2 else 1

def plainItems : List Document → ℕ
  | [] => 0
  | item :: rest => item.plainLength + 1 + plainItems rest

def plainMembers : List (List UInt8 × Document) → ℕ
  | [] => 0
  | (name, value) :: rest => name.length + value.plainLength + 4 + plainMembers rest

end

mutual

/-- The bytes that the escapes of a document add. -/
def escapes : Document → ℕ
  | null => 0
  | bool _ => 0
  | number _ => 0
  | string text => textEscapes text
  | array items => escapesItems items
  | object members => escapesMembers members

def escapesItems : List Document → ℕ
  | [] => 0
  | item :: rest => item.escapes + escapesItems rest

def escapesMembers : List (List UInt8 × Document) → ℕ
  | [] => 0
  | (name, value) :: rest => textEscapes name + value.escapes + escapesMembers rest

end

mutual

/-- **The length of a text is that of its plain bytes and of its escapes.** -/
theorem length_print : ∀ d : Document, d.print.length = d.plainLength + d.escapes
  | null => rfl
  | bool true => rfl
  | bool false => rfl
  | number _ => rfl
  | string text => by
    rw [print, length_quote, plainLength, escapes]
    omega
  | array [] => rfl
  | array (item :: rest) => by
    have hitem := length_print item
    have hrest := length_printMoreItems rest
    simp only [print, printItems, plainLength, plainItems, escapes, escapesItems,
      List.length_append, List.length_cons, List.length_nil, List.isEmpty_cons,
      Bool.false_eq_true, if_false]
    omega
  | object [] => rfl
  | object ((name, value) :: rest) => by
    have hname := length_quote name
    have hvalue := length_print value
    have hrest := length_printMoreMembers rest
    simp only [print, printMembers, plainLength, plainMembers, escapes, escapesMembers,
      List.length_append, List.length_cons, List.length_nil, List.isEmpty_cons,
      Bool.false_eq_true, if_false]
    omega

theorem length_printMoreItems : ∀ items : List Document,
    (printMoreItems items).length = plainItems items + escapesItems items
  | [] => rfl
  | item :: rest => by
    have hitem := length_print item
    have hrest := length_printMoreItems rest
    simp only [printMoreItems, plainItems, escapesItems, List.length_append, List.length_cons]
    omega

theorem length_printMoreMembers : ∀ members : Members,
    (printMoreMembers members).length = plainMembers members + escapesMembers members
  | [] => rfl
  | (name, value) :: rest => by
    have hname := length_quote name
    have hvalue := length_print value
    have hrest := length_printMoreMembers rest
    simp only [printMoreMembers, plainMembers, escapesMembers, List.length_append,
      List.length_cons]
    omega

end

/-! ## Measures -/

/-- The bytes that the escapes of these texts add. -/
def escapesOf : List (List UInt8) → ℕ
  | [] => 0
  | text :: rest => textEscapes text + escapesOf rest

theorem escapesOf_append (first second : List (List UInt8)) :
    escapesOf (first ++ second) = escapesOf first + escapesOf second := by
  induction first with
  | nil => exact (Nat.zero_add _).symm
  | cons text rest ih =>
    rw [List.cons_append, escapesOf, escapesOf, ih]
    omega

/-- A document that can be read at this depth, that is at most so long if nothing is escaped, and
whose escapes are those of these texts. -/
structure Measured (depth : ℕ) (d : Document) (bound : ℕ) (texts : List (List UInt8)) : Prop where
  readable : d.readable depth = true
  plainLength_le : d.plainLength ≤ bound
  escapes_eq : d.escapes = escapesOf texts

/-- The same of the members of an object. -/
structure MeasuredMembers (depth : ℕ) (members : Members) (bound : ℕ) (texts : List (List UInt8)) :
    Prop where
  readable : ∀ member ∈ members, isAsciiText member.1 = true ∧ member.2.readable depth = true
  plainMembers_le : plainMembers members ≤ bound
  escapes_eq : escapesMembers members = escapesOf texts

section
variable {depth bound bound' : ℕ} {texts texts' : List (List UInt8)} {d : Document}
  {members members' : Members}

theorem Measured.mono (h : Measured depth d bound texts) (hle : bound ≤ bound') :
    Measured depth d bound' texts :=
  ⟨h.readable, Nat.le_trans h.plainLength_le hle, h.escapes_eq⟩

/-- **The length of what is measured.** -/
theorem Measured.length_print_le (h : Measured depth d bound texts) :
    d.print.length ≤ bound + escapesOf texts := by
  have hlength := length_print d
  have hplain := h.plainLength_le
  rw [h.escapes_eq] at hlength
  omega

/-- What can be read is not empty. -/
theorem plainLength_pos (h : d.readable depth = true) : 0 < d.plainLength := by
  cases d with
  | null => exact Nat.succ_pos 3
  | bool value => cases value <;> exact Nat.succ_pos _
  | number token =>
    have hnatural : isNatural token = true := by cases depth <;> exact h
    cases token with
    | nil => cases hnatural
    | cons b rest => exact Nat.succ_pos _
  | string text => exact Nat.succ_pos _
  | array items =>
    rw [plainLength]
    split <;> omega
  | object members =>
    rw [plainLength]
    split <;> omega

/-- The escapes of texts of at most so many bytes. -/
theorem escapesOf_le (h : ∀ text ∈ texts, text.length ≤ bound) :
    escapesOf texts ≤ texts.length * (5 * bound) := by
  induction texts with
  | nil => exact Nat.zero_le _
  | cons text rest ih =>
    have htext := textEscapes_le text
    have hlength := h text List.mem_cons_self
    have hrest := ih fun other hother => h other (List.mem_cons_of_mem _ hother)
    rw [escapesOf, List.length_cons, Nat.succ_mul]
    omega

theorem measured_null : Measured depth null 4 [] := by
  cases depth <;> exact ⟨rfl, Nat.le_refl 4, rfl⟩

theorem measured_bool (value : Bool) : Measured depth (bool value) 5 [] := by
  cases depth <;> cases value <;> exact ⟨rfl, by decide, rfl⟩

theorem readable_string {text : List UInt8} (h : isAsciiText text = true) :
    (string text).readable depth = true := by
  cases depth <;> exact h

/-- A text that needs no escape. -/
theorem measured_plain {text : List UInt8} (hascii : isAsciiText text = true)
    (hplain : text.all isPlain = true) (hlength : text.length ≤ bound) :
    Measured depth (string text) (bound + 2) [] :=
  ⟨readable_string hascii, Nat.add_le_add_right hlength 2, textEscapes_eq_zero hplain⟩

/-- A text that may need any escapes. -/
theorem measured_free {text : List UInt8} (hascii : isAsciiText text = true)
    (hlength : text.length ≤ bound) : Measured depth (string text) (bound + 2) [text] := by
  refine ⟨readable_string hascii, Nat.add_le_add_right hlength 2, ?_⟩
  show textEscapes text = textEscapes text + 0
  rfl

theorem measuredMembers_nil : MeasuredMembers depth [] 0 [] :=
  ⟨fun _ h => (nomatch h), Nat.le_refl 0, rfl⟩

theorem MeasuredMembers.cons {name : List UInt8} (hascii : isAsciiText name = true)
    (hplain : name.all isPlain = true) (h : Measured depth d bound texts)
    (hmembers : MeasuredMembers depth members bound' texts') :
    MeasuredMembers depth ((name, d) :: members) (name.length + bound + 4 + bound')
      (texts ++ texts') := by
  refine ⟨?_, ?_, ?_⟩
  · intro member hmember
    rcases List.mem_cons.mp hmember with rfl | hmember
    · exact ⟨hascii, h.readable⟩
    · exact hmembers.readable member hmember
  · have hvalue := h.plainLength_le
    have hrest := hmembers.plainMembers_le
    rw [plainMembers]
    omega
  · rw [escapesMembers, textEscapes_eq_zero hplain, h.escapes_eq, hmembers.escapes_eq,
      escapesOf_append, Nat.zero_add]

theorem MeasuredMembers.mono (h : MeasuredMembers depth members bound texts) (hle : bound ≤ bound') :
    MeasuredMembers depth members bound' texts :=
  ⟨h.readable, Nat.le_trans h.plainMembers_le hle, h.escapes_eq⟩

theorem MeasuredMembers.append (h : MeasuredMembers depth members bound texts)
    (h' : MeasuredMembers depth members' bound' texts') :
    MeasuredMembers depth (members ++ members') (bound + bound') (texts ++ texts') := by
  have hplain : plainMembers (members ++ members') =
      plainMembers members + plainMembers members' := by
    clear h
    induction members with
    | nil => exact (Nat.zero_add _).symm
    | cons member rest ih =>
      rw [List.cons_append, plainMembers, plainMembers, ih]
      omega
  have hescapes : escapesMembers (members ++ members') =
      escapesMembers members + escapesMembers members' := by
    clear h hplain
    induction members with
    | nil => exact (Nat.zero_add _).symm
    | cons member rest ih =>
      rw [List.cons_append, escapesMembers, escapesMembers, ih]
      omega
  refine ⟨?_, ?_, ?_⟩
  · intro member hmember
    rcases List.mem_append.mp hmember with hmember | hmember
    · exact h.readable member hmember
    · exact h'.readable member hmember
  · rw [hplain]
    exact Nat.add_le_add h.plainMembers_le h'.plainMembers_le
  · rw [hescapes, h.escapes_eq, h'.escapes_eq, escapesOf_append]

theorem MeasuredMembers.object (h : MeasuredMembers depth members bound texts)
    (hmembers : members ≠ []) : Measured (depth + 1) (object members) (bound + 1) texts := by
  refine ⟨readable_object.mpr h.readable, ?_, h.escapes_eq⟩
  have hempty : members.isEmpty = false := List.isEmpty_eq_false_iff.mpr hmembers
  have hplain := h.plainMembers_le
  rw [plainLength, hempty]
  exact Nat.add_le_add_right hplain 1

/-- An array of at most so many items with one bound. -/
theorem measured_array {α : Type} {items : List α} {f : α → Document}
    {textsOf : α → List (List UInt8)} {count : ℕ} (hcount : items.length ≤ count)
    (h : ∀ item ∈ items, Measured depth (f item) bound (textsOf item)) :
    Measured (depth + 1) (array (items.map f)) (count * (bound + 1) + 2)
      (items.flatMap textsOf) := by
  have hplain : plainItems (items.map f) ≤ items.length * (bound + 1) := by
    clear hcount
    induction items with
    | nil => exact Nat.zero_le _
    | cons item rest ih =>
      have hitem := (h item List.mem_cons_self).plainLength_le
      have hrest := ih fun other hother => h other (List.mem_cons_of_mem _ hother)
      rw [List.map_cons, plainItems, List.length_cons, Nat.succ_mul]
      omega
  have hescapes : escapesItems (items.map f) = escapesOf (items.flatMap textsOf) := by
    clear hcount hplain
    induction items with
    | nil => rfl
    | cons item rest ih =>
      rw [List.map_cons, escapesItems, (h item List.mem_cons_self).escapes_eq,
        ih fun other hother => h other (List.mem_cons_of_mem _ hother), List.flatMap_cons,
        escapesOf_append]
  refine ⟨?_, ?_, hescapes⟩
  · refine readable_array.mpr fun item hitem => ?_
    obtain ⟨a, ha, rfl⟩ := List.mem_map.mp hitem
    exact (h a ha).readable
  · have hmul := Nat.mul_le_mul_right (bound + 1) hcount
    rw [plainLength]
    split <;> omega

end

/-! ## Values -/

section
variable {members members' : Members}

theorem plainMembers_perm (h : members.Perm members') :
    plainMembers members = plainMembers members' := by
  induction h with
  | nil => rfl
  | cons member _ ih => rw [plainMembers, plainMembers, ih]
  | swap first second rest =>
    simp only [plainMembers]
    omega
  | trans _ _ ih ih' => exact ih.trans ih'

theorem escapesMembers_perm (h : members.Perm members') :
    escapesMembers members = escapesMembers members' := by
  induction h with
  | nil => rfl
  | cons member _ ih => rw [escapesMembers, escapesMembers, ih]
  | swap first second rest =>
    simp only [escapesMembers]
    omega
  | trans _ _ ih ih' => exact ih.trans ih'

theorem isEmpty_perm (h : members.Perm members') : members.isEmpty = members'.isEmpty := by
  cases members with
  | nil => rw [h.nil_eq]
  | cons member rest =>
    cases members' with
    | nil => exact absurd h.eq_nil (List.cons_ne_nil _ _)
    | cons _ _ => rfl

end

/-- The members of a value that has no name twice. -/
theorem perm_toMembers {members : Members} (h : (object members).distinct = true) :
    (toMap (toMembers members)).Perm (toMembers members) :=
  perm_toMap (by rw [names_toMembers]; exact (distinct_object.mp h).1)

mutual

theorem plainLength_toValue : ∀ d : Document, d.distinct = true →
    d.toValue.plainLength = d.plainLength
  | null, _ => rfl
  | bool _, _ => rfl
  | number _, _ => rfl
  | string _, _ => rfl
  | array items, h => by
    have hitems := plainItems_toValues items h
    have hempty : (toValues items).isEmpty = items.isEmpty := by cases items <;> rfl
    rw [toValue, plainLength, plainLength, hitems, hempty]
  | object members, h => by
    have hperm := perm_toMembers h
    have hmembers := plainMembers_toMembers members (Bool.and_eq_true _ _ ▸ h).2
    have hempty : (toMembers members).isEmpty = members.isEmpty := by cases members <;> rfl
    rw [toValue, plainLength, plainLength, plainMembers_perm hperm, isEmpty_perm hperm, hmembers,
      hempty]

theorem plainItems_toValues : ∀ items : List Document, distinctItems items = true →
    plainItems (toValues items) = plainItems items
  | [], _ => rfl
  | item :: rest, h => by
    rw [distinctItems, Bool.and_eq_true] at h
    rw [toValues, plainItems, plainItems, plainLength_toValue item h.1,
      plainItems_toValues rest h.2]

theorem plainMembers_toMembers : ∀ members : Members, distinctMembers members = true →
    plainMembers (toMembers members) = plainMembers members
  | [], _ => rfl
  | (_, value) :: rest, h => by
    rw [distinctMembers, Bool.and_eq_true] at h
    rw [toMembers, plainMembers, plainMembers, plainLength_toValue value h.1,
      plainMembers_toMembers rest h.2]

end

mutual

theorem escapes_toValue : ∀ d : Document, d.distinct = true → d.toValue.escapes = d.escapes
  | null, _ => rfl
  | bool _, _ => rfl
  | number _, _ => rfl
  | string _, _ => rfl
  | array items, h => escapesItems_toValues items h
  | object members, h => by
    have hmembers := escapesMembers_toMembers members (Bool.and_eq_true _ _ ▸ h).2
    rw [toValue, escapes, escapes, escapesMembers_perm (perm_toMembers h), hmembers]

theorem escapesItems_toValues : ∀ items : List Document, distinctItems items = true →
    escapesItems (toValues items) = escapesItems items
  | [], _ => rfl
  | item :: rest, h => by
    rw [distinctItems, Bool.and_eq_true] at h
    rw [toValues, escapesItems, escapesItems, escapes_toValue item h.1,
      escapesItems_toValues rest h.2]

theorem escapesMembers_toMembers : ∀ members : Members, distinctMembers members = true →
    escapesMembers (toMembers members) = escapesMembers members
  | [], _ => rfl
  | (_, value) :: rest, h => by
    rw [distinctMembers, Bool.and_eq_true] at h
    rw [toMembers, escapesMembers, escapesMembers, escapes_toValue value h.1,
      escapesMembers_toMembers rest h.2]

end

mutual

/-- The value of what can be read can be read. -/
theorem readable_toValue : ∀ (d : Document) (depth : ℕ), d.distinct = true →
    d.readable depth = true → d.toValue.readable depth = true
  | null, _, _, h => h
  | bool _, _, _, h => h
  | number _, _, _, h => h
  | string _, _, _, h => h
  | array _, 0, _, h => absurd h Bool.false_ne_true
  | array items, depth + 1, hdistinct, h => readableItems_toValues items depth hdistinct h
  | object _, 0, _, h => absurd h Bool.false_ne_true
  | object members, depth + 1, hdistinct, h => by
    have hmembers : (object (toMembers members)).readable (depth + 1) = true :=
      readableMembers_toMembers members depth (Bool.and_eq_true _ _ ▸ hdistinct).2 h
    refine readable_object.mpr fun member hmember => ?_
    exact readable_object.mp hmembers member ((perm_toMembers hdistinct).mem_iff.mp hmember)

theorem readableItems_toValues : ∀ (items : List Document) (depth : ℕ),
    distinctItems items = true → readableItems depth items = true →
      readableItems depth (toValues items) = true
  | [], _, _, _ => rfl
  | item :: rest, depth, hdistinct, h => by
    rw [distinctItems, Bool.and_eq_true] at hdistinct
    rw [readableItems, Bool.and_eq_true] at h
    rw [toValues, readableItems, readable_toValue item depth hdistinct.1 h.1,
      readableItems_toValues rest depth hdistinct.2 h.2]
    rfl

theorem readableMembers_toMembers : ∀ (members : Members) (depth : ℕ),
    distinctMembers members = true → readableMembers depth members = true →
      readableMembers depth (toMembers members) = true
  | [], _, _, _ => rfl
  | (name, value) :: rest, depth, hdistinct, h => by
    rw [distinctMembers, Bool.and_eq_true] at hdistinct
    rw [readableMembers, Bool.and_eq_true, Bool.and_eq_true] at h
    rw [toMembers, readableMembers, h.1.1, readable_toValue value depth hdistinct.1 h.1.2,
      readableMembers_toMembers rest depth hdistinct.2 h.2]
    rfl

end

/-- **Reading a document without repeated names and printing its value** gives a text of the same
length. -/
theorem length_print_toValue {d : Document} (h : d.distinct = true) :
    d.toValue.print.length = d.print.length := by
  rw [length_print, length_print, plainLength_toValue d h, escapes_toValue d h]

/-! ## Texts of texts -/

/-- No byte of these is a control character. -/
def Visible (text : List UInt8) : Prop := ∀ b ∈ text, 32 ≤ b

theorem Visible.append {first second : List UInt8} (h : Visible first) (h' : Visible second) :
    Visible (first ++ second) := by
  intro b hb
  rcases List.mem_append.mp hb with hb | hb
  · exact h b hb
  · exact h' b hb

theorem Visible.cons {b : UInt8} {text : List UInt8} (hb : 32 ≤ b) (h : Visible text) :
    Visible (b :: text) := by
  intro c hc
  rcases List.mem_cons.mp hc with rfl | hc
  · exact hb
  · exact h c hc

theorem visible_nil : Visible [] := fun _ hb => absurd hb List.not_mem_nil

theorem visible_of_all {text : List UInt8} (h : (text.all fun b => 32 ≤ b) = true) :
    Visible text := fun b hb => of_decide_eq_true (List.all_eq_true.mp h b hb)

/-- What escaping makes of every byte, and which bytes are digits. -/
theorem escapeByte_table : ∀ n : Fin 256,
    (32 ≤ UInt8.ofFin n → (escapeByte (UInt8.ofFin n)).length ≤ 2) ∧
    ((escapeByte (UInt8.ofFin n)).all fun b => 32 ≤ b) = true ∧
    (isDigit (UInt8.ofFin n) = true → 32 ≤ UInt8.ofFin n) := by
  decide +kernel

/-- A text without control characters is at most twice as long inside quotes. -/
theorem Visible.textEscapes_le {text : List UInt8} (h : Visible text) :
    textEscapes text ≤ text.length := by
  have hlength : (text.flatMap escapeByte).length ≤ 2 * text.length := by
    induction text with
    | nil => exact Nat.le_refl 0
    | cons b rest ih =>
      have hbyte : (escapeByte b).length ≤ 2 :=
        (escapeByte_table b.toFin).1 (h b List.mem_cons_self)
      have hrest := ih fun c hc => h c (List.mem_cons_of_mem _ hc)
      rw [List.flatMap_cons, List.length_append, List.length_cons]
      omega
  unfold textEscapes
  omega

theorem visible_quote (text : List UInt8) : Visible (quote text) := by
  have htext : Visible (text.flatMap escapeByte) := by
    intro b hb
    obtain ⟨c, -, hc⟩ := List.mem_flatMap.mp hb
    exact visible_of_all (escapeByte_table c.toFin).2.1 b hc
  exact (htext.cons (by decide)).append (visible_nil.cons (by decide))

mutual

/-- The text of what can be read has no control characters. -/
theorem visible_print : ∀ (d : Document) (depth : ℕ), d.readable depth = true → Visible d.print
  | null, _, _ => visible_of_all rfl
  | bool true, _, _ => visible_of_all rfl
  | bool false, _, _ => visible_of_all rfl
  | number token, depth, h => by
    have hnatural : isNatural token = true := by cases depth <;> exact h
    intro b hb
    exact (escapeByte_table b.toFin).2.2 ((isDigit_of_isNatural hnatural).2 b hb)
  | string text, _, _ => visible_quote text
  | array [], _, _ => visible_of_all rfl
  | array (_ :: _), 0, h => absurd h Bool.false_ne_true
  | array (item :: rest), depth + 1, h => by
    have hboth := Bool.and_eq_true _ _ ▸ h
    have hitems := (visible_print item depth hboth.1).append
      (visible_printMoreItems rest depth hboth.2)
    exact (hitems.cons (by decide)).append (visible_nil.cons (by decide))
  | object [], _, _ => visible_of_all rfl
  | object (_ :: _), 0, h => absurd h Bool.false_ne_true
  | object ((name, value) :: rest), depth + 1, h => by
    have hboth := Bool.and_eq_true _ _ ▸ h
    have hvalue := visible_print value depth (Bool.and_eq_true _ _ ▸ hboth.1).2
    have hmembers := ((visible_quote name).append (hvalue.cons (by decide : 32 ≤ (58 : UInt8)))).append
      (visible_printMoreMembers rest depth hboth.2)
    exact (hmembers.cons (by decide)).append (visible_nil.cons (by decide))

theorem visible_printMoreItems : ∀ (items : List Document) (depth : ℕ),
    readableItems depth items = true → Visible (printMoreItems items)
  | [], _, _ => visible_nil
  | item :: rest, depth, h => by
    have hboth := Bool.and_eq_true _ _ ▸ h
    have hitem := visible_print item depth hboth.1
    exact (hitem.cons (by decide : 32 ≤ (44 : UInt8))).append
      (visible_printMoreItems rest depth hboth.2)

theorem visible_printMoreMembers : ∀ (members : Members) (depth : ℕ),
    readableMembers depth members = true → Visible (printMoreMembers members)
  | [], _, _ => visible_nil
  | (name, value) :: rest, depth, h => by
    have hboth := Bool.and_eq_true _ _ ▸ h
    have hvalue := visible_print value depth (Bool.and_eq_true _ _ ▸ hboth.1).2
    have hmember := (visible_quote name).append (hvalue.cons (by decide : 32 ≤ (58 : UInt8)))
    exact (hmember.cons (by decide : 32 ≤ (44 : UInt8))).append
      (visible_printMoreMembers rest depth hboth.2)

end

/-- **The text of a document as a text inside another one** is at most twice as long. -/
theorem textEscapes_print_le {d : Document} {depth : ℕ} (h : d.readable depth = true) :
    textEscapes d.print ≤ d.print.length := (visible_print d depth h).textEscapes_le

end Document
end Json
end Kapsel
