import Kapsel.Json.Document

/-!
# Reading JSON texts

`Document.readable` says what every reader has to handle: texts of ASCII bytes, natural numbers of
at most 19 digits, and a nesting that is not deeper than a bound.  A `Reader` is any function that
undoes `print` on such documents.  It keeps duplicate names and the order of the members, so both
the value of a text and its names twice can be found from what it returns.

`compact` is a reader of the compact form, by recursive descent with the length of the text as its
fuel.  `parseValue_print` is the induction behind it.
-/

namespace Kapsel
namespace Json

/-! ## What is readable -/

def isDigit (b : UInt8) : Bool := 48 ≤ b && b ≤ 57

/-- A natural number of at most 19 digits, without a leading zero. -/
def isNatural (token : List UInt8) : Bool :=
  !token.isEmpty && token.length ≤ 19 && token.all isDigit &&
    (token.length = 1 || token.head? ≠ some 48)

/-- A text of ASCII bytes. -/
def isAsciiText (text : List UInt8) : Bool := text.all fun b => b < 128

namespace Document

mutual

/-- The document is nested at most so deep, and its texts and numbers are plain. -/
def readable : ℕ → Document → Bool
  | _, null => true
  | _, bool _ => true
  | _, number token => isNatural token
  | _, string text => isAsciiText text
  | 0, array _ => false
  | 0, object _ => false
  | depth + 1, array items => readableItems depth items
  | depth + 1, object members => readableMembers depth members

def readableItems : ℕ → List Document → Bool
  | _, [] => true
  | depth, item :: rest => readable depth item && readableItems depth rest

def readableMembers : ℕ → List (List UInt8 × Document) → Bool
  | _, [] => true
  | depth, (name, value) :: rest =>
      isAsciiText name && readable depth value && readableMembers depth rest

end

theorem readable_array {depth : ℕ} {items : List Document} :
    (array items).readable (depth + 1) = true ↔ ∀ item ∈ items, item.readable depth = true := by
  have hitems : readableItems depth items = items.all (readable depth) := by
    induction items with
    | nil => rfl
    | cons item rest ih => rw [readableItems, ih, List.all_cons]
  rw [readable, hitems, List.all_eq_true]

theorem readable_object {depth : ℕ} {members : Members} :
    (object members).readable (depth + 1) = true ↔
      ∀ member ∈ members, isAsciiText member.1 = true ∧ member.2.readable depth = true := by
  have hmembers : readableMembers depth members =
      members.all fun member => isAsciiText member.1 && member.2.readable depth := by
    induction members with
    | nil => rfl
    | cons member rest ih =>
      obtain ⟨name, value⟩ := member
      rw [readableMembers, ih, List.all_cons]
  rw [readable, hmembers, List.all_eq_true]
  simp only [Bool.and_eq_true]

end Document

/-- A reader of JSON texts that undoes printing. -/
structure Reader where
  parse : List UInt8 → Option Document
  parse_print : ∀ d : Document, d.readable 127 = true → parse d.print = some d

/-! ## Texts inside quotes -/

/-- The value of a lowercase digit of a code point. -/
def digitValue (b : UInt8) : UInt8 := if b < 97 then b - 48 else b - 87

/-- The byte that a letter behind the backslash stands for. -/
def unescapeByte (b : UInt8) : Option UInt8 :=
  if b = 34 then some 34
  else if b = 92 then some 92
  else if b = 98 then some 8
  else if b = 116 then some 9
  else if b = 110 then some 10
  else if b = 102 then some 12
  else if b = 114 then some 13
  else none

/-- A text behind its first quote, and what follows its last one. -/
def parseText : List UInt8 → Option (List UInt8 × List UInt8)
  | [] => none
  | 34 :: rest => some ([], rest)
  | 92 :: 117 :: 48 :: 48 :: high :: low :: rest =>
      (parseText rest).map fun p => ((digitValue high * 16 + digitValue low) :: p.1, p.2)
  | 92 :: letter :: rest => do
      let b ← unescapeByte letter
      let p ← parseText rest
      return (b :: p.1, p.2)
  | b :: rest => if b < 32 then none else (parseText rest).map fun p => (b :: p.1, p.2)

theorem digitValue_hexDigit (b : UInt8) (h : b < 32) :
    digitValue (hexDigit (b / 16)) * 16 + digitValue (hexDigit (b % 16)) = b := by
  have hall : ∀ n : Fin 256, UInt8.ofFin n < 32 →
      digitValue (hexDigit (UInt8.ofFin n / 16)) * 16 +
        digitValue (hexDigit (UInt8.ofFin n % 16)) = UInt8.ofFin n := by
    decide +kernel
  exact hall b.toFin h

theorem parseText_escapeByte (b : UInt8) (input : List UInt8) :
    parseText (escapeByte b ++ input) = (parseText input).map fun p => (b :: p.1, p.2) := by
  unfold escapeByte
  split_ifs with hquote hbackslash hbell htab hline hpage hreturn hcontrol
  · subst hquote
    cases h : parseText input <;> simp [parseText, unescapeByte, h]
  · subst hbackslash
    cases h : parseText input <;> simp [parseText, unescapeByte, h]
  · subst hbell
    cases h : parseText input <;> simp [parseText, unescapeByte, h]
  · subst htab
    cases h : parseText input <;> simp [parseText, unescapeByte, h]
  · subst hline
    cases h : parseText input <;> simp [parseText, unescapeByte, h]
  · subst hpage
    cases h : parseText input <;> simp [parseText, unescapeByte, h]
  · subst hreturn
    cases h : parseText input <;> simp [parseText, unescapeByte, h]
  · simp only [List.cons_append, List.nil_append, parseText, digitValue_hexDigit b hcontrol]
  · rw [List.singleton_append, parseText.eq_5 _ _ hquote]
    · rw [if_neg hcontrol]
    all_goals
      intros
      exact hbackslash ‹_›

/-- **A quoted text is read back.** -/
theorem parseText_quote (text rest : List UInt8) :
    parseText (text.flatMap escapeByte ++ 34 :: rest) = some (text, rest) := by
  induction text with
  | nil => rfl
  | cons b text ih =>
    rw [List.flatMap_cons, List.append_assoc, parseText_escapeByte, ih]
    rfl

/-! ## Documents -/

mutual

/-- A document at the beginning of a text, and what follows it. -/
def parseValue : ℕ → List UInt8 → Option (Document × List UInt8)
  | 0, _ => none
  | _ + 1, 110 :: 117 :: 108 :: 108 :: rest => some (.null, rest)
  | _ + 1, 116 :: 114 :: 117 :: 101 :: rest => some (.bool true, rest)
  | _ + 1, 102 :: 97 :: 108 :: 115 :: 101 :: rest => some (.bool false, rest)
  | _ + 1, 34 :: rest => (parseText rest).map fun p => (.string p.1, p.2)
  | _ + 1, 91 :: 93 :: rest => some (.array [], rest)
  | fuel + 1, 91 :: rest => (parseItems fuel rest).map fun p => (.array p.1, p.2)
  | _ + 1, 123 :: 125 :: rest => some (.object [], rest)
  | fuel + 1, 123 :: rest => (parseMembers fuel rest).map fun p => (.object p.1, p.2)
  | _ + 1, input =>
      if isNatural (input.takeWhile isDigit) then
        some (.number (input.takeWhile isDigit), input.dropWhile isDigit)
      else none

def parseItems : ℕ → List UInt8 → Option (List Document × List UInt8)
  | 0, _ => none
  | fuel + 1, input => do
      let (item, rest) ← parseValue fuel input
      match rest with
      | 93 :: rest => return ([item], rest)
      | 44 :: rest =>
          let (items, rest) ← parseItems fuel rest
          return (item :: items, rest)
      | _ => none

def parseMembers : ℕ → List UInt8 → Option (List (List UInt8 × Document) × List UInt8)
  | 0, _ => none
  | fuel + 1, 34 :: input => do
      let (name, rest) ← parseText input
      match rest with
      | 58 :: rest =>
          let (value, rest) ← parseValue fuel rest
          match rest with
          | 125 :: rest => return ([(name, value)], rest)
          | 44 :: rest =>
              let (members, rest) ← parseMembers fuel rest
              return ((name, value) :: members, rest)
          | _ => none
      | _ => none
  | _ + 1, _ => none

end

/-- The text does not go on with a digit. -/
def Delimited (rest : List UInt8) : Prop := ∀ b ∈ rest.head?, isDigit b = false

theorem delimited_cons {b : UInt8} {rest : List UInt8} (h : isDigit b = false) :
    Delimited (b :: rest) := by
  intro c hc
  obtain rfl := Option.some.inj hc
  exact h

theorem isDigit_of_isNatural {token : List UInt8} (h : isNatural token = true) :
    token ≠ [] ∧ ∀ b ∈ token, isDigit b = true := by
  simp only [isNatural, Bool.and_eq_true, Bool.not_eq_true', List.all_eq_true] at h
  refine ⟨?_, h.1.2⟩
  rintro rfl
  exact absurd h.1.1.1 (by decide)

theorem parseValue_token {token rest : List UInt8} {fuel : ℕ} (h : isNatural token = true)
    (hrest : Delimited rest) :
    parseValue (fuel + 1) (token ++ rest) = some (.number token, rest) := by
  obtain ⟨hne, hdigits⟩ := isDigit_of_isNatural h
  have htake : (token ++ rest).takeWhile isDigit = token := by
    rw [List.takeWhile_append_of_pos hdigits]
    cases rest with
    | nil => exact List.append_nil _
    | cons b rest =>
      rw [List.takeWhile_cons_of_neg (by simpa using hrest b rfl), List.append_nil]
  have hdrop : (token ++ rest).dropWhile isDigit = rest := by
    rw [List.dropWhile_append_of_pos hdigits]
    cases rest with
    | nil => rfl
    | cons b rest => exact List.dropWhile_cons_of_neg (by simpa using hrest b rfl)
  cases token with
  | nil => exact absurd rfl hne
  | cons b token =>
    have hdigit := hdigits b List.mem_cons_self
    unfold parseValue
    split
    case h_10 =>
      rename_i heq _ _ _ _ _ _ _ _
      obtain rfl := Nat.succ.inj heq.symm
      rw [htake, hdrop, if_pos h]
    all_goals
      simp_all [isDigit]

/-- No readable document begins with the bracket that closes an array. -/
theorem head?_print {d : Document} {depth : ℕ} (h : d.readable depth = true) (rest : List UInt8) :
    ∀ r, d.print ++ rest ≠ 93 :: r := by
  intro r heq
  cases d with
  | null => cases heq
  | bool value => cases value <;> cases heq
  | number token =>
    have hnatural : isNatural token = true := by cases depth <;> exact h
    obtain ⟨hne, hdigits⟩ := isDigit_of_isNatural hnatural
    cases token with
    | nil => exact hne rfl
    | cons b token =>
      obtain rfl : b = 93 := (List.cons.inj heq).1
      exact absurd (hdigits 93 List.mem_cons_self) (by decide)
  | string text => cases heq
  | array items => cases heq
  | object members => cases heq

theorem parseValue_array {rest : List UInt8} {fuel : ℕ} (h : ∀ r, rest ≠ 93 :: r) :
    parseValue (fuel + 1) (91 :: rest) =
      (parseItems fuel rest).map fun p => (.array p.1, p.2) := by
  rw [parseValue]
  exact h

theorem printItems_cons_cons (item other : Document) (rest : List Document) :
    Document.printItems (item :: other :: rest) =
      item.print ++ 44 :: Document.printItems (other :: rest) := by
  simp only [Document.printItems, Document.printMoreItems, List.cons_append]

theorem printMembers_cons_cons (name name' : List UInt8) (value value' : Document)
    (rest : Members) :
    Document.printMembers ((name, value) :: (name', value') :: rest) =
      quote name ++ 58 :: (value.print ++ 44 :: Document.printMembers ((name', value') :: rest)) := by
  simp only [Document.printMembers, Document.printMoreMembers, List.cons_append, List.append_assoc]

theorem printMembers_singleton (name : List UInt8) (value : Document) :
    Document.printMembers [(name, value)] = quote name ++ 58 :: value.print := by
  simp only [Document.printMembers, Document.printMoreMembers, List.append_nil]

-- on the document; the fuel is longer than its text, and each call reads a byte at least
mutual

/-- **A printed document is read back.** -/
theorem parseValue_print : ∀ (d : Document) (depth fuel : ℕ) (rest : List UInt8),
    d.readable depth = true → d.print.length < fuel → Delimited rest →
      parseValue fuel (d.print ++ rest) = some (d, rest)
  | _, _, 0, _, _, hfuel, _ => absurd hfuel (Nat.not_lt_zero _)
  | .null, _, fuel + 1, rest, _, _, _ => rfl
  | .bool true, _, fuel + 1, rest, _, _, _ => rfl
  | .bool false, _, fuel + 1, rest, _, _, _ => rfl
  | .number token, depth, fuel + 1, rest, h, _, hrest =>
    parseValue_token (by cases depth <;> exact h) hrest
  | .string text, _, fuel + 1, rest, _, _, _ => by
    show (parseText ((text.flatMap escapeByte ++ [34]) ++ rest)).map _ = _
    rw [List.append_assoc, List.singleton_append, parseText_quote]
    rfl
  | .array [], _, fuel + 1, rest, _, _, _ => rfl
  | .array (item :: items), 0, fuel + 1, rest, h, _, _ => nomatch h
  | .array (item :: items), depth + 1, fuel + 1, rest, h, hfuel, _ => by
    have hlength : (Document.printItems (item :: items)).length + 1 < fuel := by
      have hprint : (Document.array (item :: items)).print =
        91 :: (Document.printItems (item :: items) ++ [93]) := rfl
      rw [hprint, List.length_cons, List.length_append, List.length_singleton] at hfuel
      omega
    have hitems := parseItems_print item items depth fuel rest h hlength
    have hfirst : item.readable depth = true := (Bool.and_eq_true _ _ ▸ h).1
    show parseValue (fuel + 1) (91 :: ((item.print ++ Document.printMoreItems items ++ [93]) ++
      rest)) = _
    rw [parseValue_array, List.append_assoc, List.singleton_append]
    · rw [show item.print ++ Document.printMoreItems items = Document.printItems (item :: items)
        from rfl, hitems]
      rfl
    · rw [List.append_assoc, List.append_assoc]
      exact head?_print hfirst _
  | .object [], _, fuel + 1, rest, _, _, _ => rfl
  | .object (member :: members), 0, fuel + 1, rest, h, _, _ => nomatch h
  | .object ((name, value) :: members), depth + 1, fuel + 1, rest, h, hfuel, _ => by
    have hlength : (Document.printMembers ((name, value) :: members)).length + 1 < fuel := by
      have hprint : (Document.object ((name, value) :: members)).print =
        123 :: (Document.printMembers ((name, value) :: members) ++ [125]) := rfl
      rw [hprint, List.length_cons, List.length_append, List.length_singleton] at hfuel
      omega
    have hmembers := parseMembers_print name value members depth fuel rest h hlength
    show (parseMembers fuel ((Document.printMembers ((name, value) :: members) ++ [125]) ++
      rest)).map _ = _
    rw [List.append_assoc, List.singleton_append, hmembers]
    rfl

theorem parseItems_print : ∀ (item : Document) (items : List Document) (depth fuel : ℕ)
    (rest : List UInt8), Document.readableItems depth (item :: items) = true →
      (Document.printItems (item :: items)).length + 1 < fuel →
      parseItems fuel (Document.printItems (item :: items) ++ 93 :: rest) =
        some (item :: items, rest)
  | _, _, _, 0, _, _, hfuel => absurd hfuel (Nat.not_lt_zero _)
  | item, [], depth, fuel + 1, rest, h, hfuel => by
    have hprint : Document.printItems [item] = item.print := List.append_nil _
    rw [hprint] at hfuel ⊢
    have hitem := parseValue_print item depth fuel (93 :: rest) (Bool.and_eq_true _ _ ▸ h).1
      (by omega) (delimited_cons (by decide))
    rw [parseItems, hitem]
    rfl
  | item, other :: items, depth, fuel + 1, rest, h, hfuel => by
    rw [printItems_cons_cons, List.length_append, List.length_cons] at hfuel
    have hsplit := (Bool.and_eq_true _ _ ▸ h)
    have hitem := parseValue_print item depth fuel
      (44 :: (Document.printItems (other :: items) ++ 93 :: rest)) hsplit.1 (by omega)
      (delimited_cons (by decide))
    have hitems := parseItems_print other items depth fuel rest hsplit.2 (by omega)
    rw [printItems_cons_cons, List.append_assoc, List.cons_append, parseItems, hitem]
    show (do
      let (items, rest) ← parseItems fuel (Document.printItems (other :: items) ++ 93 :: rest)
      return (item :: items, rest)) = _
    rw [hitems]
    rfl

theorem parseMembers_print : ∀ (name : List UInt8) (value : Document) (members : Members)
    (depth fuel : ℕ) (rest : List UInt8),
      Document.readableMembers depth ((name, value) :: members) = true →
      (Document.printMembers ((name, value) :: members)).length + 1 < fuel →
      parseMembers fuel (Document.printMembers ((name, value) :: members) ++ 125 :: rest) =
        some ((name, value) :: members, rest)
  | _, _, _, _, 0, _, _, hfuel => absurd hfuel (Nat.not_lt_zero _)
  | name, value, [], depth, fuel + 1, rest, h, hfuel => by
    rw [printMembers_singleton, List.length_append, List.length_cons] at hfuel
    have hsplit := (Bool.and_eq_true _ _ ▸ (Bool.and_eq_true _ _ ▸ h).1)
    have hvalue := parseValue_print value depth fuel (125 :: rest) hsplit.2 (by omega)
      (delimited_cons (by decide))
    rw [printMembers_singleton]
    show parseMembers (fuel + 1) (34 :: (name.flatMap escapeByte ++ [34] ++ 58 :: value.print ++
      125 :: rest)) = _
    rw [parseMembers, List.append_assoc, List.append_assoc, List.singleton_append, parseText_quote]
    show (do
      let (value, rest) ← parseValue fuel (value.print ++ 125 :: rest)
      match rest with
      | 125 :: rest => some ([(name, value)], rest)
      | 44 :: rest =>
          let (members, rest) ← parseMembers fuel rest
          some ((name, value) :: members, rest)
      | _ => none) = _
    rw [hvalue]
    rfl
  | name, value, (name', value') :: members, depth, fuel + 1, rest, h, hfuel => by
    rw [printMembers_cons_cons, List.length_append, List.length_cons, List.length_append,
      List.length_cons] at hfuel
    have hboth := Bool.and_eq_true _ _ ▸ h
    have hsplit := (Bool.and_eq_true _ _ ▸ hboth.1)
    have hvalue := parseValue_print value depth fuel
      (44 :: (Document.printMembers ((name', value') :: members) ++ 125 :: rest)) hsplit.2 (by omega)
      (delimited_cons (by decide))
    have hmembers := parseMembers_print name' value' members depth fuel rest hboth.2 (by omega)
    rw [printMembers_cons_cons]
    show parseMembers (fuel + 1) (34 :: (name.flatMap escapeByte ++ [34] ++
      58 :: (value.print ++ 44 :: Document.printMembers ((name', value') :: members)) ++ 125 :: rest)) = _
    rw [parseMembers, List.append_assoc, List.append_assoc, List.singleton_append, parseText_quote,
      List.cons_append, List.append_assoc, List.cons_append]
    show (do
      let (value, rest) ← parseValue fuel
        (value.print ++ 44 :: (Document.printMembers ((name', value') :: members) ++ 125 :: rest))
      match rest with
      | 125 :: rest => some ([(name, value)], rest)
      | 44 :: rest =>
          let (members, rest) ← parseMembers fuel rest
          some ((name, value) :: members, rest)
      | _ => none) = _
    rw [hvalue]
    show (do
      let (members, rest) ← parseMembers fuel
        (Document.printMembers ((name', value') :: members) ++ 125 :: rest)
      some ((name, value) :: members, rest)) = _
    rw [hmembers]
    rfl

end

/-- The document that a compact text is. -/
def parseCompact (input : List UInt8) : Option Document :=
  match parseValue (input.length + 1) input with
  | some (d, []) => some d
  | _ => none

/-- **The reader of compact texts.** -/
def compact : Reader where
  parse := parseCompact
  parse_print d h := by
    have hread := parseValue_print d 127 (d.print.length + 1) [] h (Nat.lt_succ_self _)
      fun b hb => nomatch hb
    rw [List.append_nil] at hread
    rw [parseCompact, hread]

end Json
end Kapsel
