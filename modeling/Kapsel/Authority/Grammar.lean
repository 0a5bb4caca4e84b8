import Mathlib.Data.List.Basic
import Mathlib.Order.Basic
import Mathlib.Order.Nat

/-!
# The shared input grammar of `kapsel-authority`

Every text the gateway handles is a Rust `String`, and every check on one is a
check on its bytes: lengths are byte lengths, and all separators and character
classes are ASCII.  A text is therefore modelled by its UTF-8 bytes.  `utf8` writes
a literal of the source.

The grammars are those of `crates/kapsel-authority/src/lib.rs` and `git.rs`, under
the same names.
-/

namespace Kapsel

/-- A byte string. -/
abbrev Bytes := List UInt8

/-- A text, given by its UTF-8 bytes. -/
abbrev Text := List UInt8

/-- The bytes of a literal. -/
def utf8 (s : String) : Text := s.toByteArray.data.toList

/-- The byte of an ASCII character. -/
def asciiByte (c : Char) : UInt8 := c.toNat.toUInt8

namespace Grammar

/-! ## Byte classes -/

/-- `u8::is_ascii_digit`. -/
def isAsciiDigit (b : UInt8) : Bool := asciiByte '0' ≤ b && b ≤ asciiByte '9'

/-- `u8::is_ascii_lowercase`. -/
def isAsciiLowercase (b : UInt8) : Bool := asciiByte 'a' ≤ b && b ≤ asciiByte 'z'

/-- `u8::is_ascii_alphanumeric`. -/
def isAsciiAlphanumeric (b : UInt8) : Bool :=
  isAsciiDigit b || isAsciiLowercase b || (asciiByte 'A' ≤ b && b ≤ asciiByte 'Z')

/-- `is_ascii_lowercase_or_digit`. -/
def isAsciiLowercaseOrDigit (b : UInt8) : Bool := isAsciiLowercase b || isAsciiDigit b

/-- A digit of a lowercase hexadecimal text. -/
def isLowercaseHex (b : UInt8) : Bool :=
  isAsciiDigit b || (asciiByte 'a' ≤ b && b ≤ asciiByte 'f')

/-- `is_ascii` of a slice or a text. -/
def isAscii (value : Bytes) : Bool := value.all fun b => b < 128

/-- `std::str::from_utf8` succeeds; an ASCII slice is not decoded. -/
def utf8IsValid (bytes : Bytes) : Bool :=
  isAscii bytes || ByteArray.validateUTF8 ⟨bytes.toArray⟩

/-- `str::split_once`: the text before and after the first occurrence of `separator`. -/
def splitOnce (separator : Text) : Text → Option (Text × Text)
  | [] => if separator = [] then some ([], []) else none
  | b :: rest =>
      if separator.isPrefixOf (b :: rest) then
        some ([], (b :: rest).drop separator.length)
      else (splitOnce separator rest).map fun p => (b :: p.1, p.2)

/-! ## The grammars -/

/-- `identity_is_valid`. -/
def identityIsValid (value : Text) : Bool :=
  !value.isEmpty && value.length ≤ 128 &&
    value.all fun b => isAsciiAlphanumeric b || b = asciiByte '.' || b = asciiByte '_' ||
      b = asciiByte ':' || b = asciiByte '-'

/-- `dns_label_is_valid`. -/
def dnsLabelIsValid (value : Text) : Bool :=
  !value.isEmpty && value.length ≤ 63 &&
    value.head?.any isAsciiLowercaseOrDigit &&
    value.getLast?.any isAsciiLowercaseOrDigit &&
    value.all fun b => isAsciiLowercaseOrDigit b || b = asciiByte '-'

/-- `dns_subdomain_is_valid`. -/
def dnsSubdomainIsValid (value : Text) : Bool :=
  !value.isEmpty && value.length ≤ 253 &&
    (value.splitOn (asciiByte '.')).all dnsLabelIsValid

/-- `image_name_component_is_valid`. -/
def imageNameComponentIsValid (component : Text) : Bool :=
  !component.isEmpty &&
    component.head?.any isAsciiLowercaseOrDigit &&
    component.getLast?.any isAsciiLowercaseOrDigit &&
    component.all fun b => isAsciiLowercaseOrDigit b || b = asciiByte '.' ||
      b = asciiByte '_' || b = asciiByte '-'

/-- Exactly 64 lowercase hexadecimal digits: the shape of a SHA-256 digest in text. -/
def isLowercaseSha256 (value : Text) : Bool :=
  value.length = 64 && value.all isLowercaseHex

/-- `immutable_image_is_valid`. -/
def immutableImageIsValid (value : Text) : Bool :=
  if value.isEmpty || 512 < value.length || !isAscii value then false
  else
    match splitOnce (utf8 "@sha256:") value with
    | none => false
    | some (name, digest) =>
        if name.contains (asciiByte '@') then false
        else isLowercaseSha256 digest &&
          (name.splitOn (asciiByte '/')).all imageNameComponentIsValid

/-- `git_commit_id_is_valid`. -/
def gitCommitIdIsValid (value : Text) : Bool :=
  value.length = 40 && value.all isLowercaseHex && value.any fun b => b ≠ asciiByte '0'

/-! ## UTF-8 -/

theorem utf8Encode_of_isAscii {value : Bytes} (h : isAscii value = true) :
    (value.map Char.ofUInt8).utf8Encode = ⟨value.toArray⟩ := by
  induction value with
  | nil => rfl
  | cons b rest ih =>
    rw [isAscii, List.all_cons, Bool.and_eq_true, decide_eq_true_eq] at h
    have hsize : (Char.ofUInt8 b).utf8Size = 1 := by
      have hlt : b.toUInt32.toNat < 128 := by
        rw [UInt8.toNat_toUInt32]
        exact h.1
      exact Char.utf8Size_eq_one_iff.mpr (UInt32.le_iff_toNat_le.mpr (Nat.le_of_lt_succ hlt))
    have hb : String.utf8EncodeChar (Char.ofUInt8 b) = [b] := by
      rw [String.utf8EncodeChar_eq_singleton hsize]
      exact congrArg (fun b => [b]) b.toUInt8_toUInt32
    rw [List.map_cons, List.utf8Encode_cons, ih h.2, List.utf8Encode_singleton, hb]
    rfl

theorem utf8IsValid_of_isAscii {value : Bytes} (h : isAscii value = true) :
    utf8IsValid value = true := by
  rw [utf8IsValid, h, Bool.true_or]

/-- Skipping the decoder for ASCII changes nothing. -/
theorem utf8IsValid_eq (value : Bytes) :
    utf8IsValid value = ByteArray.validateUTF8 ⟨value.toArray⟩ := by
  cases h : isAscii value with
  | false => rw [utf8IsValid, h, Bool.false_or]
  | true =>
    rw [utf8IsValid_of_isAscii h]
    exact (ByteArray.validateUTF8_eq_true_iff.mpr ⟨_, (utf8Encode_of_isAscii h).symm⟩).symm

theorem utf8IsValid_utf8 (s : String) : utf8IsValid (utf8 s) = true := by
  rw [utf8IsValid_eq]
  show ByteArray.validateUTF8 ⟨s.toByteArray.data.toList.toArray⟩ = true
  rw [Array.toArray_toList]
  exact ByteArray.validateUTF8_eq_true_iff.mpr s.isValidUTF8

/-! ## What a valid text satisfies -/

theorem isAscii_of_all {p : UInt8 → Bool} (hp : ∀ b, p b = true → b < 128) {value : Text}
    (h : value.all p = true) : isAscii value = true := by
  rw [isAscii, List.all_eq_true]
  intro b hb
  exact decide_eq_true (hp b (List.all_eq_true.mp h b hb))

theorem lt_of_le_asciiByte {b : UInt8} {c : Char} (hc : asciiByte c < 128)
    (h : b ≤ asciiByte c) : b < 128 := UInt8.lt_of_le_of_lt h hc

theorem isAsciiDigit_lt {b : UInt8} (h : isAsciiDigit b = true) : b < 128 := by
  simp only [isAsciiDigit, Bool.and_eq_true, decide_eq_true_eq] at h
  exact lt_of_le_asciiByte (by decide) h.2

theorem isAsciiLowercase_lt {b : UInt8} (h : isAsciiLowercase b = true) : b < 128 := by
  simp only [isAsciiLowercase, Bool.and_eq_true, decide_eq_true_eq] at h
  exact lt_of_le_asciiByte (by decide) h.2

theorem isAsciiAlphanumeric_lt {b : UInt8} (h : isAsciiAlphanumeric b = true) : b < 128 := by
  simp only [isAsciiAlphanumeric, Bool.or_eq_true, Bool.and_eq_true, decide_eq_true_eq] at h
  rcases h with (h | h) | h
  · exact isAsciiDigit_lt h
  · exact isAsciiLowercase_lt h
  · exact lt_of_le_asciiByte (by decide) h.2

theorem isAsciiLowercaseOrDigit_lt {b : UInt8} (h : isAsciiLowercaseOrDigit b = true) :
    b < 128 := by
  rw [isAsciiLowercaseOrDigit, Bool.or_eq_true] at h
  rcases h with h | h
  · exact isAsciiLowercase_lt h
  · exact isAsciiDigit_lt h

theorem isLowercaseHex_lt {b : UInt8} (h : isLowercaseHex b = true) : b < 128 := by
  simp only [isLowercaseHex, Bool.or_eq_true, Bool.and_eq_true, decide_eq_true_eq] at h
  rcases h with h | h
  · exact isAsciiDigit_lt h
  · exact lt_of_le_asciiByte (by decide) h.2

/-- What a bounded text record of a receipt or a grant needs of its value. -/
structure Fits (bound : ℕ) (value : Text) : Prop where
  nonempty : value ≠ []
  length_le : value.length ≤ bound
  ascii : isAscii value = true

theorem Fits.mono {bound bound' : ℕ} {value : Text} (h : Fits bound value)
    (hle : bound ≤ bound') : Fits bound' value :=
  ⟨h.nonempty, h.length_le.trans hle, h.ascii⟩

theorem fits_of_identityIsValid {value : Text} (h : identityIsValid value = true) :
    Fits 128 value := by
  simp only [identityIsValid, Bool.and_eq_true, Bool.not_eq_true', List.isEmpty_eq_false_iff,
    decide_eq_true_eq] at h
  refine ⟨h.1.1, h.1.2, isAscii_of_all (fun b hb => ?_) h.2⟩
  simp only [Bool.or_eq_true, decide_eq_true_eq] at hb
  rcases hb with (((hb | rfl) | rfl) | rfl) | rfl
  · exact isAsciiAlphanumeric_lt hb
  all_goals decide

theorem fits_of_dnsLabelIsValid {value : Text} (h : dnsLabelIsValid value = true) :
    Fits 63 value := by
  simp only [dnsLabelIsValid, Bool.and_eq_true, Bool.not_eq_true', List.isEmpty_eq_false_iff,
    decide_eq_true_eq] at h
  refine ⟨h.1.1.1.1, h.1.1.1.2, isAscii_of_all (fun b hb => ?_) h.2⟩
  simp only [Bool.or_eq_true, decide_eq_true_eq] at hb
  rcases hb with hb | rfl
  · exact isAsciiLowercaseOrDigit_lt hb
  · decide

theorem fits_of_isLowercaseSha256 {value : Text} (h : isLowercaseSha256 value = true) :
    Fits 64 value := by
  simp only [isLowercaseSha256, Bool.and_eq_true, decide_eq_true_eq] at h
  refine ⟨?_, h.1.le, isAscii_of_all (fun b => isLowercaseHex_lt) h.2⟩
  rintro rfl
  exact absurd h.1 (by decide)

theorem fits_of_immutableImageIsValid {value : Text} (h : immutableImageIsValid value = true) :
    Fits 512 value := by
  unfold immutableImageIsValid at h
  split at h
  · exact absurd h (by decide)
  · rename_i hbound
    simp only [Bool.or_eq_true, List.isEmpty_iff, decide_eq_true_eq, Bool.not_eq_true',
      not_or, Bool.not_eq_false] at hbound
    exact ⟨hbound.1.1, Nat.le_of_not_lt hbound.1.2, hbound.2⟩

/-- Splitting on a separator and intercalating it back gives the text. -/
theorem all_of_splitOn {p : UInt8 → Bool} {separator : UInt8} (hsep : p separator = true)
    {value : Text} (h : ∀ part ∈ value.splitOn separator, part.all p = true) :
    value.all p = true := by
  have hjoin : [separator].intercalate (value.splitOn separator) = value :=
    List.intercalate_splitOn separator
  rw [← hjoin]
  generalize value.splitOn separator = parts at h
  induction parts with
  | nil => rfl
  | cons part parts ih =>
    have hpart := h part (List.mem_cons_self ..)
    have hrest := ih fun p hp => h p (List.mem_cons_of_mem _ hp)
    cases parts with
    | nil => simpa [List.intercalate] using hpart
    | cons next parts =>
      rw [List.all_eq_true] at hpart hrest ⊢
      intro b hb
      simp only [List.intercalate, List.intersperse, List.flatten_cons, List.mem_append,
        List.mem_singleton] at hb hrest
      rcases hb with hb | rfl | hb
      · exact hpart b hb
      · exact hsep
      · exact hrest b hb

/-- A text that was split is the two parts around the separator. -/
theorem eq_of_splitOnce {separator value first second : Text}
    (h : splitOnce separator value = some (first, second)) :
    value = first ++ separator ++ second := by
  induction value generalizing first with
  | nil =>
    rw [splitOnce] at h
    split at h
    · rename_i hempty
      obtain ⟨rfl, rfl⟩ := Prod.mk.inj (Option.some.inj h)
      rw [hempty]
      rfl
    · cases h
  | cons b rest ih =>
    rw [splitOnce] at h
    split at h
    · rename_i hprefix
      obtain ⟨rfl, rfl⟩ := Prod.mk.inj (Option.some.inj h)
      obtain ⟨tail, htail⟩ := List.isPrefixOf_iff_prefix.mp hprefix
      rw [← htail, List.drop_left, List.nil_append]
    · obtain ⟨⟨first', second'⟩, hrest, hpair⟩ := Option.map_eq_some_iff.mp h
      obtain ⟨rfl, rfl⟩ := Prod.mk.inj hpair
      rw [ih hrest]
      rfl

theorem fits_of_dnsSubdomainIsValid {value : Text} (h : dnsSubdomainIsValid value = true) :
    Fits 253 value := by
  simp only [dnsSubdomainIsValid, Bool.and_eq_true, Bool.not_eq_true', List.isEmpty_eq_false_iff,
    decide_eq_true_eq, List.all_eq_true] at h
  exact ⟨h.1.1, h.1.2,
    all_of_splitOn (by decide) fun part hp => (fits_of_dnsLabelIsValid (h.2 part hp)).ascii⟩

theorem fits_of_gitCommitIdIsValid {value : Text} (h : gitCommitIdIsValid value = true) :
    Fits 40 value := by
  simp only [gitCommitIdIsValid, Bool.and_eq_true, decide_eq_true_eq] at h
  refine ⟨?_, h.1.1.le, isAscii_of_all (fun b => isLowercaseHex_lt) h.1.2⟩
  rintro rfl
  exact absurd h.1.1 (by decide)

end Grammar
end Kapsel
