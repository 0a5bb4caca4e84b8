import Kapsel.Bytes.Separated
import Kapsel.Authority.Grammar

/-!
# The exact grammars of images and names

`immutable_image_is_valid` looks for the first `@sha256:`, refuses an `@` before it and checks
what is left and right of it; `dns_subdomain_is_valid` cuts at the dots.  Neither says which texts
it accepts.  This file says it: a grammar as a relation between a text and its parts, without
any search, and the theorem that the checks decide it.

An image has one reading as parts: a component holds no `@` and no `/`, so the first `@sha256:`
is the only place where the digest can begin (`splitOnce_of_not_mem`) and the name is cut at
exactly its slashes (`Joins.iff_splitOn`).

* `Word`, `DnsLabel`, `Digest`, `ImmutableImage`, `DnsSubdomain`: the grammars.
* `grammars_exact`: **the two checks accept exactly the texts of the grammars**, and what an
  accepted image cannot hold.
-/

namespace Kapsel
namespace Grammar

/-! ## The grammars -/

/-- `[a-z0-9]`. -/
def LowercaseOrDigit (b : UInt8) : Prop :=
  (asciiByte 'a' ≤ b ∧ b ≤ asciiByte 'z') ∨ (asciiByte '0' ≤ b ∧ b ≤ asciiByte '9')

/-- `[0-9a-f]`. -/
def LowercaseHex (b : UInt8) : Prop :=
  (asciiByte '0' ≤ b ∧ b ≤ asciiByte '9') ∨ (asciiByte 'a' ≤ b ∧ b ≤ asciiByte 'f')

/-- A nonempty text over `[a-z0-9]` and `marks` that starts and ends in `[a-z0-9]`. -/
structure Word (marks : List UInt8) (value : Text) : Prop where
  nonempty : value ≠ []
  bytes : ∀ b ∈ value, LowercaseOrDigit b ∨ b ∈ marks
  starts : ∀ b ∈ value.head?, LowercaseOrDigit b
  ends : ∀ b ∈ value.getLast?, LowercaseOrDigit b

/-- A component of an image name. -/
abbrev ImageComponent : Text → Prop := Word [asciiByte '.', asciiByte '_', asciiByte '-']

/-- A label of a name. -/
structure DnsLabel (value : Text) : Prop where
  word : Word [asciiByte '-'] value
  length_le : value.length ≤ 63

/-- Exactly 64 digits of a lowercase hexadecimal text. -/
structure Digest (value : Text) : Prop where
  length_eq : value.length = 64
  bytes : ∀ b ∈ value, LowercaseHex b

/-- `c1/.../ck@sha256:d` with at least one component. -/
structure ImmutableImage (components : List Text) (digest value : Text) : Prop where
  nonempty : components ≠ []
  each : ∀ component ∈ components, ImageComponent component
  digest_ok : Digest digest
  written : value = [asciiByte '/'].intercalate components ++ utf8 "@sha256:" ++ digest

/-- A nonempty list of labels with dots between them. -/
abbrev DnsSubdomain : List Text → Text → Prop := Joins (asciiByte '.') DnsLabel

/-! ## The checks of the parts -/

theorem isAsciiLowercaseOrDigit_iff {b : UInt8} :
    isAsciiLowercaseOrDigit b = true ↔ LowercaseOrDigit b := by
  simp only [isAsciiLowercaseOrDigit, isAsciiLowercase, isAsciiDigit, LowercaseOrDigit,
    Bool.or_eq_true, Bool.and_eq_true, decide_eq_true_eq]

theorem isLowercaseHex_iff {b : UInt8} : isLowercaseHex b = true ↔ LowercaseHex b := by
  simp only [isLowercaseHex, isAsciiDigit, LowercaseHex, Bool.or_eq_true, Bool.and_eq_true,
    decide_eq_true_eq]

/-- The two ends that every word check looks at. -/
theorem any_isAsciiLowercaseOrDigit_iff {value : Text} (hne : value ≠ []) :
    (value.head?.any isAsciiLowercaseOrDigit = true ∧
        value.getLast?.any isAsciiLowercaseOrDigit = true) ↔
      (∀ b ∈ value.head?, LowercaseOrDigit b) ∧ ∀ b ∈ value.getLast?, LowercaseOrDigit b := by
  have hhead := List.head?_eq_some_head hne
  have hlast := List.getLast?_eq_some_getLast hne
  simp only [hhead, hlast, Option.any_some, Option.mem_some_iff, forall_eq',
    isAsciiLowercaseOrDigit_iff]

theorem imageNameComponentIsValid_iff {value : Text} :
    imageNameComponentIsValid value = true ↔ ImageComponent value := by
  unfold imageNameComponentIsValid
  simp only [Bool.and_eq_true, Bool.not_eq_true', List.isEmpty_eq_false_iff, List.all_eq_true,
    Bool.or_eq_true, decide_eq_true_eq, isAsciiLowercaseOrDigit_iff]
  constructor
  · rintro ⟨⟨⟨hne, hhead⟩, hlast⟩, hbytes⟩
    obtain ⟨hstarts, hends⟩ := (any_isAsciiLowercaseOrDigit_iff hne).mp ⟨hhead, hlast⟩
    refine ⟨hne, fun b hb => ?_, hstarts, hends⟩
    rcases hbytes b hb with ((hok | rfl) | rfl) | rfl
    · exact Or.inl hok
    all_goals exact Or.inr (by simp)
  · intro h
    obtain ⟨hhead, hlast⟩ := (any_isAsciiLowercaseOrDigit_iff h.nonempty).mpr ⟨h.starts, h.ends⟩
    refine ⟨⟨⟨h.nonempty, hhead⟩, hlast⟩, fun b hb => ?_⟩
    have hbyte := h.bytes b hb
    simp only [List.mem_cons, List.not_mem_nil, or_false] at hbyte
    tauto

theorem dnsLabelIsValid_iff {value : Text} : dnsLabelIsValid value = true ↔ DnsLabel value := by
  unfold dnsLabelIsValid
  simp only [Bool.and_eq_true, Bool.not_eq_true', List.isEmpty_eq_false_iff, List.all_eq_true,
    Bool.or_eq_true, decide_eq_true_eq, isAsciiLowercaseOrDigit_iff]
  constructor
  · rintro ⟨⟨⟨⟨hne, hlength⟩, hhead⟩, hlast⟩, hbytes⟩
    obtain ⟨hstarts, hends⟩ := (any_isAsciiLowercaseOrDigit_iff hne).mp ⟨hhead, hlast⟩
    refine ⟨⟨hne, fun b hb => ?_, hstarts, hends⟩, hlength⟩
    rcases hbytes b hb with hok | rfl
    · exact Or.inl hok
    · exact Or.inr (by simp)
  · intro h
    obtain ⟨hhead, hlast⟩ :=
      (any_isAsciiLowercaseOrDigit_iff h.word.nonempty).mpr ⟨h.word.starts, h.word.ends⟩
    refine ⟨⟨⟨⟨h.word.nonempty, h.length_le⟩, hhead⟩, hlast⟩, fun b hb => ?_⟩
    have hbyte := h.word.bytes b hb
    simp only [List.mem_cons, List.not_mem_nil, or_false] at hbyte
    exact hbyte

theorem isLowercaseSha256_iff {value : Text} : isLowercaseSha256 value = true ↔ Digest value := by
  unfold isLowercaseSha256
  simp only [Bool.and_eq_true, decide_eq_true_eq, List.all_eq_true, isLowercaseHex_iff]
  exact ⟨fun h => ⟨h.1, h.2⟩, fun h => ⟨h.length_eq, h.bytes⟩⟩

/-! ## Separators stand outside the parts -/

/-- A word holds no byte that is neither a mark nor in `[a-z0-9]`. -/
theorem Word.not_mem {marks : List UInt8} {value : Text} {b : UInt8} (h : Word marks value)
    (hbyte : isAsciiLowercaseOrDigit b = false) (hmark : b ∉ marks) : b ∉ value := by
  intro hmem
  rcases h.bytes b hmem with hok | hin
  · rw [isAsciiLowercaseOrDigit_iff.mpr hok] at hbyte
    cases hbyte
  · exact hmark hin

theorem Digest.not_mem {value : Text} {b : UInt8} (h : Digest value)
    (hbyte : isLowercaseHex b = false) : b ∉ value := by
  intro hmem
  rw [isLowercaseHex_iff.mpr (h.bytes b hmem)] at hbyte
  cases hbyte

/-- A byte that is in no part and is not the separator is not in the joined parts. -/
theorem not_mem_intercalate {separator b : UInt8} {parts : List Text} (hne : b ≠ separator)
    (h : ∀ part ∈ parts, b ∉ part) : b ∉ [separator].intercalate parts := by
  induction parts with
  | nil => exact List.not_mem_nil
  | cons part parts ih =>
    have hpart := h part List.mem_cons_self
    have hrest := ih fun p hp => h p (List.mem_cons_of_mem part hp)
    cases parts with
    | nil => rwa [List.intercalate_singleton]
    | cons next parts =>
      rw [List.intercalate_cons_cons]
      simp only [List.mem_append, List.mem_singleton, not_or]
      exact ⟨⟨hpart, hne⟩, hrest⟩

/-- The first byte of a separator decides a split when it is not in the first part. -/
theorem splitOnce_of_not_mem {b : UInt8} {separator first second : Text} (h : b ∉ first) :
    splitOnce (b :: separator) (first ++ b :: separator ++ second) = some (first, second) := by
  induction first with
  | nil => simp [splitOnce]
  | cons x first ih =>
    have hx : b ≠ x := fun heq => h (heq ▸ List.mem_cons_self)
    have hprefix :
        List.isPrefixOf (b :: separator) (x :: (first ++ b :: separator ++ second)) = false := by
      rw [List.isPrefixOf_cons_cons, beq_eq_false_iff_ne.mpr hx, Bool.false_and]
    show splitOnce (b :: separator) (x :: (first ++ b :: separator ++ second)) = _
    rw [splitOnce, hprefix, ih fun hmem => h (List.mem_cons_of_mem x hmem)]
    rfl

/-! ## One reading of an image -/

theorem utf8_digestSeparator : utf8 "@sha256:" = asciiByte '@' :: utf8 "sha256:" := by decide

/-- Components are what stands between the slashes of a name. -/
theorem joins_components {components : List Text} {name : Text} :
    Joins (asciiByte '/') ImageComponent components name ↔
      name.splitOn (asciiByte '/') = components ∧
        ∀ component ∈ components, ImageComponent component :=
  Joins.iff_splitOn fun _ h => h.not_mem (by decide) (by decide)

namespace ImmutableImage

variable {components : List Text} {digest value : Text}

theorem joins (h : ImmutableImage components digest value) :
    Joins (asciiByte '/') ImageComponent components
      ([asciiByte '/'].intercalate components) :=
  ⟨h.nonempty, h.each, rfl⟩

/-- The name of an image holds only bytes of its components and slashes. -/
theorem not_mem_name {b : UInt8} (h : ImmutableImage components digest value)
    (hslash : b ≠ asciiByte '/') (hbyte : isAsciiLowercaseOrDigit b = false)
    (hmark : b ∉ [asciiByte '.', asciiByte '_', asciiByte '-']) :
    b ∉ [asciiByte '/'].intercalate components :=
  not_mem_intercalate hslash fun component hc => (h.each component hc).not_mem hbyte hmark

/-- The first `@sha256:` of an image is the one before its digest. -/
theorem splitOnce_eq (h : ImmutableImage components digest value) :
    splitOnce (utf8 "@sha256:") value =
      some ([asciiByte '/'].intercalate components, digest) := by
  have hname := h.not_mem_name (b := asciiByte '@') (by decide) (by decide) (by decide)
  rw [h.written, utf8_digestSeparator]
  exact splitOnce_of_not_mem hname

/-- **An image has one reading.** -/
theorem unique {components' : List Text} {digest' : Text}
    (h : ImmutableImage components digest value)
    (h' : ImmutableImage components' digest' value) :
    components = components' ∧ digest = digest' := by
  have hsplit := h.splitOnce_eq.symm.trans h'.splitOnce_eq
  obtain ⟨hname, hdigest⟩ := Prod.mk.inj (Option.some.inj hsplit)
  have hcut := (joins_components.mp h.joins).1
  have hcut' := (joins_components.mp h'.joins).1
  rw [hname, hcut'] at hcut
  exact ⟨hcut.symm, hdigest⟩

/-- A byte of the separator that no part holds stands in an image as often as there. -/
theorem count_eq {b : UInt8} (h : ImmutableImage components digest value)
    (hslash : b ≠ asciiByte '/') (hbyte : isAsciiLowercaseOrDigit b = false)
    (hmark : b ∉ [asciiByte '.', asciiByte '_', asciiByte '-'])
    (hhex : isLowercaseHex b = false) : value.count b = (utf8 "@sha256:").count b := by
  have hname := List.count_eq_zero_of_not_mem (h.not_mem_name hslash hbyte hmark)
  have hdigest := List.count_eq_zero_of_not_mem (h.digest_ok.not_mem hhex)
  rw [h.written, List.count_append, List.count_append, hname, hdigest, Nat.zero_add,
    Nat.add_zero]

end ImmutableImage

/-! ## The checks decide the grammars -/

/-- What `immutable_image_is_valid` checks is a reading as an image. -/
theorem immutableImageIsValid_iff {value : Text} :
    immutableImageIsValid value = true ↔
      isAscii value = true ∧ value.length ≤ 512 ∧
        ∃ components digest, ImmutableImage components digest value := by
  constructor
  · intro h
    have hfits := fits_of_immutableImageIsValid h
    refine ⟨hfits.ascii, hfits.length_le, ?_⟩
    unfold immutableImageIsValid at h
    split at h
    · cases h
    · cases hsplit : splitOnce (utf8 "@sha256:") value with
      | none =>
        rw [hsplit] at h
        cases h
      | some parts =>
        obtain ⟨name, digest⟩ := parts
        simp only [hsplit, Bool.if_false_left, Bool.and_eq_true, List.all_eq_true,
          imageNameComponentIsValid_iff, isLowercaseSha256_iff] at h
        obtain ⟨-, hdigest, heach⟩ := h
        have hjoins := joins_components.mpr ⟨rfl, heach⟩
        refine ⟨name.splitOn (asciiByte '/'), digest, hjoins.nonempty, heach, hdigest, ?_⟩
        rw [← hjoins.joined]
        exact eq_of_splitOnce hsplit
  · rintro ⟨hascii, hlength, components, digest, himage⟩
    have hat := himage.not_mem_name (b := asciiByte '@') (by decide) (by decide) (by decide)
    have hne : value ≠ [] := by
      rw [himage.written, utf8_digestSeparator]
      simp
    obtain ⟨hcut, heach⟩ := joins_components.mp himage.joins
    unfold immutableImageIsValid
    rw [if_neg (by simp [hne, hascii, hlength]), himage.splitOnce_eq]
    simp only [List.contains_eq_mem, hat, decide_false, Bool.false_eq_true, if_false,
      Bool.and_eq_true, List.all_eq_true, isLowercaseSha256_iff, imageNameComponentIsValid_iff]
    rw [hcut]
    exact ⟨himage.digest_ok, heach⟩

theorem dnsSubdomainIsValid_iff {value : Text} :
    dnsSubdomainIsValid value = true ↔
      value.length ≤ 253 ∧ ∃ labels, DnsSubdomain labels value := by
  have hcut : (∃ labels, DnsSubdomain labels value) ↔
      ∀ label ∈ value.splitOn (asciiByte '.'), DnsLabel label :=
    exists_joins fun _ h => h.word.not_mem (by decide) (by decide)
  rw [hcut]
  simp only [dnsSubdomainIsValid, Bool.and_eq_true, Bool.not_eq_true',
    List.isEmpty_eq_false_iff, decide_eq_true_eq, List.all_eq_true, dnsLabelIsValid_iff]
  constructor
  · rintro ⟨⟨-, hlength⟩, heach⟩
    exact ⟨hlength, heach⟩
  · rintro ⟨hlength, heach⟩
    refine ⟨⟨?_, hlength⟩, heach⟩
    -- the empty text is cut into one empty part, which is no label
    rintro rfl
    exact (heach [] (by rw [List.splitOn_nil]; exact List.mem_singleton_self _)).word.nonempty rfl

/-- **The grammars of images and names are exact.**  An accepted image has one reading as
components and digest, and holds one `@` and one colon: no tag, no second `@`, no second
digest. -/
theorem grammars_exact (value : Text) :
    (immutableImageIsValid value = true ↔
        isAscii value = true ∧ value.length ≤ 512 ∧
          ∃! parts : List Text × Text, ImmutableImage parts.1 parts.2 value) ∧
      (dnsSubdomainIsValid value = true ↔
        value.length ≤ 253 ∧ ∃ labels, DnsSubdomain labels value) ∧
      (immutableImageIsValid value = true →
        value.count (asciiByte '@') = 1 ∧ value.count (asciiByte ':') = 1) := by
  refine ⟨?_, dnsSubdomainIsValid_iff, ?_⟩
  · rw [immutableImageIsValid_iff]
    constructor
    · rintro ⟨hascii, hlength, components, digest, himage⟩
      refine ⟨hascii, hlength, (components, digest), himage, ?_⟩
      rintro ⟨components', digest'⟩ himage'
      obtain ⟨hcomponents, hdigest⟩ := himage.unique himage'
      rw [hcomponents, hdigest]
    · rintro ⟨hascii, hlength, ⟨components, digest⟩, himage, -⟩
      exact ⟨hascii, hlength, components, digest, himage⟩
  · intro h
    obtain ⟨-, -, components, digest, himage⟩ := immutableImageIsValid_iff.mp h
    have hat := himage.count_eq (b := asciiByte '@') (by decide) (by decide) (by decide)
      (by decide)
    have hcolon := himage.count_eq (b := asciiByte ':') (by decide) (by decide) (by decide)
      (by decide)
    exact ⟨hat.trans (by decide), hcolon.trans (by decide)⟩

end Grammar
end Kapsel
