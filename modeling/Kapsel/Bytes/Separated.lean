import Mathlib.Data.List.Basic

/-!
# Lists joined by a separator

A list is cut at every occurrence of a separator, and a cut is undone by joining the parts.  A
list is therefore a nonempty sequence of parts of some shape, joined, exactly when every part of
its cut has that shape, as long as no part of that shape holds the separator.

* `splitOn_eq_iff`: **the cut of a list is the only way to write it as joined parts** without the
  separator.
* `Joins.iff_splitOn`, `exists_joins`: the same for parts of a given shape.
-/

namespace Kapsel

variable {α : Type} [BEq α] [LawfulBEq α] {separator : α}

/-- No part of a cut holds the separator. -/
theorem not_mem_of_mem_splitOn {l part : List α} (h : part ∈ l.splitOn separator) :
    separator ∉ part := by
  induction l generalizing part with
  | nil =>
    rw [List.splitOn_nil, List.mem_singleton] at h
    rw [h]
    exact List.not_mem_nil
  | cons x l ih =>
    rw [List.splitOn_cons_eq_if_modifyHead] at h
    split at h
    · rcases List.mem_cons.mp h with rfl | h
      · exact List.not_mem_nil
      · exact ih h
    · rename_i hx
      cases hsplit : l.splitOn separator with
      | nil => exact absurd hsplit (List.splitOn_ne_nil separator l)
      | cons first parts =>
        rw [hsplit] at h ih
        rcases List.mem_cons.mp h with rfl | h
        · intro hmem
          rcases List.mem_cons.mp hmem with rfl | hmem
          · exact hx (beq_self_eq_true _)
          · exact ih List.mem_cons_self hmem
        · exact ih (List.mem_cons_of_mem first h)

/-- **A cut is undone by joining**, and nothing else has these parts. -/
theorem splitOn_eq_iff {l : List α} {parts : List (List α)} :
    l.splitOn separator = parts ↔
      parts ≠ [] ∧ (∀ part ∈ parts, separator ∉ part) ∧ [separator].intercalate parts = l := by
  constructor
  · rintro rfl
    exact ⟨List.splitOn_ne_nil separator l, fun part hpart => not_mem_of_mem_splitOn hpart,
      List.intercalate_splitOn separator⟩
  · rintro ⟨hne, hparts, rfl⟩
    exact List.splitOn_intercalate separator hparts hne

/-- A list is a nonempty sequence of parts of one shape with the separator between them. -/
structure Joins (separator : α) (shape : List α → Prop) (parts : List (List α)) (l : List α) :
    Prop where
  nonempty : parts ≠ []
  each : ∀ part ∈ parts, shape part
  joined : l = [separator].intercalate parts

variable {shape : List α → Prop} (hshape : ∀ part, shape part → separator ∉ part)
include hshape

/-- Joined parts are the cut at the separator. -/
theorem Joins.iff_splitOn {parts : List (List α)} {l : List α} :
    Joins separator shape parts l ↔
      l.splitOn separator = parts ∧ ∀ part ∈ parts, shape part := by
  rw [splitOn_eq_iff]
  constructor
  · intro h
    have hfree : ∀ part ∈ parts, separator ∉ part :=
      fun part hpart => hshape part (h.each part hpart)
    exact ⟨⟨h.nonempty, hfree, h.joined.symm⟩, h.each⟩
  · rintro ⟨⟨hne, -, hjoin⟩, heach⟩
    exact ⟨hne, heach, hjoin.symm⟩

/-- **A list is joined from parts of a shape** exactly when its cut has parts of that shape. -/
theorem exists_joins {l : List α} :
    (∃ parts, Joins separator shape parts l) ↔ ∀ part ∈ l.splitOn separator, shape part := by
  constructor
  · rintro ⟨parts, hparts⟩
    obtain ⟨hcut, heach⟩ := (Joins.iff_splitOn hshape).mp hparts
    rw [hcut]
    exact heach
  · intro heach
    exact ⟨l.splitOn separator, (Joins.iff_splitOn hshape).mpr ⟨rfl, heach⟩⟩

end Kapsel
