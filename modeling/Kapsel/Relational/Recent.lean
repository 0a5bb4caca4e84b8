import Mathlib.Data.List.Basic

/-!
# The most recent entries

A bounded list of entries with one entry for each key, the newest last.  A new entry takes the place
of an older one with its key; else the oldest entry goes when the list is full.

* `length_record_le`, `nodup_record`: the bound, and that no key is twice.
* `Behind.record`: an entry moves up by at most one place when another key is recorded, so it stays
  until the list has been filled behind it.
-/

namespace Kapsel
namespace Relational

variable {K V : Type} {k : ℕ} {entries : List (K × V)} {entry : K × V}

/-- At most `k` entries are newer. -/
def Behind (entry : K × V) (k : ℕ) (entries : List (K × V)) : Prop :=
  ∃ front back, entries = front ++ entry :: back ∧ back.length ≤ k

theorem Behind.mem (h : Behind entry k entries) : entry ∈ entries := by
  obtain ⟨front, back, rfl, -⟩ := h
  simp

theorem Behind.mono {k' : ℕ} (h : Behind entry k entries) (hk : k ≤ k') :
    Behind entry k' entries := by
  obtain ⟨front, back, hentries, hback⟩ := h
  exact ⟨front, back, hentries, Nat.le_trans hback hk⟩

variable [DecidableEq K] {capacity : ℕ} {key : K} {value : V}

/-- The entries without those of a key. -/
def forget (entries : List (K × V)) (key : K) : List (K × V) := entries.filter (·.1 ≠ key)

/-- The entries after a new one. -/
def record (capacity : ℕ) (entries : List (K × V)) (key : K) (value : V) : List (K × V) :=
  let others := forget entries key
  (if others.length = capacity then others.tail else others) ++ [(key, value)]

theorem mem_forget : entry ∈ forget entries key ↔ entry ∈ entries ∧ entry.1 ≠ key := by
  simp [forget]

theorem nodup_forget (h : (entries.map Prod.fst).Nodup) :
    ((forget entries key).map Prod.fst).Nodup :=
  h.sublist (List.filter_sublist.map Prod.fst)

/-- What is kept when there may be no room. -/
theorem keep_sublist : (if (forget entries key).length = capacity then (forget entries key).tail
    else forget entries key).Sublist (forget entries key) := by
  split
  · exact List.tail_sublist _
  · exact List.Sublist.refl _

theorem mem_record (h : entry ∈ record capacity entries key value) :
    entry = (key, value) ∨ entry ∈ entries ∧ entry.1 ≠ key := by
  rcases List.mem_append.mp h with h | h
  · exact .inr (mem_forget.mp (keep_sublist.subset h))
  · exact .inl (List.mem_singleton.mp h)

/-- **There are never more entries than the capacity.** -/
theorem length_record_le (hc : 0 < capacity) (h : entries.length ≤ capacity) :
    (record capacity entries key value).length ≤ capacity := by
  have others : (forget entries key).length ≤ entries.length := List.length_filter_le _ _
  rw [record, List.length_append]
  split
  · next full =>
    rw [List.length_tail, full, List.length_singleton]
    omega
  · next room =>
    rw [List.length_singleton]
    omega

/-- **There is never more than one entry for a key.** -/
theorem nodup_record (h : (entries.map Prod.fst).Nodup) :
    ((record capacity entries key value).map Prod.fst).Nodup := by
  rw [record, List.map_append, List.nodup_append]
  refine ⟨(nodup_forget h).sublist (keep_sublist.map Prod.fst), by simp, ?_⟩
  intro a ha b hb hab
  obtain ⟨entry, hentry, rfl⟩ := List.mem_map.mp ha
  have ne : entry.1 ≠ key := (mem_forget.mp (keep_sublist.subset hentry)).2
  rw [List.map_singleton, List.mem_singleton] at hb
  exact ne (hab.trans hb)

theorem behind_record_self : Behind (key, value) 0 (record capacity entries key value) :=
  ⟨_, [], rfl, Nat.le_refl 0⟩

/-- What goes behind an entry does not move it back. -/
theorem Behind.forget (h : Behind entry k entries) (hkey : entry.1 ≠ key) :
    Behind entry k (forget entries key) := by
  obtain ⟨front, back, rfl, hk⟩ := h
  refine ⟨Relational.forget front key, Relational.forget back key, ?_, ?_⟩
  · simp [Relational.forget, hkey]
  · exact Nat.le_trans (List.length_filter_le _ _) hk

/-- **Another key moves an entry by at most one place**, and it stays while there is room behind
it. -/
theorem Behind.record (h : Behind entry k entries) (hkey : entry.1 ≠ key) (hk : k + 1 < capacity) :
    Behind entry (k + 1) (record capacity entries key value) := by
  obtain ⟨front, back, hf, hb⟩ := h.forget hkey
  rw [Relational.record, hf]
  split
  · next full =>
    cases front with
    | nil =>
      simp only [List.nil_append, List.length_cons] at full
      omega
    | cons first front =>
      refine ⟨front, back ++ [(key, value)], by simp, ?_⟩
      simpa using hb
  · refine ⟨front, back ++ [(key, value)], by simp, ?_⟩
    simpa using hb

end Relational
end Kapsel
