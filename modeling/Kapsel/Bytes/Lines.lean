import Mathlib.Data.List.Basic

/-!
# Lines of bounded length

`upTo` is what is read of an input up to a byte that ends a line, if no more than so many bytes are
read.

* `upTo_line` and `exists_line`: a line is read with its end, and nothing else ends that way.
* `exists_lines`: every input is lines, and what is behind them is not one.
-/

namespace Kapsel
namespace Lines

/-- The bytes up to the first end of a line, and with it, among at most so many. -/
def upTo (stop : UInt8) : ℕ → List UInt8 → List UInt8
  | 0, _ => []
  | _, [] => []
  | n + 1, b :: rest => if b = stop then [b] else b :: upTo stop n rest

/-- The lines, each with its end. -/
def joined (stop : UInt8) (lines : List (List UInt8)) : List UInt8 :=
  lines.flatMap (· ++ [stop])

/-- The input does not begin with a line of fewer than so many bytes. -/
def Stuck (stop : UInt8) (n : ℕ) (input : List UInt8) : Prop :=
  ∀ line rest, input = line ++ stop :: rest → stop ∉ line → n ≤ line.length

section
variable {stop : UInt8} {n : ℕ} {line rest input : List UInt8}

theorem joined_cons (lines : List (List UInt8)) :
    joined stop (line :: lines) = line ++ stop :: joined stop lines := by
  rw [joined, List.flatMap_cons, List.append_assoc]
  rfl

theorem drop_line : (line ++ stop :: rest).drop (line ++ [stop]).length = rest := by
  rw [List.length_append, List.length_singleton, List.drop_length_add_append, List.drop_one]
  rfl

/-- A line is read with its end. -/
theorem upTo_line (hstop : stop ∉ line) (hlength : line.length < n) :
    upTo stop n (line ++ stop :: rest) = line ++ [stop] := by
  induction line generalizing n with
  | nil =>
    cases n with
    | zero => exact absurd hlength (Nat.not_lt_zero _)
    | succ n => exact if_pos rfl
  | cons b line ih =>
    cases n with
    | zero => exact absurd hlength (Nat.not_lt_zero _)
    | succ n =>
      have hne : b ≠ stop := by
        rintro rfl
        exact hstop List.mem_cons_self
      have hline := ih (fun hmem => hstop (List.mem_cons_of_mem _ hmem))
        (Nat.lt_of_succ_lt_succ hlength)
      rw [List.cons_append, upTo, if_neg hne, hline]
      rfl

/-- **What is read ends with the end of a line exactly if a line is read.** -/
theorem exists_line (h : (upTo stop n input).getLast? = some stop) :
    ∃ line rest, input = line ++ stop :: rest ∧ stop ∉ line ∧ line.length < n ∧
      upTo stop n input = line ++ [stop] := by
  induction n generalizing input with
  | zero => cases input <;> cases h
  | succ n ih =>
    cases input with
    | nil => cases h
    | cons b rest =>
      by_cases hb : b = stop
      · subst hb
        exact ⟨[], rest, rfl, List.not_mem_nil, Nat.succ_pos n, if_pos rfl⟩
      · rw [upTo, if_neg hb] at h
        cases hmore : upTo stop n rest with
        | nil =>
          rw [hmore] at h
          exact absurd (Option.some.inj h) hb
        | cons c more =>
          rw [hmore, List.getLast?_cons_cons, ← hmore] at h
          obtain ⟨line, rest', rfl, hstop, hlength, hread⟩ := ih h
          refine ⟨b :: line, rest', rfl, ?_, Nat.succ_lt_succ hlength, ?_⟩
          · intro hmem
            rcases List.mem_cons.mp hmem with rfl | hmem
            · exact hb rfl
            · exact hstop hmem
          · rw [upTo, if_neg hb, hread]
            rfl

theorem Stuck.tail {b : UInt8} (h : Stuck stop (n + 1) (b :: rest)) :
    b ≠ stop ∧ Stuck stop n rest := by
  constructor
  · rintro rfl
    exact absurd (h [] rest rfl List.not_mem_nil) (Nat.not_succ_le_zero n)
  · rintro line rest' rfl hline
    by_cases hb : b = stop
    · subst hb
      exact absurd (h [] (line ++ b :: rest') rfl List.not_mem_nil) (Nat.not_succ_le_zero n)
    · refine Nat.le_of_succ_le_succ (h (b :: line) rest' rfl ?_)
      intro hmem
      rcases List.mem_cons.mp hmem with rfl | hmem
      · exact hb rfl
      · exact hline hmem

/-- What is short and no line is read to its end. -/
theorem upTo_of_stuck (h : Stuck stop n input) (hlength : input.length ≤ n) :
    upTo stop (n + 1) input = input := by
  induction n generalizing input with
  | zero =>
    obtain rfl := List.length_eq_zero_iff.mp (Nat.le_zero.mp hlength)
    rfl
  | succ n ih =>
    cases input with
    | nil => rfl
    | cons b rest =>
      obtain ⟨hb, hrest⟩ := h.tail
      rw [upTo, if_neg hb, ih hrest (Nat.le_of_succ_le_succ hlength)]

/-- What is long and does not begin with a line is read to the bound. -/
theorem length_upTo_of_stuck (h : Stuck stop n input) (hlength : n < input.length) :
    (upTo stop (n + 1) input).length = n + 1 := by
  induction n generalizing input with
  | zero =>
    cases input with
    | nil => cases hlength
    | cons b rest =>
      rw [upTo]
      split
      · rfl
      · cases rest <;> rfl
  | succ n ih =>
    cases input with
    | nil => cases hlength
    | cons b rest =>
      obtain ⟨hb, hrest⟩ := h.tail
      rw [upTo, if_neg hb, List.length_cons, ih hrest (Nat.lt_of_succ_lt_succ hlength)]

/-- **Every input is lines, and what is behind them is not one.** -/
theorem exists_lines (stop : UInt8) (n : ℕ) (input : List UInt8) : ∃ lines tail,
    input = joined stop lines ++ tail ∧ (∀ line ∈ lines, stop ∉ line ∧ line.length < n) ∧
      Stuck stop n tail := by
  induction hlength : input.length using Nat.strongRecOn generalizing input with
  | ind m ih =>
    by_cases hstuck : Stuck stop n input
    · exact ⟨[], input, rfl, fun _ hmem => absurd hmem List.not_mem_nil, hstuck⟩
    · simp only [Stuck, not_forall] at hstuck
      obtain ⟨line, rest, rfl, hstop, hshort⟩ := hstuck
      have hlt : rest.length < m := by
        rw [← hlength, List.length_append, List.length_cons]
        omega
      obtain ⟨lines, tail, rfl, hlines, htail⟩ := ih rest.length hlt rest rfl
      refine ⟨line :: lines, tail, ?_, ?_, htail⟩
      · rw [joined_cons, List.append_assoc, List.cons_append]
      · intro other hother
        rcases List.mem_cons.mp hother with rfl | hother
        · exact ⟨hstop, Nat.not_le.mp hshort⟩
        · exact hlines other hother

end

end Lines
end Kapsel
