import Mathlib.Data.List.Basic

/-!
# Bytes that arrive in pieces

A `Stream` is what is still to be read from a connection: the pieces, in the order in which they
arrive, and whether the other end closes the connection behind them or the connection breaks.
`read` takes at most so many bytes of the first piece, and `readExact` reads until it has as many
as were asked for.

What `readExact` finds depends on the bytes only, and not on where the pieces end:
`readExact_of_le` and `readExact_of_lt`.
-/

namespace Kapsel
namespace Streaming

/-- How a stream ends. -/
inductive Ending where
  | closed
  | broken
  deriving DecidableEq

/-- What is still to be read.  No piece is empty. -/
structure Stream where
  pieces : List (List UInt8)
  ending : Ending
  nonempty : ∀ piece ∈ pieces, piece ≠ []

namespace Stream

/-- The bytes of a stream. -/
def bytes (s : Stream) : List UInt8 := s.pieces.flatten

/-- These bytes in one piece, and then the end. -/
def whole (found : List UInt8) : Stream :=
  ⟨[found].filter (· ≠ []), .closed, fun _ hpiece => of_decide_eq_true (List.mem_filter.mp hpiece).2⟩

@[simp] theorem bytes_whole (found : List UInt8) : (whole found).bytes = found := by
  cases found <;> simp [whole, bytes]

/-- One read of at most so many bytes.  It finds none at the end of a stream that is closed, and
fails at the end of a stream that breaks. -/
def read (s : Stream) (n : ℕ) : Option (List UInt8 × Stream) :=
  match h : s.pieces with
  | [] => if s.ending = .closed then some ([], s) else none
  | piece :: rest =>
      if hlt : n < piece.length then
        some (piece.take n, ⟨piece.drop n :: rest, s.ending, by
          intro other hother
          rcases List.mem_cons.mp hother with rfl | hother
          · exact List.ne_nil_of_length_pos (by rw [List.length_drop]; omega)
          · exact s.nonempty other (h ▸ List.mem_cons_of_mem _ hother)⟩)
      else
        some (piece, ⟨rest, s.ending, fun other hother =>
          s.nonempty other (h ▸ List.mem_cons_of_mem _ hother)⟩)

/-- Read until there are so many bytes. -/
def readExact (s : Stream) (n : ℕ) : Option (List UInt8 × Stream) :=
  if n = 0 then some ([], s)
  else
    match s.read n with
    | some (b :: found, s') =>
        (readExact s' (n - (found.length + 1))).map fun p => (b :: found ++ p.1, p.2)
    | _ => none
termination_by n

section
variable {s : Stream} {n : ℕ}

/-- A stream without bytes has no pieces. -/
theorem pieces_of_bytes_nil (h : s.bytes = []) : s.pieces = [] := by
  cases hpieces : s.pieces with
  | nil => rfl
  | cons piece rest =>
    have hpiece : piece ≠ [] := s.nonempty piece (hpieces ▸ List.mem_cons_self)
    rw [bytes, hpieces, List.flatten_cons] at h
    exact absurd (List.append_eq_nil_iff.mp h).1 hpiece

theorem read_of_nil (h : s.bytes = []) :
    s.read n = if s.ending = .closed then some ([], s) else none := by
  have hpieces := pieces_of_bytes_nil h
  unfold read
  split
  · rfl
  · rename_i hcons
    rw [hpieces] at hcons
    cases hcons

/-- **A read finds some of the next bytes**, and leaves the others. -/
theorem read_of_ne_nil (hn : 0 < n) (h : s.bytes ≠ []) : ∃ found s', s.read n = some (found, s') ∧
    found ≠ [] ∧ found.length ≤ n ∧ s.bytes = found ++ s'.bytes ∧ s'.ending = s.ending := by
  unfold read
  split
  · rename_i hnil
    rw [bytes, hnil] at h
    exact absurd rfl h
  · rename_i piece rest hcons
    have hpiece : piece ≠ [] := s.nonempty piece (hcons ▸ List.mem_cons_self)
    have hbytes : s.bytes = piece ++ rest.flatten := by rw [bytes, hcons, List.flatten_cons]
    split
    · rename_i hlt
      refine ⟨_, _, rfl, ?_, ?_, ?_, rfl⟩
      · refine List.ne_nil_of_length_pos ?_
        rw [List.length_take]
        omega
      · rw [List.length_take]
        omega
      · show s.bytes = piece.take n ++ (piece.drop n :: rest).flatten
        rw [hbytes, List.flatten_cons, ← List.append_assoc, List.take_append_drop]
    · exact ⟨_, _, rfl, hpiece, by omega, hbytes, rfl⟩

/-- **There are enough bytes**, however they arrive. -/
theorem readExact_of_le (h : n ≤ s.bytes.length) : ∃ s', s.readExact n = some (s.bytes.take n, s') ∧
    s'.bytes = s.bytes.drop n ∧ s'.ending = s.ending := by
  induction n using Nat.strongRecOn generalizing s with
  | ind n ih =>
    rw [readExact]
    by_cases hzero : n = 0
    · subst hzero
      exact ⟨s, rfl, rfl, rfl⟩
    · have hne : s.bytes ≠ [] := List.ne_nil_of_length_pos (by omega)
      obtain ⟨found, s', hread, hfound, hlength, hbytes, hending⟩ :=
        read_of_ne_nil (Nat.pos_of_ne_zero hzero) hne
      have htotal := congrArg List.length hbytes
      rw [List.length_append] at htotal
      cases found with
      | nil => exact absurd rfl hfound
      | cons b found =>
        rw [List.length_cons] at hlength htotal
        obtain ⟨s'', hrest, hdrop, hending'⟩ := ih (n - (found.length + 1)) (by omega)
          (by omega : n - (found.length + 1) ≤ s'.bytes.length)
        have htake : s.bytes.take n = b :: found ++ s'.bytes.take (n - (found.length + 1)) := by
          rw [hbytes, List.take_append, List.take_of_length_le hlength, List.length_cons]
        have hdropped : s.bytes.drop n = s'.bytes.drop (n - (found.length + 1)) := by
          rw [hbytes, List.drop_append, List.drop_eq_nil_of_le hlength, List.length_cons]
          rfl
        refine ⟨s'', ?_, hdrop.trans hdropped.symm, hending'.trans hending⟩
        rw [if_neg hzero, hread, htake]
        show (readExact s' (n - (found.length + 1))).map _ = _
        rw [hrest]
        rfl

/-- **There are too few bytes**, however they arrive. -/
theorem readExact_of_lt (h : s.bytes.length < n) : s.readExact n = none := by
  induction n using Nat.strongRecOn generalizing s with
  | ind n ih =>
    rw [readExact, if_neg (by omega)]
    by_cases hnil : s.bytes = []
    · rw [read_of_nil hnil]
      by_cases hclosed : s.ending = .closed
      · rw [if_pos hclosed]
      · rw [if_neg hclosed]
    · obtain ⟨found, s', hread, hfound, hlength, hbytes, -⟩ :=
        read_of_ne_nil (by omega : 0 < n) hnil
      rw [hread]
      cases found with
      | nil => rfl
      | cons b found =>
        have htotal := congrArg List.length hbytes
        rw [List.length_append, List.length_cons] at htotal
        rw [List.length_cons] at hlength
        show (readExact s' (n - (found.length + 1))).map _ = none
        rw [ih (n - (found.length + 1)) (by omega) (by omega)]
        rfl

/-- What was read, and what is left. -/
theorem readExact_eq_some {found : List UInt8} {s' : Stream} (h : s.readExact n = some (found, s')) :
    found.length = n ∧ s.bytes = found ++ s'.bytes ∧ s'.ending = s.ending := by
  rcases Nat.lt_or_ge s.bytes.length n with hlt | hle
  · rw [readExact_of_lt hlt] at h
    cases h
  · obtain ⟨rest, hread, hbytes, hending⟩ := readExact_of_le hle
    obtain ⟨rfl, rfl⟩ := Prod.mk.inj (Option.some.inj (hread.symm.trans h))
    refine ⟨?_, ?_, hending⟩
    · rw [List.length_take]
      omega
    · rw [hbytes, List.take_append_drop]

end

end Stream
end Streaming
end Kapsel
