import Kapsel.Bytes.Stepping
import Kapsel.Authority.Grammar

/-!
# The record framing of grants and trust

`crates/kapsel-authority/src/record.rs`, statement by statement: `push` appends one record to an
output, and `Records` walks over an input.  Both are methods that may fail; an index out of range
and an unchecked sum that overflows are panics.

* `push_eq`: a push is the general one, and never panics.
* `take_call`: **a take never panics**, and it moves as the general cursor does.
-/

namespace Kapsel
namespace Authority
namespace Record

open Framing Method BigEndian

/-- `FrameError`. -/
inductive FrameError where
  | length
  | lengthConversion
  | header
  | headerConversion
  | order
  deriving DecidableEq, Repr

/-- `push`. -/
def push (tag : UInt8) (value : Bytes) (maximumBytes : ℕ) : Method Bytes FrameError Unit := do
  let length ← okOr .length (tryFrom 32 value.length)
  let output ← get
  let encodedEnd := (checkedAdd output.length 5).bind fun headerEnd =>
    checkedAdd headerEnd value.length
  failIf (encodedEnd.all fun last => maximumBytes < last) .length
  set (output ++ [tag] ++ beBytes 4 length ++ value)

/-- `Records`. -/
structure Records where
  bytes : Bytes
  offset : ℕ
  nextTag : UInt8

namespace Records

/-- `Records::new`. -/
def new (bytes magic : Bytes) : Except FrameError Records :=
  if !magic.isPrefixOf bytes then .error .header
  else .ok ⟨bytes, magic.length, 1⟩

/-- `Records::take`. -/
def take (expectedTag : UInt8) : Method Records FrameError Bytes := do
  let self ← get
  failIf (expectedTag ≠ self.nextTag) .order
  let headerEnd ← okOr .length (checkedAdd self.offset 5)
  failIf (self.bytes.length < headerEnd) .header
  let actualTag ← orPanic self.bytes[self.offset]?
  failIf (actualTag ≠ expectedTag) .header
  let lengthStart ← orPanic (checkedAdd self.offset 1)
  let header ← orPanic (slice self.bytes lengthStart headerEnd)
  let header ← okOr .headerConversion (octets 4 header)
  let length ← okOr .lengthConversion (tryFrom 64 (ofBeBytes header.val))
  let valueEnd ← okOr .length (checkedAdd headerEnd length)
  failIf (self.bytes.length < valueEnd) .header
  set { self with offset := valueEnd }
  let next ← okOr .order (Framing.nextTag self.nextTag)
  set { self with offset := valueEnd, nextTag := next }
  orPanic (slice self.bytes headerEnd valueEnd)

/-- `Records::finish`. -/
def finish (self : Records) : Except FrameError Unit :=
  if self.offset = self.bytes.length then .ok () else .error .header

/-- The position of the reader. -/
def cursor (self : Records) : Cursor := ⟨self.bytes, self.offset, self.nextTag⟩

/-- The reader at another position of its input. -/
def moved (self : Records) (c : Cursor) : Records :=
  { self with offset := c.offset, nextTag := c.nextTag }

end Records

/-- The errors of a take, by what is wrong. -/
def frameErrors : TakeErrors FrameError := ⟨.order, .length, .header⟩

/-- **A push is the general push**: it appends a frame, or fails and leaves the output. -/
theorem push_eq (tag : UInt8) (value : Bytes) (maximumBytes : ℕ) :
    push tag value maximumBytes = appending .length maximumBytes (tag, value) := by
  funext output
  show (push tag value maximumBytes).call output = _
  unfold push appending Framing.push
  rw [call_okOr_bind, elim_tryFrom]
  dsimp only
  by_cases h32 : 2 ^ 32 ≤ value.length
  · rw [if_pos h32, if_pos h32]
  rw [if_neg h32, if_neg h32, call_get_bind, call_failIf_bind, all_encodedEnd]
  by_cases h64 : 2 ^ 64 ≤ output.length + 5 + value.length
  · rw [decide_eq_true (Or.inl h64), if_pos rfl, if_pos h64]
  rw [if_neg h64]
  by_cases hmax : maximumBytes < output.length + 5 + value.length
  · rw [decide_eq_true (Or.inr hmax), if_pos rfl, if_pos hmax]
  rw [decide_eq_false (not_or.mpr ⟨h64, hmax⟩), if_neg Bool.false_ne_true, if_neg hmax,
    call_set, frame, List.append_assoc, List.append_assoc]
  rfl

namespace Records

variable {records : Records} {tag : UInt8}

theorem cursor_moved {c : Cursor} (h : c.input = records.bytes) :
    (records.moved c).cursor = c := by
  show (⟨records.bytes, c.offset, c.nextTag⟩ : Cursor) = c
  rw [← h]

/-- **A take never panics, and moves as the general cursor does.** -/
theorem take_call :
    (take tag).call records =
      some ((records.cursor.step frameErrors tag).1,
        records.moved (records.cursor.step frameErrors tag).2) := by
  unfold take
  rw [call_get_bind, call_failIf_bind]
  by_cases htag : tag ≠ records.nextTag
  · rw [decide_eq_true htag, if_pos rfl, Cursor.step_of_ne (c := records.cursor) htag]
    rfl
  have htag' : tag = records.nextTag := not_not.mp htag
  rw [decide_eq_false htag, if_neg Bool.false_ne_true, call_okOr_bind, elim_checkedAdd]
  by_cases h5 : 2 ^ 64 ≤ records.offset + 5
  · rw [if_pos h5, Cursor.step_of_header_overflow (c := records.cursor) htag' h5]
    rfl
  rw [if_neg h5, call_failIf_bind]
  by_cases hheader : records.bytes.length < records.offset + 5
  · rw [decide_eq_true hheader, if_pos rfl,
      Cursor.step_of_header_short (c := records.cursor) htag' h5 hheader]
    rfl
  -- the header is inside the input, so neither the index nor the slice is out of range
  obtain ⟨actualTag, hactual⟩ := getElem?_of_header hheader
  obtain ⟨header, hoctets, hval⟩ := octets_header hheader
  rw [decide_eq_false hheader, if_neg Bool.false_ne_true, call_orPanic_bind, hactual,
    Option.elim_some, call_failIf_bind]
  by_cases hfirst : actualTag ≠ tag
  · have hother : records.bytes[records.offset]? ≠ some tag := by
      rw [hactual]
      exact fun h => hfirst (Option.some.inj h)
    rw [decide_eq_true hfirst, if_pos rfl,
      Cursor.step_of_tag (c := records.cursor) htag' h5 hheader hother]
    rfl
  have hlength := ofBeBytes_header_lt header
  have hfirst' : records.bytes[records.offset]? = some tag := by
    rw [hactual, not_not.mp hfirst]
  rw [decide_eq_false hfirst, if_neg Bool.false_ne_true, call_orPanic_bind, elim_checkedAdd,
    if_neg (by omega), call_orPanic_bind, slice_header hheader, Option.elim_some,
    call_okOr_bind, hoctets, Option.elim_some, call_okOr_bind, elim_tryFrom, if_neg (by omega),
    call_okOr_bind, elim_checkedAdd]
  have hat : records.cursor.HeaderAt tag (ofBeBytes header.val) :=
    ⟨htag', h5, hheader, hfirst', congrArg ofBeBytes hval.symm⟩
  by_cases h64 : 2 ^ 64 ≤ records.offset + 5 + ofBeBytes header.val
  · rw [if_pos h64, Cursor.step_of_value_overflow hat h64]
    rfl
  rw [if_neg h64, call_failIf_bind]
  by_cases hvalue : records.bytes.length < records.offset + 5 + ofBeBytes header.val
  · rw [decide_eq_true hvalue, if_pos rfl, Cursor.step_of_value_short hat h64 hvalue]
    rfl
  rw [decide_eq_false hvalue, if_neg Bool.false_ne_true, call_set_bind, call_okOr_bind,
    elim_nextTag]
  by_cases hlast : records.nextTag = 255
  · rw [if_pos hlast, Cursor.step_of_last hat h64 hvalue hlast]
    rfl
  rw [if_neg hlast, call_set_bind, call_orPanic, slice_value hvalue,
    Cursor.step_of_value hat h64 hvalue hlast]
  rfl

end Records

/-- `push` as a writer of records. -/
def writer : RecordWriter FrameError := ⟨push, .length, push_eq⟩

/-- `Records` as a reader of records. -/
def reader : RecordReader Records FrameError where
  new := Records.new
  take := Records.take
  finish := Records.finish
  cursor := Records.cursor
  errors := frameErrors
  new_eq input magic := by
    unfold Records.new Cursor.start
    cases magic.isPrefixOf input <;> rfl
  take_step records tag := by
    refine ⟨_, Records.take_call, ?_⟩
    exact Records.cursor_moved (Cursor.step_input frameErrors records.cursor tag)
  finish_eq _ := rfl

end Record
end Authority
end Kapsel
