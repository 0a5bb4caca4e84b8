import Kapsel.Authority.Record
import Kapsel.Receipt.Format

/-!
# The record framing of receipts

`push` and `Records` of `src/gateway/receipt/mod.rs`, statement by statement: a second copy of
the framing of grants and trust, with its own errors and with the text bound that `text` checks.

* `push_eq`, `take_call`: the copy pushes and takes as the general writer and cursor do.
* `record_framing`: **the two copies frame alike**, and framing is injective.
* `last_record_refused`: 255 records are written, and no reader takes the last of them.
-/

namespace Kapsel
namespace Receipt
namespace Record

open Framing Method BigEndian
open Gateway (ReceiptError)

/-- `push`. -/
def push (tag : UInt8) (value : Bytes) (maximumBytes : ℕ) : Method Bytes ReceiptError Unit := do
  let length ← okOr .limitExceeded (tryFrom 32 value.length)
  let output ← get
  let encodedEnd := (checkedAdd output.length 5).bind fun headerEnd =>
    checkedAdd headerEnd value.length
  failIf (encodedEnd.all fun last => maximumBytes < last) .limitExceeded
  set (output ++ [tag] ++ beBytes 4 length ++ value)

/-- `Records`. -/
structure Records where
  input : Bytes
  offset : ℕ
  nextTag : UInt8
  maximumTextBytes : ℕ

namespace Records

/-- `Records::new`. -/
def new (input magic : Bytes) (maximumTextBytes : ℕ) : Except ReceiptError Records :=
  if !magic.isPrefixOf input then .error .invalidRecord
  else .ok ⟨input, magic.length, 1, maximumTextBytes⟩

/-- `Records::take`. -/
def take (expectedTag : UInt8) : Method Records ReceiptError Bytes := do
  let self ← get
  failIf (expectedTag ≠ self.nextTag) .invalidRecord
  let headerEnd ← okOr .limitExceeded (checkedAdd self.offset 5)
  failIf (self.input.length < headerEnd) .invalidRecord
  let actualTag ← orPanic self.input[self.offset]?
  failIf (actualTag ≠ expectedTag) .invalidRecord
  let lengthStart ← orPanic (checkedAdd self.offset 1)
  let header ← orPanic (slice self.input lengthStart headerEnd)
  let header ← okOr .invalidValue (octets 4 header)
  let length ← okOr .limitExceeded (tryFrom 64 (ofBeBytes header.val))
  let valueEnd ← okOr .limitExceeded (checkedAdd headerEnd length)
  failIf (self.input.length < valueEnd) .invalidRecord
  set { self with offset := valueEnd }
  let next ← okOr .invalidRecord (Framing.nextTag self.nextTag)
  set { self with offset := valueEnd, nextTag := next }
  orPanic (slice self.input headerEnd valueEnd)

/-- `Records::finish`. -/
def finish (self : Records) : Except ReceiptError Unit :=
  if self.offset = self.input.length then .ok () else .error .invalidRecord

/-- The position of the reader. -/
def cursor (self : Records) : Cursor := ⟨self.input, self.offset, self.nextTag⟩

/-- The reader at another position of its input. -/
def moved (self : Records) (c : Cursor) : Records :=
  { self with offset := c.offset, nextTag := c.nextTag }

end Records

/-- **A push is the general push**: it appends a frame, or fails and leaves the output. -/
theorem push_eq (tag : UInt8) (value : Bytes) (maximumBytes : ℕ) :
    push tag value maximumBytes = appending .limitExceeded maximumBytes (tag, value) := by
  funext output
  show (push tag value maximumBytes).call output = _
  unfold push appending Framing.push
  rw [call_okOr_bind, elim_tryFrom]
  dsimp only
  by_cases h32 : 2 ^ 32 ≤ value.length
  · rw [if_pos h32, if_pos h32]
  rw [if_neg h32, if_neg h32, call_get_bind, call_failIf_bind, all_encodedEnd]
  by_cases h64 : 2 ^ 64 ≤ output.length + 5 + value.length
  · rw [decide_eq_true (Or.inl h64), if_pos rfl, if_pos h64]
  rw [if_neg h64]
  by_cases hmax : maximumBytes < output.length + 5 + value.length
  · rw [decide_eq_true (Or.inr hmax), if_pos rfl, if_pos hmax]
  rw [decide_eq_false (not_or.mpr ⟨h64, hmax⟩), if_neg Bool.false_ne_true, if_neg hmax,
    call_set, frame, List.append_assoc, List.append_assoc]
  rfl

namespace Records

variable {records : Records} {tag : UInt8}

theorem cursor_moved {c : Cursor} (h : c.input = records.input) :
    (records.moved c).cursor = c := by
  show (⟨records.input, c.offset, c.nextTag⟩ : Cursor) = c
  rw [← h]

/-- **A take never panics, and moves as the general cursor does.** -/
theorem take_call :
    (take tag).call records =
      some ((records.cursor.step receiptErrors tag).1,
        records.moved (records.cursor.step receiptErrors tag).2) := by
  unfold take
  rw [call_get_bind, call_failIf_bind]
  by_cases htag : tag ≠ records.nextTag
  · rw [decide_eq_true htag, if_pos rfl, Cursor.step_of_ne (c := records.cursor) htag]
    rfl
  have htag' : tag = records.nextTag := not_not.mp htag
  rw [decide_eq_false htag, if_neg Bool.false_ne_true, call_okOr_bind, elim_checkedAdd]
  by_cases h5 : 2 ^ 64 ≤ records.offset + 5
  · rw [if_pos h5, Cursor.step_of_header_overflow (c := records.cursor) htag' h5]
    rfl
  rw [if_neg h5, call_failIf_bind]
  by_cases hheader : records.input.length < records.offset + 5
  · rw [decide_eq_true hheader, if_pos rfl,
      Cursor.step_of_header_short (c := records.cursor) htag' h5 hheader]
    rfl
  -- the header is inside the input, so neither the index nor the slice is out of range
  obtain ⟨actualTag, hactual⟩ := getElem?_of_header hheader
  obtain ⟨header, hoctets, hval⟩ := octets_header hheader
  rw [decide_eq_false hheader, if_neg Bool.false_ne_true, call_orPanic_bind, hactual,
    Option.elim_some, call_failIf_bind]
  by_cases hfirst : actualTag ≠ tag
  · have hother : records.input[records.offset]? ≠ some tag := by
      rw [hactual]
      exact fun h => hfirst (Option.some.inj h)
    rw [decide_eq_true hfirst, if_pos rfl,
      Cursor.step_of_tag (c := records.cursor) htag' h5 hheader hother]
    rfl
  have hlength := ofBeBytes_header_lt header
  have hfirst' : records.input[records.offset]? = some tag := by
    rw [hactual, not_not.mp hfirst]
  rw [decide_eq_false hfirst, if_neg Bool.false_ne_true, call_orPanic_bind, elim_checkedAdd,
    if_neg (by omega), call_orPanic_bind, slice_header hheader, Option.elim_some,
    call_okOr_bind, hoctets, Option.elim_some, call_okOr_bind, elim_tryFrom, if_neg (by omega),
    call_okOr_bind, elim_checkedAdd]
  have hat : records.cursor.HeaderAt tag (ofBeBytes header.val) :=
    ⟨htag', h5, hheader, hfirst', congrArg ofBeBytes hval.symm⟩
  by_cases h64 : 2 ^ 64 ≤ records.offset + 5 + ofBeBytes header.val
  · rw [if_pos h64, Cursor.step_of_value_overflow hat h64]
    rfl
  rw [if_neg h64, call_failIf_bind]
  by_cases hvalue : records.input.length < records.offset + 5 + ofBeBytes header.val
  · rw [decide_eq_true hvalue, if_pos rfl, Cursor.step_of_value_short hat h64 hvalue]
    rfl
  rw [decide_eq_false hvalue, if_neg Bool.false_ne_true, call_set_bind, call_okOr_bind,
    elim_nextTag]
  by_cases hlast : records.nextTag = 255
  · rw [if_pos hlast, Cursor.step_of_last hat h64 hvalue hlast]
    rfl
  rw [if_neg hlast, call_set_bind, call_orPanic, slice_value hvalue,
    Cursor.step_of_value hat h64 hvalue hlast]
  rfl

end Records

/-- `push` as a writer of records. -/
def writer : RecordWriter ReceiptError := ⟨push, .limitExceeded, push_eq⟩

/-- `Records` as a reader of records, with a text bound. -/
def reader (maximumTextBytes : ℕ) : RecordReader Records ReceiptError where
  new input magic := Records.new input magic maximumTextBytes
  take := Records.take
  finish := Records.finish
  cursor := Records.cursor
  errors := receiptErrors
  new_eq input magic := by
    unfold Records.new Cursor.start
    cases magic.isPrefixOf input <;> rfl
  take_step records tag := by
    refine ⟨_, Records.take_call, ?_⟩
    exact Records.cursor_moved (Cursor.step_input receiptErrors records.cursor tag)
  finish_eq _ := rfl

end Record

/-! ## The two copies -/

open Framing

/-- The bytes are pushed by one of the two copies. -/
def Pushed (magic : Bytes) (values : List Bytes) (maximumBytes : ℕ) (bytes : Bytes) : Prop :=
  Authority.Record.writer.Writes magic values maximumBytes bytes ∨
    Record.writer.Writes magic values maximumBytes bytes

theorem eq_of_pushed {magic bytes : Bytes} {values : List Bytes} {maximumBytes : ℕ}
    (h : Pushed magic values maximumBytes bytes) :
    bytes = magic ++ framesOf 1 values ∧ (∀ value ∈ values, value.length < 2 ^ 32) ∧
      (values = [] ∨ bytes.length < 2 ^ 64) := by
  rcases h with h | h
  · exact calls_appending (RecordWriter.writes_iff.mp h)
  · exact calls_appending (RecordWriter.writes_iff.mp h)

/-- **Framing is injective and the two readers agree.**  What either copy has pushed with at most
254 values, both read back; equal bytes are equal values; and over every input both readers begin
or refuse it, and then accept or refuse every take alike, return the same bytes, finish alike,
and never panic. -/
theorem record_framing :
    (∀ magic values maximumBytes bytes maximumTextBytes, values.length ≤ 254 →
        Pushed magic values maximumBytes bytes →
        Authority.Record.reader.ReadsBack bytes magic values ∧
          (Record.reader maximumTextBytes).ReadsBack bytes magic values) ∧
      (∀ magic values values' maximumBytes maximumBytes' bytes,
        Pushed magic values maximumBytes bytes → Pushed magic values' maximumBytes' bytes →
        values = values') ∧
      ∀ input magic maximumTextBytes,
        (∃ e e', Authority.Record.Records.new input magic = .error e ∧
          Record.Records.new input magic maximumTextBytes = .error e') ∨
        ∃ records records', Authority.Record.Records.new input magic = .ok records ∧
          Record.Records.new input magic maximumTextBytes = .ok records' ∧
          ∀ tags, ∃ results results' last last',
            Method.calls Authority.Record.Records.take tags records = some (results, last) ∧
            Method.calls Record.Records.take tags records' = some (results', last') ∧
            results.map Except.toOption = results'.map Except.toOption ∧
            last.finish.toOption = last'.finish.toOption := by
  refine ⟨?_, ?_, ?_⟩
  · intro magic values maximumBytes bytes maximumTextBytes hcount hpushed
    obtain ⟨rfl, hvalues, hlength⟩ := eq_of_pushed hpushed
    exact ⟨RecordReader.readsBack_of_written _ hcount hvalues hlength,
      RecordReader.readsBack_of_written _ hcount hvalues hlength⟩
  · intro magic values values' maximumBytes maximumBytes' bytes hpushed hpushed'
    obtain ⟨hbytes, hvalues, -⟩ := eq_of_pushed hpushed
    obtain ⟨hbytes', hvalues', -⟩ := eq_of_pushed hpushed'
    exact framesOf_injective hvalues hvalues'
      (List.append_cancel_left (hbytes.symm.trans hbytes'))
  · intro input magic maximumTextBytes
    rcases Authority.Record.reader.new_agree (Record.reader maximumTextBytes) input magic with
      hrefused | ⟨records, records', hnew, hnew', hcursor⟩
    · exact Or.inl hrefused
    · exact Or.inr ⟨records, records', hnew, hnew', fun tags =>
        Authority.Record.reader.calls_agree (Record.reader maximumTextBytes) hcursor tags⟩

/-- 255 empty records behind a magic of one byte. -/
def fullRecords : Bytes := utf8 "M" ++ framesOf 1 (List.replicate 255 [])

/-- **255 values are pushed and not read back.** -/
theorem last_record_refused :
    Authority.Record.writer.Writes (utf8 "M") (List.replicate 255 []) 1276 fullRecords ∧
      Record.writer.Writes (utf8 "M") (List.replicate 255 []) 1276 fullRecords ∧
      ¬ Authority.Record.reader.ReadsBack fullRecords (utf8 "M") (List.replicate 255 []) ∧
      ¬ (Record.reader 512).ReadsBack fullRecords (utf8 "M") (List.replicate 255 []) := by
  have hlength : fullRecords.length ≤ 1276 := by
    have hmagic : (utf8 "M").length = 1 := by decide
    rw [fullRecords, List.length_append, length_framesOf, framesLength, List.map_replicate,
      List.sum_replicate_nat, hmagic]
    decide
  have hcount : 255 ≤ (List.replicate 255 ([] : Bytes)).length := by
    rw [List.length_replicate]
  refine ⟨?_, ?_, RecordReader.not_readsBack hcount, RecordReader.not_readsBack hcount⟩
  · exact RecordWriter.writes_iff.mpr (calls_appending_of_length_le (by decide) hlength)
  · exact RecordWriter.writes_iff.mpr (calls_appending_of_length_le (by decide) hlength)

end Receipt
end Kapsel
