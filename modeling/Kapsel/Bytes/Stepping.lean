import Kapsel.Bytes.Framing
import Kapsel.Interaction.Fallible
import Kapsel.Interaction.Methods

/-!
# Sequences of records

A writer appends one record after another and a reader takes one after another, each as a method
that goes on after it refused.  `numbered` gives the records of a list of values their tags, one
for each value in order.

* `framesOf_injective`: **equal bytes are equal values**, as long as their lengths fit 32 bits.
* `calls_appending`: what a sequence of pushes that all succeed has written.
* `calls_taking`: what was written is taken back, for tags below the last one.  A record with the
  last tag is never taken, since no tag follows it (`not_mem_of_calls_taking`).
* `RecordWriter`, `RecordReader`: programs that do this.  **All of them agree**
  (`RecordReader.calls_agree`), and read back what any of them wrote
  (`RecordReader.readsBack_of_written`).
-/

namespace Kapsel
namespace Framing

open BigEndian Method

variable {ε ε' : Type}

/-! ## Machine sizes -/

/-- `usize::checked_add`. -/
def checkedAdd (a b : ℕ) : Option ℕ := if a + b < 2 ^ 64 then some (a + b) else none

/-- `try_from` into an unsigned integer of the given width. -/
def tryFrom (bits n : ℕ) : Option ℕ := if n < 2 ^ bits then some n else none

/-- `checked_add(1)` of a tag. -/
def nextTag (tag : UInt8) : Option UInt8 := if tag = 255 then none else some (tag + 1)

/-- The bytes of a range that lies inside the input. -/
def slice (bytes : List UInt8) (first last : ℕ) : Option (List UInt8) :=
  if first ≤ last ∧ last ≤ bytes.length then some ((bytes.drop first).take (last - first))
  else none

section
variable {α : Type} {a b bits n first last : ℕ} {bytes : List UInt8}

theorem elim_checkedAdd (y : α) (f : ℕ → α) :
    (checkedAdd a b).elim y f = if 2 ^ 64 ≤ a + b then y else f (a + b) := by
  unfold checkedAdd
  rcases Nat.lt_or_ge (a + b) (2 ^ 64) with h | h
  · rw [if_pos h, if_neg (Nat.not_le.mpr h), Option.elim_some]
  · rw [if_neg (Nat.not_lt.mpr h), if_pos h, Option.elim_none]

theorem elim_tryFrom (y : α) (f : ℕ → α) :
    (tryFrom bits n).elim y f = if 2 ^ bits ≤ n then y else f n := by
  unfold tryFrom
  rcases Nat.lt_or_ge n (2 ^ bits) with h | h
  · rw [if_pos h, if_neg (Nat.not_le.mpr h), Option.elim_some]
  · rw [if_neg (Nat.not_lt.mpr h), if_pos h, Option.elim_none]

/-- The end of a record is past 64 bits or past a bound. -/
theorem all_encodedEnd {maximumBytes : ℕ} :
    (((checkedAdd a 5).bind fun headerEnd => checkedAdd headerEnd b).all
        fun last => maximumBytes < last) =
      decide (2 ^ 64 ≤ a + 5 + b ∨ maximumBytes < a + 5 + b) := by
  unfold checkedAdd
  by_cases h : a + 5 + b < 2 ^ 64
  · have h5 : a + 5 < 2 ^ 64 := by omega
    rw [if_pos h5, Option.bind_some, if_pos h, Option.all_some, decide_eq_decide]
    exact (or_iff_right (Nat.not_le.mpr h)).symm
  · rw [decide_eq_true (Or.inl (Nat.le_of_not_lt h))]
    split
    · rw [Option.bind_some, if_neg h, Option.all_none]
    · rw [Option.bind_none, Option.all_none]

theorem elim_nextTag {tag : UInt8} (y : α) (f : UInt8 → α) :
    (nextTag tag).elim y f = if tag = 255 then y else f (tag + 1) := by
  unfold nextTag
  split <;> rfl

/-! ## The header of a record -/

/-- The first byte of a header that lies inside the input. -/
theorem getElem?_of_header (h : ¬ bytes.length < first + 5) : ∃ tag, bytes[first]? = some tag :=
  ⟨_, List.getElem?_eq_getElem (by omega)⟩

/-- The four length bytes of a header that lies inside the input. -/
theorem slice_header (h : ¬ bytes.length < first + 5) :
    slice bytes (first + 1) (first + 5) = some ((bytes.drop (first + 1)).take 4) := by
  rw [slice, if_pos ⟨by omega, by omega⟩, Nat.add_sub_add_left]

/-- They are four bytes. -/
theorem octets_header (h : ¬ bytes.length < first + 5) :
    ∃ header : Octets 4, octets 4 ((bytes.drop (first + 1)).take 4) = some header ∧
      header.val = (bytes.drop (first + 1)).take 4 := by
  have hlength : ((bytes.drop (first + 1)).take 4).length = 4 := by
    rw [List.length_take, List.length_drop]
    omega
  exact ⟨⟨_, hlength⟩, by rw [octets, dif_pos hlength], rfl⟩

/-- The length that a header gives fits 32 bits. -/
theorem ofBeBytes_header_lt (header : Octets 4) : ofBeBytes header.val < 2 ^ 32 := by
  have hlt := ofBeBytes_lt header.val
  rwa [header.property] at hlt

/-- The value of a record that lies inside the input. -/
theorem slice_value {length : ℕ} (h : ¬ bytes.length < first + 5 + length) :
    slice bytes (first + 5) (first + 5 + length) = some ((bytes.drop (first + 5)).take length) := by
  rw [slice, if_pos ⟨by omega, by omega⟩, Nat.add_sub_cancel_left]

end

/-! ## Numbered records -/

/-- The values with their tags, in order. -/
def numbered : UInt8 → List (List UInt8) → List (UInt8 × List UInt8)
  | _, [] => []
  | tag, value :: values => (tag, value) :: numbered (tag + 1) values

/-- The tags of as many records. -/
def tagsOf (tag : UInt8) (values : List (List UInt8)) : List UInt8 :=
  (numbered tag values).map Prod.fst

/-- A frame in front of other bytes tells its value. -/
theorem frame_append_inj {tag : UInt8} {value value' tail tail' : List UInt8}
    (hvalue : value.length < 2 ^ 32) (hvalue' : value'.length < 2 ^ 32)
    (h : frame tag value ++ tail = frame tag value' ++ tail') : value = value' ∧ tail = tail' := by
  simp only [frame, List.cons_append, List.append_assoc, List.cons.injEq, true_and] at h
  obtain ⟨hheader, hbody⟩ := List.append_inj h (by rw [length_beBytes, length_beBytes])
  have hlength : value.length = value'.length := by
    have hread := congrArg ofBeBytes hheader
    rwa [ofBeBytes_beBytes _ _ (by norm_num; omega),
      ofBeBytes_beBytes _ _ (by norm_num; omega)] at hread
  exact List.append_inj hbody hlength

/-- **Equal bytes are equal values.** -/
theorem framesOf_injective {tag : UInt8} {values values' : List (List UInt8)}
    (hvalues : ∀ value ∈ values, value.length < 2 ^ 32)
    (hvalues' : ∀ value ∈ values', value.length < 2 ^ 32)
    (h : framesOf tag values = framesOf tag values') : values = values' := by
  induction values generalizing tag values' with
  | nil =>
    cases values' with
    | nil => rfl
    | cons value' values' => exact absurd h.symm (by simp [framesOf, frame])
  | cons value values ih =>
    cases values' with
    | nil => exact absurd h (by simp [framesOf, frame])
    | cons value' values' =>
      obtain ⟨rfl, hrest⟩ := frame_append_inj (hvalues value List.mem_cons_self)
        (hvalues' value' List.mem_cons_self) h
      have htail := ih (fun v hv => hvalues v (List.mem_cons_of_mem value hv))
        (fun v hv => hvalues' v (List.mem_cons_of_mem value hv)) hrest
      rw [htail]

/-! ## Writing -/

/-- A push as a method on the output: it appends a frame, or leaves the output as it was. -/
def appending (error : ε) (maximumBytes : ℕ) (record : UInt8 × List UInt8) :
    Method (List UInt8) ε Unit := fun output =>
  match push error output record.1 record.2 maximumBytes with
  | .ok next => some (.ok (), next)
  | .error e => some (.error e, output)

theorem appending_eq_ok {error : ε} {maximumBytes : ℕ} {record : UInt8 × List UInt8}
    {output next : List UInt8}
    (h : (appending error maximumBytes record).call output = some (.ok (), next)) :
    push error output record.1 record.2 maximumBytes = .ok next := by
  unfold call appending at h
  split at h
  · rename_i next' hpush
    obtain ⟨-, rfl⟩ := Prod.mk.inj (Option.some.inj h)
    exact hpush
  · cases (Prod.mk.inj (Option.some.inj h)).1

/-- A push that succeeds is within 32 bits, and its output within 64. -/
theorem length_of_push {error : ε} {output next value : List UInt8} {tag : UInt8}
    {maximumBytes : ℕ} (h : push error output tag value maximumBytes = .ok next) :
    value.length < 2 ^ 32 ∧ next.length < 2 ^ 64 := by
  obtain ⟨rfl, -⟩ := eq_of_push h
  unfold push at h
  split_ifs at h with h32 h64 hmax
  rw [List.length_append, length_frame]
  omega

/-- **What a sequence of pushes has written** when all of them succeeded. -/
theorem calls_appending {error : ε} {maximumBytes : ℕ} {values : List (List UInt8)} {tag : UInt8}
    {output bytes : List UInt8}
    (h : calls (appending error maximumBytes) (numbered tag values) output =
      some (values.map fun _ => .ok (), bytes)) :
    bytes = output ++ framesOf tag values ∧ (∀ value ∈ values, value.length < 2 ^ 32) ∧
      (values = [] ∨ bytes.length < 2 ^ 64) := by
  induction values generalizing tag output with
  | nil =>
    obtain ⟨-, rfl⟩ := Prod.mk.inj (Option.some.inj h)
    refine ⟨(List.append_nil output).symm, fun value hv => ?_, Or.inl rfl⟩
    exact absurd hv List.not_mem_nil
  | cons value values ih =>
    obtain ⟨result, next, results, hcall, hcalls, hall⟩ := exists_of_calls_cons h
    obtain ⟨rfl, rfl⟩ := List.cons.inj hall
    have hpush := appending_eq_ok hcall
    obtain ⟨rfl, -⟩ := eq_of_push hpush
    obtain ⟨hvalue, hnext⟩ := length_of_push hpush
    obtain ⟨hbytes, hvalues, hlength⟩ := ih hcalls
    refine ⟨?_, ?_, Or.inr ?_⟩
    · rw [hbytes, framesOf, List.append_assoc]
    · intro v hv
      rcases List.mem_cons.mp hv with rfl | hv
      · exact hvalue
      · exact hvalues v hv
    · rcases hlength with rfl | hlength
      · rw [hbytes, framesOf, List.append_nil]
        exact hnext
      · exact hlength

/-- Pushes within the bound succeed. -/
theorem calls_appending_of_length_le {error : ε} {maximumBytes : ℕ} (hmax : maximumBytes < 2 ^ 32)
    {values : List (List UInt8)} {tag : UInt8} {output : List UInt8}
    (h : (output ++ framesOf tag values).length ≤ maximumBytes) :
    calls (appending error maximumBytes) (numbered tag values) output =
      some (values.map fun _ => .ok (), output ++ framesOf tag values) := by
  induction values generalizing tag output with
  | nil => rw [framesOf, List.append_nil]; rfl
  | cons value values ih =>
    rw [framesOf, ← List.append_assoc] at h ⊢
    have hpush : push error output tag value maximumBytes = .ok (output ++ frame tag value) := by
      refine push_eq_ok hmax ?_
      rw [List.length_append, List.length_append, length_frame] at h
      omega
    refine calls_cons ?_ (ih h)
    show appending error maximumBytes (tag, value) output = _
    rw [appending, hpush]

/-! ## Reading -/

/-- One take, with the position that it leaves.  Behind the last tag it refuses after it has
moved on. -/
def Cursor.step (errors : TakeErrors ε) (c : Cursor) (expectedTag : UInt8) :
    Except ε (List UInt8) × Cursor :=
  if expectedTag ≠ c.nextTag then (.error errors.order, c)
  else if 2 ^ 64 ≤ c.offset + 5 then (.error errors.overflow, c)
  else if c.input.length < c.offset + 5 then (.error errors.header, c)
  else if c.input[c.offset]? ≠ some expectedTag then (.error errors.header, c)
  else
    let length := ofBeBytes ((c.input.drop (c.offset + 1)).take 4)
    if 2 ^ 64 ≤ c.offset + 5 + length then (.error errors.overflow, c)
    else if c.input.length < c.offset + 5 + length then (.error errors.header, c)
    else if c.nextTag = 255 then
      (.error errors.order, { c with offset := c.offset + 5 + length })
    else (.ok ((c.input.drop (c.offset + 5)).take length),
      { c with offset := c.offset + 5 + length, nextTag := c.nextTag + 1 })

namespace Cursor

section
variable {errors : TakeErrors ε} {c : Cursor} {tag : UInt8}

theorem step_of_ne (h : tag ≠ c.nextTag) : c.step errors tag = (.error errors.order, c) := by
  rw [step, if_pos h]

theorem step_of_header_overflow (htag : tag = c.nextTag) (h : 2 ^ 64 ≤ c.offset + 5) :
    c.step errors tag = (.error errors.overflow, c) := by
  rw [step, if_neg (not_not.mpr htag), if_pos h]

theorem step_of_header_short (htag : tag = c.nextTag) (h64 : ¬ 2 ^ 64 ≤ c.offset + 5)
    (h : c.input.length < c.offset + 5) : c.step errors tag = (.error errors.header, c) := by
  rw [step, if_neg (not_not.mpr htag), if_neg h64, if_pos h]

theorem step_of_tag (htag : tag = c.nextTag) (h64 : ¬ 2 ^ 64 ≤ c.offset + 5)
    (hheader : ¬ c.input.length < c.offset + 5) (h : c.input[c.offset]? ≠ some tag) :
    c.step errors tag = (.error errors.header, c) := by
  rw [step, if_neg (not_not.mpr htag), if_neg h64, if_neg hheader, if_pos h]

/-- A header with the expected tag stands at the position, and gives this length. -/
structure HeaderAt (c : Cursor) (tag : UInt8) (length : ℕ) : Prop where
  tag_eq : tag = c.nextTag
  narrow : ¬ 2 ^ 64 ≤ c.offset + 5
  inside : ¬ c.input.length < c.offset + 5
  first : c.input[c.offset]? = some tag
  length_eq : ofBeBytes ((c.input.drop (c.offset + 1)).take 4) = length

variable {length : ℕ}

theorem step_of_value_overflow (h : c.HeaderAt tag length)
    (h64 : 2 ^ 64 ≤ c.offset + 5 + length) : c.step errors tag = (.error errors.overflow, c) := by
  rw [step, if_neg (not_not.mpr h.tag_eq), if_neg h.narrow, if_neg h.inside,
    if_neg (not_not.mpr h.first), h.length_eq, if_pos h64]

theorem step_of_value_short (h : c.HeaderAt tag length) (h64 : ¬ 2 ^ 64 ≤ c.offset + 5 + length)
    (hshort : c.input.length < c.offset + 5 + length) :
    c.step errors tag = (.error errors.header, c) := by
  rw [step, if_neg (not_not.mpr h.tag_eq), if_neg h.narrow, if_neg h.inside,
    if_neg (not_not.mpr h.first), h.length_eq, if_neg h64, if_pos hshort]

theorem step_of_last (h : c.HeaderAt tag length) (h64 : ¬ 2 ^ 64 ≤ c.offset + 5 + length)
    (hinside : ¬ c.input.length < c.offset + 5 + length) (hlast : c.nextTag = 255) :
    c.step errors tag = (.error errors.order, { c with offset := c.offset + 5 + length }) := by
  rw [step, if_neg (not_not.mpr h.tag_eq), if_neg h.narrow, if_neg h.inside,
    if_neg (not_not.mpr h.first), h.length_eq, if_neg h64, if_neg hinside, if_pos hlast]

theorem step_of_value (h : c.HeaderAt tag length) (h64 : ¬ 2 ^ 64 ≤ c.offset + 5 + length)
    (hinside : ¬ c.input.length < c.offset + 5 + length) (hlast : c.nextTag ≠ 255) :
    c.step errors tag = (.ok ((c.input.drop (c.offset + 5)).take length),
      { c with offset := c.offset + 5 + length, nextTag := c.nextTag + 1 }) := by
  rw [step, if_neg (not_not.mpr h.tag_eq), if_neg h.narrow, if_neg h.inside,
    if_neg (not_not.mpr h.first), h.length_eq, if_neg h64, if_neg hinside, if_neg hlast]

end

end Cursor

/-- A take is a step whose position is lost with a refusal. -/
theorem Cursor.take_eq_step (errors : TakeErrors ε) (c : Cursor) (expectedTag : UInt8) :
    c.take errors expectedTag =
      (c.step errors expectedTag).1.map fun value => (value, (c.step errors expectedTag).2) := by
  unfold Cursor.take Cursor.step
  dsimp only
  split_ifs <;> rfl

/-- Only the names of the errors depend on the errors. -/
theorem Cursor.step_agree (errors : TakeErrors ε) (errors' : TakeErrors ε') (c : Cursor)
    (expectedTag : UInt8) :
    (c.step errors expectedTag).1.toOption = (c.step errors' expectedTag).1.toOption ∧
      (c.step errors expectedTag).2 = (c.step errors' expectedTag).2 := by
  unfold Cursor.step
  dsimp only
  split_ifs <;> exact ⟨rfl, rfl⟩

/-- A step stays in its input. -/
theorem Cursor.step_input (errors : TakeErrors ε) (c : Cursor) (expectedTag : UInt8) :
    (c.step errors expectedTag).2.input = c.input := by
  unfold Cursor.step
  dsimp only
  split_ifs <;> rfl

/-- A take as a method on the position. -/
def taking (errors : TakeErrors ε) (expectedTag : UInt8) : Method Cursor ε (List UInt8) :=
  fun c => some (c.step errors expectedTag)

theorem take_of_taking {errors : TakeErrors ε} {tag : UInt8} {c c' : Cursor} {value : List UInt8}
    (h : (taking errors tag).call c = some (.ok value, c')) :
    c.take errors tag = .ok (value, c') := by
  have hstep : c.step errors tag = (.ok value, c') := Option.some.inj h
  rw [Cursor.take_eq_step, hstep]
  rfl

theorem taking_of_take {errors : TakeErrors ε} {tag : UInt8} {c c' : Cursor} {value : List UInt8}
    (h : c.take errors tag = .ok (value, c')) :
    (taking errors tag).call c = some (.ok value, c') := by
  rw [Cursor.take_eq_step] at h
  show some (c.step errors tag) = _
  generalize c.step errors tag = p at h ⊢
  obtain ⟨result, c₁⟩ := p
  cases result with
  | error e => cases h
  | ok value' =>
    obtain ⟨rfl, rfl⟩ := Prod.mk.inj (Except.ok.inj h)
    rfl

/-- **What was written is taken back**, in order, up to what follows. -/
theorem calls_taking {errors : TakeErrors ε} {values : List (List UInt8)} {tag : UInt8}
    (htags : tag.toNat + values.length ≤ 255) {c : Cursor} {tail : List UInt8}
    (hrest : c.rest = framesOf tag values ++ tail) (htag : c.nextTag = tag)
    (hvalues : ∀ value ∈ values, value.length < 2 ^ 32)
    (hinput : values = [] ∨ c.input.length < 2 ^ 64) (hoffset : c.offset ≤ c.input.length) :
    ∃ c', calls (taking errors) (tagsOf tag values) c = some (values.map .ok, c') ∧
      c'.rest = tail ∧ c'.offset ≤ c'.input.length := by
  induction values generalizing tag c with
  | nil => exact ⟨c, rfl, hrest, hoffset⟩
  | cons value values ih =>
    rw [framesOf, List.append_assoc] at hrest
    have hlen := congrArg List.length hrest
    rw [Cursor.rest, List.length_drop, List.length_append, length_frame] at hlen
    have hbound : c.input.length < 2 ^ 64 := hinput.resolve_left (List.cons_ne_nil value values)
    have hlast : tag ≠ 255 := by
      rintro rfl
      rw [List.length_cons] at htags
      exact absurd htags (by simp)
    have htake : c.take errors tag = .ok (value, c.behind value) :=
      Cursor.take_frame hrest (hvalues value List.mem_cons_self) hbound htag hlast
    have hnext : (tag + 1).toNat = tag.toNat + 1 := by
      have hlt : tag.toNat + 1 < 256 := by
        rw [List.length_cons] at htags
        omega
      rw [UInt8.toNat_add]
      exact Nat.mod_eq_of_lt hlt
    have hbehind : (c.behind value).offset = c.offset + 5 + value.length := rfl
    have hroom : (tag + 1).toNat + values.length ≤ 255 := by
      rw [hnext]
      rw [List.length_cons] at htags
      omega
    obtain ⟨c', hcalls, hend⟩ := ih hroom (Cursor.rest_behind hrest)
      (by rw [Cursor.behind_nextTag, htag]) (fun v hv => hvalues v (List.mem_cons_of_mem value hv))
      (Or.inr hbound) (by rw [hbehind, Cursor.behind_input]; omega)
    exact ⟨c', calls_cons (taking_of_take htake) hcalls, hend⟩

/-- **A record with the last tag is never taken.** -/
theorem not_mem_of_calls_taking {errors : TakeErrors ε} {tags : List UInt8}
    {values : List (List UInt8)} {c c' : Cursor}
    (h : calls (taking errors) tags c = some (values.map .ok, c')) : 255 ∉ tags := by
  induction tags generalizing values c with
  | nil => exact List.not_mem_nil
  | cons tag tags ih =>
    obtain ⟨result, c₁, results, hcall, hcalls, hall⟩ := exists_of_calls_cons h
    obtain ⟨value, values', rfl, rfl, rfl⟩ := List.map_eq_cons_iff.mp hall
    have hrest := ih hcalls
    have htake := take_of_taking hcall
    unfold Cursor.take at htake
    dsimp only at htake
    split_ifs at htake with htag hoverflow hheader hfirst hend hvalue hlast
    intro hmem
    rcases List.mem_cons.mp hmem with rfl | hmem
    · exact hlast (not_not.mp htag).symm
    · exact hrest hmem

/-! ## Programs that frame records -/

/-- A program that pushes records: a method on the output that does what `push` does. -/
structure RecordWriter (ε : Type) where
  push : UInt8 → List UInt8 → ℕ → Method (List UInt8) ε Unit
  error : ε
  push_eq : ∀ tag value maximumBytes,
    push tag value maximumBytes = appending error maximumBytes (tag, value)

/-- Pushing the values with the tags from 1 on, each within the bound, makes these bytes. -/
def RecordWriter.Writes (W : RecordWriter ε) (magic : List UInt8) (values : List (List UInt8))
    (maximumBytes : ℕ) (bytes : List UInt8) : Prop :=
  calls (fun record => W.push record.1 record.2 maximumBytes) (numbered 1 values) magic =
    some (values.map fun _ => .ok (), bytes)

theorem RecordWriter.writes_iff {W : RecordWriter ε} {magic bytes : List UInt8}
    {values : List (List UInt8)} {maximumBytes : ℕ} :
    W.Writes magic values maximumBytes bytes ↔
      calls (appending W.error maximumBytes) (numbered 1 values) magic =
        some (values.map fun _ => .ok (), bytes) := by
  have hpush : (fun record => W.push record.1 record.2 maximumBytes) =
      appending W.error maximumBytes := funext fun record => W.push_eq record.1 record.2 maximumBytes
  rw [RecordWriter.Writes, hpush]

/-- A program that reads records: a state that stands for a position, and methods that never
panic and move as the cursor does. -/
structure RecordReader (σ ε : Type) where
  new : List UInt8 → List UInt8 → Except ε σ
  take : UInt8 → Method σ ε (List UInt8)
  finish : σ → Except ε Unit
  cursor : σ → Cursor
  errors : TakeErrors ε
  new_eq : ∀ input magic, (new input magic).map cursor = Cursor.start errors input magic
  take_step : ∀ s tag, ∃ s', (take tag).call s = some (((cursor s).step errors tag).1, s') ∧
    cursor s' = ((cursor s).step errors tag).2
  finish_eq : ∀ s, finish s = (cursor s).finish errors

namespace RecordReader

variable {σ σ' : Type} (R : RecordReader σ ε) (R' : RecordReader σ' ε')

/-- Taking the records of the values one after another and finishing returns the values. -/
def ReadsBack (input magic : List UInt8) (values : List (List UInt8)) : Prop :=
  ∃ s s', R.new input magic = .ok s ∧
    calls R.take (tagsOf 1 values) s = some (values.map .ok, s') ∧ R.finish s' = .ok ()

/-- **Over every sequence of takes a reader never panics** and moves as the cursor does. -/
theorem exists_calls (tags : List UInt8) (s : σ) :
    ∃ results s', calls R.take tags s = some (results, s') ∧
      calls (taking R.errors) tags (R.cursor s) = some (results, R.cursor s') := by
  induction tags generalizing s with
  | nil => exact ⟨[], s, rfl, rfl⟩
  | cons tag tags ih =>
    obtain ⟨s₁, htake, hcursor⟩ := R.take_step s tag
    obtain ⟨results, s', hcalls, hcursors⟩ := ih s₁
    refine ⟨_, s', calls_cons htake hcalls, calls_cons ?_ hcursors⟩
    rw [hcursor]
    rfl

/-- Two readers that stand at one position agree over every sequence of takes, and at its end. -/
theorem calls_agree {s : σ} {s' : σ'} (h : R.cursor s = R'.cursor s') (tags : List UInt8) :
    ∃ results results' t t', calls R.take tags s = some (results, t) ∧
      calls R'.take tags s' = some (results', t') ∧
      results.map Except.toOption = results'.map Except.toOption ∧
      (R.finish t).toOption = (R'.finish t').toOption := by
  have hstep : ∀ tag (c c' : Cursor), c = c' →
      Agree Eq ((taking R.errors tag).call c) ((taking R'.errors tag).call c') := by
    rintro tag c _ rfl
    exact ⟨_, _, rfl, rfl, Cursor.step_agree R.errors R'.errors c tag⟩
  obtain ⟨results, t, hcalls, hcursor⟩ := R.exists_calls tags s
  obtain ⟨results', t', hcalls', hcursor'⟩ := R'.exists_calls tags s'
  obtain ⟨r, r', c, c', hr, hr', hsame, hend⟩ := calls_related hstep tags h
  obtain ⟨rfl, rfl⟩ := Prod.mk.inj (Option.some.inj (hcursor.symm.trans hr))
  obtain ⟨rfl, rfl⟩ := Prod.mk.inj (Option.some.inj (hcursor'.symm.trans hr'))
  refine ⟨results, results', t, t', hcalls, hcalls', hsame, ?_⟩
  rw [R.finish_eq, R'.finish_eq, hend]
  unfold Cursor.finish
  split <;> rfl

/-- Two readers begin at one position, or both refuse the input. -/
theorem new_agree (input magic : List UInt8) :
    (∃ e e', R.new input magic = .error e ∧ R'.new input magic = .error e') ∨
      ∃ s s', R.new input magic = .ok s ∧ R'.new input magic = .ok s' ∧
        R.cursor s = R'.cursor s' := by
  have hnew := R.new_eq input magic
  have hnew' := R'.new_eq input magic
  unfold Cursor.start at hnew hnew'
  cases hs : R.new input magic with
  | error e =>
    cases hs' : R'.new input magic with
    | error e' => exact Or.inl ⟨e, e', rfl, rfl⟩
    | ok s' =>
      rw [hs] at hnew
      rw [hs'] at hnew'
      split at hnew'
      · rename_i hmagic
        rw [if_pos hmagic] at hnew
        cases hnew
      · cases hnew'
  | ok s =>
    rw [hs] at hnew
    split at hnew
    · rename_i hmagic
      rw [if_pos hmagic] at hnew'
      cases hs' : R'.new input magic with
      | error e' =>
        rw [hs'] at hnew'
        cases hnew'
      | ok s' =>
        rw [hs'] at hnew'
        exact Or.inr ⟨s, s', rfl, rfl, (Except.ok.inj hnew).trans (Except.ok.inj hnew').symm⟩
    · cases hnew

/-- **At most 254 values are read back** from what was written. -/
theorem readsBack_of_written {magic : List UInt8} {values : List (List UInt8)}
    (hcount : values.length ≤ 254) (hvalues : ∀ value ∈ values, value.length < 2 ^ 32)
    (hlength : values = [] ∨ (magic ++ framesOf 1 values).length < 2 ^ 64) :
    R.ReadsBack (magic ++ framesOf 1 values) magic values := by
  have hrest : (⟨magic ++ framesOf 1 values, magic.length, 1⟩ : Cursor).rest =
      framesOf 1 values ++ [] := by
    rw [Cursor.rest_start, List.append_nil]
  have hroom : (1 : UInt8).toNat + values.length ≤ 255 := by
    rw [show (1 : UInt8).toNat = 1 from rfl]
    omega
  have hcounted : ∃ c', calls (taking R.errors) (tagsOf 1 values) _ = some (values.map .ok, c') ∧ _ :=
    calls_taking hroom hrest rfl hvalues hlength (by simp)
  obtain ⟨c', hcalls, hend, hle⟩ := hcounted
  have hnew := R.new_eq (magic ++ framesOf 1 values) magic
  rw [Cursor.start_append] at hnew
  obtain ⟨s, hs, hcursor⟩ := Fallible.map_eq_ok.mp hnew
  obtain ⟨results, s', htakes, hmoves⟩ := R.exists_calls (tagsOf 1 values) s
  rw [hcursor, hcalls] at hmoves
  obtain ⟨rfl, rfl⟩ := Prod.mk.inj (Option.some.inj hmoves)
  refine ⟨s, s', hs, htakes, ?_⟩
  rw [R.finish_eq]
  exact Cursor.finish_of_rest_nil hend hle

end RecordReader

/-- The tag of a value among numbered ones. -/
theorem mem_tagsOf {values : List (List UInt8)} {tag : UInt8} {k : ℕ} (h : k < values.length) :
    tag + UInt8.ofNat k ∈ tagsOf tag values := by
  induction values generalizing tag k with
  | nil => exact absurd h (Nat.not_lt_zero k)
  | cons value values ih =>
    cases k with
    | zero => exact List.mem_cons.mpr (Or.inl (by simp))
    | succ k =>
      have hmem : tag + 1 + UInt8.ofNat k ∈ tagsOf (tag + 1) values :=
        ih (Nat.lt_of_succ_lt_succ h)
      rw [UInt8.add_assoc, UInt8.add_comm 1] at hmem
      exact List.mem_cons_of_mem _ (by rwa [UInt8.ofNat_add k 1])

/-- **255 values are never read back.** -/
theorem RecordReader.not_readsBack {σ : Type} {R : RecordReader σ ε} {input magic : List UInt8}
    {values : List (List UInt8)} (h : 255 ≤ values.length) : ¬ R.ReadsBack input magic values := by
  rintro ⟨s, s', -, htakes, -⟩
  obtain ⟨results, t, hcalls, hcursor⟩ := R.exists_calls (tagsOf 1 values) s
  obtain ⟨rfl, rfl⟩ := Prod.mk.inj (Option.some.inj (htakes.symm.trans hcalls))
  have hlast : (1 : UInt8) + UInt8.ofNat 254 ∈ tagsOf 1 values := mem_tagsOf (by omega)
  exact not_mem_of_calls_taking hcursor hlast

end Framing
end Kapsel
