import Kapsel.Bytes.BigEndian
import Mathlib.Tactic.SplitIfs

/-!
# Tagged, length-prefixed records

A record is one tag byte, the length of its value in four big-endian bytes, and the
value.  `push` appends a record to an output under a byte bound.  A `Cursor` walks
over an input and takes records in the order of their tags.

Machine sizes are those of a 64-bit target: a length that does not fit 32 bits and
an offset that does not fit 64 bits are refused, with the error that the caller
names for it.

* `push_eq_ok`: a push within its bound appends exactly one frame.  `framesOf` are the frames of
  several values, under consecutive tags.
* `Cursor.take_frame`: a cursor that stands before a frame takes its value and then
  stands behind it.
* `Reads` says that a reader consumes exactly the given bytes and returns the given
  value, whatever follows; `Reads.bind` sequences such readers.  A round trip is a
  chain of them.
-/

namespace Kapsel
namespace Framing

open BigEndian

variable {ε : Type}

/-- One record. -/
def frame (tag : UInt8) (value : List UInt8) : List UInt8 :=
  tag :: (beBytes 4 value.length ++ value)

@[simp] theorem length_frame (tag : UInt8) (value : List UInt8) :
    (frame tag value).length = 5 + value.length := by
  rw [frame, List.length_cons, List.length_append, length_beBytes]
  omega

/-- Append a record, unless its length or the output would exceed a bound. -/
def push (error : ε) (output : List UInt8) (tag : UInt8) (value : List UInt8)
    (maximumBytes : ℕ) : Except ε (List UInt8) :=
  if 2 ^ 32 ≤ value.length then .error error
  else if 2 ^ 64 ≤ output.length + 5 + value.length then .error error
  else if maximumBytes < output.length + 5 + value.length then .error error
  else .ok (output ++ frame tag value)

theorem push_eq_ok {error : ε} {output : List UInt8} {tag : UInt8} {value : List UInt8}
    {maximumBytes : ℕ} (hmax : maximumBytes < 2 ^ 32)
    (h : output.length + 5 + value.length ≤ maximumBytes) :
    push error output tag value maximumBytes = .ok (output ++ frame tag value) := by
  have h32 : (2 : ℕ) ^ 32 < 2 ^ 64 := by decide
  rw [push, if_neg (by omega), if_neg (by omega), if_neg (by omega)]

theorem eq_of_push {error : ε} {output : List UInt8} {tag : UInt8} {value : List UInt8}
    {maximumBytes : ℕ} {next : List UInt8}
    (h : push error output tag value maximumBytes = .ok next) :
    next = output ++ frame tag value ∧ next.length ≤ maximumBytes := by
  unfold push at h
  split_ifs at h with h32 h64 hmax
  obtain rfl := Except.ok.inj h
  refine ⟨rfl, ?_⟩
  rw [List.length_append, length_frame]
  omega

/-- The frames of values under consecutive tags. -/
def framesOf : UInt8 → List (List UInt8) → List UInt8
  | _, [] => []
  | tag, value :: values => frame tag value ++ framesOf (tag + 1) values

/-- The bytes that the values need, headers included. -/
def framesLength (values : List (List UInt8)) : ℕ := (values.map fun value => 5 + value.length).sum

theorem length_framesOf (tag : UInt8) (values : List (List UInt8)) :
    (framesOf tag values).length = framesLength values := by
  induction values generalizing tag with
  | nil => rfl
  | cons value values ih =>
    rw [framesOf, List.length_append, length_frame, ih, framesLength, framesLength, List.map_cons,
      List.sum_cons]

/-- A magic that is not longer than what was written first is decided by it. -/
theorem isPrefixOf_append_of_length_le {magic head : List UInt8} (body : List UInt8)
    (h : magic.length ≤ head.length) :
    magic.isPrefixOf (head ++ body) = magic.isPrefixOf head := by
  induction magic generalizing head with
  | nil => rfl
  | cons b magic ih =>
    cases head with
    | nil => exact absurd h (by simp)
    | cons b' head =>
      rw [List.cons_append, List.isPrefixOf_cons_cons, List.isPrefixOf_cons_cons,
        ih (Nat.le_of_succ_le_succ h)]

/-- Two magics of one length tell two versions apart. -/
theorem isPrefixOf_version {newer older : List UInt8} (version : Bool) (body : List UInt8)
    (hlength : newer.length = older.length) (hne : newer.isPrefixOf older = false) :
    newer.isPrefixOf ((if version then newer else older) ++ body) = version := by
  cases version with
  | true =>
    rw [if_pos rfl, isPrefixOf_append_of_length_le body le_rfl]
    exact List.isPrefixOf_iff_prefix.mpr (List.prefix_refl newer)
  | false =>
    rw [if_neg (by decide), isPrefixOf_append_of_length_le body hlength.le, hne]

/-- The errors of a reader: records out of order, an offset that overflows, and a
header or value that the input does not hold. -/
structure TakeErrors (ε : Type) where
  order : ε
  overflow : ε
  header : ε

/-- A position in an input of records. -/
structure Cursor where
  input : List UInt8
  offset : ℕ
  nextTag : UInt8

namespace Cursor

/-- What the cursor has still to read. -/
def rest (c : Cursor) : List UInt8 := c.input.drop c.offset

/-- A cursor behind the magic of an input, or the header error. -/
def start (errors : TakeErrors ε) (input magic : List UInt8) : Except ε Cursor :=
  if magic.isPrefixOf input then .ok ⟨input, magic.length, 1⟩ else .error errors.header

/-- Take the value of the record with the expected tag. -/
def take (errors : TakeErrors ε) (c : Cursor) (expectedTag : UInt8) :
    Except ε (List UInt8 × Cursor) :=
  if expectedTag ≠ c.nextTag then .error errors.order
  else if 2 ^ 64 ≤ c.offset + 5 then .error errors.overflow
  else if c.input.length < c.offset + 5 then .error errors.header
  else if c.input[c.offset]? ≠ some expectedTag then .error errors.header
  else
    let length := ofBeBytes ((c.input.drop (c.offset + 1)).take 4)
    if 2 ^ 64 ≤ c.offset + 5 + length then .error errors.overflow
    else if c.input.length < c.offset + 5 + length then .error errors.header
    else if c.nextTag = 255 then .error errors.order
    else .ok ((c.input.drop (c.offset + 5)).take length,
      { c with offset := c.offset + 5 + length, nextTag := c.nextTag + 1 })

/-- Whether the whole input is read, or the header error. -/
def finish (errors : TakeErrors ε) (c : Cursor) : Except ε Unit :=
  if c.offset = c.input.length then .ok () else .error errors.header

/-- The cursor behind a value of the given length. -/
def behind (c : Cursor) (value : List UInt8) : Cursor :=
  { c with offset := c.offset + 5 + value.length, nextTag := c.nextTag + 1 }

@[simp] theorem behind_input (c : Cursor) (value : List UInt8) :
    (c.behind value).input = c.input := rfl

@[simp] theorem behind_nextTag (c : Cursor) (value : List UInt8) :
    (c.behind value).nextTag = c.nextTag + 1 := rfl

theorem start_append {errors : TakeErrors ε} (magic body : List UInt8) :
    start errors (magic ++ body) magic = .ok ⟨magic ++ body, magic.length, 1⟩ := by
  rw [start, if_pos (by simp)]

@[simp] theorem rest_start (magic body : List UInt8) :
    (⟨magic ++ body, magic.length, 1⟩ : Cursor).rest = body := by
  rw [rest, List.drop_left]

theorem rest_behind {c : Cursor} {tag : UInt8} {value tail : List UInt8}
    (h : c.rest = frame tag value ++ tail) : (c.behind value).rest = tail := by
  rw [rest] at h ⊢
  rw [behind, show c.offset + 5 + value.length = c.offset + (5 + value.length) by omega,
    ← List.drop_drop, h, ← length_frame tag value, List.drop_left]

/-- **A cursor before a frame takes its value.** -/
theorem take_frame {errors : TakeErrors ε} {c : Cursor} {tag : UInt8}
    {value tail : List UInt8} (h : c.rest = frame tag value ++ tail)
    (hvalue : value.length < 2 ^ 32) (hinput : c.input.length < 2 ^ 64) (htag : c.nextTag = tag)
    (hlast : tag ≠ 255) : c.take errors tag = .ok (value, c.behind value) := by
  have hlen := congrArg List.length h
  rw [rest, List.length_drop, List.length_append, length_frame] at hlen
  -- the header: the tag byte, then the four length bytes, then the value
  have hdrop : c.input.drop c.offset = tag :: (beBytes 4 value.length ++ (value ++ tail)) := by
    rw [rest] at h
    rw [h, frame, List.cons_append, List.append_assoc]
  have hhead : c.input[c.offset]? = some tag := by
    rw [← List.head?_drop, hdrop, List.head?_cons]
  have hlength : (c.input.drop (c.offset + 1)).take 4 = beBytes 4 value.length := by
    rw [← List.drop_drop, hdrop, List.drop_succ_cons, List.drop_zero,
      List.take_left' (length_beBytes 4 _)]
  have htaken : (c.input.drop (c.offset + 5)).take value.length = value := by
    rw [show c.offset + 5 = c.offset + (1 + 4) by omega, ← List.drop_drop, ← List.drop_drop,
      hdrop, List.drop_succ_cons, List.drop_zero, List.drop_left' (length_beBytes 4 _),
      List.take_left]
  have hread : ofBeBytes ((c.input.drop (c.offset + 1)).take 4) = value.length := by
    rw [hlength, ofBeBytes_beBytes _ _ (by norm_num; omega)]
  rw [take, if_neg (by simp [htag]), if_neg (by omega), if_neg (by omega),
    if_neg (by simp [hhead])]
  simp only [hread]
  rw [if_neg (by omega), if_neg (by omega), if_neg (by rw [htag]; exact hlast), htaken, behind]

/-- **What a cursor takes is the frame it stands before.** -/
theorem take_eq_ok {errors : TakeErrors ε} {c c' : Cursor} {tag : UInt8} {value : List UInt8}
    (h : c.take errors tag = .ok (value, c')) :
    c.rest = frame tag value ++ c'.rest ∧ c'.input = c.input := by
  set header := (c.input.drop (c.offset + 1)).take 4 with hheaderBytes
  unfold take at h
  simp only [← hheaderBytes] at h
  split_ifs at h with htag hoverflow hheader hfirst hend hvalue
  obtain ⟨rfl, rfl⟩ := Prod.mk.inj (Except.ok.inj h)
  refine ⟨?_, rfl⟩
  have hfour : header.length = 4 := by
    rw [hheaderBytes, List.length_take, List.length_drop]
    omega
  have hlength : ((c.input.drop (c.offset + 5)).take (ofBeBytes header)).length =
      ofBeBytes header := by
    rw [List.length_take, List.length_drop]
    omega
  have hbytes : beBytes 4 (ofBeBytes header) = header := by
    rw [← hfour, beBytes_ofBeBytes]
  have hsplit : c.input.drop c.offset = tag :: c.input.drop (c.offset + 1) := by
    obtain ⟨hlt, hget⟩ := List.getElem?_eq_some_iff.mp (not_not.mp hfirst)
    rw [List.drop_eq_getElem_cons hlt, hget]
  have hbehind : c.input.drop (c.offset + 1) = header ++ c.input.drop (c.offset + 5) := by
    conv_lhs => rw [← List.take_append_drop 4 (c.input.drop (c.offset + 1)), List.drop_drop]
  have hrest : c.input.drop (c.offset + 5) =
      (c.input.drop (c.offset + 5)).take (ofBeBytes header) ++
        c.input.drop (c.offset + 5 + ofBeBytes header) := by
    conv_lhs => rw [← List.take_append_drop (ofBeBytes header) (c.input.drop (c.offset + 5)),
      List.drop_drop]
  show c.input.drop c.offset = frame tag _ ++ c.input.drop (c.offset + 5 + ofBeBytes header)
  rw [frame, hlength, hbytes, hsplit, hbehind, List.cons_append, List.append_assoc, ← hrest]

theorem start_eq_ok {errors : TakeErrors ε} {input magic : List UInt8} {c : Cursor}
    (h : start errors input magic = .ok c) : input = magic ++ c.rest := by
  unfold start at h
  split_ifs at h with hmagic
  obtain rfl := Except.ok.inj h
  obtain ⟨body, rfl⟩ := List.isPrefixOf_iff_prefix.mp hmagic
  rw [rest_start]

theorem finish_eq_ok {errors : TakeErrors ε} {c : Cursor} {u : Unit}
    (h : c.finish errors = .ok u) : c.rest = [] := by
  unfold finish at h
  split_ifs at h with hend
  rw [rest, hend, List.drop_length]

theorem finish_of_rest_nil {errors : TakeErrors ε} {c : Cursor} (h : c.rest = [])
    (hle : c.offset ≤ c.input.length) : c.finish errors = .ok () := by
  have hlen := congrArg List.length h
  rw [rest, List.length_drop, List.length_nil] at hlen
  rw [finish, if_pos (by omega)]

end Cursor

/-! ## Readers -/

/-- A computation that reads records and may fail. -/
abbrev Reader (ε α : Type) := StateT Cursor (Except ε) α

/-- The cursor stands before `tail`, and `tag` is the next tag in order. -/
structure Before (c : Cursor) (tag : UInt8) (tail : List UInt8) : Prop where
  rest_eq : c.rest = tail
  nextTag_eq : c.nextTag = tag
  length_lt : c.input.length < 2 ^ 32
  offset_le : c.offset ≤ c.input.length

/-- The reader consumes exactly `bytes`, from the record `tag` up to the record
`tag'`, and returns `a`. -/
def Reads {α : Type} (r : Reader ε α) (tag tag' : UInt8) (bytes : List UInt8) (a : α) : Prop :=
  ∀ c tail, Before c tag (bytes ++ tail) → ∃ c', r c = .ok (a, c') ∧ Before c' tag' tail

/-- The reader accepts an input that ends after `bytes`, and returns `a`. -/
def ReadsAll {α : Type} (r : Reader ε α) (tag : UInt8) (bytes : List UInt8) (a : α) : Prop :=
  ∀ c, Before c tag bytes → ∃ c', r c = .ok (a, c')

section Readers
variable {α β : Type} {tag tag' tag'' : UInt8} {bytes bytes' : List UInt8}

theorem before_start {magic body : List UInt8} (h : (magic ++ body).length < 2 ^ 32) :
    Before ⟨magic ++ body, magic.length, 1⟩ 1 body :=
  ⟨Cursor.rest_start magic body, rfl, h, by simp⟩

theorem Before.behind {c : Cursor} {value tail : List UInt8}
    (h : Before c tag (frame tag value ++ tail)) : Before (c.behind value) (tag + 1) tail := by
  have hlen := congrArg List.length h.rest_eq
  rw [Cursor.rest, List.length_drop, List.length_append, length_frame] at hlen
  have hoffset : (c.behind value).offset = c.offset + 5 + value.length := rfl
  refine ⟨Cursor.rest_behind h.rest_eq, ?_, h.length_lt, ?_⟩
  · rw [Cursor.behind_nextTag, h.nextTag_eq]
  · rw [hoffset, Cursor.behind_input]
    omega

/-- Taking one record reads one frame. -/
theorem reads_take {errors : TakeErrors ε} (htag : tag ≠ 255) (value : List UInt8) :
    Reads (fun c => c.take errors tag) tag (tag + 1) (frame tag value) value := by
  intro c tail h
  have hlen := congrArg List.length h.rest_eq
  rw [Cursor.rest, List.length_drop, List.length_append, length_frame] at hlen
  have hinput := h.length_lt
  have h32 : (2 : ℕ) ^ 32 < 2 ^ 64 := by decide
  exact ⟨c.behind value, Cursor.take_frame h.rest_eq (by omega) (by omega) h.nextTag_eq htag,
    h.behind⟩

theorem reads_pure (a : α) : Reads (pure a : Reader ε α) tag tag [] a := by
  intro c tail h
  exact ⟨c, rfl, h⟩

/-- A check of what was read consumes nothing. -/
theorem reads_lift {x : Except ε α} {a : α} (h : x = .ok a) :
    Reads (liftM x : Reader ε α) tag tag [] a := by
  subst h
  intro c tail hc
  exact ⟨c, rfl, hc⟩

/-- A check inside a reader succeeds as the check does, and moves nothing. -/
theorem lift_eq_ok {x : Except ε α} {a : α} {c c' : Cursor}
    (h : (liftM x : Reader ε α) c = .ok (a, c')) : x = .ok a := by
  cases x with
  | ok b =>
    have hpair : (b, c) = (a, c') := Except.ok.inj h
    exact congrArg Except.ok (Prod.mk.inj hpair).1
  | error e => exact nomatch h

theorem cursor_of_lift_eq_ok {x : Except ε α} {a : α} {c c' : Cursor}
    (h : (liftM x : Reader ε α) c = .ok (a, c')) : c' = c := by
  cases x with
  | ok b =>
    have hpair : (b, c) = (a, c') := Except.ok.inj h
    exact (Prod.mk.inj hpair).2.symm
  | error e => exact nomatch h

theorem bind_of_eq_ok {r : Reader ε α} {f : α → Reader ε β} {a : α} {c c' : Cursor}
    (h : r c = .ok (a, c')) : (r >>= f) c = f a c' := by
  show (r c >>= fun p => f p.1 p.2) = f a c'
  rw [h]
  rfl

/-- **Readers in sequence.** -/
theorem Reads.bind {r : Reader ε α} {f : α → Reader ε β} {a : α} {b : β}
    (h : Reads r tag tag' bytes a) (hf : Reads (f a) tag' tag'' bytes' b) :
    Reads (r >>= f) tag tag'' (bytes ++ bytes') b := by
  intro c tail hc
  rw [List.append_assoc] at hc
  obtain ⟨c', hr, hc'⟩ := h c _ hc
  obtain ⟨c'', hb, hc''⟩ := hf c' _ hc'
  exact ⟨c'', (bind_of_eq_ok hr).trans hb, hc''⟩

/-- A reader followed by one that consumes nothing. -/
theorem Reads.and_then {r : Reader ε α} {f : α → Reader ε β} {a : α} {b : β}
    (h : Reads r tag tag' bytes a) (hf : Reads (f a) tag' tag' [] b) :
    Reads (r >>= f) tag tag' bytes b := by
  have hbind := h.bind hf
  rwa [List.append_nil] at hbind

/-- A check in front of a reader. -/
theorem Reads.after_check {x : Except ε α} {f : α → Reader ε β} {a : α} {b : β} (h : x = .ok a)
    (hf : Reads (f a) tag tag' bytes b) :
    Reads ((liftM x : Reader ε α) >>= f) tag tag' bytes b :=
  (reads_lift h).bind hf

theorem Reads.bindAll {r : Reader ε α} {f : α → Reader ε β} {a : α} {b : β}
    (h : Reads r tag tag' bytes a) (hf : ReadsAll (f a) tag' bytes' b) :
    ReadsAll (r >>= f) tag (bytes ++ bytes') b := by
  intro c hc
  obtain ⟨c', hr, hc'⟩ := h c _ hc
  obtain ⟨c'', hb⟩ := hf c' hc'
  exact ⟨c'', (bind_of_eq_ok hr).trans hb⟩

theorem Reads.bindLast {r : Reader ε α} {f : α → Reader ε β} {a : α} {b : β}
    (h : Reads r tag tag' bytes a) (hf : ReadsAll (f a) tag' [] b) :
    ReadsAll (r >>= f) tag bytes b := by
  have hbind := h.bindAll hf
  rwa [List.append_nil] at hbind

theorem ReadsAll.after_check {x : Except ε α} {f : α → Reader ε β} {a : α} {b : β}
    (h : x = .ok a) (hf : ReadsAll (f a) tag bytes b) :
    ReadsAll ((liftM x : Reader ε α) >>= f) tag bytes b :=
  (reads_lift h).bindAll hf

/-- At the end of the input `finish` succeeds. -/
theorem readsAll_finish {errors : TakeErrors ε} (a : α) :
    ReadsAll (fun c => (c.finish errors).map fun _ => (a, c) : Reader ε α) tag [] a := by
  intro c h
  refine ⟨c, ?_⟩
  show (c.finish errors).map (fun _ => (a, c)) = .ok (a, c)
  rw [Cursor.finish_of_rest_nil h.rest_eq h.offset_le]
  rfl

/-- A reader that accepts a body accepts it behind its magic. -/
theorem ReadsAll.run {r : Reader ε α} {a : α} {magic body : List UInt8}
    (h : ReadsAll r 1 body a) (hlength : (magic ++ body).length < 2 ^ 32)
    (errors : TakeErrors ε) :
    ∃ c c', Cursor.start errors (magic ++ body) magic = .ok c ∧ r c = .ok (a, c') := by
  obtain ⟨c', hc'⟩ := h _ (before_start hlength)
  exact ⟨_, c', Cursor.start_append magic body, hc'⟩

end Readers
end Framing
end Kapsel
