import Kapsel.Authority.ReceiptTrust
import Kapsel.Gateway.Request

/-!
# The receipt format

`src/gateway/receipt/mod.rs`, the part that both effects share: typed fields under
consecutive tags, the signed envelope around a statement, and the inspection of an
envelope under a separately supplied trust document.

## Round trips

A field that is valid is pushed as exactly one frame (`pushFields_eq_ok`), and the reader
of its kind takes exactly that frame and returns the value (`reads_text` and its
neighbours).  `parseEnvelope_signEnvelope` is the round trip of the envelope: what
signing wrote is read back, for any statement format that reads its own bytes back.
-/

namespace Kapsel

open Framing Grammar Fallible Authority BigEndian

namespace Receipt

open Gateway (ReceiptError OperationResult)

def receiptBytesMax : ℕ := 16 * 1024
def statementBytesMax : ℕ := 8 * 1024
def trustBytesMax : ℕ := 1024
def textBytesMax : ℕ := 512

/-- `InspectionLimits`. -/
structure InspectionLimits where
  receiptBytesMax : ℕ
  statementBytesMax : ℕ
  trustBytesMax : ℕ
  textBytesMax : ℕ

/-- `InspectionLimits::default`. -/
def InspectionLimits.default : InspectionLimits :=
  ⟨Receipt.receiptBytesMax, Receipt.statementBytesMax, Receipt.trustBytesMax, Receipt.textBytesMax⟩

/-- `InspectionLimits::validate`. -/
def InspectionLimits.validate (limits : InspectionLimits) : Except ReceiptError Unit :=
  require (0 < limits.receiptBytesMax && limits.receiptBytesMax ≤ Receipt.receiptBytesMax &&
    0 < limits.statementBytesMax && limits.statementBytesMax ≤ Receipt.statementBytesMax &&
    0 < limits.trustBytesMax && limits.trustBytesMax ≤ Receipt.trustBytesMax &&
    0 < limits.textBytesMax && limits.textBytesMax ≤ Receipt.textBytesMax) .limitExceeded

/-- `bounded`. -/
def bounded (input : Bytes) (maximumBytes : ℕ) : Except ReceiptError Unit :=
  require (input.length ≤ maximumBytes) .limitExceeded

/-- `validate_key_id`. -/
def validateKeyId (value : Text) : Except ReceiptError Unit :=
  require (identityIsValid value) .invalidValue

/-- `validate_text(value, false)`. -/
def validateText (value : Text) : Except ReceiptError Unit :=
  require (receiptTextIsValid value) .invalidValue

/-! ## Writing -/

/-- One value of a record, by the way it is written: `push_text`, `push_optional_text`,
`push_i64`, `push_i32`, or the bytes as they are. -/
inductive Field where
  | text (value : Text)
  | optionalText (value : Option Text)
  | int64 (value : Option Int64)
  | int32 (value : Option Int32)
  | raw (value : Bytes)

/-- The bytes that are written for a value: nothing for an absent text, `-1` for an
absent number. -/
def Field.bytes : Field → Bytes
  | .text value => value
  | .optionalText value => value.getD []
  | .int64 value => (int64BeBytes (value.getD (-1))).val
  | .int32 value => (int32BeBytes (value.getD (-1))).val
  | .raw value => value

/-- The check a value passes before it is written. -/
def Field.check : Field → Except ReceiptError Unit
  | .text value => validateText value
  | .optionalText (some value) => validateText value
  | .optionalText none => .ok ()
  | .int64 _ => .ok ()
  | .int32 _ => .ok ()
  | .raw _ => .ok ()

/-- Push one value under a tag. -/
def pushField (maximumBytes : ℕ) (output : Bytes) (tag : UInt8) (field : Field) :
    Except ReceiptError Bytes := do
  field.check
  push .limitExceeded output tag field.bytes maximumBytes

/-- Push values under consecutive tags. -/
def pushFields (maximumBytes : ℕ) : Bytes → UInt8 → List Field → Except ReceiptError Bytes
  | output, _, [] => .ok output
  | output, tag, field :: fields => do
      let output ← pushField maximumBytes output tag field
      pushFields maximumBytes output (tag + 1) fields

/-- The frames of values under consecutive tags. -/
def frames (tag : UInt8) (fields : List Field) : Bytes := framesOf tag (fields.map Field.bytes)

theorem frames_nil (tag : UInt8) : frames tag [] = [] := rfl

theorem frames_cons (tag : UInt8) (field : Field) (fields : List Field) :
    frames tag (field :: fields) = frame tag field.bytes ++ frames (tag + 1) fields := rfl

/-- The bytes that the values need, headers included. -/
def encodedLength (fields : List Field) : ℕ := framesLength (fields.map Field.bytes)

theorem encodedLength_cons (field : Field) (fields : List Field) :
    encodedLength (field :: fields) = 5 + field.bytes.length + encodedLength fields := by
  rw [encodedLength, framesLength, List.map_cons, List.map_cons, List.sum_cons]
  rfl

/-- **Valid values within the bound are pushed as their frames.** -/
theorem pushFields_eq_ok {maximumBytes : ℕ} (hmax : maximumBytes < 2 ^ 32) {fields : List Field}
    {output : Bytes} {tag : UInt8} (hcheck : ∀ field ∈ fields, field.check = .ok ())
    (hlength : output.length + encodedLength fields ≤ maximumBytes) :
    pushFields maximumBytes output tag fields = .ok (output ++ frames tag fields) := by
  induction fields generalizing output tag with
  | nil => rw [pushFields, frames_nil, List.append_nil]
  | cons field fields ih =>
    rw [List.forall_mem_cons] at hcheck
    rw [encodedLength_cons] at hlength
    have hpush : pushField maximumBytes output tag field =
        .ok (output ++ frame tag field.bytes) := by
      refine bind_eq_ok.mpr ⟨(), hcheck.1, push_eq_ok hmax ?_⟩
      omega
    have hrest : (output ++ frame tag field.bytes).length + encodedLength fields ≤
        maximumBytes := by
      rw [List.length_append, length_frame]
      omega
    rw [pushFields, frames_cons, ← List.append_assoc]
    exact bind_eq_ok.mpr ⟨_, hpush, ih hcheck.2 hrest⟩

/-- The value passes its check and needs at most `bound` bytes. -/
def Field.Bounded (field : Field) (bound : ℕ) : Prop :=
  field.check = .ok () ∧ field.bytes.length ≤ bound

theorem Field.bounded_text {value : Text} {bound : ℕ} (h : Fits bound value)
    (hbound : bound ≤ textBytesMax) : (Field.text value).Bounded bound := by
  refine ⟨require_of_true ?_, h.length_le⟩
  rw [receiptTextIsValid, Bool.and_eq_true, Bool.and_eq_true, decide_eq_true_eq,
    Bool.not_eq_true', List.isEmpty_eq_false_iff]
  exact ⟨⟨h.nonempty, h.length_le.trans hbound⟩, h.ascii⟩

theorem Field.bounded_optionalText {value : Option Text} {bound : ℕ}
    (h : ∀ v ∈ value, Fits bound v) (hbound : bound ≤ textBytesMax) :
    (Field.optionalText value).Bounded bound := by
  cases value with
  | none => exact ⟨rfl, Nat.zero_le _⟩
  | some v => exact Field.bounded_text (h v rfl) hbound

theorem Field.bounded_int64 (value : Option Int64) : (Field.int64 value).Bounded 8 :=
  ⟨rfl, (int64BeBytes _).property.le⟩

theorem Field.bounded_int32 (value : Option Int32) : (Field.int32 value).Bounded 4 :=
  ⟨rfl, (int32BeBytes _).property.le⟩

/-- Bounded values pass their checks. -/
theorem check_of_bounded {fields : List Field} {bounds : List ℕ}
    (h : List.Forall₂ Field.Bounded fields bounds) : ∀ field ∈ fields, field.check = .ok () := by
  induction h with
  | nil => exact fun _ hfield => absurd hfield List.not_mem_nil
  | cons hfield _ ih =>
    rw [List.forall_mem_cons]
    exact ⟨hfield.1, ih⟩

/-- Bounded values need at most the sum of their bounds, headers included. -/
theorem encodedLength_le_of_bounded {fields : List Field} {bounds : List ℕ}
    (h : List.Forall₂ Field.Bounded fields bounds) :
    encodedLength fields ≤ (bounds.map (5 + ·)).sum := by
  induction h with
  | nil => exact le_rfl
  | cons hfield _ ih =>
    have hlength := hfield.2
    rw [encodedLength_cons, List.map_cons, List.sum_cons]
    omega

/-- What is pushed are the frames of checked values, within the bound. -/
theorem eq_of_pushFields {maximumBytes : ℕ} {fields : List Field} {output next : Bytes}
    {tag : UInt8} (hne : fields ≠ []) (h : pushFields maximumBytes output tag fields = .ok next) :
    next = output ++ frames tag fields ∧ (∀ field ∈ fields, field.check = .ok ()) ∧
      next.length ≤ maximumBytes := by
  induction fields generalizing output tag with
  | nil => exact absurd rfl hne
  | cons field fields ih =>
    obtain ⟨middle, hfield, h⟩ := bind_eq_ok.mp h
    obtain ⟨_, hcheck, hpush⟩ := bind_eq_ok.mp hfield
    obtain ⟨rfl, hlength⟩ := eq_of_push hpush
    cases fields with
    | nil =>
      obtain rfl := Except.ok.inj h
      refine ⟨?_, ?_, hlength⟩
      · rw [frames_cons, frames_nil, List.append_nil]
      · rw [List.forall_mem_singleton]
        exact hcheck
    | cons field' fields =>
      obtain ⟨rfl, hchecks, hle⟩ := ih (by simp) h
      refine ⟨?_, ?_, hle⟩
      · rw [List.append_assoc]
        rfl
      · rw [List.forall_mem_cons]
        exact ⟨hcheck, hchecks⟩

/-! ## Reading -/

/-- The framing errors of a receipt. -/
def receiptErrors : TakeErrors ReceiptError := ⟨.invalidRecord, .limitExceeded, .invalidRecord⟩

/-- `Records::take`. -/
def take (tag : UInt8) : Reader ReceiptError Bytes :=
  fun records => records.take receiptErrors tag

/-- `Records::text`. -/
def text (maximumTextBytes : ℕ) (tag : UInt8) : Reader ReceiptError Text := do
  let bytes ← take tag
  require (bytes.length ≤ maximumTextBytes) ReceiptError.limitExceeded
  require (isAscii bytes) ReceiptError.invalidValue
  return bytes

/-- `Records::finish`. -/
def finish : Reader ReceiptError Unit :=
  fun records => (records.finish receiptErrors).map fun _ => ((), records)

theorem readsAll_finish_bind {α : Type} {tag : UInt8} (a : α) :
    ReadsAll (do finish; return a) tag [] a := by
  intro c h
  have hfinish : ReadsAll finish tag [] () := readsAll_finish ()
  obtain ⟨c', hc'⟩ := hfinish c h
  exact ⟨c', bind_of_eq_ok hc'⟩

/-- `empty_as_none`. -/
def emptyAsNone (value : Text) : Option Text := if value.isEmpty then none else some value

/-- `empty_as_none` of the next text. -/
def optionalText (maximumTextBytes : ℕ) (tag : UInt8) : Reader ReceiptError (Option Text) := do
  return emptyAsNone (← text maximumTextBytes tag)

/-- A number that may be absent: `-1` is absent, other negative numbers are refused. -/
def present {α : Type} [DecidableEq α] [LE α] [DecidableLE α] (absent zero decoded : α) :
    Except ReceiptError (Option α) :=
  if decoded = absent then .ok none
  else if zero ≤ decoded then .ok (some decoded)
  else .error .invalidValue

/-- `decode_generation`. -/
def decodeGeneration (value : Bytes) : Except ReceiptError (Option Int64) := do
  present (-1) 0 (int64OfBeBytes (← arrayOr 8 .invalidValue value))

/-- `decode_replica_count`. -/
def decodeReplicaCount (value : Bytes) : Except ReceiptError (Option Int32) := do
  present (-1) 0 (int32OfBeBytes (← arrayOr 4 .invalidValue value))

def generation (tag : UInt8) : Reader ReceiptError (Option Int64) := do
  decodeGeneration (← take tag)

def replicaCount (tag : UInt8) : Reader ReceiptError (Option Int32) := do
  decodeReplicaCount (← take tag)

section
variable {tag : UInt8} (htag : tag ≠ 255)
include htag

theorem reads_text {value : Text} (hlength : value.length ≤ textBytesMax)
    (hascii : isAscii value = true) :
    Reads (text textBytesMax tag) tag (tag + 1) (frame tag value) value := by
  refine (reads_take htag value).and_then ?_
  refine Reads.after_check (require_of_true (decide_eq_true hlength)) ?_
  refine Reads.after_check (require_of_true hascii) ?_
  exact reads_pure value

/-- A text that was checked before writing is read back. -/
theorem reads_checkedText {value : Text} (h : (Field.text value).check = .ok ()) :
    Reads (text textBytesMax tag) tag (tag + 1) (frame tag value) value := by
  have hvalid := require_eq_ok.mp h
  simp only [receiptTextIsValid, Bool.and_eq_true, decide_eq_true_eq] at hvalid
  exact reads_text htag hvalid.1.2 hvalid.2

/-- An absent text is written as nothing and read back as absent. -/
theorem reads_optionalText {value : Option Text} (h : (Field.optionalText value).check = .ok ()) :
    Reads (optionalText textBytesMax tag) tag (tag + 1)
      (frame tag (Field.optionalText value).bytes) value := by
  cases value with
  | none =>
    exact (reads_text htag (Nat.zero_le _) rfl).and_then (reads_pure none)
  | some value =>
    have hvalid := require_eq_ok.mp h
    simp only [receiptTextIsValid, Bool.and_eq_true, decide_eq_true_eq, Bool.not_eq_true']
      at hvalid
    refine (reads_text htag hvalid.1.2 hvalid.2).and_then ?_
    have hsome : emptyAsNone value = some value := by
      rw [emptyAsNone, hvalid.1.1]
      rfl
    rw [hsome]
    exact reads_pure _

/-- A generation that is absent or not negative is read back. -/
theorem reads_generation {value : Option Int64} (h : value.any (· < 0) = false) :
    Reads (generation tag) tag (tag + 1) (frame tag (Field.int64 value).bytes) value := by
  refine (reads_take htag _).and_then (reads_lift ?_)
  refine bind_eq_ok.mpr ⟨int64BeBytes (value.getD (-1)), arrayOr_val _, ?_⟩
  rw [int64OfBeBytes_beBytes]
  cases value with
  | none => exact if_pos rfl
  | some value =>
    have hnonneg : ¬ value < 0 := by simpa using h
    have hne : value ≠ -1 := by
      intro hvalue
      rw [hvalue] at hnonneg
      exact hnonneg (by decide)
    rw [Option.getD_some, present, if_neg hne, if_pos (Int64.not_lt.mp hnonneg)]

/-- A replica count that is absent or not negative is read back. -/
theorem reads_replicaCount {value : Option Int32} (h : value.any (· < 0) = false) :
    Reads (replicaCount tag) tag (tag + 1) (frame tag (Field.int32 value).bytes) value := by
  refine (reads_take htag _).and_then (reads_lift ?_)
  refine bind_eq_ok.mpr ⟨int32BeBytes (value.getD (-1)), arrayOr_val _, ?_⟩
  rw [int32OfBeBytes_beBytes]
  cases value with
  | none => exact if_pos rfl
  | some value =>
    have hnonneg : ¬ value < 0 := by simpa using h
    have hne : value ≠ -1 := by
      intro hvalue
      rw [hvalue] at hnonneg
      exact hnonneg (by decide)
    rw [Option.getD_some, present, if_neg hne, if_pos (Int32.not_lt.mp hnonneg)]

end

/-! ## Envelopes -/

/-- `signature_input`. -/
def signatureInput (purpose : Text) (statement : Bytes) : Bytes := purpose ++ [0] ++ statement

/-- `sign_envelope`. -/
def signEnvelope (C : Crypto) (statement magic : Bytes) (purpose : Text) (seed : Octets 32)
    (keyId : Text) : Except ReceiptError Bytes :=
  pushFields receiptBytesMax magic 1 [.text purpose, .text keyId, .raw statement,
    .raw (C.sign seed (signatureInput purpose statement)).val]

/-- `ReceiptEnvelope`. -/
structure ReceiptEnvelope (σ : Type) where
  acceptedPurpose : Text
  keyId : Text
  statementBytes : Bytes
  statement : σ
  signature : Octets 64

section
variable {σ : Type}

/-- The four records of an envelope. -/
def takeEnvelope (purpose : Text) (maximumTextBytes : ℕ)
    (parseStatement : Bytes → Except ReceiptError σ) : Reader ReceiptError (ReceiptEnvelope σ) := do
  let accepted ← text maximumTextBytes 1
  require (accepted = purpose) ReceiptError.invalidValue
  let keyId ← text maximumTextBytes 2
  validateKeyId keyId
  let statementBytes ← take 3
  let statement ← parseStatement statementBytes
  let signatureBytes ← take 4
  let signature ← arrayOr 64 ReceiptError.invalidValue signatureBytes
  finish
  return ⟨purpose, keyId, statementBytes, statement, signature⟩

/-- `parse_envelope`. -/
def parseEnvelope (receipt magic : Bytes) (purpose : Text) (limits : InspectionLimits)
    (parseStatement : Bytes → Except ReceiptError σ) :
    Except ReceiptError (ReceiptEnvelope σ) := do
  limits.validate
  bounded receipt limits.receiptBytesMax
  let records ← Cursor.start receiptErrors receipt magic
  let (envelope, _) ← takeEnvelope purpose limits.textBytesMax parseStatement records
  return envelope

/-- What an accepted envelope satisfies. -/
theorem parseEnvelope_eq_ok {receipt magic : Bytes} {purpose : Text} {limits : InspectionLimits}
    {parseStatement : Bytes → Except ReceiptError σ} {envelope : ReceiptEnvelope σ}
    (h : parseEnvelope receipt magic purpose limits parseStatement = .ok envelope) :
    receipt.length ≤ limits.receiptBytesMax ∧ identityIsValid envelope.keyId = true ∧
      parseStatement envelope.statementBytes = .ok envelope.statement := by
  obtain ⟨_, -, h⟩ := bind_eq_ok.mp h
  obtain ⟨_, hbound, h⟩ := bind_eq_ok.mp h
  obtain ⟨_, -, h⟩ := bind_eq_ok.mp h
  obtain ⟨⟨envelope', _⟩, htake, h⟩ := bind_eq_ok.mp h
  obtain rfl := Except.ok.inj h
  obtain ⟨⟨_, _⟩, -, htake⟩ := bind_eq_ok.mp htake
  obtain ⟨⟨_, _⟩, -, htake⟩ := bind_eq_ok.mp htake
  obtain ⟨⟨keyId, _⟩, -, htake⟩ := bind_eq_ok.mp htake
  obtain ⟨⟨_, _⟩, hkey, htake⟩ := bind_eq_ok.mp htake
  obtain ⟨⟨statementBytes, _⟩, -, htake⟩ := bind_eq_ok.mp htake
  obtain ⟨⟨statement, _⟩, hstatement, htake⟩ := bind_eq_ok.mp htake
  obtain ⟨⟨_, _⟩, -, htake⟩ := bind_eq_ok.mp htake
  obtain ⟨⟨_, _⟩, -, htake⟩ := bind_eq_ok.mp htake
  obtain ⟨⟨_, _⟩, -, htake⟩ := bind_eq_ok.mp htake
  have henvelope : _ = envelope' := congrArg Prod.fst (Except.ok.inj htake)
  rw [← henvelope]
  exact ⟨of_decide_eq_true (require_eq_ok.mp hbound), require_eq_ok.mp (lift_eq_ok hkey),
    lift_eq_ok hstatement⟩

theorem take_of_text {maximumTextBytes : ℕ} {tag : UInt8} {c c' : Cursor} {value : Text}
    (h : text maximumTextBytes tag c = .ok (value, c')) : take tag c = .ok (value, c') := by
  obtain ⟨⟨bytes, c₁⟩, htake, h⟩ := bind_eq_ok.mp h
  obtain ⟨⟨_, c₂⟩, hlength, h⟩ := bind_eq_ok.mp h
  obtain ⟨⟨_, c₃⟩, hascii, h⟩ := bind_eq_ok.mp h
  obtain ⟨rfl, rfl⟩ := Prod.mk.inj (Except.ok.inj h)
  have h₂ : c₂ = c₁ := cursor_of_lift_eq_ok hlength
  have h₃ : c₃ = c₂ := cursor_of_lift_eq_ok hascii
  rw [h₃, h₂]
  exact htake

/-- The first three records that an accepted envelope was read from. -/
theorem exists_takes_of_parseEnvelope {receipt magic : Bytes} {purpose : Text}
    {limits : InspectionLimits} {parseStatement : Bytes → Except ReceiptError σ}
    {envelope : ReceiptEnvelope σ}
    (h : parseEnvelope receipt magic purpose limits parseStatement = .ok envelope) :
    ∃ c, Cursor.start receiptErrors receipt magic = .ok c ∧ ∃ v₁ v₂ c₁ c₂ c₃,
      take 1 c = .ok (v₁, c₁) ∧ take 2 c₁ = .ok (v₂, c₂) ∧
        take 3 c₂ = .ok (envelope.statementBytes, c₃) := by
  obtain ⟨_, -, h⟩ := bind_eq_ok.mp h
  obtain ⟨_, -, h⟩ := bind_eq_ok.mp h
  obtain ⟨c, hstart, h⟩ := bind_eq_ok.mp h
  obtain ⟨⟨envelope', _⟩, htake, h⟩ := bind_eq_ok.mp h
  obtain rfl := Except.ok.inj h
  obtain ⟨⟨v₁, c₁⟩, h1, htake⟩ := bind_eq_ok.mp htake
  obtain ⟨⟨_, c₁'⟩, hpurpose, htake⟩ := bind_eq_ok.mp htake
  obtain ⟨⟨v₂, c₂⟩, h2, htake⟩ := bind_eq_ok.mp htake
  obtain ⟨⟨_, c₂'⟩, hkey, htake⟩ := bind_eq_ok.mp htake
  obtain ⟨⟨v₃, c₃⟩, h3, htake⟩ := bind_eq_ok.mp htake
  obtain ⟨⟨_, _⟩, -, htake⟩ := bind_eq_ok.mp htake
  obtain ⟨⟨_, _⟩, -, htake⟩ := bind_eq_ok.mp htake
  obtain ⟨⟨_, _⟩, -, htake⟩ := bind_eq_ok.mp htake
  obtain ⟨⟨_, _⟩, -, htake⟩ := bind_eq_ok.mp htake
  have henvelope : _ = envelope' := congrArg Prod.fst (Except.ok.inj htake)
  obtain rfl : c₁' = c₁ := cursor_of_lift_eq_ok hpurpose
  obtain rfl : c₂' = c₂ := cursor_of_lift_eq_ok hkey
  rw [← henvelope]
  exact ⟨c, hstart, v₁, v₂, c₁', c₂', c₃, take_of_text h1, take_of_text h2, h3⟩

/-- The statement bytes of an accepted envelope do not depend on the limits. -/
theorem statementBytes_eq_of_parseEnvelope {receipt magic : Bytes} {purpose : Text}
    {limits limits' : InspectionLimits} {parseStatement parseStatement' : Bytes → Except ReceiptError σ}
    {envelope envelope' : ReceiptEnvelope σ}
    (h : parseEnvelope receipt magic purpose limits parseStatement = .ok envelope)
    (h' : parseEnvelope receipt magic purpose limits' parseStatement' = .ok envelope') :
    envelope.statementBytes = envelope'.statementBytes := by
  obtain ⟨c, hstart, h⟩ := exists_takes_of_parseEnvelope h
  obtain ⟨c', hstart', h'⟩ := exists_takes_of_parseEnvelope h'
  obtain rfl := Except.ok.inj (hstart.symm.trans hstart')
  obtain ⟨_, _, _, _, _, h1, h2, h3⟩ := h
  obtain ⟨_, _, _, _, _, h1', h2', h3'⟩ := h'
  obtain ⟨rfl, rfl⟩ := Prod.mk.inj (Except.ok.inj (h1.symm.trans h1'))
  obtain ⟨rfl, rfl⟩ := Prod.mk.inj (Except.ok.inj (h2.symm.trans h2'))
  exact (Prod.mk.inj (Except.ok.inj (h3.symm.trans h3'))).1

/-- **The envelope that signing writes is read back.** -/
theorem parseEnvelope_signEnvelope (C : Crypto) {statementBytes magic : Bytes} {purpose : Text}
    (seed : Octets 32) {keyId : Text} {parseStatement : Bytes → Except ReceiptError σ}
    {statement : σ} (hpurpose : receiptTextIsValid purpose = true)
    (hkey : identityIsValid keyId = true) (hmagic : magic.length ≤ 64)
    (hlength : statementBytes.length ≤ statementBytesMax)
    (hparse : parseStatement statementBytes = .ok statement) :
    ∃ receipt, signEnvelope C statementBytes magic purpose seed keyId = .ok (magic ++ receipt) ∧
      (magic ++ receipt).length ≤ receiptBytesMax ∧
      parseEnvelope (magic ++ receipt) magic purpose .default parseStatement =
        .ok ⟨purpose, keyId, statementBytes, statement,
          C.sign seed (signatureInput purpose statementBytes)⟩ := by
  let signature := C.sign seed (signatureInput purpose statementBytes)
  let fields : List Field :=
    [.text purpose, .text keyId, .raw statementBytes, .raw signature.val]
  have hkeyFits := fits_of_identityIsValid hkey
  have hkeyCheck : (Field.text keyId).check = .ok () := by
    refine require_of_true ?_
    rw [receiptTextIsValid, Bool.and_eq_true, Bool.and_eq_true, decide_eq_true_eq,
      Bool.not_eq_true', List.isEmpty_eq_false_iff]
    exact ⟨⟨hkeyFits.nonempty, hkeyFits.length_le.trans (by decide)⟩, hkeyFits.ascii⟩
  have hpurposeCheck : (Field.text purpose).check = .ok () := require_of_true hpurpose
  have hpurposeLength : purpose.length ≤ 512 := by
    simp only [receiptTextIsValid, Bool.and_eq_true, decide_eq_true_eq] at hpurpose
    exact hpurpose.1.2
  have hcheck : ∀ field ∈ fields, field.check = .ok () := by
    intro field hfield
    simp only [fields, List.mem_cons, List.not_mem_nil, or_false] at hfield
    rcases hfield with rfl | rfl | rfl | rfl
    · exact hpurposeCheck
    · exact hkeyCheck
    · rfl
    · rfl
  have hencoded : encodedLength fields ≤ 512 + 128 + statementBytesMax + 64 + 20 := by
    have hsignature : signature.val.length = 64 := signature.property
    have hkeyLength := hkeyFits.length_le
    simp only [encodedLength, framesLength, fields, List.map_cons, List.map_nil, List.sum_cons,
      List.sum_nil, Field.bytes, hsignature]
    omega
  have hbound : magic.length + encodedLength fields ≤ receiptBytesMax := by
    have hconst : 64 + (512 + 128 + statementBytesMax + 64 + 20) ≤ receiptBytesMax := by decide
    omega
  have hpush : pushFields receiptBytesMax magic 1 fields = .ok (magic ++ frames 1 fields) :=
    pushFields_eq_ok (by decide) hcheck hbound
  have htotal : (magic ++ frames 1 fields).length ≤ receiptBytesMax := by
    have hne : fields ≠ [] := by simp [fields]
    exact (eq_of_pushFields hne hpush).2.2
  refine ⟨frames 1 fields, hpush, htotal, ?_⟩
  have hreads : ReadsAll (takeEnvelope purpose textBytesMax parseStatement) 1
      (frames 1 fields) ⟨purpose, keyId, statementBytes, statement, signature⟩ := by
    refine (reads_checkedText (by decide) hpurposeCheck).bindAll ?_
    refine ReadsAll.after_check (require_of_true (decide_eq_true rfl)) ?_
    refine (reads_checkedText (by decide) hkeyCheck).bindAll ?_
    refine ReadsAll.after_check (require_of_true hkey) ?_
    refine (reads_take (by decide) statementBytes).bindAll ?_
    refine ReadsAll.after_check hparse ?_
    refine (reads_take (by decide) signature.val).bindAll ?_
    refine ReadsAll.after_check (arrayOr_val signature) ?_
    exact readsAll_finish_bind _
  obtain ⟨c, c', hstart, hread⟩ :=
    hreads.run (lt_of_le_of_lt htotal (by decide)) receiptErrors
  refine bind_eq_ok.mpr ⟨(), rfl, bind_eq_ok.mpr ⟨(), require_of_true (decide_eq_true htotal), ?_⟩⟩
  exact bind_eq_ok.mpr ⟨c, hstart, bind_eq_ok.mpr ⟨_, hread, rfl⟩⟩

/-! ## Inspection -/

/-- `InspectionStatus`. -/
inductive InspectionStatus where
  | structureRejected
  | signatureRejected
  | untrustedSigner
  | inspected
  deriving DecidableEq, Repr

/-- `map_receipt_trust_error`. -/
def mapReceiptTrustError : ReceiptTrustError → ReceiptError
  | .limitExceeded => .limitExceeded
  | .invalidValue => .invalidValue
  | .invalidRecord => .invalidRecord

/-- `ReceiptTrust::parse`. -/
def parseTrust (input : Bytes) (limits : InspectionLimits) :
    Except ReceiptError ReceiptTrustDocument := do
  limits.validate
  (parseReceiptTrust input ⟨limits.trustBytesMax, limits.textBytesMax⟩).mapError
    mapReceiptTrustError

/-- The trust document rejects the signer, its purpose or the time. -/
def rejectsSigner (envelope : ReceiptEnvelope σ) (trust : ReceiptTrustDocument) (time : Int64) :
    Bool :=
  trust.acceptedPurpose ≠ envelope.acceptedPurpose || trust.keyId ≠ envelope.keyId ||
    time < trust.notBeforeUnixS || trust.notAfterUnixS ≤ time

/-- `ReceiptEnvelope::authenticate`. -/
def ReceiptEnvelope.authenticate (C : Crypto) (envelope : ReceiptEnvelope σ)
    (trust : ReceiptTrustDocument) (time : Int64) : Except ReceiptError InspectionStatus := do
  require (C.keyIsValid trust.publicKey) .invalidValue
  require (C.verifyStrict trust.publicKey
    (signatureInput envelope.acceptedPurpose envelope.statementBytes) envelope.signature)
    .badSignature
  return if rejectsSigner envelope trust time then .untrustedSigner else .inspected

/-- The trust document of a signing seed, for one purpose and one interval. -/
def trustOf (C : Crypto) (seed : Octets 32) (keyId purpose : Text)
    (notBefore notAfter : Int64) : ReceiptTrustDocument :=
  ⟨keyId, C.verifyingKey seed, purpose, notBefore, notAfter⟩

/-- Under the trust document of its seed, inside the interval, a signed envelope is
accepted. -/
theorem authenticate_signed {C : Crypto} (hC : C.Correct) (seed : Octets 32) {keyId purpose : Text}
    {statementBytes : Bytes} {statement : σ} {notBefore notAfter time : Int64}
    (hbefore : notBefore ≤ time) (hafter : time < notAfter) :
    (⟨purpose, keyId, statementBytes, statement,
        C.sign seed (signatureInput purpose statementBytes)⟩ : ReceiptEnvelope σ).authenticate C
      (trustOf C seed keyId purpose notBefore notAfter) time = .ok .inspected := by
  have hkey := hC.keyIsValid_verifyingKey seed
  have hverify := hC.verifyStrict_sign seed (signatureInput purpose statementBytes)
  refine bind_eq_ok.mpr ⟨(), require_of_true hkey, ?_⟩
  refine bind_eq_ok.mpr ⟨(), require_of_true hverify, ?_⟩
  refine congrArg Except.ok (if_neg ?_)
  have hinterval : ¬ (time < notBefore ∨ notAfter ≤ time) := by
    rw [not_or]
    exact ⟨Int64.not_lt.mpr hbefore, Int64.not_le.mpr hafter⟩
  intro hrejects
  simp only [rejectsSigner, trustOf, ne_eq, not_true_eq_false, decide_false, Bool.false_or,
    Bool.or_eq_true] at hrejects
  rcases hrejects with h | h
  · exact hinterval (.inl (of_decide_eq_true h))
  · exact hinterval (.inr (of_decide_eq_true h))

end

end Receipt
end Kapsel
