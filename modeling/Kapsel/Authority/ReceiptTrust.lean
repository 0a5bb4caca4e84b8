import Kapsel.Bytes.Canonical
import Kapsel.Authority.Grant

/-!
# Receipt trust documents

`crates/kapsel-authority/src/lib.rs`: the appointment of one receipt-signing key, with
its accepted purpose and its interval of Unix seconds, as canonical bytes.

* `parseReceiptTrust_encode`: a document that encodes is read back under the default limits.
* `eq_of_parseReceiptTrust`: bytes that are accepted under any limits are those that their
  document encodes to, since every record of a trust document is canonical.
* `receipt_trust_codec`: **the laws of the codec**, in both directions.
-/

namespace Kapsel

open Framing Grammar Fallible BigEndian

namespace Authority

def receiptTrustMagic : Bytes := utf8 "KAPSEL-KAP0038-K8S-TRUST-V2\x00"
def receiptTrustBytesMax : ℕ := 1024
def receiptTextBytesMax : ℕ := 512

/-- `ReceiptTrustDocument`. -/
structure ReceiptTrustDocument where
  keyId : Text
  publicKey : Octets 32
  acceptedPurpose : Text
  notBeforeUnixS : Int64
  notAfterUnixS : Int64
  deriving DecidableEq

/-- `ReceiptTrustError`. -/
inductive ReceiptTrustError where
  | limitExceeded
  | invalidValue
  | invalidRecord
  deriving DecidableEq, Repr

/-- `ReceiptTrustLimits`. -/
structure ReceiptTrustLimits where
  trustBytesMax : ℕ
  textBytesMax : ℕ

/-- `receipt_text_is_valid`. -/
def receiptTextIsValid (value : Text) : Bool :=
  !value.isEmpty && value.length ≤ receiptTextBytesMax && isAscii value

/-- `validate_receipt_trust`. -/
def validateReceiptTrust (trust : ReceiptTrustDocument) : Except ReceiptTrustError Unit :=
  require (identityIsValid trust.keyId && receiptTextIsValid trust.acceptedPurpose &&
    trust.notBeforeUnixS < trust.notAfterUnixS) .invalidValue

/-- `validate_receipt_trust_limits`. -/
def validateReceiptTrustLimits (limits : ReceiptTrustLimits) : Except ReceiptTrustError Unit :=
  require (0 < limits.trustBytesMax && limits.trustBytesMax ≤ receiptTrustBytesMax &&
    0 < limits.textBytesMax && limits.textBytesMax ≤ receiptTextBytesMax) .limitExceeded

/-- `push_trust`. -/
def pushTrust (output : Bytes) (tag : UInt8) (value : Bytes) : Except ReceiptTrustError Bytes :=
  push .limitExceeded output tag value receiptTrustBytesMax

/-- `push_trust_text`. -/
def pushTrustText (output : Bytes) (tag : UInt8) (value : Text) :
    Except ReceiptTrustError Bytes := do
  require (receiptTextIsValid value) .invalidValue
  pushTrust output tag value

/-- `encode_receipt_trust`. -/
def encodeReceiptTrust (trust : ReceiptTrustDocument) : Except ReceiptTrustError Bytes := do
  validateReceiptTrust trust
  let output ← pushTrustText receiptTrustMagic 1 trust.keyId
  let output ← pushTrust output 2 trust.publicKey.val
  let output ← pushTrustText output 3 trust.acceptedPurpose
  let output ← pushTrust output 4 (int64BeBytes trust.notBeforeUnixS).val
  pushTrust output 5 (int64BeBytes trust.notAfterUnixS).val

/-- The framing errors of a trust document. -/
def trustErrors : TakeErrors ReceiptTrustError := ⟨.invalidRecord, .limitExceeded, .invalidRecord⟩

/-- `TrustRecords::take`. -/
def takeTrust (tag : UInt8) : StateT Cursor (Except ReceiptTrustError) Bytes :=
  fun records => records.take trustErrors tag

/-- `TrustRecords::text`. -/
def takeTrustText (maximumTextBytes : ℕ) (tag : UInt8) :
    StateT Cursor (Except ReceiptTrustError) Text := do
  let bytes ← takeTrust tag
  require (bytes.length ≤ maximumTextBytes) ReceiptTrustError.limitExceeded
  require (isAscii bytes) ReceiptTrustError.invalidValue
  return bytes

/-- A record of fixed size. -/
def takeTrustArray (n : ℕ) (tag : UInt8) : StateT Cursor (Except ReceiptTrustError) (Octets n) := do
  arrayOr n ReceiptTrustError.invalidValue (← takeTrust tag)

/-- The five records of a trust document, then nothing. -/
def takeTrustDocument (maximumTextBytes : ℕ) :
    StateT Cursor (Except ReceiptTrustError) ReceiptTrustDocument := do
  let keyId ← takeTrustText maximumTextBytes 1
  let publicKey ← takeTrustArray 32 2
  let acceptedPurpose ← takeTrustText maximumTextBytes 3
  let notBefore ← takeTrustArray 8 4
  let notAfter ← takeTrustArray 8 5
  fun records => (records.finish trustErrors).map fun _ =>
    (⟨keyId, publicKey, acceptedPurpose, int64OfBeBytes notBefore, int64OfBeBytes notAfter⟩,
      records)

/-- `parse_receipt_trust`. -/
def parseReceiptTrust (input : Bytes) (limits : ReceiptTrustLimits) :
    Except ReceiptTrustError ReceiptTrustDocument := do
  validateReceiptTrustLimits limits
  require (input.length ≤ limits.trustBytesMax) .limitExceeded
  let records ← Cursor.start trustErrors input receiptTrustMagic
  let (trust, _) ← takeTrustDocument limits.textBytesMax records
  validateReceiptTrust trust
  return trust

/-! ## Reading back what was encoded -/

/-- The default limits of an inspection. -/
def defaultTrustLimits : ReceiptTrustLimits := ⟨receiptTrustBytesMax, receiptTextBytesMax⟩

theorem reads_takeTrustText {tag : UInt8} (htag : tag ≠ 255) {value : Text}
    (h : receiptTextIsValid value = true) :
    Reads (takeTrustText receiptTextBytesMax tag) tag (tag + 1) (frame tag value) value := by
  simp only [receiptTextIsValid, Bool.and_eq_true, decide_eq_true_eq] at h
  refine (reads_take htag value).and_then ?_
  refine Reads.after_check (require_of_true (decide_eq_true h.1.2)) ?_
  refine Reads.after_check (require_of_true h.2) ?_
  exact reads_pure value

theorem reads_takeTrustArray {n : ℕ} {tag : UInt8} (htag : tag ≠ 255) (value : Octets n) :
    Reads (takeTrustArray n tag) tag (tag + 1) (frame tag value.val) value := by
  refine (reads_take htag value.val).and_then ?_
  exact reads_lift (arrayOr_val value)

/-- The records of a trust document. -/
def trustFrames (trust : ReceiptTrustDocument) : Bytes :=
  frame 1 trust.keyId ++ (frame 2 trust.publicKey.val ++ (frame 3 trust.acceptedPurpose ++
    (frame 4 (int64BeBytes trust.notBeforeUnixS).val ++ (frame 5 (int64BeBytes trust.notAfterUnixS).val))))

theorem pushTrustText_eq_ok {output next : Bytes} {tag : UInt8} {value : Text}
    (h : pushTrustText output tag value = .ok next) :
    receiptTextIsValid value = true ∧ pushTrust output tag value = .ok next := by
  obtain ⟨_, hvalid, h⟩ := bind_eq_ok.mp h
  exact ⟨require_eq_ok.mp hvalid, h⟩

/-- What an encoded trust document is. -/
theorem encodeReceiptTrust_eq_ok {trust : ReceiptTrustDocument} {bytes : Bytes}
    (h : encodeReceiptTrust trust = .ok bytes) :
    validateReceiptTrust trust = .ok () ∧ receiptTextIsValid trust.keyId = true ∧
      bytes = receiptTrustMagic ++ trustFrames trust ∧ bytes.length ≤ receiptTrustBytesMax := by
  unfold encodeReceiptTrust at h
  obtain ⟨_, hvalid, h⟩ := bind_eq_ok.mp h
  obtain ⟨_, h1, h⟩ := bind_eq_ok.mp h
  obtain ⟨_, h2, h⟩ := bind_eq_ok.mp h
  obtain ⟨_, h3, h⟩ := bind_eq_ok.mp h
  obtain ⟨_, h4, h5⟩ := bind_eq_ok.mp h
  obtain ⟨hkey, h1⟩ := pushTrustText_eq_ok h1
  obtain ⟨-, h3⟩ := pushTrustText_eq_ok h3
  obtain ⟨rfl, -⟩ := eq_of_push h1
  obtain ⟨rfl, -⟩ := eq_of_push h2
  obtain ⟨rfl, -⟩ := eq_of_push h3
  obtain ⟨rfl, -⟩ := eq_of_push h4
  obtain ⟨rfl, hlength⟩ := eq_of_push h5
  refine ⟨hvalid, hkey, ?_, hlength⟩
  simp only [trustFrames, List.append_assoc]

/-- A document with a short purpose and a proper interval encodes. -/
theorem exists_encodeReceiptTrust {trust : ReceiptTrustDocument}
    (hkey : identityIsValid trust.keyId = true)
    (hpurpose : receiptTextIsValid trust.acceptedPurpose = true)
    (hinterval : trust.notBeforeUnixS < trust.notAfterUnixS) :
    ∃ bytes, encodeReceiptTrust trust = .ok bytes := by
  have hfits := fits_of_identityIsValid hkey
  have hkeyText : receiptTextIsValid trust.keyId = true := by
    rw [receiptTextIsValid, Bool.and_eq_true, Bool.and_eq_true, decide_eq_true_eq,
      Bool.not_eq_true', List.isEmpty_eq_false_iff]
    exact ⟨⟨hfits.nonempty, hfits.length_le.trans (by decide)⟩, hfits.ascii⟩
  have hlength : trust.acceptedPurpose.length ≤ 512 := by
    simp only [receiptTextIsValid, Bool.and_eq_true, decide_eq_true_eq] at hpurpose
    exact hpurpose.1.2
  have hmagic : receiptTrustMagic.length = 28 := by decide
  have hkeyLength := hfits.length_le
  have hpublic := trust.publicKey.property
  have hbefore := (int64BeBytes trust.notBeforeUnixS).property
  have hafter := (int64BeBytes trust.notAfterUnixS).property
  have hvalid : validateReceiptTrust trust = .ok () := by
    refine require_of_true ?_
    rw [Bool.and_eq_true, Bool.and_eq_true, decide_eq_true_eq]
    exact ⟨⟨hkey, hpurpose⟩, hinterval⟩
  have hmax : receiptTrustBytesMax = 1024 := rfl
  refine ⟨_, bind_eq_ok.mpr ⟨(), hvalid, bind_eq_ok.mpr ⟨_, bind_eq_ok.mpr ⟨(),
    require_of_true hkeyText, push_eq_ok (by decide) ?_⟩, bind_eq_ok.mpr ⟨_,
    push_eq_ok (by decide) ?_, bind_eq_ok.mpr ⟨_, bind_eq_ok.mpr ⟨(), require_of_true hpurpose,
    push_eq_ok (by decide) ?_⟩, bind_eq_ok.mpr ⟨_, push_eq_ok (by decide) ?_,
    push_eq_ok (by decide) ?_⟩⟩⟩⟩⟩⟩
  · omega
  all_goals
    simp only [List.length_append, length_frame]
    omega

theorem readsAll_takeTrustDocument {trust : ReceiptTrustDocument}
    (hkey : receiptTextIsValid trust.keyId = true)
    (hpurpose : receiptTextIsValid trust.acceptedPurpose = true) :
    ReadsAll (takeTrustDocument receiptTextBytesMax) 1 (trustFrames trust) trust := by
  refine (reads_takeTrustText (by decide) hkey).bindAll ?_
  refine (reads_takeTrustArray (by decide) trust.publicKey).bindAll ?_
  refine (reads_takeTrustText (by decide) hpurpose).bindAll ?_
  refine (reads_takeTrustArray (by decide) (int64BeBytes trust.notBeforeUnixS)).bindAll ?_
  refine (reads_takeTrustArray (by decide) (int64BeBytes trust.notAfterUnixS)).bindLast ?_
  rw [int64OfBeBytes_beBytes, int64OfBeBytes_beBytes]
  exact readsAll_finish trust

/-- **A trust document that encodes is read back.** -/
theorem parseReceiptTrust_encode {trust : ReceiptTrustDocument} {bytes : Bytes}
    (h : encodeReceiptTrust trust = .ok bytes) :
    parseReceiptTrust bytes defaultTrustLimits = .ok trust := by
  obtain ⟨hvalid, hkey, rfl, hlength⟩ := encodeReceiptTrust_eq_ok h
  have hpurpose : receiptTextIsValid trust.acceptedPurpose = true := by
    have hchecks := require_eq_ok.mp hvalid
    simp only [Bool.and_eq_true] at hchecks
    exact hchecks.1.2
  have hlength32 : (receiptTrustMagic ++ trustFrames trust).length < 2 ^ 32 :=
    lt_of_le_of_lt hlength (by decide)
  obtain ⟨c, c', hstart, hread⟩ :=
    (readsAll_takeTrustDocument hkey hpurpose).run hlength32 trustErrors
  refine bind_eq_ok.mpr ⟨(), rfl, bind_eq_ok.mpr ⟨(), require_of_true (decide_eq_true hlength),
    bind_eq_ok.mpr ⟨c, hstart, bind_eq_ok.mpr ⟨(trust, c'), hread, ?_⟩⟩⟩⟩
  exact bind_eq_ok.mpr ⟨(), hvalid, rfl⟩

/-! ## Encoding what was read -/

theorem validateReceiptTrust_eq_ok {trust : ReceiptTrustDocument} :
    validateReceiptTrust trust = .ok () ↔
      identityIsValid trust.keyId = true ∧ receiptTextIsValid trust.acceptedPurpose = true ∧
        trust.notBeforeUnixS < trust.notAfterUnixS := by
  rw [validateReceiptTrust, require_eq_ok, Bool.and_eq_true, Bool.and_eq_true,
    decide_eq_true_eq, and_assoc]

theorem takes_takeTrustText {maximumTextBytes : ℕ} {tag : UInt8} :
    Takes (takeTrustText maximumTextBytes tag) (frame tag) := by
  intro c value c' h
  unfold takeTrustText at h
  obtain ⟨⟨bytes, c₁⟩, htake, h⟩ := bind_eq_ok.mp h
  obtain ⟨⟨_, c₂⟩, hlength, h⟩ := bind_eq_ok.mp h
  obtain ⟨⟨_, c₃⟩, hascii, h⟩ := bind_eq_ok.mp h
  obtain ⟨rfl, rfl⟩ := Prod.mk.inj (Except.ok.inj h)
  -- neither check moves the records
  have hsame : c₃ = c₂ := cursor_of_lift_eq_ok hascii
  have hsame' : c₂ = c₁ := cursor_of_lift_eq_ok hlength
  rw [hsame, hsame']
  exact Framing.takes_take tag c bytes c₁ htake

theorem takes_takeTrustArray {n : ℕ} {tag : UInt8} :
    Takes (takeTrustArray n tag) fun array => frame tag array.val :=
  (Framing.takes_take tag).and_then fun _ _ h => congrArg (frame tag) (val_of_arrayOr h).symm

/-- **A trust document tells the records that it was read from.** -/
theorem takesAll_takeTrustDocument {maximumTextBytes : ℕ} :
    TakesAll (takeTrustDocument maximumTextBytes) [] trustFrames := by
  refine takes_takeTrustText.bindAll fun keyId => ?_
  refine takes_takeTrustArray.bindAll fun publicKey => ?_
  refine takes_takeTrustText.bindAll fun acceptedPurpose => ?_
  refine takes_takeTrustArray.bindAll fun notBefore => ?_
  refine takes_takeTrustArray.bindAll fun notAfter => ?_
  refine takesAll_end ?_
  simp only [trustFrames, int64BeBytes_ofBeBytes, List.nil_append, List.append_assoc]

/-- What an accepted trust document is. -/
theorem eq_of_parseReceiptTrust {input : Bytes} {limits : ReceiptTrustLimits}
    {trust : ReceiptTrustDocument} (h : parseReceiptTrust input limits = .ok trust) :
    validateReceiptTrust trust = .ok () ∧ input = receiptTrustMagic ++ trustFrames trust := by
  unfold parseReceiptTrust at h
  obtain ⟨_, -, h⟩ := bind_eq_ok.mp h
  obtain ⟨_, -, h⟩ := bind_eq_ok.mp h
  obtain ⟨records, hstart, h⟩ := bind_eq_ok.mp h
  obtain ⟨⟨trust', c⟩, htake, h⟩ := bind_eq_ok.mp h
  obtain ⟨_, hvalid, h⟩ := bind_eq_ok.mp h
  obtain rfl := Except.ok.inj h
  exact ⟨hvalid, takesAll_takeTrustDocument.run hstart htake⟩

/-- **The laws of the trust codec.**  An encoding has at most 1 KiB and is read back, every
document whose fields are valid is encoded, and accepted bytes are the encoding of their
document. -/
theorem receipt_trust_codec :
    (∀ trust bytes, encodeReceiptTrust trust = .ok bytes →
        bytes.length ≤ 1024 ∧ parseReceiptTrust bytes defaultTrustLimits = .ok trust) ∧
      (∀ trust, validateReceiptTrust trust = .ok () →
        ∃ bytes, encodeReceiptTrust trust = .ok bytes) ∧
      ∀ bytes limits trust, parseReceiptTrust bytes limits = .ok trust →
        encodeReceiptTrust trust = .ok bytes := by
  have hencodes : ∀ trust, validateReceiptTrust trust = .ok () →
      ∃ bytes, encodeReceiptTrust trust = .ok bytes := by
    intro trust hvalid
    obtain ⟨hkey, hpurpose, hinterval⟩ := validateReceiptTrust_eq_ok.mp hvalid
    exact exists_encodeReceiptTrust hkey hpurpose hinterval
  refine ⟨fun trust bytes h => ?_, hencodes, fun bytes limits trust h => ?_⟩
  · obtain ⟨-, -, -, hlength⟩ := encodeReceiptTrust_eq_ok h
    exact ⟨hlength, parseReceiptTrust_encode h⟩
  · obtain ⟨hvalid, hinput⟩ := eq_of_parseReceiptTrust h
    obtain ⟨encoded, hencoded⟩ := hencodes trust hvalid
    obtain ⟨-, -, hwritten, -⟩ := encodeReceiptTrust_eq_ok hencoded
    rw [hencoded, hwritten, hinput]

end Authority
end Kapsel
