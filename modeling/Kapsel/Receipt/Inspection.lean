import Kapsel.Bytes.Readers
import Kapsel.Receipt.Git
import Kapsel.Receipt.Statement

/-!
# What an offline inspection decides

`inspect_receipt` and `inspect_git_receipt` parse a receipt, parse a trust document, verify
a signature and compare the signer with its appointment.  They do so in two bodies of code
with their own error handling; `decision` is the one decision that both make.

* `inspectReceipt_eq` and `inspectGitReceipt_eq`: each inspection is that decision.  For
  Kubernetes this needs `refuses_parseReceiptEnvelope`: the inner error that means a bad
  signature, and the one that carries a disclosed statement, come from authentication and
  never out of a parser.
* `decision_decides`: the four statuses and the disclosed statement, each by its own
  condition.
* `decision_mono`: larger limits change nothing but a rejection of the structure.
* `inspection_decides_exactly` puts them together for both effects.
-/

namespace Kapsel

open Framing Grammar Fallible Authority Receipt

namespace Receipt

open Gateway (ReceiptError)

/-! ## The decision -/

section
variable {σ : Type} (C : Crypto)

/-- The trust document appoints the signer for this purpose, in this second. -/
def Appoints (document : ReceiptTrustDocument) (envelope : ReceiptEnvelope σ) (time : Int64) :
    Prop :=
  document.keyId = envelope.keyId ∧ document.acceptedPurpose = envelope.acceptedPurpose ∧
    document.notBeforeUnixS ≤ time ∧ time < document.notAfterUnixS

theorem rejectsSigner_iff {envelope : ReceiptEnvelope σ} {document : ReceiptTrustDocument}
    {time : Int64} : rejectsSigner envelope document time = true ↔
      ¬ Appoints document envelope time := by
  unfold rejectsSigner Appoints
  simp only [Bool.or_eq_true, decide_eq_true_eq, ne_eq, not_and_or, Int64.not_le, Int64.not_lt]
  tauto

/-- The signature over the embedded bytes verifies under the key of the document. -/
def Verifies (document : ReceiptTrustDocument) (envelope : ReceiptEnvelope σ) : Prop :=
  C.verifyStrict document.publicKey
    (signatureInput envelope.acceptedPurpose envelope.statementBytes) envelope.signature = true

instance (document : ReceiptTrustDocument) (envelope : ReceiptEnvelope σ) :
    Decidable (Verifies C document envelope) :=
  inferInstanceAs (Decidable (_ = true))

/-- What an inspection reports of a parsed envelope and a parsed trust document. -/
def decision (envelope : Except ReceiptError (ReceiptEnvelope σ))
    (document : Except ReceiptError ReceiptTrustDocument) (time : Int64) :
    InspectionStatus × Option σ :=
  match envelope, document with
  | .ok envelope, .ok document =>
      if C.keyIsValid document.publicKey = false then (.structureRejected, none)
      else if ¬ Verifies C document envelope then (.signatureRejected, none)
      else if rejectsSigner envelope document time then (.untrustedSigner, some envelope.statement)
      else (.inspected, some envelope.statement)
  | .ok _, .error _ => (.structureRejected, none)
  | .error _, _ => (.structureRejected, none)

/-- The structure is accepted: both documents parse, and the key is one. -/
structure Accepts (envelope? : Except ReceiptError (ReceiptEnvelope σ))
    (document? : Except ReceiptError ReceiptTrustDocument) (envelope : ReceiptEnvelope σ)
    (document : ReceiptTrustDocument) : Prop where
  parsed : envelope? = .ok envelope
  trusted : document? = .ok document
  key : C.keyIsValid document.publicKey = true

/-- What a report says, status by status.  `envelope?` and `document?` are what the
parsers return under the limits, `parseStatement` is the parser of the embedded bytes. -/
structure Decides (limits : InspectionLimits)
    (envelope? : Except ReceiptError (ReceiptEnvelope σ))
    (document? : Except ReceiptError ReceiptTrustDocument)
    (parseStatement : Bytes → Except ReceiptError σ) (time : Int64) (status : InspectionStatus)
    (statement : Option σ) : Prop where
  structureRejected : status = .structureRejected ↔
    limits.validate ≠ .ok () ∨ (∀ envelope, envelope? ≠ .ok envelope) ∨
      (∀ document, document? ≠ .ok document) ∨
      ∃ document, document? = .ok document ∧ C.keyIsValid document.publicKey = false
  signatureRejected : status = .signatureRejected ↔
    ∃ envelope document, Accepts C envelope? document? envelope document ∧
      ¬ Verifies C document envelope
  untrustedSigner : status = .untrustedSigner ↔
    ∃ envelope document, Accepts C envelope? document? envelope document ∧
      Verifies C document envelope ∧ ¬ Appoints document envelope time
  inspected : status = .inspected ↔
    ∃ envelope document, Accepts C envelope? document? envelope document ∧
      Verifies C document envelope ∧ Appoints document envelope time
  disclosed : ∀ s, statement = some s ↔
    ∃ envelope document, Accepts C envelope? document? envelope document ∧
      Verifies C document envelope ∧ parseStatement envelope.statementBytes = .ok s

end

section
variable {σ : Type} {C : Crypto} {limits : InspectionLimits}
  {envelope? : Except ReceiptError (ReceiptEnvelope σ)}
  {document? : Except ReceiptError ReceiptTrustDocument}
  {parseStatement : Bytes → Except ReceiptError σ} {time : Int64}

/-- What is accepted is unique. -/
theorem Accepts.exists_iff {envelope : ReceiptEnvelope σ} {document : ReceiptTrustDocument}
    (h : Accepts C envelope? document? envelope document)
    (p : ReceiptEnvelope σ → ReceiptTrustDocument → Prop) :
    (∃ e d, Accepts C envelope? document? e d ∧ p e d) ↔ p envelope document := by
  constructor
  · rintro ⟨e, d, h', hp⟩
    obtain rfl := Except.ok.inj (h'.parsed.symm.trans h.parsed)
    obtain rfl := Except.ok.inj (h'.trusted.symm.trans h.trusted)
    exact hp
  · intro hp
    exact ⟨envelope, document, h, hp⟩

/-- A rejected structure decides alone. -/
theorem decides_of_not_accepts
    (h : ∀ envelope document, ¬ Accepts C envelope? document? envelope document) :
    Decides C limits envelope? document? parseStatement time .structureRejected none where
  structureRejected := by
    refine ⟨fun _ => ?_, fun _ => rfl⟩
    cases henvelope : envelope? with
    | error e => exact .inr (.inl fun _ h => (nomatch h))
    | ok envelope =>
      cases hdocument : document? with
      | error e => exact .inr (.inr (.inl fun _ h => (nomatch h)))
      | ok document =>
        refine .inr (.inr (.inr ⟨document, rfl, ?_⟩))
        exact Bool.eq_false_iff.mpr fun hkey => h envelope document ⟨henvelope, hdocument, hkey⟩
  signatureRejected := ⟨fun h => (nomatch h), fun ⟨e, d, haccepts, _⟩ => absurd haccepts (h e d)⟩
  untrustedSigner := ⟨fun h => (nomatch h), fun ⟨e, d, haccepts, _⟩ => absurd haccepts (h e d)⟩
  inspected := ⟨fun h => (nomatch h), fun ⟨e, d, haccepts, _⟩ => absurd haccepts (h e d)⟩
  disclosed := fun _ => ⟨fun h => (nomatch h), fun ⟨e, d, haccepts, _⟩ => absurd haccepts (h e d)⟩

/-- An accepted structure is not rejected. -/
theorem Accepts.not_structureRejected
    (hvalid : limits.validate ≠ .ok () → ∀ e, envelope? ≠ .ok e) {envelope : ReceiptEnvelope σ}
    {document : ReceiptTrustDocument} (h : Accepts C envelope? document? envelope document) :
    ¬ (limits.validate ≠ .ok () ∨ (∀ envelope, envelope? ≠ .ok envelope) ∨
      (∀ document, document? ≠ .ok document) ∨
      ∃ document, document? = .ok document ∧ C.keyIsValid document.publicKey = false) := by
  rintro (hlimits | henvelope | hdocument | ⟨document', hdocument, hkey⟩)
  · exact hvalid hlimits envelope h.parsed
  · exact henvelope envelope h.parsed
  · exact hdocument document h.trusted
  · obtain rfl := Except.ok.inj (hdocument.symm.trans h.trusted)
    rw [h.key] at hkey
    cases hkey

/-- An accepted structure leaves the signature and the appointment to decide. -/
theorem Accepts.decision_eq {envelope : ReceiptEnvelope σ} {document : ReceiptTrustDocument}
    (h : Accepts C envelope? document? envelope document) :
    decision C envelope? document? time =
      if ¬ Verifies C document envelope then (.signatureRejected, none)
      else if rejectsSigner envelope document time then
        (.untrustedSigner, some envelope.statement)
      else (.inspected, some envelope.statement) := by
  have hkey : ¬ C.keyIsValid document.publicKey = false := by
    rw [h.key]
    decide
  rw [h.parsed, h.trusted]
  exact if_neg hkey

theorem decision_of_not_accepts
    (h : ∀ envelope document, ¬ Accepts C envelope? document? envelope document) :
    decision C envelope? document? time = (.structureRejected, none) := by
  cases henvelope : envelope? with
  | error e => rfl
  | ok envelope =>
    cases hdocument : document? with
    | error e => rfl
    | ok document =>
      refine if_pos (Bool.eq_false_iff.mpr fun hkey => ?_)
      exact h envelope document ⟨henvelope, hdocument, hkey⟩

/-- **The decision is exact.** -/
theorem decision_decides (hvalid : limits.validate ≠ .ok () → ∀ e, envelope? ≠ .ok e)
    (hparse : ∀ e, envelope? = .ok e → parseStatement e.statementBytes = .ok e.statement) :
    Decides C limits envelope? document? parseStatement time
      (decision C envelope? document? time).1 (decision C envelope? document? time).2 := by
  by_cases haccepts : ∃ envelope document, Accepts C envelope? document? envelope document
  · obtain ⟨envelope, document, h⟩ := haccepts
    have hnot := h.not_structureRejected hvalid
    have hstatement := hparse envelope h.parsed
    have hrejects : rejectsSigner envelope document time = true ↔
        ¬ Appoints document envelope time := rejectsSigner_iff
    rw [h.decision_eq]
    refine ⟨?_, ?_, ?_, ?_, ?_⟩
    · rw [iff_false_right hnot]
      split_ifs <;> exact fun h => (nomatch h)
    · rw [h.exists_iff]
      split_ifs <;> simp_all
    · rw [h.exists_iff fun e d => Verifies C d e ∧ ¬ Appoints d e time]
      split_ifs <;> simp_all
    · rw [h.exists_iff fun e d => Verifies C d e ∧ Appoints d e time]
      split_ifs <;> simp_all
    · intro s
      rw [h.exists_iff fun e d => Verifies C d e ∧ parseStatement e.statementBytes = .ok s,
        hstatement]
      split_ifs <;> simp_all
  · have hnone : ∀ envelope document, ¬ Accepts C envelope? document? envelope document :=
      fun envelope document h => haccepts ⟨envelope, document, h⟩
    rw [decision_of_not_accepts hnone]
    exact decides_of_not_accepts hnone

/-- Authentication, check by check. -/
theorem authenticate_eq (envelope : ReceiptEnvelope σ) (document : ReceiptTrustDocument) :
    envelope.authenticate C document time =
      if C.keyIsValid document.publicKey = false then .error .invalidValue
      else if ¬ Verifies C document envelope then .error .badSignature
      else .ok (if rejectsSigner envelope document time then .untrustedSigner else .inspected) := by
  unfold ReceiptEnvelope.authenticate
  by_cases hkey : C.keyIsValid document.publicKey = false
  · rw [if_pos hkey, bind_of_error (require_of_false hkey)]
  · rw [if_neg hkey, bind_of_ok (require_of_true (Bool.eq_true_of_not_eq_false hkey))]
    by_cases hverifies : Verifies C document envelope
    · rw [if_neg (not_not.mpr hverifies), bind_of_ok (require_of_true hverifies)]
      rfl
    · rw [if_pos hverifies, bind_of_error (require_of_false (Bool.eq_false_iff.mpr hverifies))]

theorem decision_ok (envelope : ReceiptEnvelope σ) (document : ReceiptTrustDocument) :
    decision C (.ok envelope) (.ok document) time =
      if C.keyIsValid document.publicKey = false then (.structureRejected, none)
      else if ¬ Verifies C document envelope then (.signatureRejected, none)
      else if rejectsSigner envelope document time then (.untrustedSigner, some envelope.statement)
      else (.inspected, some envelope.statement) := rfl

/-- **Parsers that read more reject less**, and decide alike otherwise. -/
theorem decision_mono {envelope?' : Except ReceiptError (ReceiptEnvelope σ)}
    {document?' : Except ReceiptError ReceiptTrustDocument}
    (henvelope : ∀ e, envelope? = .ok e → envelope?' = .ok e)
    (hdocument : ∀ d, document? = .ok d → document?' = .ok d) :
    decision C envelope? document? time = decision C envelope?' document?' time ∨
      decision C envelope? document? time = (.structureRejected, none) := by
  cases he : envelope? with
  | error e => exact .inr rfl
  | ok envelope =>
    cases hd : document? with
    | error e => exact .inr rfl
    | ok document =>
      rw [henvelope envelope he, hdocument document hd]
      exact .inl rfl

end

/-! ## Larger limits -/

/-- Every limit is at most the other's. -/
structure InspectionLimits.Within (limits limits' : InspectionLimits) : Prop where
  receiptBytesMax : limits.receiptBytesMax ≤ limits'.receiptBytesMax
  statementBytesMax : limits.statementBytesMax ≤ limits'.statementBytesMax
  trustBytesMax : limits.trustBytesMax ≤ limits'.trustBytesMax
  textBytesMax : limits.textBytesMax ≤ limits'.textBytesMax

theorem require_le_mono {ε : Type} {error : ε} {n m m' : ℕ} (h : m ≤ m') {u : Unit}
    (hle : require (n ≤ m) error = .ok u) : require (n ≤ m') error = .ok u :=
  require_of_true (decide_eq_true ((of_decide_eq_true (require_eq_ok.mp hle)).trans h))

section
variable {m m' : ℕ} (h : m ≤ m')
include h

theorem extends_text (tag : UInt8) : Extends (text m tag) (text m' tag) := by
  refine .after _ fun bytes => ?_
  refine .bind (.lift fun _ hle => require_le_mono h hle) fun _ => ?_
  exact .refl _

theorem extends_optionalText (tag : UInt8) :
    Extends (optionalText m tag) (optionalText m' tag) :=
  (extends_text h tag).bind fun _ => .refl _

theorem extends_takeEnvelope {σ : Type} (purpose : Text)
    {parseStatement parseStatement' : Bytes → Except ReceiptError σ}
    (hparse : ∀ bytes s, parseStatement bytes = .ok s → parseStatement' bytes = .ok s) :
    Extends (takeEnvelope purpose m parseStatement) (takeEnvelope purpose m' parseStatement') := by
  refine (extends_text h 1).bind fun accepted => .after _ fun _ => ?_
  refine (extends_text h 2).bind fun keyId => .after _ fun _ => .after _ fun statementBytes => ?_
  exact .bind (.lift (hparse statementBytes)) fun _ => .refl _

theorem extends_takeTrustText (tag : UInt8) :
    Extends (takeTrustText m tag) (takeTrustText m' tag) := by
  refine .after _ fun bytes => ?_
  refine .bind (.lift fun _ hle => require_le_mono h hle) fun _ => ?_
  exact .refl _

theorem extends_takeTrustDocument : Extends (takeTrustDocument m) (takeTrustDocument m') := by
  refine (extends_takeTrustText h 1).bind fun keyId => .after _ fun publicKey => ?_
  exact (extends_takeTrustText h 3).bind fun _ => .refl _

end

section
variable {limits limits' : InspectionLimits} (h : limits.Within limits')
  (hvalid' : limits'.validate = .ok ())
include h hvalid'

/-- **An envelope that is read within smaller limits is read within larger ones.** -/
theorem parseEnvelope_mono {σ : Type} {receipt magic : Bytes} {purpose : Text}
    {parseStatement parseStatement' : Bytes → Except ReceiptError σ}
    (hparse : ∀ bytes s, parseStatement bytes = .ok s → parseStatement' bytes = .ok s)
    {envelope : ReceiptEnvelope σ}
    (hread : parseEnvelope receipt magic purpose limits parseStatement = .ok envelope) :
    parseEnvelope receipt magic purpose limits' parseStatement' = .ok envelope := by
  obtain ⟨_, -, hread⟩ := bind_eq_ok.mp hread
  obtain ⟨_, hbound, hread⟩ := bind_eq_ok.mp hread
  obtain ⟨records, hstart, hread⟩ := bind_eq_ok.mp hread
  obtain ⟨⟨envelope', c'⟩, htake, hread⟩ := bind_eq_ok.mp hread
  have htake' := extends_takeEnvelope h.textBytesMax purpose hparse records _ htake
  refine bind_eq_ok.mpr ⟨(), hvalid', bind_eq_ok.mpr ⟨(), ?_, ?_⟩⟩
  · exact require_le_mono h.receiptBytesMax hbound
  · exact bind_eq_ok.mpr ⟨records, hstart, bind_eq_ok.mpr ⟨_, htake', hread⟩⟩

/-- **A trust document that is read within smaller limits is read within larger ones.** -/
theorem parseTrust_mono {trust : Bytes} {document : ReceiptTrustDocument}
    (hread : parseTrust trust limits = .ok document) :
    parseTrust trust limits' = .ok document := by
  obtain ⟨_, -, hread⟩ := bind_eq_ok.mp hread
  have hread := mapError_eq_ok.mp hread
  obtain ⟨_, -, hread⟩ := bind_eq_ok.mp hread
  obtain ⟨_, hbound, hread⟩ := bind_eq_ok.mp hread
  obtain ⟨records, hstart, hread⟩ := bind_eq_ok.mp hread
  obtain ⟨⟨document', c'⟩, htake, hread⟩ := bind_eq_ok.mp hread
  have htake' := extends_takeTrustDocument h.textBytesMax records _ htake
  have hlimits : validateReceiptTrustLimits ⟨limits'.trustBytesMax, limits'.textBytesMax⟩ =
      .ok () := by
    have hall := require_eq_ok.mp hvalid'
    simp only [Bool.and_eq_true] at hall
    refine require_of_true ?_
    simp only [Bool.and_eq_true]
    exact ⟨⟨⟨hall.1.1.1.2, hall.1.1.2⟩, hall.1.2⟩, hall.2⟩
  refine bind_eq_ok.mpr ⟨(), hvalid', mapError_eq_ok.mpr ?_⟩
  refine bind_eq_ok.mpr ⟨(), hlimits, bind_eq_ok.mpr ⟨(), ?_, ?_⟩⟩
  · exact require_le_mono h.trustBytesMax hbound
  · exact bind_eq_ok.mpr ⟨records, hstart, bind_eq_ok.mpr ⟨_, htake', hread⟩⟩

end

/-! ## Structural errors -/

/-- The errors that only say that the structure was refused. -/
def Structural : ReceiptError → Prop
  | .limitExceeded => True
  | .invalidValue => True
  | .invalidRecord => True
  | .badSignature => False
  | .untrustedSigner _ => False

theorem failsWith_take (tag : UInt8) : FailsWith Structural (take tag) :=
  .take trivial trivial trivial tag

theorem failsWith_text (maximumTextBytes : ℕ) (tag : UInt8) :
    FailsWith Structural (text maximumTextBytes tag) := by
  refine (failsWith_take tag).bind fun bytes => ?_
  refine (FailsWith.lift (.require trivial)).bind fun _ => ?_
  exact (FailsWith.lift (.require trivial)).bind fun _ => .pure _

theorem failsWith_optionalText (maximumTextBytes : ℕ) (tag : UInt8) :
    FailsWith Structural (optionalText maximumTextBytes tag) :=
  (failsWith_text maximumTextBytes tag).bind fun _ => .pure _

theorem refuses_arrayOr {n : ℕ} (value : Bytes) :
    Refuses Structural (arrayOr n ReceiptError.invalidValue value) := by
  intro e he
  unfold arrayOr at he
  split at he
  · cases he
  · cases he
    trivial

theorem refuses_present {α : Type} [DecidableEq α] [LE α] [DecidableLE α]
    (absent zero decoded : α) : Refuses Structural (present absent zero decoded) := by
  intro e he
  unfold present at he
  split_ifs at he
  cases he
  trivial

theorem failsWith_generation (tag : UInt8) : FailsWith Structural (generation tag) :=
  (failsWith_take tag).bind fun value =>
    .lift ((refuses_arrayOr value).bind fun _ => refuses_present _ _ _)

theorem failsWith_replicaCount (tag : UInt8) : FailsWith Structural (replicaCount tag) :=
  (failsWith_take tag).bind fun value =>
    .lift ((refuses_arrayOr value).bind fun _ => refuses_present _ _ _)

theorem failsWith_finish : FailsWith Structural finish := .finish trivial

/-- Reading an envelope refuses only its structure, if reading its statement does. -/
theorem refuses_parseEnvelope {σ : Type} {receipt magic : Bytes} {purpose : Text}
    {limits : InspectionLimits} {parseStatement : Bytes → Except ReceiptError σ}
    (hparse : ∀ bytes, Refuses Structural (parseStatement bytes)) :
    Refuses Structural (parseEnvelope receipt magic purpose limits parseStatement) := by
  have htake : FailsWith Structural (takeEnvelope purpose limits.textBytesMax parseStatement) := by
    refine (failsWith_text _ 1).bind fun _ => (FailsWith.lift (.require trivial)).bind fun _ => ?_
    refine (failsWith_text _ 2).bind fun _ => (FailsWith.lift (.require trivial)).bind fun _ => ?_
    refine (failsWith_take 3).bind fun bytes => (FailsWith.lift (hparse bytes)).bind fun _ => ?_
    refine (failsWith_take 4).bind fun bytes => ?_
    refine (FailsWith.lift (refuses_arrayOr bytes)).bind fun _ => ?_
    exact failsWith_finish.bind fun _ => .pure _
  refine .bind (.require trivial) fun _ => .bind (.require trivial) fun _ => ?_
  refine .bind (.start trivial receipt magic) fun records => ?_
  exact .bind (htake records) fun _ => .ok _

end Receipt

namespace Gateway

/-! ## Kubernetes receipts -/

namespace ReceiptStatement

theorem extends_takeApproved {m m' : ℕ} (h : m ≤ m') (snapshotBound : Bool) :
    Extends (takeApproved m snapshotBound) (takeApproved m' snapshotBound) := by
  cases snapshotBound with
  | false => exact .refl _
  | true =>
    refine (extends_text h 28).bind fun uid => ?_
    exact (extends_text h 29).bind fun _ => .refl _

theorem extends_takeStatement {m m' : ℕ} (h : m ≤ m') (snapshotBound : Bool) :
    Extends (takeStatement m snapshotBound) (takeStatement m' snapshotBound) := by
  refine (extends_text h 1).bind fun _ => (extends_text h 2).bind fun _ => ?_
  refine (extends_text h 3).bind fun _ => (extends_text h 4).bind fun _ => ?_
  refine (extends_text h 5).bind fun _ => (extends_text h 6).bind fun _ => ?_
  refine (extends_text h 7).bind fun _ => (extends_text h 8).bind fun _ => ?_
  refine (extends_text h 9).bind fun _ => (extends_text h 10).bind fun _ => ?_
  refine (extends_text h 11).bind fun _ => (extends_optionalText h 12).bind fun _ => ?_
  refine (extends_optionalText h 13).bind fun _ => (extends_optionalText h 14).bind fun _ => ?_
  refine .after _ fun _ => .after _ fun _ => .after _ fun _ => ?_
  refine (extends_optionalText h 18).bind fun _ => ?_
  refine .after _ fun _ => .after _ fun _ => .after _ fun _ => .after _ fun _ => ?_
  refine (extends_optionalText h 23).bind fun _ => (extends_optionalText h 24).bind fun _ => ?_
  refine (extends_optionalText h 25).bind fun _ => ?_
  refine .after _ fun _ => .after _ fun _ => .after _ fun _ => ?_
  exact (extends_takeApproved h snapshotBound).bind fun _ => .refl _

theorem parse_mono {limits limits' : InspectionLimits} (h : limits.Within limits')
    (hvalid' : limits'.validate = .ok ()) {input : Bytes} {s : ReceiptStatement}
    (hread : parse input limits = .ok s) : parse input limits' = .ok s := by
  obtain ⟨_, -, hread⟩ := bind_eq_ok.mp hread
  obtain ⟨_, hbound, hread⟩ := bind_eq_ok.mp hread
  obtain ⟨records, hstart, hread⟩ := bind_eq_ok.mp hread
  obtain ⟨⟨statement, c'⟩, htake, hread⟩ := bind_eq_ok.mp hread
  have htake' := extends_takeStatement h.textBytesMax _ records _ htake
  refine bind_eq_ok.mpr ⟨(), hvalid', bind_eq_ok.mpr ⟨(), ?_, ?_⟩⟩
  · exact require_le_mono h.statementBytesMax hbound
  · exact bind_eq_ok.mpr ⟨records, hstart, bind_eq_ok.mpr ⟨_, htake', hread⟩⟩

theorem failsWith_takeApproved (m : ℕ) (snapshotBound : Bool) :
    FailsWith Structural (takeApproved m snapshotBound) := by
  cases snapshotBound with
  | false => exact .pure none
  | true => exact (failsWith_text m 28).bind fun _ => (failsWith_text m 29).bind fun _ => .pure _

theorem failsWith_takeResult (tag : UInt8) : FailsWith Structural (takeResult tag) := by
  refine (failsWith_take tag).bind fun value => .lift ?_
  intro e he
  unfold OperationResult.fromReceiptBytes at he
  split_ifs at he
  cases he
  trivial

theorem failsWith_takeStatement (m : ℕ) (snapshotBound : Bool) :
    FailsWith Structural (takeStatement m snapshotBound) := by
  refine (failsWith_text m 1).bind fun _ => (failsWith_text m 2).bind fun _ => ?_
  refine (failsWith_text m 3).bind fun _ => (failsWith_text m 4).bind fun _ => ?_
  refine (failsWith_text m 5).bind fun _ => (failsWith_text m 6).bind fun _ => ?_
  refine (failsWith_text m 7).bind fun _ => (failsWith_text m 8).bind fun _ => ?_
  refine (failsWith_text m 9).bind fun _ => (failsWith_text m 10).bind fun _ => ?_
  refine (failsWith_text m 11).bind fun _ => (failsWith_optionalText m 12).bind fun _ => ?_
  refine (failsWith_optionalText m 13).bind fun _ => ?_
  refine (failsWith_optionalText m 14).bind fun _ => ?_
  refine (failsWith_generation 15).bind fun _ => (failsWith_generation 16).bind fun _ => ?_
  refine (failsWith_generation 17).bind fun _ => (failsWith_optionalText m 18).bind fun _ => ?_
  refine (failsWith_replicaCount 19).bind fun _ => (failsWith_replicaCount 20).bind fun _ => ?_
  refine (failsWith_replicaCount 21).bind fun _ => (failsWith_replicaCount 22).bind fun _ => ?_
  refine (failsWith_optionalText m 23).bind fun _ => ?_
  refine (failsWith_optionalText m 24).bind fun _ => ?_
  refine (failsWith_optionalText m 25).bind fun _ => (failsWith_takeResult 26).bind fun _ => ?_
  refine (failsWith_take 27).bind fun _ => (FailsWith.lift (.require trivial)).bind fun _ => ?_
  refine (failsWith_takeApproved m snapshotBound).bind fun _ => ?_
  exact failsWith_finish.bind fun _ => .pure _

theorem refuses_validate (s : ReceiptStatement) : Refuses Structural s.validate := by
  have hcheck : ∀ {condition : Bool},
      Refuses Structural (require condition ReceiptError.invalidValue) := .require trivial
  refine hcheck.bind fun _ => hcheck.bind fun _ => hcheck.bind fun _ => hcheck.bind fun _ => ?_
  refine hcheck.bind fun _ => hcheck.bind fun _ => hcheck.bind fun _ => hcheck.bind fun _ => ?_
  refine hcheck.bind fun _ => hcheck.bind fun _ => hcheck.bind fun _ => hcheck.bind fun _ => ?_
  refine (Refuses.mapError fun _ => trivial).bind fun _ => ?_
  exact (Refuses.mapError fun _ => trivial).bind fun _ => hcheck

theorem refuses_parse (input : Bytes) (limits : InspectionLimits) :
    Refuses Structural (parse input limits) := by
  refine .bind (.require trivial) fun _ => .bind (.require trivial) fun _ => ?_
  refine .bind (.start trivial _ _) fun records => ?_
  refine .bind (failsWith_takeStatement _ _ records) fun p => ?_
  exact .bind (refuses_validate p.1) fun _ => .ok _

end ReceiptStatement

/-- **No error of a Kubernetes parser is mistaken for a decision.** -/
theorem refuses_parseReceiptEnvelope (receipt : Bytes) (limits : InspectionLimits) :
    Refuses Structural (parseReceiptEnvelope receipt limits) := by
  refine refuses_parseEnvelope fun bytes => ?_
  refine .bind (ReceiptStatement.refuses_parse bytes limits) fun _ => ?_
  exact .bind (.require trivial) fun _ => .ok _

theorem parseReceiptEnvelope_mono {limits limits' : InspectionLimits} (h : limits.Within limits')
    (hvalid' : limits'.validate = .ok ()) {receipt : Bytes}
    {envelope : ReceiptEnvelope ReceiptStatement}
    (hread : parseReceiptEnvelope receipt limits = .ok envelope) :
    parseReceiptEnvelope receipt limits' = .ok envelope := by
  refine parseEnvelope_mono h hvalid' ?_ hread
  intro bytes s hs
  obtain ⟨statement, hparse, hs⟩ := bind_eq_ok.mp hs
  exact bind_eq_ok.mpr ⟨statement, ReceiptStatement.parse_mono h hvalid' hparse, hs⟩

theorem refuses_parseTrust (trust : Bytes) (limits : InspectionLimits) :
    Refuses Structural (parseTrust trust limits) := by
  refine .bind (.require trivial) fun _ => Refuses.mapError fun e => ?_
  cases e <;> trivial

/-- **A Kubernetes inspection is the decision.** -/
theorem inspectReceipt_eq (C : Crypto) (receipt trust : Bytes) (time : Int64)
    (limits : InspectionLimits) :
    inspectReceipt C receipt trust time limits =
      ⟨(decision C (parseReceiptEnvelope receipt limits) (parseTrust trust limits) time).1,
        (decision C (parseReceiptEnvelope receipt limits) (parseTrust trust limits) time).2⟩ := by
  have hreport : ∀ {e}, Structural e →
      (inspectInner C receipt trust time limits = .error e →
        inspectReceipt C receipt trust time limits = ⟨.structureRejected, none⟩) := by
    intro e hstructural he
    unfold inspectReceipt
    rw [he]
    cases e with
    | badSignature => exact absurd hstructural not_false
    | untrustedSigner statement => exact absurd hstructural not_false
    | limitExceeded => rfl
    | invalidValue => rfl
    | invalidRecord => rfl
  cases henvelope : parseReceiptEnvelope receipt limits with
  | error e =>
    have hstructural := refuses_parseReceiptEnvelope receipt limits e henvelope
    exact hreport hstructural (bind_of_error henvelope _)
  | ok envelope =>
    cases hdocument : parseTrust trust limits with
    | error e =>
      have hstructural := refuses_parseTrust trust limits e hdocument
      exact hreport hstructural ((bind_of_ok henvelope _).trans (bind_of_error hdocument _))
    | ok document =>
      have hinner : inspectInner C receipt trust time limits =
          (envelope.authenticate C document time >>= fun status =>
            if status = .untrustedSigner then
              throw (.untrustedSigner envelope.statement)
            else return envelope.statement) :=
        (bind_of_ok henvelope _).trans (bind_of_ok hdocument _)
      unfold inspectReceipt
      rw [hinner, authenticate_eq, decision_ok]
      split_ifs <;> rfl

/-! ## Git receipts -/

namespace GitStatement

theorem extends_takeStatement {m m' : ℕ} (h : m ≤ m') :
    Extends (takeStatement m) (takeStatement m') := by
  refine (extends_text h 1).bind fun _ => (extends_text h 2).bind fun _ => ?_
  refine (extends_text h 3).bind fun _ => (extends_text h 4).bind fun _ => ?_
  refine (extends_text h 5).bind fun _ => (extends_text h 6).bind fun _ => ?_
  refine (extends_text h 7).bind fun _ => (extends_text h 8).bind fun _ => ?_
  refine (extends_text h 9).bind fun _ => .after _ fun _ => ?_
  refine (extends_text h 10).bind fun _ => .after _ fun _ => ?_
  refine (extends_text h 11).bind fun _ => (extends_text h 12).bind fun _ => .after _ fun _ => ?_
  refine (extends_text h 13).bind fun _ => (extends_text h 14).bind fun _ => ?_
  exact (extends_text h 15).bind fun _ => .refl _

theorem parse_mono {limits limits' : InspectionLimits} (h : limits.Within limits')
    {input : Bytes} {s : GitStatement} (hread : parse input limits = .ok s) :
    parse input limits' = .ok s := by
  obtain ⟨_, hbound, hread⟩ := bind_eq_ok.mp hread
  obtain ⟨records, hstart, hread⟩ := bind_eq_ok.mp hread
  obtain ⟨⟨statement, c'⟩, htake, hread⟩ := bind_eq_ok.mp hread
  have htake' := extends_takeStatement h.textBytesMax records _ htake
  refine bind_eq_ok.mpr ⟨(), require_le_mono h.statementBytesMax hbound, ?_⟩
  exact bind_eq_ok.mpr ⟨records, hstart, bind_eq_ok.mpr ⟨_, htake', hread⟩⟩

theorem envelope_mono {limits limits' : InspectionLimits} (h : limits.Within limits')
    (hvalid' : limits'.validate = .ok ()) {bytes : Bytes} {e : ReceiptEnvelope GitStatement}
    (hread : envelope bytes limits = .ok e) : envelope bytes limits' = .ok e :=
  parseEnvelope_mono h hvalid' (fun _ _ hs => parse_mono h hs) hread

end GitStatement

/-- **A Git inspection is the decision.** -/
theorem inspectGitReceipt_eq (C : Crypto) (bytes trust : Bytes) (time : Int64)
    (limits : InspectionLimits) :
    inspectGitReceipt C bytes trust time limits =
      ⟨(decision C (GitStatement.envelope bytes limits) (parseTrust trust limits) time).1,
        (decision C (GitStatement.envelope bytes limits) (parseTrust trust limits) time).2⟩ := by
  unfold inspectGitReceipt
  cases GitStatement.envelope bytes limits with
  | error e => rfl
  | ok envelope =>
    cases parseTrust trust limits with
    | error e => rfl
    | ok document =>
      simp only [authenticate_eq, decision_ok]
      split_ifs <;> rfl

/-! ## Both -/

/-- Limits that are refused let no envelope be read. -/
theorem not_parseEnvelope_of_invalid {σ : Type} {receipt magic : Bytes} {purpose : Text}
    {limits : InspectionLimits} {parseStatement : Bytes → Except ReceiptError σ}
    (h : limits.validate ≠ .ok ()) (envelope : ReceiptEnvelope σ) :
    parseEnvelope receipt magic purpose limits parseStatement ≠ .ok envelope := by
  intro hread
  obtain ⟨_, hvalid, -⟩ := bind_eq_ok.mp hread
  exact h hvalid

/-- The statement of a Kubernetes envelope is the parse of its embedded bytes. -/
theorem parse_of_parseReceiptEnvelope {receipt : Bytes} {limits : InspectionLimits}
    {envelope : ReceiptEnvelope ReceiptStatement}
    (h : parseReceiptEnvelope receipt limits = .ok envelope) :
    ReceiptStatement.parse envelope.statementBytes limits = .ok envelope.statement := by
  obtain ⟨statement, hparse, hs⟩ := bind_eq_ok.mp (parseEnvelope_eq_ok h).2.2
  obtain ⟨_, -, hs⟩ := bind_eq_ok.mp hs
  rw [← Except.ok.inj hs]
  exact hparse

/-- **Offline inspection decides exactly**, for both effects, and larger limits change
nothing but a rejection of the structure. -/
theorem inspection_decides_exactly (C : Crypto) (receipt trust : Bytes) (time : Int64)
    (limits : InspectionLimits) :
    Decides C limits (parseReceiptEnvelope receipt limits) (parseTrust trust limits)
        (fun bytes => ReceiptStatement.parse bytes limits) time
        (inspectReceipt C receipt trust time limits).status
        (inspectReceipt C receipt trust time limits).statement ∧
      Decides C limits (GitStatement.envelope receipt limits) (parseTrust trust limits)
        (fun bytes => GitStatement.parse bytes limits) time
        (inspectGitReceipt C receipt trust time limits).status
        (inspectGitReceipt C receipt trust time limits).statement ∧
      ∀ limits', limits.validate = .ok () → limits'.validate = .ok () → limits.Within limits' →
        (inspectReceipt C receipt trust time limits = inspectReceipt C receipt trust time limits' ∨
          inspectReceipt C receipt trust time limits = ⟨.structureRejected, none⟩) ∧
        (inspectGitReceipt C receipt trust time limits =
            inspectGitReceipt C receipt trust time limits' ∨
          inspectGitReceipt C receipt trust time limits = ⟨.structureRejected, none⟩) := by
  refine ⟨?_, ?_, ?_⟩
  · rw [inspectReceipt_eq]
    exact decision_decides (fun h => not_parseEnvelope_of_invalid h)
      fun _ h => parse_of_parseReceiptEnvelope h
  · rw [inspectGitReceipt_eq]
    exact decision_decides (fun h => not_parseEnvelope_of_invalid h)
      fun _ h => (parseEnvelope_eq_ok h).2.2
  · intro limits' _ hvalid' hwithin
    rw [inspectReceipt_eq, inspectReceipt_eq, inspectGitReceipt_eq, inspectGitReceipt_eq]
    have htrust : ∀ d, parseTrust trust limits = .ok d → parseTrust trust limits' = .ok d :=
      fun _ h => parseTrust_mono hwithin hvalid' h
    have hkubernetes : ∀ e, parseReceiptEnvelope receipt limits = .ok e →
        parseReceiptEnvelope receipt limits' = .ok e :=
      fun _ h => parseReceiptEnvelope_mono hwithin hvalid' h
    have hgit : ∀ e, GitStatement.envelope receipt limits = .ok e →
        GitStatement.envelope receipt limits' = .ok e :=
      fun _ h => GitStatement.envelope_mono hwithin hvalid' h
    refine ⟨?_, ?_⟩
    · rcases decision_mono hkubernetes htrust with h | h
      · exact .inl (by rw [h])
      · exact .inr (by rw [h])
    · rcases decision_mono hgit htrust with h | h
      · exact .inl (by rw [h])
      · exact .inr (by rw [h])

end Gateway
end Kapsel
