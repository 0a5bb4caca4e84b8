import Kapsel.Authority.GitGrant
import Kapsel.Receipt.Format
import Mathlib.Data.List.Forall2

/-!
# Git receipts

`src/gateway/receipt/git.rs`, with the acknowledgement and the observed ref of
`src/gateway/git.rs`.

The result of a Git statement is a function of its acknowledgement alone; the observed
ref is evidence beside it.  Parsing ends by encoding the parsed statement again and
comparing bytes, so a statement that is accepted is the canonical one: `parse_encode`
and `encode_of_parse` are the two halves.  `statement_eq_of_inspect` is what they are
for: whatever limits an inspector chose, an accepted receipt shows the statement that
the gateway itself decodes from it.
-/

namespace Kapsel

open Framing Grammar Fallible Authority Receipt

namespace Gateway

/-- `Acknowledgement`: the per-ref answer to the one push. -/
inductive Acknowledgement where
  | updated
  | rejectedBeforeSend
  | receiverRejected
  | unknown
  deriving DecidableEq, Repr

/-- `Acknowledgement::as_str`. -/
def Acknowledgement.asStr : Acknowledgement → Text
  | .updated => utf8 "updated"
  | .rejectedBeforeSend => utf8 "rejected_before_send"
  | .receiverRejected => utf8 "receiver_rejected"
  | .unknown => utf8 "unknown"

/-- `Acknowledgement::parse`. -/
def Acknowledgement.parse (value : Text) : Option Acknowledgement :=
  if value = utf8 "updated" then some .updated
  else if value = utf8 "rejected_before_send" then some .rejectedBeforeSend
  else if value = utf8 "receiver_rejected" then some .receiverRejected
  else if value = utf8 "unknown" then some .unknown
  else none

theorem Acknowledgement.parse_asStr (a : Acknowledgement) :
    Acknowledgement.parse a.asStr = some a := by
  cases a <;> decide

/-- `ObservedRef`: one present-ref observation. -/
inductive ObservedRef where
  | commit (id : Text)
  | missing
  | unknown
  deriving DecidableEq

/-- `GitStatement`. -/
structure GitStatement where
  authorization : GitRefAuthorization
  authorizationSigner : Text
  authorizationDigest : Text
  acknowledgement : Acknowledgement
  observed : ObservedRef
  deriving DecidableEq

namespace GitStatement

def statementMagic : Bytes := utf8 "KAPSEL-GIT-REF-STATEMENT-V1\x00"
def receiptMagic : Bytes := utf8 "KAPSEL-GIT-REF-RECEIPT-V1\x00"
def purpose : Text := utf8 "kapsel.git-ref-transition-receipt.v1"
def nonClaims : Text :=
  utf8 "no-hook-delivery;no-ci;no-deployment;" ++
    utf8 "no-complete-capture;no-witnessing;not-production"

/-- The result that an acknowledgement establishes. -/
def resultOf : Acknowledgement → OperationResult
  | .updated => .succeeded
  | .rejectedBeforeSend => .failed
  | .receiverRejected => .failed
  | .unknown => .unknown

/-- `GitStatement::result`. -/
def result (s : GitStatement) : OperationResult := resultOf s.acknowledgement

/-- `GitStatement::attribution`. -/
def attribution (s : GitStatement) : Text :=
  if s.acknowledgement = .updated then utf8 "acknowledged_update" else utf8 "not_established"

/-- The result's word in a Git statement. -/
def resultWord : OperationResult → Text
  | .succeeded => utf8 "SUCCEEDED"
  | .failed => utf8 "FAILED"
  | .unknown => utf8 "UNKNOWN"

/-- The kind and the commit of an observed ref, as written. -/
def observedWords : ObservedRef → Except ReceiptError (Text × Text)
  | .commit id => if gitCommitIdIsValid id then .ok (utf8 "commit", id) else .error .invalidValue
  | .missing => .ok (utf8 "missing", [])
  | .unknown => .ok (utf8 "unknown", [])

/-- The fields in the order of their tags. -/
def fields (s : GitStatement) (words : Text × Text) : List Field :=
  [.text s.authorization.operationId, .text s.authorization.authorizationId,
    .text s.authorizationSigner, .text s.authorizationDigest, .text s.authorization.repositoryId,
    .text s.authorization.reference, .text s.authorization.oldCommit,
    .text s.authorization.newCommit, .text (utf8 "git-exact-lease"),
    .text s.acknowledgement.asStr, .text words.1, .raw words.2, .text s.attribution,
    .text (resultWord s.result), .text nonClaims]

/-- `GitStatement::encode`. -/
def encode (s : GitStatement) : Except ReceiptError Bytes := do
  require s.authorization.isValid .invalidValue
  validateKeyId s.authorizationSigner
  require (isLowercaseSha256 s.authorizationDigest) .invalidValue
  let words ← observedWords s.observed
  pushFields statementBytesMax statementMagic 1 (s.fields words)

/-- The observed ref that a kind and a commit write. -/
def observedOf (kind commit : Text) : Except ReceiptError ObservedRef :=
  if kind = utf8 "commit" ∧ gitCommitIdIsValid commit = true then .ok (.commit commit)
  else if kind = utf8 "missing" ∧ commit = [] then .ok .missing
  else if kind = utf8 "unknown" ∧ commit = [] then .ok .unknown
  else .error .invalidValue

/-- The acknowledgement that a word writes. -/
def acknowledgementOf (word : Text) : Except ReceiptError Acknowledgement :=
  match Acknowledgement.parse word with
  | some acknowledgement => .ok acknowledgement
  | none => .error .invalidValue

/-- The records of a Git statement, in order. -/
def takeStatement (maximumTextBytes : ℕ) : Reader ReceiptError GitStatement := do
  let operationId ← text maximumTextBytes 1
  let authorizationId ← text maximumTextBytes 2
  let authorizationSigner ← text maximumTextBytes 3
  let authorizationDigest ← text maximumTextBytes 4
  let repositoryId ← text maximumTextBytes 5
  let reference ← text maximumTextBytes 6
  let oldCommit ← text maximumTextBytes 7
  let newCommit ← text maximumTextBytes 8
  let lease ← text maximumTextBytes 9
  require (lease = utf8 "git-exact-lease") ReceiptError.invalidValue
  let word ← text maximumTextBytes 10
  let acknowledgement ← acknowledgementOf word
  let kind ← text maximumTextBytes 11
  let commit ← text maximumTextBytes 12
  let observed ← observedOf kind commit
  let _ ← text maximumTextBytes 13
  let _ ← text maximumTextBytes 14
  let _ ← text maximumTextBytes 15
  finish
  return ⟨⟨authorizationId, operationId, repositoryId, reference, oldCommit, newCommit⟩,
    authorizationSigner, authorizationDigest, acknowledgement, observed⟩

/-- `GitStatement::parse`. -/
def parse (bytes : Bytes) (limits : InspectionLimits) : Except ReceiptError GitStatement := do
  bounded bytes limits.statementBytesMax
  let records ← Cursor.start receiptErrors bytes statementMagic
  let (statement, _) ← takeStatement limits.textBytesMax records
  let canonical ← statement.encode
  require (canonical = bytes) .invalidValue
  return statement

/-! ## Parsing and encoding are inverse -/

section
variable {s : GitStatement} {bytes : Bytes}

theorem observedWords_commit_eq_ok {id : Text} {words : Text × Text}
    (h : observedWords (.commit id) = .ok words) :
    gitCommitIdIsValid id = true ∧ words = (utf8 "commit", id) := by
  by_cases hvalid : gitCommitIdIsValid id = true
  · rw [observedWords, if_pos hvalid] at h
    exact ⟨hvalid, (Except.ok.inj h).symm⟩
  · rw [observedWords, if_neg hvalid] at h
    cases h

theorem observedOf_observedWords {observed : ObservedRef} {words : Text × Text}
    (h : observedWords observed = .ok words) : observedOf words.1 words.2 = .ok observed := by
  cases observed with
  | commit id =>
    obtain ⟨hvalid, rfl⟩ := observedWords_commit_eq_ok h
    exact if_pos ⟨rfl, hvalid⟩
  | missing =>
    obtain rfl := Except.ok.inj h
    decide
  | unknown =>
    obtain rfl := Except.ok.inj h
    decide

/-- The commit of an observed ref is a text of at most forty ASCII bytes. -/
theorem fits_observedWords {observed : ObservedRef} {words : Text × Text}
    (h : observedWords observed = .ok words) :
    words.2.length ≤ textBytesMax ∧ isAscii words.2 = true := by
  cases observed with
  | commit id =>
    obtain ⟨hvalid, rfl⟩ := observedWords_commit_eq_ok h
    have hfits := fits_of_gitCommitIdIsValid hvalid
    exact ⟨hfits.length_le.trans (by decide), hfits.ascii⟩
  | missing =>
    obtain rfl := Except.ok.inj h
    decide
  | unknown =>
    obtain rfl := Except.ok.inj h
    decide

/-- An accepted statement encodes to the bytes it was parsed from. -/
theorem encode_of_parse {limits : InspectionLimits} (h : parse bytes limits = .ok s) :
    s.encode = .ok bytes := by
  obtain ⟨_, -, h⟩ := bind_eq_ok.mp h
  obtain ⟨_, -, h⟩ := bind_eq_ok.mp h
  obtain ⟨⟨statement, _⟩, -, h⟩ := bind_eq_ok.mp h
  obtain ⟨canonical, hencode, h⟩ := bind_eq_ok.mp h
  obtain ⟨_, hcanonical, h⟩ := bind_eq_ok.mp h
  obtain rfl := Except.ok.inj h
  rw [hencode, of_decide_eq_true (require_eq_ok.mp hcanonical)]

theorem readsAll_takeStatement {words : Text × Text} (hwords : observedWords s.observed = .ok words)
    (hcheck : ∀ field ∈ s.fields words, field.check = .ok ()) :
    ReadsAll (takeStatement textBytesMax) 1 (frames 1 (s.fields words)) s := by
  obtain ⟨hcommitLength, hcommitAscii⟩ := fits_observedWords hwords
  simp only [fields, List.forall_mem_cons] at hcheck
  obtain ⟨h1, h2, h3, h4, h5, h6, h7, h8, h9, h10, h11, -, h13, h14, h15, -⟩ := hcheck
  have hword : acknowledgementOf s.acknowledgement.asStr = .ok s.acknowledgement := by
    rw [acknowledgementOf, Acknowledgement.parse_asStr]
  refine (reads_checkedText (by decide) h1).bindAll ?_
  refine (reads_checkedText (by decide) h2).bindAll ?_
  refine (reads_checkedText (by decide) h3).bindAll ?_
  refine (reads_checkedText (by decide) h4).bindAll ?_
  refine (reads_checkedText (by decide) h5).bindAll ?_
  refine (reads_checkedText (by decide) h6).bindAll ?_
  refine (reads_checkedText (by decide) h7).bindAll ?_
  refine (reads_checkedText (by decide) h8).bindAll ?_
  refine (reads_checkedText (by decide) h9).bindAll ?_
  refine ReadsAll.after_check (require_of_true (decide_eq_true rfl)) ?_
  refine (reads_checkedText (by decide) h10).bindAll ?_
  refine ReadsAll.after_check hword ?_
  refine (reads_checkedText (by decide) h11).bindAll ?_
  refine (reads_text (by decide) hcommitLength hcommitAscii).bindAll ?_
  refine ReadsAll.after_check (observedOf_observedWords hwords) ?_
  refine (reads_checkedText (by decide) h13).bindAll ?_
  refine (reads_checkedText (by decide) h14).bindAll ?_
  refine (reads_checkedText (by decide) h15).bindAll ?_
  exact readsAll_finish_bind _

/-- **A Git statement that encodes is read back.** -/
theorem parse_encode (h : s.encode = .ok bytes) : parse bytes .default = .ok s := by
  have hencode := h
  obtain ⟨_, -, h⟩ := bind_eq_ok.mp h
  obtain ⟨_, -, h⟩ := bind_eq_ok.mp h
  obtain ⟨_, -, h⟩ := bind_eq_ok.mp h
  obtain ⟨words, hwords, hpush⟩ := bind_eq_ok.mp h
  obtain ⟨rfl, hcheck, hlength⟩ := eq_of_pushFields (by simp [fields]) hpush
  obtain ⟨c, c', hstart, hread⟩ := (readsAll_takeStatement hwords hcheck).run
    (lt_of_le_of_lt hlength (by decide)) receiptErrors
  refine bind_eq_ok.mpr ⟨(), require_of_true (decide_eq_true hlength), ?_⟩
  refine bind_eq_ok.mpr ⟨c, hstart, bind_eq_ok.mpr ⟨(s, c'), hread, ?_⟩⟩
  exact bind_eq_ok.mpr ⟨_, hencode,
    bind_eq_ok.mpr ⟨(), require_of_true (decide_eq_true rfl), rfl⟩⟩

/-- Bytes decide the statement, whatever the limits under which they were parsed. -/
theorem eq_of_parse {limits limits' : InspectionLimits} {s' : GitStatement}
    (h : parse bytes limits = .ok s) (h' : parse bytes limits' = .ok s') : s = s' := by
  have hdefault := parse_encode (encode_of_parse h)
  have hdefault' := parse_encode (encode_of_parse h')
  exact Except.ok.inj (hdefault.symm.trans hdefault')

/-- A statement that can be written: what its grant says is valid, and so is the commit that was
seen. -/
structure Writable (s : GitStatement) : Prop where
  authorization : s.authorization.Valid
  signer : identityIsValid s.authorizationSigner = true
  digest : isLowercaseSha256 s.authorizationDigest = true
  observed : ∃ words, observedWords s.observed = .ok words

theorem Writable.bounded (h : s.Writable) {words : Text × Text}
    (hwords : observedWords s.observed = .ok words) :
    List.Forall₂ Field.Bounded (s.fields words)
      [128, 128, 128, 64, 128, 64, 40, 40, 64, 64, 64, 512, 64, 64, 128] := by
  have hauthorization := h.authorization
  have hreference : Fits 64 s.authorization.reference := by
    rw [hauthorization.reference]
    exact ⟨by decide, by decide, by decide⟩
  have hword : Fits 64 s.acknowledgement.asStr := by
    cases s.acknowledgement <;> exact ⟨by decide, by decide, by decide⟩
  have hkind : Fits 64 words.1 := by
    cases hobserved : s.observed with
    | commit id =>
      rw [hobserved] at hwords
      obtain ⟨-, rfl⟩ := observedWords_commit_eq_ok hwords
      show Fits 64 (utf8 "commit")
      exact ⟨by decide, by decide, by decide⟩
    | missing =>
      rw [hobserved] at hwords
      obtain rfl := Except.ok.inj hwords
      exact ⟨by decide, by decide, by decide⟩
    | unknown =>
      rw [hobserved] at hwords
      obtain rfl := Except.ok.inj hwords
      exact ⟨by decide, by decide, by decide⟩
  have hattribution : Fits 64 s.attribution := by
    unfold attribution
    split <;> exact ⟨by decide, by decide, by decide⟩
  have hresult : Fits 64 (resultWord s.result) := by
    cases s.result <;> exact ⟨by decide, by decide, by decide⟩
  have hlease : Fits 64 (utf8 "git-exact-lease") := ⟨by decide, by decide, by decide⟩
  have hclaims : Fits 128 nonClaims := ⟨by decide, by decide, by decide⟩
  have hidentity : ∀ {value : Text}, identityIsValid value = true →
      (Field.text value).Bounded 128 :=
    fun hvalue => Field.bounded_text (fits_of_identityIsValid hvalue) (by decide)
  have hcommit : ∀ {value : Text}, gitCommitIdIsValid value = true →
      (Field.text value).Bounded 40 :=
    fun hvalue => Field.bounded_text (fits_of_gitCommitIdIsValid hvalue) (by decide)
  have hshort : ∀ {value : Text}, Fits 64 value → (Field.text value).Bounded 64 :=
    fun hvalue => Field.bounded_text hvalue (by decide)
  exact .cons (hidentity hauthorization.operationId)
    (.cons (hidentity hauthorization.authorizationId)
    (.cons (hidentity h.signer)
    (.cons (hshort (fits_of_isLowercaseSha256 h.digest))
    (.cons (hidentity hauthorization.repositoryId)
    (.cons (hshort hreference)
    (.cons (hcommit hauthorization.oldCommit)
    (.cons (hcommit hauthorization.newCommit)
    (.cons (hshort hlease)
    (.cons (hshort hword)
    (.cons (hshort hkind)
    (.cons ⟨rfl, (fits_observedWords hwords).1⟩
    (.cons (hshort hattribution)
    (.cons (hshort hresult)
    (.cons (Field.bounded_text hclaims (by decide)) .nil))))))))))))))

/-- **A writable statement is written**, within the bound. -/
theorem Writable.exists_encode (h : s.Writable) :
    ∃ bytes, s.encode = .ok bytes ∧ bytes.length ≤ statementBytesMax := by
  obtain ⟨words, hwords⟩ := h.observed
  have hbounded := h.bounded hwords
  have hlength : statementMagic.length + encodedLength (s.fields words) ≤ statementBytesMax := by
    have hfields := encodedLength_le_of_bounded hbounded
    have hmagic : statementMagic.length = 28 := by decide
    simp only [List.map_cons, List.map_nil, List.sum_cons, List.sum_nil] at hfields
    unfold statementBytesMax
    omega
  have hpush : pushFields statementBytesMax statementMagic 1 (s.fields words) =
      .ok (statementMagic ++ frames 1 (s.fields words)) :=
    pushFields_eq_ok (by decide) (check_of_bounded hbounded) hlength
  have hne : s.fields words ≠ [] := by simp [fields]
  refine ⟨_, ?_, (eq_of_pushFields hne hpush).2.2⟩
  have hvalid : (require s.authorization.isValid ReceiptError.invalidValue) = .ok () :=
    require_of_true (GitRefAuthorization.isValid_iff.mpr h.authorization)
  have hsigner : validateKeyId s.authorizationSigner = .ok () := require_of_true h.signer
  have hdigest : (require (isLowercaseSha256 s.authorizationDigest) ReceiptError.invalidValue) =
      .ok () := require_of_true h.digest
  exact bind_eq_ok.mpr ⟨(), hvalid, bind_eq_ok.mpr ⟨(), hsigner, bind_eq_ok.mpr ⟨(), hdigest,
    bind_eq_ok.mpr ⟨words, hwords, hpush⟩⟩⟩⟩

end

/-! ## Receipts -/

/-- `sign`. -/
def sign (C : Crypto) (s : GitStatement) (seed : Octets 32) (keyId : Text) :
    Except ReceiptError Bytes := do
  validateKeyId keyId
  let statement ← s.encode
  signEnvelope C statement receiptMagic purpose seed keyId

/-- `envelope`. -/
def envelope (bytes : Bytes) (limits : InspectionLimits) :
    Except ReceiptError (ReceiptEnvelope GitStatement) :=
  parseEnvelope bytes receiptMagic purpose limits fun statement => parse statement limits

/-- `decode`. -/
def decode (bytes : Bytes) : Except ReceiptError (Text × GitStatement) := do
  let parsed ← envelope bytes .default
  return (parsed.keyId, parsed.statement)

/-- **A writable statement is signed within the receipt bound and read back from the receipt.** -/
theorem Writable.envelope_sign {s : GitStatement} (h : s.Writable) (C : Crypto) (seed : Octets 32)
    {keyId : Text} (hkey : identityIsValid keyId = true) :
    ∃ statementBytes receipt, s.encode = .ok statementBytes ∧
      statementBytes.length ≤ statementBytesMax ∧ s.sign C seed keyId = .ok receipt ∧
      receipt.length ≤ receiptBytesMax ∧
      envelope receipt .default = .ok ⟨purpose, keyId, statementBytes, s,
        C.sign seed (Receipt.signatureInput purpose statementBytes)⟩ := by
  obtain ⟨statementBytes, hencode, hlength⟩ := h.exists_encode
  have hpurpose : receiptTextIsValid purpose = true := by decide
  have hmagic : receiptMagic.length ≤ 64 := by decide
  have hsigned : ∃ body, signEnvelope C statementBytes receiptMagic purpose seed keyId =
        .ok (receiptMagic ++ body) ∧ (receiptMagic ++ body).length ≤ receiptBytesMax ∧
      envelope (receiptMagic ++ body) .default = .ok ⟨purpose, keyId, statementBytes, s,
        C.sign seed (Receipt.signatureInput purpose statementBytes)⟩ :=
    parseEnvelope_signEnvelope C seed hpurpose hkey hmagic hlength (parse_encode hencode)
  obtain ⟨body, hsign, hreceipt, henvelope⟩ := hsigned
  refine ⟨statementBytes, receiptMagic ++ body, hencode, hlength, ?_, hreceipt, henvelope⟩
  exact bind_eq_ok.mpr ⟨(), require_of_true hkey, bind_eq_ok.mpr ⟨_, hencode, hsign⟩⟩

end GitStatement

/-- `GitInspectionReport`. -/
structure GitInspectionReport where
  status : InspectionStatus
  statement : Option GitStatement
  deriving DecidableEq

/-- `inspect_git_receipt`. -/
def inspectGitReceipt (C : Crypto) (bytes trust : Bytes) (time : Int64)
    (limits : InspectionLimits) : GitInspectionReport :=
  match GitStatement.envelope bytes limits with
  | .error _ => ⟨.structureRejected, none⟩
  | .ok envelope =>
      match parseTrust trust limits with
      | .error _ => ⟨.structureRejected, none⟩
      | .ok trust =>
          match envelope.authenticate C trust time with
          | .ok status => ⟨status, some envelope.statement⟩
          | .error .badSignature => ⟨.signatureRejected, none⟩
          | .error _ => ⟨.structureRejected, none⟩

/-- A report's statement is the one in the envelope. -/
theorem envelope_of_inspectGitReceipt {C : Crypto} {bytes trust : Bytes} {time : Int64}
    {limits : InspectionLimits} {s : GitStatement}
    (h : (inspectGitReceipt C bytes trust time limits).statement = some s) :
    ∃ envelope, GitStatement.envelope bytes limits = .ok envelope ∧ envelope.statement = s := by
  unfold inspectGitReceipt at h
  split at h
  · cases h
  · rename_i envelope henvelope
    split at h
    · cases h
    · split at h
      · exact ⟨envelope, henvelope, Option.some.inj h⟩
      · cases h
      · cases h

/-- **A signed Git receipt is inspected** under the trust document of its seed, the purpose of Git
receipts and an interval around the evaluation time. -/
theorem inspectGitReceipt_signed {C : Crypto} (hC : C.Correct) {receipt statementBytes trust : Bytes}
    {keyId : Text} {s : GitStatement} {seed : Octets 32} {notBefore notAfter time : Int64}
    (henvelope : GitStatement.envelope receipt .default = .ok ⟨GitStatement.purpose, keyId,
      statementBytes, s, C.sign seed (Receipt.signatureInput GitStatement.purpose statementBytes)⟩)
    (htrust : encodeReceiptTrust (trustOf C seed keyId GitStatement.purpose notBefore notAfter) =
      .ok trust) (hbefore : notBefore ≤ time) (hafter : time < notAfter) :
    inspectGitReceipt C receipt trust time .default = ⟨.inspected, some s⟩ := by
  have hparsed : parseTrust trust .default =
      .ok (trustOf C seed keyId GitStatement.purpose notBefore notAfter) := by
    refine bind_eq_ok.mpr ⟨(), rfl, ?_⟩
    exact mapError_eq_ok.mpr (parseReceiptTrust_encode htrust)
  unfold inspectGitReceipt
  simp only [henvelope, hparsed, authenticate_signed hC seed hbefore hafter]

/-- **An inspector sees the statement that the gateway decodes.** -/
theorem statement_eq_of_inspect {C : Crypto} {bytes trust : Bytes} {time : Int64}
    {limits : InspectionLimits} {s s' : GitStatement} {keyId : Text}
    (h : (inspectGitReceipt C bytes trust time limits).statement = some s)
    (hdecode : GitStatement.decode bytes = .ok (keyId, s')) : s = s' := by
  obtain ⟨e, henvelope, rfl⟩ := envelope_of_inspectGitReceipt h
  obtain ⟨e', henvelope', hpair⟩ := bind_eq_ok.mp hdecode
  obtain ⟨-, rfl⟩ := Prod.mk.inj (Except.ok.inj hpair)
  have hbytes := statementBytes_eq_of_parseEnvelope henvelope henvelope'
  have hparse := (parseEnvelope_eq_ok henvelope).2.2
  have hparse' := (parseEnvelope_eq_ok henvelope').2.2
  rw [hbytes] at hparse
  exact GitStatement.eq_of_parse hparse hparse'

end Gateway
end Kapsel
