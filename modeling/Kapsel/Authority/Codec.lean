import Kapsel.Authority.GitGrant
import Kapsel.Bytes.Canonical

/-!
# The grants as formats

Signing writes an authorization into a statement and the statement into an envelope, and
verification reads both.  Both formats are complete and canonical: whatever is valid is written
within the bounds and read back, and what is accepted is the one form of what it means.

* `ExactAuthorization.Valid.verify_sign` and `GitRefAuthorization.Valid.verify_sign`: a valid
  authorization is signed and verified under the trust of its seed.
* `encodeStatement_of_parseStatement`: an accepted statement is the encoding of its authorization.
* `envelope_of_verifyAuthorizationGrant` and `envelope_of_verifyGitRefGrant`: an accepted grant is
  its envelope and nothing else.
-/

namespace Kapsel

open Framing Grammar Fallible

namespace Authority

/-! ## Records -/

/-- **Values within the bound are appended as their frames.** -/
theorem appendGrantRecords_eq_ok {maximumBytes : ℕ} (hmax : maximumBytes < 2 ^ 32)
    {values : List Bytes} {output : Bytes} {tag : UInt8}
    (hlength : output.length + framesLength values ≤ maximumBytes) :
    appendGrantRecords maximumBytes output tag values = .ok (output ++ framesOf tag values) := by
  induction values generalizing output tag with
  | nil => rw [appendGrantRecords, framesOf, List.append_nil]
  | cons value values ih =>
    rw [framesLength, List.map_cons, List.sum_cons] at hlength
    have hpush : appendGrantRecord output tag value maximumBytes = .ok (output ++ frame tag value) :=
      push_eq_ok hmax (by omega)
    have hrest : (output ++ frame tag value).length + framesLength values ≤ maximumBytes := by
      rw [List.length_append, length_frame, framesLength]
      omega
    rw [appendGrantRecords, framesOf, ← List.append_assoc]
    exact bind_eq_ok.mpr ⟨_, hpush, ih hrest⟩

/-! ## Envelopes -/

/-- An envelope: a magic, a purpose, a key, a statement and one signature. -/
def envelope (magic : Bytes) (purpose keyId : Text) (statement : Bytes) (signature : Octets 64) :
    Bytes :=
  magic ++ (frame 1 purpose ++ (frame 2 keyId ++ (frame 3 statement ++ frame 4 signature.val)))

theorem signGrantStatement_eq_ok (C : Crypto) (statement magic : Bytes) (purpose : Text)
    (seed : Octets 32) (keyId : Text)
    (hlength : magic.length + purpose.length + keyId.length + statement.length + 84 ≤ 4096) :
    signGrantStatement C statement magic purpose seed keyId =
      .ok (envelope magic purpose keyId statement (C.sign seed (signatureInput purpose statement))) ∧
    (envelope magic purpose keyId statement
      (C.sign seed (signatureInput purpose statement))).length ≤ signedGrantBytesMax := by
  have hsignature := (C.sign seed (signatureInput purpose statement)).property
  have hmax : signedGrantBytesMax = 4096 := rfl
  have hframes : envelope magic purpose keyId statement
      (C.sign seed (signatureInput purpose statement)) = magic ++ framesOf 1 [purpose, keyId,
        statement, (C.sign seed (signatureInput purpose statement)).val] := by
    simp only [envelope, framesOf, List.append_nil]
    rfl
  have hrecords : magic.length + framesLength [purpose, keyId, statement,
      (C.sign seed (signatureInput purpose statement)).val] ≤ signedGrantBytesMax := by
    simp only [framesLength, List.map_cons, List.map_nil, List.sum_cons, List.sum_nil, hsignature]
    omega
  rw [hframes]
  refine ⟨appendGrantRecords_eq_ok (by decide) hrecords, ?_⟩
  rw [List.length_append, length_framesOf]
  exact hrecords

section
variable {tag : UInt8}

theorem takes_takeRecord : Takes (takeRecord tag) (frame tag) := Framing.takes_take tag

theorem takes_takeAsciiText : Takes (takeAsciiText tag) (frame tag) := by
  intro c value c' h
  unfold takeAsciiText at h
  obtain ⟨⟨bytes, c₁⟩, htake, h⟩ := bind_eq_ok.mp h
  dsimp only at h
  split at h
  · cases h
  · obtain ⟨rfl, rfl⟩ := Prod.mk.inj (Except.ok.inj h)
    exact takes_takeRecord c bytes c₁ htake

theorem takes_takeBoundedAscii {maximumBytes : ℕ} :
    Takes (takeBoundedAscii tag maximumBytes) (frame tag) := by
  refine takes_takeRecord.and_then fun bytes value h => ?_
  unfold decodeBoundedAscii at h
  obtain ⟨_, -, h⟩ := bind_eq_ok.mp h
  obtain rfl := Except.ok.inj h
  rfl

/-- A text within its bounds is taken as it is. -/
theorem reads_takeAsciiText {value : Text} {bound : ℕ} (htag : tag ≠ 255) (h : Fits bound value)
    (hbound : bound ≤ grantTextBytesMax) :
    Reads (takeAsciiText tag) tag (tag + 1) (frame tag value) value := by
  refine (reads_take htag value).and_then ?_
  have hempty : value.isEmpty = false := List.isEmpty_eq_false_iff.mpr h.nonempty
  have hlength : ¬ grantTextBytesMax < value.length := by
    have hle := h.length_le
    omega
  have hgood : (value.isEmpty || decide (grantTextBytesMax < value.length) || !isAscii value) =
      false := by
    rw [hempty, h.ascii, decide_eq_false hlength]
    rfl
  simp only [hgood, Bool.false_eq_true, if_false]
  exact reads_pure value

theorem reads_takeBoundedAscii {value : Text} {bound : ℕ} (htag : tag ≠ 255)
    (h : Fits bound value) :
    Reads (takeBoundedAscii tag bound) tag (tag + 1) (frame tag value) value := by
  refine (reads_take htag value).and_then (reads_lift ?_)
  have hgood : (decide (value.length ≤ bound) && isAscii value) = true := by
    rw [decide_eq_true h.length_le, h.ascii]
    rfl
  exact bind_eq_ok.mpr ⟨(), require_of_true hgood, rfl⟩

end

theorem readsAll_finishExact {α : Type} {tag : UInt8} (a : α) :
    ReadsAll (do finishExact; return a) tag [] a := by
  intro c h
  have hfinish : ReadsAll finishExact tag [] () := readsAll_finish ()
  obtain ⟨c', hc'⟩ := hfinish c h
  exact ⟨c', bind_of_eq_ok hc'⟩

/-- The records of an envelope behind its magic. -/
def envelopeFrames (purpose : Text) (p : Text × Bytes × Octets 64) : Bytes :=
  frame 1 purpose ++ (frame 2 p.1 ++ (frame 3 p.2.1 ++ frame 4 p.2.2.val))

theorem takesAll_takeEnvelope {purpose : Text} :
    TakesAll (takeEnvelope purpose) [] (envelopeFrames purpose) := by
  refine takes_takeRecord.bindAll fun purpose' => ?_
  refine TakesAll.after_check fun _ hpurpose => ?_
  obtain rfl := of_decide_eq_true (require_eq_ok.mp hpurpose)
  refine takes_takeAsciiText.bindAll fun keyId => ?_
  refine TakesAll.after_check fun _ _ => ?_
  refine takes_takeRecord.bindAll fun statement => ?_
  refine TakesAll.after_check fun _ _ => ?_
  refine takes_takeRecord.bindAll fun bytes => ?_
  refine TakesAll.after_check fun signature hsignature => ?_
  refine takesAll_finish ?_
  rw [← val_of_arrayOr hsignature]
  simp only [envelopeFrames, List.nil_append, List.append_assoc]

theorem takesAll_takeGitEnvelope : TakesAll takeGitEnvelope [] (envelopeFrames Git.purpose) := by
  refine takes_takeRecord.bindAll fun purpose => ?_
  refine TakesAll.after_check fun _ hpurpose => ?_
  obtain rfl := of_decide_eq_true (require_eq_ok.mp hpurpose)
  refine takes_takeBoundedAscii.bindAll fun keyId => ?_
  refine TakesAll.after_check fun _ _ => ?_
  refine takes_takeRecord.bindAll fun statement => ?_
  refine TakesAll.after_check fun _ _ => ?_
  refine takes_takeRecord.bindAll fun bytes => ?_
  refine TakesAll.after_check fun signature hsignature => ?_
  refine takesAll_finish ?_
  rw [← val_of_arrayOr hsignature]
  simp only [envelopeFrames, List.nil_append, List.append_assoc]

/-- The key, the statement and the signature of an envelope are read back. -/
theorem readsAll_takeEnvelope (purpose : Text) {keyId : Text} {statement : Bytes}
    (signature : Octets 64) (hkey : identityIsValid keyId = true) (hstatement : statement.length ≤ grantStatementBytesMax) :
    ReadsAll (takeEnvelope purpose) 1 (envelopeFrames purpose (keyId, statement, signature))
      (keyId, statement, signature) := by
  refine (reads_take (by decide) purpose).bindAll ?_
  refine ReadsAll.after_check (require_of_true (decide_eq_true rfl)) ?_
  refine (reads_takeAsciiText (by decide) (fits_of_identityIsValid hkey) (by decide)).bindAll ?_
  refine ReadsAll.after_check (require_of_true hkey) ?_
  refine (reads_take (by decide) statement).bindAll ?_
  refine ReadsAll.after_check (require_of_true (decide_eq_true hstatement)) ?_
  refine (reads_take (by decide) signature.val).bindLast ?_
  refine ReadsAll.after_check (arrayOr_val signature) ?_
  exact readsAll_finishExact _

theorem readsAll_takeGitEnvelope {keyId : Text} {statement : Bytes} (signature : Octets 64)
    (hkey : identityIsValid keyId = true) (hstatement : statement.length ≤ Git.statementMax) :
    ReadsAll takeGitEnvelope 1 (envelopeFrames Git.purpose (keyId, statement, signature))
      (keyId, statement, signature) := by
  refine (reads_take (by decide) Git.purpose).bindAll ?_
  refine ReadsAll.after_check (require_of_true (decide_eq_true rfl)) ?_
  refine (reads_takeBoundedAscii (by decide) (fits_of_identityIsValid hkey)).bindAll ?_
  refine ReadsAll.after_check (require_of_true hkey) ?_
  refine (reads_take (by decide) statement).bindAll ?_
  refine ReadsAll.after_check (require_of_true (decide_eq_true hstatement)) ?_
  refine (reads_take (by decide) signature.val).bindLast ?_
  refine ReadsAll.after_check (arrayOr_val signature) ?_
  exact readsAll_finishExact _

/-! ## Kubernetes statements -/

namespace ExactAuthorization

variable {a : ExactAuthorization}

/-- The values of a statement in the order of their tags. -/
def values (a : ExactAuthorization) : List Bytes :=
  [a.authorizationId, a.operationId, a.namespace, a.deployment, a.container,
    a.immutableImageDigest] ++ a.approvedTarget.elim [] fun target =>
      [target.uid, target.resourceVersion]

/-- The magic of a statement's version. -/
def statementMagic (a : ExactAuthorization) : Bytes :=
  if a.approvedTarget.isSome then snapshotStatementMagic else grantStatementMagic

/-- The magic of a grant's version. -/
def grantMagic (a : ExactAuthorization) : Bytes :=
  if a.approvedTarget.isSome then snapshotGrantMagic else signedGrantMagic

/-- The purpose of a grant's version. -/
def purpose (a : ExactAuthorization) : Text :=
  if a.approvedTarget.isSome then snapshotPurpose else grantPurpose

theorem Valid.fits_target (h : a.Valid) {target : ApprovedTarget}
    (htarget : a.approvedTarget = some target) :
    Fits 128 target.uid ∧ Fits 128 target.resourceVersion := by
  have hvalid := h.approvedTarget target htarget
  simp only [ApprovedTarget.isValid, List.all_cons, List.all_nil, Bool.and_true,
    Bool.and_eq_true] at hvalid
  exact ⟨fits_of_factIsValid hvalid.1, fits_of_factIsValid hvalid.2⟩

/-- Every valid authorization fits a statement, at the maximum of every field. -/
theorem Valid.length_le (h : a.Valid) :
    a.statementMagic.length + framesLength a.values ≤ 1536 := by
  have hmagic : a.statementMagic.length = 38 := by
    unfold statementMagic
    split <;> decide
  have h1 := (fits_of_identityIsValid h.authorizationId).length_le
  have h2 := (fits_of_identityIsValid h.operationId).length_le
  have h3 := (fits_of_dnsLabelIsValid h.namespace).length_le
  have h4 := (fits_of_dnsSubdomainIsValid h.deployment).length_le
  have h5 := (fits_of_dnsLabelIsValid h.container).length_le
  have h6 := (fits_of_immutableImageIsValid h.immutableImageDigest).length_le
  rw [hmagic]
  unfold values
  cases htarget : a.approvedTarget with
  | none =>
    simp only [framesLength, Option.elim_none, List.append_nil, List.map_cons, List.map_nil,
      List.sum_cons, List.sum_nil]
    omega
  | some target =>
    obtain ⟨huid, hversion⟩ := h.fits_target htarget
    have h7 := huid.length_le
    have h8 := hversion.length_le
    simp only [framesLength, Option.elim_some, List.cons_append, List.nil_append, List.map_cons,
      List.map_nil, List.sum_cons, List.sum_nil]
    omega

/-- **The bytes of a valid statement.** -/
theorem Valid.encodeStatement_eq_ok (h : a.Valid) :
    encodeStatement a = .ok (a.statementMagic ++ framesOf 1 a.values) := by
  have hlength := h.length_le
  have hmax : grantStatementBytesMax = 2048 := rfl
  unfold encodeStatement values statementMagic at *
  cases htarget : a.approvedTarget with
  | none =>
    rw [htarget] at hlength
    simp only [Option.elim_none, List.append_nil] at hlength ⊢
    exact bind_eq_ok.mpr ⟨_, appendGrantRecords_eq_ok (by decide) (by omega), rfl⟩
  | some target =>
    rw [htarget] at hlength
    simp only [Option.elim_some, framesLength, List.cons_append, List.nil_append, List.map_cons,
      List.map_nil, List.sum_cons, List.sum_nil] at hlength ⊢
    refine bind_eq_ok.mpr ⟨_, appendGrantRecords_eq_ok (by decide) ?_, ?_⟩
    · simp only [framesLength, List.map_cons, List.map_nil, List.sum_cons, List.sum_nil]
      omega
    · have huid : ∀ {output : Bytes}, output.length + 5 + target.uid.length ≤ 2048 →
          appendGrantRecord output 7 target.uid grantStatementBytesMax =
            .ok (output ++ frame 7 target.uid) := fun h => push_eq_ok (by decide) h
      have hversion : ∀ {output : Bytes}, output.length + 5 + target.resourceVersion.length ≤ 2048 →
          appendGrantRecord output 8 target.resourceVersion grantStatementBytesMax =
            .ok (output ++ frame 8 target.resourceVersion) := fun h => push_eq_ok (by decide) h
      refine (bind_eq_ok.mpr ⟨_, huid ?_, hversion ?_⟩).trans ?_
      · simp only [List.length_append, length_framesOf, framesLength, List.map_cons,
          List.map_nil, List.sum_cons, List.sum_nil]
        omega
      · simp only [List.length_append, length_framesOf, length_frame, framesLength,
          List.map_cons, List.map_nil, List.sum_cons, List.sum_nil]
        omega
      · simp only [framesOf, List.append_assoc, List.append_nil]
        rfl

end ExactAuthorization

/-- **An authorization tells its statement.** -/
theorem takesAll_takeAuthorization {snapshotBound : Bool} :
    TakesAll (takeAuthorization snapshotBound) [] fun a => framesOf 1 a.values := by
  refine takes_takeAsciiText.bindAll fun authorizationId => ?_
  refine takes_takeAsciiText.bindAll fun operationId => ?_
  refine takes_takeAsciiText.bindAll fun ns => ?_
  refine takes_takeAsciiText.bindAll fun deployment => ?_
  refine takes_takeAsciiText.bindAll fun container => ?_
  refine takes_takeAsciiText.bindAll fun immutableImageDigest => ?_
  cases snapshotBound with
  | true =>
    refine takes_takeAsciiText.bindAll fun uid => ?_
    refine takes_takeAsciiText.bindAll fun resourceVersion => ?_
    refine takesAll_finish ?_
    simp only [ExactAuthorization.values, framesOf, Option.elim_some, List.cons_append,
      List.nil_append, List.append_nil, List.append_assoc]
    rfl
  | false =>
    refine takesAll_finish ?_
    simp only [ExactAuthorization.values, framesOf, Option.elim_none, List.nil_append,
      List.append_nil, List.append_assoc]
    rfl

/-- A statement carries an approved target exactly when its version is the bound one. -/
theorem isSome_of_takeAuthorization {snapshotBound : Bool} {c c' : Cursor}
    {authorization : ExactAuthorization}
    (h : takeAuthorization snapshotBound c = .ok (authorization, c')) :
    authorization.approvedTarget.isSome = snapshotBound := by
  unfold takeAuthorization at h
  iterate 6 obtain ⟨⟨_, _⟩, -, h⟩ := bind_eq_ok.mp h
  cases snapshotBound with
  | true =>
    iterate 3 obtain ⟨⟨_, _⟩, -, h⟩ := bind_eq_ok.mp h
    obtain ⟨rfl, -⟩ := Prod.mk.inj (Except.ok.inj h)
    rfl
  | false =>
    obtain ⟨⟨_, _⟩, -, h⟩ := bind_eq_ok.mp h
    obtain ⟨rfl, -⟩ := Prod.mk.inj (Except.ok.inj h)
    rfl

/-- **An accepted statement is the encoding of its authorization**, which is valid. -/
theorem encodeStatement_of_parseStatement {bytes : Bytes} {a : ExactAuthorization}
    (h : parseStatement bytes = .ok a) : a.Valid ∧ encodeStatement a = .ok bytes ∧
      purposeOfStatement bytes = a.purpose := by
  unfold parseStatement at h
  obtain ⟨records, hstart, h⟩ := bind_eq_ok.mp h
  obtain ⟨⟨a', c⟩, htake, h⟩ := bind_eq_ok.mp h
  obtain ⟨_, hvalidate, h⟩ := bind_eq_ok.mp h
  obtain rfl := Except.ok.inj h
  have hvalid := ExactAuthorization.validate_eq_ok.mp hvalidate
  have hversion := isSome_of_takeAuthorization htake
  have hbytes := takesAll_takeAuthorization.run hstart htake
  refine ⟨hvalid, ?_, ?_⟩
  · rw [hvalid.encodeStatement_eq_ok, ExactAuthorization.statementMagic, hversion]
    exact congrArg Except.ok hbytes.symm
  · rw [purposeOfStatement, ExactAuthorization.purpose, hversion]

theorem readsAll_takeAuthorization {a : ExactAuthorization} (h : a.Valid) :
    ReadsAll (takeAuthorization a.approvedTarget.isSome) 1 (framesOf 1 a.values) a := by
  have hidentity : ∀ {value : Text}, identityIsValid value = true → Fits 512 value :=
    fun hvalue => (fits_of_identityIsValid hvalue).mono (by decide)
  obtain ⟨approvedTarget, authorizationId, operationId, ns, deployment, container, image⟩ := a
  refine (reads_takeAsciiText (by decide) (hidentity h.authorizationId) (by decide)).bindAll ?_
  refine (reads_takeAsciiText (by decide) (hidentity h.operationId) (by decide)).bindAll ?_
  refine (reads_takeAsciiText (by decide) (fits_of_dnsLabelIsValid h.namespace)
    (by decide)).bindAll ?_
  refine (reads_takeAsciiText (by decide) (fits_of_dnsSubdomainIsValid h.deployment)
    (by decide)).bindAll ?_
  refine (reads_takeAsciiText (by decide) (fits_of_dnsLabelIsValid h.container)
    (by decide)).bindAll ?_
  refine (reads_takeAsciiText (by decide) (fits_of_immutableImageIsValid h.immutableImageDigest)
    (by decide)).bindAll ?_
  cases approvedTarget with
  | none => exact readsAll_finishExact _
  | some target =>
    obtain ⟨huid, hversion⟩ := h.fits_target rfl
    refine (reads_takeAsciiText (by decide) huid (by decide)).bindAll ?_
    refine (reads_takeAsciiText (by decide) hversion (by decide)).bindAll ?_
    exact readsAll_finishExact _

/-- A valid statement is read back. -/
theorem ExactAuthorization.Valid.parseStatement_eq_ok {a : ExactAuthorization} (h : a.Valid) :
    parseStatement (a.statementMagic ++ framesOf 1 a.values) = .ok a ∧
      purposeOfStatement (a.statementMagic ++ framesOf 1 a.values) = a.purpose := by
  have hversion : snapshotStatementMagic.isPrefixOf
      (a.statementMagic ++ framesOf 1 a.values) = a.approvedTarget.isSome :=
    isPrefixOf_version _ _ (by decide) (by decide)
  have hlength : (a.statementMagic ++ framesOf 1 a.values).length < 2 ^ 32 := by
    have hle := h.length_le
    rw [List.length_append, length_framesOf]
    omega
  obtain ⟨c, c', hstart, hread⟩ := (readsAll_takeAuthorization h).run hlength grantErrors
  refine ⟨?_, ?_⟩
  · unfold parseStatement
    simp only [hversion]
    exact bind_eq_ok.mpr ⟨c, hstart, bind_eq_ok.mpr ⟨(a, c'), hread, bind_eq_ok.mpr ⟨(),
      ExactAuthorization.validate_eq_ok.mpr h, rfl⟩⟩⟩
  · rw [purposeOfStatement, hversion, ExactAuthorization.purpose]

/-! ## Kubernetes grants -/

section
variable {C : Crypto}

/-- The envelope of a statement is read back. -/
theorem readGrant_envelope {a : ExactAuthorization} {keyId : Text} {statement : Bytes}
    (hkey : identityIsValid keyId = true) (hstatement : statement.length ≤ grantStatementBytesMax)
    (hparse : parseStatement statement = .ok a) (signature : Octets 64)
    (hlength : (envelope a.grantMagic a.purpose keyId statement signature).length < 2 ^ 32) :
    readGrant (envelope a.grantMagic a.purpose keyId statement signature) =
      .ok ⟨a, keyId, statement, signature⟩ := by
  have hversion : snapshotGrantMagic.isPrefixOf
      (envelope a.grantMagic a.purpose keyId statement signature) = a.approvedTarget.isSome :=
    isPrefixOf_version _ _ (by decide) (by decide)
  obtain ⟨c, c', hstart, hread⟩ := (readsAll_takeEnvelope a.purpose signature hkey
    hstatement).run hlength grantErrors
  unfold readGrant
  simp only [hversion]
  refine bind_eq_ok.mpr ⟨c, hstart, bind_eq_ok.mpr ⟨_, hread, bind_eq_ok.mpr ⟨a, hparse, ?_⟩⟩⟩
  exact bind_eq_ok.mpr ⟨(), require_of_true (decide_eq_true rfl), rfl⟩

/-- **A valid authorization is signed within the bounds and verified** under the trust of its
seed. -/
theorem ExactAuthorization.Valid.verify_sign (hC : C.Correct) {a : ExactAuthorization}
    (h : a.Valid) (seed : Octets 32) {keyId : Text} (hkey : identityIsValid keyId = true) :
    ∃ bytes, signAuthorizationGrant C a seed keyId = .ok bytes ∧
      bytes.length ≤ signedGrantBytesMax ∧
      verifyAuthorizationGrant C bytes ⟨keyId, C.verifyingKey seed⟩ =
        .ok ⟨a, keyId, digestHex C bytes⟩ := by
  obtain ⟨hparse, hpurpose⟩ := h.parseStatement_eq_ok
  have hstatement := h.length_le
  have hencode := h.encodeStatement_eq_ok
  rw [← length_framesOf 1, ← List.length_append] at hstatement
  generalize a.statementMagic ++ framesOf 1 a.values = statement at *
  have hkeyLength := (fits_of_identityIsValid hkey).length_le
  have hmagic : a.grantMagic.length = 28 := by
    unfold ExactAuthorization.grantMagic
    split <;> decide
  have hpurposeLength : a.purpose.length = 55 := by
    unfold ExactAuthorization.purpose
    split <;> decide
  obtain ⟨hsign, hlength⟩ := signGrantStatement_eq_ok C statement a.grantMagic a.purpose seed keyId
    (by omega)
  refine ⟨_, ?_, hlength, ?_⟩
  · refine bind_eq_ok.mpr ⟨(), ExactAuthorization.validate_eq_ok.mpr h, bind_eq_ok.mpr ⟨(),
      require_of_true hkey, bind_eq_ok.mpr ⟨statement, hencode, ?_⟩⟩⟩
    rw [hpurpose]
    exact hsign
  · have hread := readGrant_envelope hkey (hstatement.trans (by decide)) hparse
      (C.sign seed (signatureInput a.purpose statement)) (lt_of_le_of_lt hlength (by decide))
    have htrust : (⟨keyId, C.verifyingKey seed⟩ : AuthorizationTrust).validate C = .ok () :=
      bind_eq_ok.mpr ⟨(), require_of_true hkey, require_of_true (hC.keyIsValid_verifyingKey seed)⟩
    have hverify := hC.verifyStrict_sign seed (signatureInput a.purpose statement)
    refine bind_eq_ok.mpr ⟨(), htrust, bind_eq_ok.mpr ⟨(), require_of_true (decide_eq_true hlength),
      bind_eq_ok.mpr ⟨_, hread, bind_eq_ok.mpr ⟨(), require_of_true (decide_eq_true rfl),
      bind_eq_ok.mpr ⟨(), require_of_true (hC.keyIsValid_verifyingKey seed),
      bind_eq_ok.mpr ⟨(), require_of_true ?_, rfl⟩⟩⟩⟩⟩⟩
    rw [hpurpose]
    exact hverify

/-- **A grant that verifies is the envelope of its statement and nothing else.** -/
theorem envelope_of_verifyAuthorizationGrant {bytes : Bytes} {trust : AuthorizationTrust}
    {grant : ValidatedAuthorizationGrant} (h : verifyAuthorizationGrant C bytes trust = .ok grant) :
    ∃ statement signature, encodeStatement grant.authorization = .ok statement ∧
      bytes = envelope grant.authorization.grantMagic grant.authorization.purpose
        grant.signerKeyId statement signature := by
  obtain ⟨-, signed, hread, -, rfl⟩ := readGrant_of_verifyAuthorizationGrant h
  unfold readGrant at hread
  obtain ⟨records, hstart, hread⟩ := bind_eq_ok.mp hread
  obtain ⟨⟨⟨keyId, statement, signature⟩, c⟩, henvelope, hread⟩ := bind_eq_ok.mp hread
  obtain ⟨a, hparse, hread⟩ := bind_eq_ok.mp hread
  obtain ⟨_, hsame, hread⟩ := bind_eq_ok.mp hread
  obtain rfl := Except.ok.inj hread
  have hversion : a.approvedTarget.isSome = snapshotGrantMagic.isPrefixOf bytes :=
    of_decide_eq_true (require_eq_ok.mp hsame)
  refine ⟨statement, signature, (encodeStatement_of_parseStatement hparse).2.1, ?_⟩
  rw [ExactAuthorization.grantMagic, ExactAuthorization.purpose, hversion]
  exact takesAll_takeEnvelope.run hstart henvelope

/-- **The Kubernetes grants are a codec.**

* A valid authorization, of either version, is encoded and signed within the bounds under every seed
  and every valid key id, and verifies under the trust of that key to exactly itself, the key id and
  the digest of the bytes.
* Whatever verifies has a valid authorization, the key id of the trust and the digest of the bytes,
  and the bytes are exactly the envelope of its version around the encoded statement with one
  signature.
* So two grants that verify to one authorization under one key id differ in the signature only. -/
theorem kubernetes_grant_codec (hC : C.Correct) :
    (∀ a seed keyId, a.validate = .ok () → identityIsValid keyId = true →
      ∃ statement bytes, encodeStatement a = .ok statement ∧
        statement.length ≤ grantStatementBytesMax ∧
        signAuthorizationGrant C a seed keyId = .ok bytes ∧ bytes.length ≤ signedGrantBytesMax ∧
        verifyAuthorizationGrant C bytes ⟨keyId, C.verifyingKey seed⟩ =
          .ok ⟨a, keyId, digestHex C bytes⟩) ∧
    (∀ bytes trust grant, verifyAuthorizationGrant C bytes trust = .ok grant →
      grant.authorization.validate = .ok () ∧ grant.signerKeyId = trust.keyId ∧
        grant.grantDigest = digestHex C bytes ∧
        ∃ statement signature, encodeStatement grant.authorization = .ok statement ∧
          bytes = envelope grant.authorization.grantMagic grant.authorization.purpose
            grant.signerKeyId statement signature) ∧
    (∀ bytes bytes' trust trust' grant grant', verifyAuthorizationGrant C bytes trust = .ok grant →
      verifyAuthorizationGrant C bytes' trust' = .ok grant' →
      grant.authorization = grant'.authorization → grant.signerKeyId = grant'.signerKeyId →
      bytes ≠ bytes' →
      ∃ statement signature signature', signature ≠ signature' ∧
        bytes = envelope grant.authorization.grantMagic grant.authorization.purpose
          grant.signerKeyId statement signature ∧
        bytes' = envelope grant.authorization.grantMagic grant.authorization.purpose
          grant.signerKeyId statement signature') := by
  refine ⟨?_, ?_, ?_⟩
  · intro a seed keyId hvalidate hkey
    have hvalid := ExactAuthorization.validate_eq_ok.mp hvalidate
    obtain ⟨bytes, hsign, hlength, hverify⟩ := hvalid.verify_sign hC seed hkey
    have hstatement := hvalid.length_le
    rw [← length_framesOf 1, ← List.length_append] at hstatement
    exact ⟨_, bytes, hvalid.encodeStatement_eq_ok, hstatement.trans (by decide), hsign, hlength,
      hverify⟩
  · intro bytes trust grant h
    have hverified := verifyAuthorizationGrant_eq_ok h
    exact ⟨ExactAuthorization.validate_eq_ok.mpr hverified.valid, hverified.signerKeyId_eq,
      hverified.grantDigest, envelope_of_verifyAuthorizationGrant h⟩
  · intro bytes bytes' trust trust' grant grant' h h' hsame hkey hne
    obtain ⟨statement, signature, hencode, hbytes⟩ := envelope_of_verifyAuthorizationGrant h
    obtain ⟨statement', signature', hencode', hbytes'⟩ := envelope_of_verifyAuthorizationGrant h'
    rw [← hsame] at hencode' hbytes'
    rw [← hkey] at hbytes'
    obtain rfl := Except.ok.inj (hencode.symm.trans hencode')
    refine ⟨statement, signature, signature', ?_, hbytes, hbytes'⟩
    rintro rfl
    exact hne (hbytes.trans hbytes'.symm)

end

/-- An authorization bound to a snapshot of its target. -/
def boundAuthorization : ExactAuthorization where
  approvedTarget := some ⟨utf8 "uid-1", utf8 "41"⟩
  authorizationId := utf8 "auth-1"
  operationId := utf8 "op-1"
  «namespace» := utf8 "demo"
  deployment := utf8 "worker"
  container := utf8 "app"
  immutableImageDigest := utf8 "registry/worker@sha256:" ++ List.replicate 64 (asciiByte 'b')

/-- It is signed and verified. -/
theorem boundAuthorization_verifies :
    ∃ bytes, signAuthorizationGrant Crypto.bare boundAuthorization ⟨List.replicate 32 7, rfl⟩
        (utf8 "owner-key") = .ok bytes ∧
      verifyAuthorizationGrant Crypto.bare bytes ⟨utf8 "owner-key", ⟨List.replicate 32 7, rfl⟩⟩ =
        .ok ⟨boundAuthorization, utf8 "owner-key", digestHex Crypto.bare bytes⟩ := by
  obtain ⟨_, bytes, -, -, hsign, -, hverify⟩ :=
    (kubernetes_grant_codec Crypto.correct_bare).1 boundAuthorization ⟨List.replicate 32 7, rfl⟩
      (utf8 "owner-key") (by decide) (by decide)
  exact ⟨bytes, hsign, hverify⟩

/-! ## Git grants -/

namespace GitRefAuthorization

variable {a : GitRefAuthorization}

/-- The values of a Git statement in the order of their tags. -/
def values (a : GitRefAuthorization) : List Bytes :=
  [a.authorizationId, a.operationId, a.repositoryId, a.reference, a.oldCommit, a.newCommit]

/-- The bytes of a Git statement. -/
def statement (a : GitRefAuthorization) : Bytes := Git.statementMagic ++ framesOf 1 a.values

theorem Valid.length_le (h : a.Valid) :
    Git.statementMagic.length + framesLength a.values ≤ 1024 := by
  have hmagic : Git.statementMagic.length = 34 := by decide
  have hreference : approvedGitRef.length = 19 := by decide
  have h1 := (fits_of_identityIsValid h.authorizationId).length_le
  have h2 := (fits_of_identityIsValid h.operationId).length_le
  have h3 := (fits_of_identityIsValid h.repositoryId).length_le
  have h5 := (fits_of_gitCommitIdIsValid h.oldCommit).length_le
  have h6 := (fits_of_gitCommitIdIsValid h.newCommit).length_le
  simp only [values, framesLength, List.map_cons, List.map_nil, List.sum_cons, List.sum_nil,
    h.reference]
  omega

theorem Valid.length_statement (h : a.Valid) : a.statement.length ≤ 1024 := by
  have hlength := h.length_le
  rwa [← length_framesOf 1, ← List.length_append] at hlength

/-- The statement that signing writes. -/
theorem Valid.appendGrantRecords_eq_ok (h : a.Valid) :
    appendGrantRecords Git.statementMax Git.statementMagic 1 a.values = .ok a.statement :=
  Authority.appendGrantRecords_eq_ok (by decide) (h.length_le.trans (by decide))

end GitRefAuthorization

theorem takesAll_takeGitAuthorization :
    TakesAll takeGitAuthorization [] fun a => framesOf 1 a.values := by
  refine takes_takeBoundedAscii.bindAll fun authorizationId => ?_
  refine takes_takeBoundedAscii.bindAll fun operationId => ?_
  refine takes_takeBoundedAscii.bindAll fun repositoryId => ?_
  refine takes_takeBoundedAscii.bindAll fun reference => ?_
  refine takes_takeBoundedAscii.bindAll fun oldCommit => ?_
  refine takes_takeBoundedAscii.bindAll fun newCommit => ?_
  refine takesAll_finish ?_
  simp only [GitRefAuthorization.values, framesOf, List.nil_append, List.append_nil,
    List.append_assoc]
  rfl

theorem readsAll_takeGitAuthorization {a : GitRefAuthorization} (h : a.Valid) :
    ReadsAll takeGitAuthorization 1 (framesOf 1 a.values) a := by
  have hreference : Fits approvedGitRef.length a.reference := by
    rw [h.reference]
    exact ⟨by decide, Nat.le_refl _, by decide⟩
  refine (reads_takeBoundedAscii (by decide) (fits_of_identityIsValid h.authorizationId)).bindAll ?_
  refine (reads_takeBoundedAscii (by decide) (fits_of_identityIsValid h.operationId)).bindAll ?_
  refine (reads_takeBoundedAscii (by decide) (fits_of_identityIsValid h.repositoryId)).bindAll ?_
  refine (reads_takeBoundedAscii (by decide) hreference).bindAll ?_
  refine (reads_takeBoundedAscii (by decide) (fits_of_gitCommitIdIsValid h.oldCommit)).bindAll ?_
  refine (reads_takeBoundedAscii (by decide) (fits_of_gitCommitIdIsValid h.newCommit)).bindAll ?_
  exact readsAll_finishExact a

/-- The envelope of a Git statement is read back. -/
theorem readGitGrant_envelope {a : GitRefAuthorization} (h : a.Valid) {keyId : Text}
    (hkey : identityIsValid keyId = true) (signature : Octets 64)
    (hlength : (envelope Git.grantMagic Git.purpose keyId a.statement signature).length < 2 ^ 32) :
    readGitGrant (envelope Git.grantMagic Git.purpose keyId a.statement signature) =
      .ok ⟨a, keyId, a.statement, signature⟩ := by
  have hstatement := h.length_statement
  obtain ⟨c, c', hstart, hread⟩ := (readsAll_takeGitEnvelope signature hkey
    (hstatement.trans (by decide))).run hlength grantErrors
  obtain ⟨d, d', hfields, hauthorization⟩ := (readsAll_takeGitAuthorization h).run
    (lt_of_le_of_lt hstatement (by decide)) grantErrors
  exact bind_eq_ok.mpr ⟨c, hstart, bind_eq_ok.mpr ⟨_, hread, bind_eq_ok.mpr ⟨d, hfields,
    bind_eq_ok.mpr ⟨_, hauthorization, bind_eq_ok.mpr ⟨(),
      require_of_true (GitRefAuthorization.isValid_iff.mpr h), rfl⟩⟩⟩⟩⟩

section
variable {C : Crypto}

/-- **A valid Git authorization is signed within the bounds and verified** under the trust of its
seed. -/
theorem GitRefAuthorization.Valid.verify_sign (hC : C.Correct) {a : GitRefAuthorization}
    (h : a.Valid) (seed : Octets 32) {keyId : Text} (hkey : identityIsValid keyId = true) :
    ∃ bytes, signGitRefGrant C a seed keyId = .ok bytes ∧ bytes.length ≤ Git.grantMax ∧
      verifyGitRefGrant C bytes ⟨keyId, C.verifyingKey seed⟩ =
        .ok ⟨a, keyId, digestHex C bytes⟩ := by
  have hstatement := h.length_statement
  have hkeyLength := (fits_of_identityIsValid hkey).length_le
  have hmagic : Git.grantMagic.length = 24 := by decide
  have hpurpose : Git.purpose.length = 34 := by decide
  obtain ⟨hsign, hlength⟩ := signGrantStatement_eq_ok C a.statement Git.grantMagic Git.purpose seed
    keyId (by omega)
  have hboth : (a.isValid && identityIsValid keyId) = true := by
    rw [GitRefAuthorization.isValid_iff.mpr h, hkey]
    rfl
  refine ⟨_, bind_eq_ok.mpr ⟨(), require_of_true hboth, bind_eq_ok.mpr ⟨a.statement,
    h.appendGrantRecords_eq_ok, hsign⟩⟩, hlength, ?_⟩
  have hread := readGitGrant_envelope h hkey
    (C.sign seed (signatureInput Git.purpose a.statement)) (lt_of_le_of_lt hlength (by decide))
  have htrust : (⟨keyId, C.verifyingKey seed⟩ : AuthorizationTrust).validate C = .ok () :=
    bind_eq_ok.mpr ⟨(), require_of_true hkey, require_of_true (hC.keyIsValid_verifyingKey seed)⟩
  have hverify := hC.verifyStrict_sign seed (signatureInput Git.purpose a.statement)
  exact bind_eq_ok.mpr ⟨(), htrust, bind_eq_ok.mpr ⟨(), require_of_true (decide_eq_true hlength),
    bind_eq_ok.mpr ⟨_, hread, bind_eq_ok.mpr ⟨(), require_of_true (decide_eq_true rfl),
    bind_eq_ok.mpr ⟨(), require_of_true (hC.keyIsValid_verifyingKey seed),
    bind_eq_ok.mpr ⟨(), require_of_true hverify, rfl⟩⟩⟩⟩⟩⟩

/-- **A Git grant that verifies is the envelope of its authorization and nothing else.** -/
theorem envelope_of_verifyGitRefGrant {bytes : Bytes} {trust : AuthorizationTrust}
    {grant : ValidatedGitRefGrant} (h : verifyGitRefGrant C bytes trust = .ok grant) :
    ∃ signature, bytes = envelope Git.grantMagic Git.purpose grant.signerKeyId
      grant.authorization.statement signature := by
  obtain ⟨-, signed, hread, -, rfl⟩ := readGitGrant_of_verifyGitRefGrant h
  obtain ⟨records, hstart, hread⟩ := bind_eq_ok.mp hread
  obtain ⟨⟨⟨keyId, statement, signature⟩, c⟩, henvelope, hread⟩ := bind_eq_ok.mp hread
  obtain ⟨fields, hfields, hread⟩ := bind_eq_ok.mp hread
  obtain ⟨⟨a, _⟩, hauthorization, hread⟩ := bind_eq_ok.mp hread
  obtain ⟨_, -, hread⟩ := bind_eq_ok.mp hread
  obtain rfl := Except.ok.inj hread
  have hstatement : statement = a.statement :=
    takesAll_takeGitAuthorization.run hfields hauthorization
  have hbytes := takesAll_takeGitEnvelope.run hstart henvelope
  rw [hstatement] at hbytes
  exact ⟨signature, hbytes⟩

end

end Authority
end Kapsel
