import Kapsel.Authority.Crypto
import Kapsel.Bytes.Framing
import Kapsel.Interaction.Fallible

/-!
# Kubernetes authorization grants

`crates/kapsel-authority/src/lib.rs`: the exact authorization an operator signs, its
canonical bytes, and the verification of a signed grant under one appointed key.

A grant without an approved target is a v1 grant; a grant with one is a v2 grant and
has its own magic, purpose and statement magic.

The main result is `verifyAuthorizationGrant_eq_ok`: what is known of the facts of a
grant that verified.  Everything the journal later relies on is listed there.
-/

namespace Kapsel

open Framing Grammar Fallible

namespace Authority

def grantStatementMagic : Bytes := utf8 "KAPSEL-KAP0038-K8S-GRANT-STATEMENT-V1\x00"
def signedGrantMagic : Bytes := utf8 "KAPSEL-KAP0038-K8S-GRANT-V1\x00"
def snapshotStatementMagic : Bytes := utf8 "KAPSEL-KAP0038-K8S-GRANT-STATEMENT-V2\x00"
def snapshotGrantMagic : Bytes := utf8 "KAPSEL-KAP0038-K8S-GRANT-V2\x00"
def snapshotPurpose : Text := utf8 "kapsel.kap0038.kubernetes-set-deployment-image-grant.v2"
def grantPurpose : Text := utf8 "kapsel.kap0038.kubernetes-set-deployment-image-grant.v1"
def signedGrantBytesMax : ℕ := 4 * 1024
def grantStatementBytesMax : ℕ := 2 * 1024
def grantTextBytesMax : ℕ := 512

/-- `AuthorizationInputField`. -/
inductive InputField where
  | authorizationId
  | operationId
  | namespace
  | deployment
  | container
  | immutableImageDigest
  deriving DecidableEq, Repr

/-- `AuthorizationGrantError`. -/
inductive GrantError where
  | invalidInput (field : InputField)
  | invalid
  | untrusted
  deriving DecidableEq, Repr

/-- Exact Kubernetes object identity and opaque version approved by the operator. -/
structure ApprovedTarget where
  uid : Text
  resourceVersion : Text
  deriving DecidableEq

/-- A fact the gateway keeps from Kubernetes: 1 to 128 ASCII bytes. -/
def factIsValid (value : Text) : Bool :=
  !value.isEmpty && value.length ≤ 128 && isAscii value

/-- `ApprovedTarget::is_valid`. -/
def ApprovedTarget.isValid (target : ApprovedTarget) : Bool :=
  [target.uid, target.resourceVersion].all factIsValid

theorem fits_of_factIsValid {value : Text} (h : factIsValid value = true) : Fits 128 value := by
  simp only [factIsValid, Bool.and_eq_true, Bool.not_eq_true', List.isEmpty_eq_false_iff,
    decide_eq_true_eq] at h
  exact ⟨h.1.1, h.1.2, h.2⟩

/-- Exact operator-selected Kubernetes statement to encode in an authorization grant. -/
structure ExactAuthorization where
  approvedTarget : Option ApprovedTarget
  authorizationId : Text
  operationId : Text
  «namespace» : Text
  deployment : Text
  container : Text
  immutableImageDigest : Text
  deriving DecidableEq

/-- The fields in the order in which they are checked, each with its check. -/
def ExactAuthorization.checks (a : ExactAuthorization) : List (InputField × Bool) :=
  [(.authorizationId, identityIsValid a.authorizationId),
    (.operationId, identityIsValid a.operationId),
    (.namespace, dnsLabelIsValid a.namespace),
    (.deployment, dnsSubdomainIsValid a.deployment),
    (.container, dnsLabelIsValid a.container),
    (.immutableImageDigest, immutableImageIsValid a.immutableImageDigest)]

/-- `ExactAuthorization::validate`: the first field that fails names the error. -/
def ExactAuthorization.validate (a : ExactAuthorization) : Except GrantError Unit :=
  if a.approvedTarget.any fun target => !target.isValid then .error .invalid
  else
    match a.checks.find? fun check => !check.2 with
    | some (field, _) => .error (.invalidInput field)
    | none => .ok ()

/-- `AuthorizationTrust`: one appointed grant signer. -/
structure AuthorizationTrust where
  keyId : Text
  publicKey : Octets 32
  deriving DecidableEq

/-- `AuthorizationTrust::validate`. -/
def AuthorizationTrust.validate (C : Crypto) (trust : AuthorizationTrust) :
    Except GrantError Unit := do
  require (identityIsValid trust.keyId) .invalid
  require (C.keyIsValid trust.publicKey) .invalid

/-! ## Bytes -/

/-- All framing errors of a grant are one error. -/
def grantErrors : TakeErrors GrantError := ⟨.invalid, .invalid, .invalid⟩

/-- `append_grant_record`. -/
def appendGrantRecord (output : Bytes) (tag : UInt8) (value : Bytes) (maximumBytes : ℕ) :
    Except GrantError Bytes :=
  push .invalid output tag value maximumBytes

/-- Append values under consecutive tags. -/
def appendGrantRecords (maximumBytes : ℕ) : Bytes → UInt8 → List Bytes → Except GrantError Bytes
  | output, _, [] => .ok output
  | output, tag, value :: values => do
      let output ← appendGrantRecord output tag value maximumBytes
      appendGrantRecords maximumBytes output (tag + 1) values

/-- `encode_statement`. -/
def encodeStatement (a : ExactAuthorization) : Except GrantError Bytes := do
  let output ← appendGrantRecords grantStatementBytesMax
    (if a.approvedTarget.isSome then snapshotStatementMagic else grantStatementMagic) 1
    [a.authorizationId, a.operationId, a.namespace, a.deployment, a.container,
      a.immutableImageDigest]
  match a.approvedTarget with
  | some target => do
      let output ← appendGrantRecord output 7 target.uid grantStatementBytesMax
      appendGrantRecord output 8 target.resourceVersion grantStatementBytesMax
  | none => .ok output

/-- `grant_purpose`. -/
def purposeOfStatement (statement : Bytes) : Text :=
  if snapshotStatementMagic.isPrefixOf statement then snapshotPurpose else grantPurpose

/-- `signature_input`. -/
def signatureInput (purpose : Text) (statement : Bytes) : Bytes :=
  purpose ++ [0] ++ statement

/-- `sign_grant_statement`. -/
def signGrantStatement (C : Crypto) (statement magic : Bytes) (purpose : Text)
    (seed : Octets 32) (keyId : Text) : Except GrantError Bytes :=
  appendGrantRecords signedGrantBytesMax magic 1
    [purpose, keyId, statement, (C.sign seed (signatureInput purpose statement)).val]

/-- `sign_authorization_grant`. -/
def signAuthorizationGrant (C : Crypto) (a : ExactAuthorization) (seed : Octets 32)
    (keyId : Text) : Except GrantError Bytes := do
  a.validate
  require (identityIsValid keyId) .invalid
  let statement ← encodeStatement a
  signGrantStatement C statement
    (if a.approvedTarget.isSome then snapshotGrantMagic else signedGrantMagic)
    (purposeOfStatement statement) seed keyId

/-- `GrantRecords::take_record`. -/
def takeRecord (tag : UInt8) : StateT Cursor (Except GrantError) Bytes :=
  fun records => records.take grantErrors tag

/-- `GrantRecords::take_ascii_text`. -/
def takeAsciiText (tag : UInt8) : StateT Cursor (Except GrantError) Text := do
  let value ← takeRecord tag
  if value.isEmpty || grantTextBytesMax < value.length || !isAscii value then
    throw .invalid
  return value

/-- `GrantRecords::finish_exact`. -/
def finishExact : StateT Cursor (Except GrantError) Unit :=
  fun records => (records.finish grantErrors).map fun u => (u, records)

/-- The fields of a statement, in order. -/
def takeAuthorization (snapshotBound : Bool) : StateT Cursor (Except GrantError)
    ExactAuthorization := do
  let authorizationId ← takeAsciiText 1
  let operationId ← takeAsciiText 2
  let ns ← takeAsciiText 3
  let deployment ← takeAsciiText 4
  let container ← takeAsciiText 5
  let immutableImageDigest ← takeAsciiText 6
  let approvedTarget ←
    if snapshotBound then do
      let uid ← takeAsciiText 7
      let resourceVersion ← takeAsciiText 8
      pure (some ⟨uid, resourceVersion⟩)
    else pure none
  finishExact
  return ⟨approvedTarget, authorizationId, operationId, ns, deployment, container,
    immutableImageDigest⟩

/-- `parse_statement`. -/
def parseStatement (bytes : Bytes) : Except GrantError ExactAuthorization := do
  let snapshotBound := snapshotStatementMagic.isPrefixOf bytes
  let records ← Cursor.start grantErrors bytes
    (if snapshotBound then snapshotStatementMagic else grantStatementMagic)
  let (authorization, _) ← takeAuthorization snapshotBound records
  authorization.validate
  return authorization

/-- The four records of a grant envelope: purpose, key, statement and signature, each
checked as it is taken. -/
def takeEnvelope (expectedPurpose : Text) :
    StateT Cursor (Except GrantError) (Text × Bytes × Octets 64) := do
  let purpose ← takeRecord 1
  require (purpose = expectedPurpose) GrantError.invalid
  let keyId ← takeAsciiText 2
  require (identityIsValid keyId) GrantError.invalid
  let statement ← takeRecord 3
  require (statement.length ≤ grantStatementBytesMax) GrantError.invalid
  let signature ← arrayOr 64 GrantError.invalid (← takeRecord 4)
  finishExact
  return (keyId, statement, signature)

/-- `ValidatedAuthorizationGrant`: what verification establishes. -/
structure ValidatedAuthorizationGrant where
  authorization : ExactAuthorization
  signerKeyId : Text
  grantDigest : Text
  deriving DecidableEq

/-- What verification reads from the bytes alone: the statement with its bytes, the
key identity it names and the signature. -/
structure SignedGrant where
  authorization : ExactAuthorization
  keyId : Text
  statement : Bytes
  signature : Octets 64

/-- The part of `verify_authorization_grant` before any trust is asked. -/
def readGrant (bytes : Bytes) : Except GrantError SignedGrant := do
  let snapshotBound := snapshotGrantMagic.isPrefixOf bytes
  let records ← Cursor.start grantErrors bytes
    (if snapshotBound then snapshotGrantMagic else signedGrantMagic)
  let ((keyId, statement, signature), _) ←
    takeEnvelope (if snapshotBound then snapshotPurpose else grantPurpose) records
  let authorization ← parseStatement statement
  require (authorization.approvedTarget.isSome = snapshotBound) .invalid
  return ⟨authorization, keyId, statement, signature⟩

/-- `verify_authorization_grant`. -/
def verifyAuthorizationGrant (C : Crypto) (bytes : Bytes) (trust : AuthorizationTrust) :
    Except GrantError ValidatedAuthorizationGrant := do
  trust.validate C
  require (bytes.length ≤ signedGrantBytesMax) .invalid
  let grant ← readGrant bytes
  require (grant.keyId = trust.keyId) .untrusted
  require (C.keyIsValid trust.publicKey) .invalid
  require (C.verifyStrict trust.publicKey
    (signatureInput (purposeOfStatement grant.statement) grant.statement) grant.signature) .untrusted
  return ⟨grant.authorization, grant.keyId, digestHex C bytes⟩

/-! ## What a verified grant satisfies -/

/-- The grammar every field of a validated authorization meets. -/
structure ExactAuthorization.Valid (a : ExactAuthorization) : Prop where
  approvedTarget : ∀ target ∈ a.approvedTarget, target.isValid = true
  authorizationId : identityIsValid a.authorizationId = true
  operationId : identityIsValid a.operationId = true
  «namespace» : dnsLabelIsValid a.namespace = true
  deployment : dnsSubdomainIsValid a.deployment = true
  container : dnsLabelIsValid a.container = true
  immutableImageDigest : immutableImageIsValid a.immutableImageDigest = true

theorem ExactAuthorization.validate_eq_ok {a : ExactAuthorization} {u : Unit} :
    a.validate = .ok u ↔ a.Valid := by
  unfold ExactAuthorization.validate
  constructor
  · intro h
    split at h
    · exact absurd h (by simp)
    · rename_i htarget
      split at h
      · exact absurd h (by simp)
      · rename_i hchecks
        simp only [ExactAuthorization.checks, List.find?_eq_none, List.mem_cons, List.not_mem_nil,
          or_false, forall_eq_or_imp, forall_eq, Bool.not_eq_true', Bool.not_eq_false] at hchecks
        obtain ⟨h1, h2, h3, h4, h5, h6⟩ := hchecks
        refine ⟨fun target ht => ?_, h1, h2, h3, h4, h5, h6⟩
        rw [Option.mem_def] at ht
        simpa [ht] using htarget
  · rintro ⟨htarget, h1, h2, h3, h4, h5, h6⟩
    rw [if_neg, List.find?_eq_none.mpr]
    · simp [ExactAuthorization.checks, h1, h2, h3, h4, h5, h6]
    · cases ht : a.approvedTarget with
      | none => simp
      | some target => simp [htarget target ht]

/-- The facts of a verified grant. -/
structure Verified (C : Crypto) (bytes : Bytes) (trust : AuthorizationTrust)
    (grant : ValidatedAuthorizationGrant) : Prop where
  valid : grant.authorization.Valid
  length_le : bytes.length ≤ signedGrantBytesMax
  nonempty : bytes ≠ []
  signerKeyId : identityIsValid grant.signerKeyId = true
  signerKeyId_eq : grant.signerKeyId = trust.keyId
  grantDigest : grant.grantDigest = digestHex C bytes

theorem Cursor.start_eq_ok_ne_nil {ε : Type} {errors : TakeErrors ε} {input magic : Bytes}
    {c : Cursor} (hmagic : magic ≠ []) (h : Cursor.start errors input magic = .ok c) :
    input ≠ [] := by
  rintro rfl
  rw [Cursor.start] at h
  split at h
  · rename_i hp
    exact hmagic (by simpa using hp)
  · exact absurd h (by simp)

/-- The key identity of an envelope has the identity grammar. -/
theorem takeEnvelope_eq_ok {purpose keyId : Text} {statement : Bytes} {signature : Octets 64}
    {records records' : Cursor}
    (h : takeEnvelope purpose records = .ok ((keyId, statement, signature), records')) :
    identityIsValid keyId = true := by
  unfold takeEnvelope at h
  obtain ⟨⟨_, _⟩, -, h⟩ := bind_eq_ok.mp h
  obtain ⟨⟨_, _⟩, -, h⟩ := bind_eq_ok.mp h
  obtain ⟨⟨keyId', _⟩, -, h⟩ := bind_eq_ok.mp h
  obtain ⟨⟨_, _⟩, hkey, h⟩ := bind_eq_ok.mp h
  obtain ⟨⟨_, _⟩, -, h⟩ := bind_eq_ok.mp h
  obtain ⟨⟨_, _⟩, -, h⟩ := bind_eq_ok.mp h
  obtain ⟨⟨_, _⟩, -, h⟩ := bind_eq_ok.mp h
  obtain ⟨⟨_, _⟩, -, h⟩ := bind_eq_ok.mp h
  obtain ⟨⟨_, _⟩, -, h⟩ := bind_eq_ok.mp h
  have hk : keyId' = keyId := congrArg (fun p => p.1.1) (Except.ok.inj h)
  rw [← hk]
  exact require_eq_ok.mp (lift_eq_ok hkey)

/-- What reading establishes. -/
theorem readGrant_eq_ok {bytes : Bytes} {grant : SignedGrant} (h : readGrant bytes = .ok grant) :
    grant.authorization.Valid ∧ bytes ≠ [] ∧ identityIsValid grant.keyId = true := by
  unfold readGrant at h
  obtain ⟨records, hstart, h⟩ := bind_eq_ok.mp h
  obtain ⟨⟨⟨keyId, statement, signature⟩, records'⟩, henvelope, h⟩ := bind_eq_ok.mp h
  obtain ⟨authorization, hparse, h⟩ := bind_eq_ok.mp h
  obtain ⟨_, -, h⟩ := bind_eq_ok.mp h
  obtain rfl := Except.ok.inj h
  -- the parsed statement passed the field validation
  unfold parseStatement at hparse
  obtain ⟨_, -, hparse⟩ := bind_eq_ok.mp hparse
  obtain ⟨⟨authorization', records''⟩, -, hparse⟩ := bind_eq_ok.mp hparse
  obtain ⟨_, hvalidate, hparse⟩ := bind_eq_ok.mp hparse
  obtain rfl := Except.ok.inj hparse
  refine ⟨ExactAuthorization.validate_eq_ok.mp hvalidate, ?_, takeEnvelope_eq_ok henvelope⟩
  refine Cursor.start_eq_ok_ne_nil ?_ hstart
  split <;> decide

/-- The facts of a verified grant are those read from its bytes. -/
theorem readGrant_of_verifyAuthorizationGrant {C : Crypto} {bytes : Bytes}
    {trust : AuthorizationTrust} {grant : ValidatedAuthorizationGrant}
    (h : verifyAuthorizationGrant C bytes trust = .ok grant) :
    bytes.length ≤ signedGrantBytesMax ∧ ∃ signed, readGrant bytes = .ok signed ∧
      signed.keyId = trust.keyId ∧
      grant = ⟨signed.authorization, signed.keyId, digestHex C bytes⟩ := by
  unfold verifyAuthorizationGrant at h
  obtain ⟨_, -, h⟩ := bind_eq_ok.mp h
  obtain ⟨_, hlength, h⟩ := bind_eq_ok.mp h
  obtain ⟨signed, hread, h⟩ := bind_eq_ok.mp h
  obtain ⟨_, htrust, h⟩ := bind_eq_ok.mp h
  obtain ⟨_, -, h⟩ := bind_eq_ok.mp h
  obtain ⟨_, -, h⟩ := bind_eq_ok.mp h
  exact ⟨of_decide_eq_true (require_eq_ok.mp hlength), signed, hread,
    of_decide_eq_true (require_eq_ok.mp htrust), (Except.ok.inj h).symm⟩

/-- **What verification establishes.** -/
theorem verifyAuthorizationGrant_eq_ok {C : Crypto} {bytes : Bytes} {trust : AuthorizationTrust}
    {grant : ValidatedAuthorizationGrant}
    (h : verifyAuthorizationGrant C bytes trust = .ok grant) : Verified C bytes trust grant := by
  obtain ⟨hlength, signed, hread, hkey, rfl⟩ := readGrant_of_verifyAuthorizationGrant h
  obtain ⟨hvalid, hne, hidentity⟩ := readGrant_eq_ok hread
  exact ⟨hvalid, hlength, hne, hidentity, hkey, rfl⟩

/-- The facts of a grant depend on its bytes only, not on the key that verified it. -/
theorem verifyAuthorizationGrant_deterministic {C : Crypto} {bytes : Bytes}
    {trust trust' : AuthorizationTrust} {grant grant' : ValidatedAuthorizationGrant}
    (h : verifyAuthorizationGrant C bytes trust = .ok grant)
    (h' : verifyAuthorizationGrant C bytes trust' = .ok grant') : grant = grant' := by
  obtain ⟨-, signed, hread, -, rfl⟩ := readGrant_of_verifyAuthorizationGrant h
  obtain ⟨-, signed', hread', -, rfl⟩ := readGrant_of_verifyAuthorizationGrant h'
  obtain rfl := Except.ok.inj (hread.symm.trans hread')
  rfl

end Authority
end Kapsel
