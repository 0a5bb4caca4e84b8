import Kapsel.Authority.Grant

/-!
# Git ref grants

`crates/kapsel-authority/src/git.rs`: the exact transition of the operator's prepared
branch, its signed bytes, and their verification under one appointed key.

A Git grant shares the record framing, the signature input and the trust appointment
with the Kubernetes grants and nothing else: its magics and its purpose are its own.
-/

namespace Kapsel

open Framing Grammar Fallible

namespace Authority

/-- The one branch the Git receiver accepts. -/
def approvedGitRef : Text := utf8 "refs/heads/approved"

namespace Git

def statementMagic : Bytes := utf8 "KAPSEL-GIT-REF-GRANT-STATEMENT-V1\x00"
def grantMagic : Bytes := utf8 "KAPSEL-GIT-REF-GRANT-V1\x00"
def purpose : Text := utf8 "kapsel.git-ref-transition-grant.v1"
def statementMax : ℕ := 2048
def grantMax : ℕ := 4096

end Git

/-- `GitRefAuthorization`: the exact public facts of one Git transition. -/
structure GitRefAuthorization where
  authorizationId : Text
  operationId : Text
  repositoryId : Text
  reference : Text
  oldCommit : Text
  newCommit : Text
  deriving DecidableEq

/-- `GitRefAuthorization::is_valid`. -/
def GitRefAuthorization.isValid (a : GitRefAuthorization) : Bool :=
  [a.authorizationId, a.operationId, a.repositoryId].all identityIsValid &&
    a.reference = approvedGitRef && gitCommitIdIsValid a.oldCommit &&
    gitCommitIdIsValid a.newCommit && a.oldCommit ≠ a.newCommit

/-- `ValidatedGitRefGrant`. -/
structure ValidatedGitRefGrant where
  authorization : GitRefAuthorization
  signerKeyId : Text
  grantDigest : Text
  deriving DecidableEq

/-- `sign_git_ref_grant`. -/
def signGitRefGrant (C : Crypto) (a : GitRefAuthorization) (seed : Octets 32) (keyId : Text) :
    Except GrantError Bytes := do
  require (a.isValid && identityIsValid keyId) .invalid
  let statement ← appendGrantRecords Git.statementMax Git.statementMagic 1
    [a.authorizationId, a.operationId, a.repositoryId, a.reference, a.oldCommit, a.newCommit]
  signGrantStatement C statement Git.grantMagic Git.purpose seed keyId

/-- `decode_bounded_ascii`. -/
def decodeBoundedAscii (maximumBytes : ℕ) (bytes : Bytes) : Except GrantError Text := do
  require (bytes.length ≤ maximumBytes && isAscii bytes) .invalid
  return bytes

/-- The text of the next record, at most `maximumBytes` long. -/
def takeBoundedAscii (tag : UInt8) (maximumBytes : ℕ) :
    StateT Cursor (Except GrantError) Text := do
  decodeBoundedAscii maximumBytes (← takeRecord tag)

/-- The four records of a Git grant envelope. -/
def takeGitEnvelope : StateT Cursor (Except GrantError) (Text × Bytes × Octets 64) := do
  let purpose ← takeRecord 1
  require (purpose = Git.purpose) GrantError.invalid
  let keyId ← takeBoundedAscii 2 128
  require (identityIsValid keyId) GrantError.invalid
  let statement ← takeRecord 3
  require (statement.length ≤ Git.statementMax) GrantError.invalid
  let signature ← arrayOr 64 GrantError.invalid (← takeRecord 4)
  finishExact
  return (keyId, statement, signature)

/-- The six fields of a Git statement. -/
def takeGitAuthorization : StateT Cursor (Except GrantError) GitRefAuthorization := do
  let authorizationId ← takeBoundedAscii 1 128
  let operationId ← takeBoundedAscii 2 128
  let repositoryId ← takeBoundedAscii 3 128
  let reference ← takeBoundedAscii 4 approvedGitRef.length
  let oldCommit ← takeBoundedAscii 5 40
  let newCommit ← takeBoundedAscii 6 40
  finishExact
  return ⟨authorizationId, operationId, repositoryId, reference, oldCommit, newCommit⟩

/-- What verification reads from the bytes alone. -/
structure SignedGitGrant where
  authorization : GitRefAuthorization
  keyId : Text
  statement : Bytes
  signature : Octets 64

/-- The part of `verify_git_ref_grant` before any trust is asked. -/
def readGitGrant (bytes : Bytes) : Except GrantError SignedGitGrant := do
  let envelope ← Cursor.start grantErrors bytes Git.grantMagic
  let ((keyId, statement, signature), _) ← takeGitEnvelope envelope
  let fields ← Cursor.start grantErrors statement Git.statementMagic
  let (authorization, _) ← takeGitAuthorization fields
  require authorization.isValid .invalid
  return ⟨authorization, keyId, statement, signature⟩

/-- `verify_git_ref_grant`. -/
def verifyGitRefGrant (C : Crypto) (bytes : Bytes) (trust : AuthorizationTrust) :
    Except GrantError ValidatedGitRefGrant := do
  trust.validate C
  require (bytes.length ≤ Git.grantMax) .invalid
  let grant ← readGitGrant bytes
  require (grant.keyId = trust.keyId) .untrusted
  require (C.keyIsValid trust.publicKey) .invalid
  require (C.verifyStrict trust.publicKey (signatureInput Git.purpose grant.statement)
    grant.signature) .untrusted
  return ⟨grant.authorization, grant.keyId, digestHex C bytes⟩

/-! ## What a verified Git grant satisfies -/

/-- The grammar of a valid Git authorization, field by field. -/
structure GitRefAuthorization.Valid (a : GitRefAuthorization) : Prop where
  authorizationId : identityIsValid a.authorizationId = true
  operationId : identityIsValid a.operationId = true
  repositoryId : identityIsValid a.repositoryId = true
  reference : a.reference = approvedGitRef
  oldCommit : gitCommitIdIsValid a.oldCommit = true
  newCommit : gitCommitIdIsValid a.newCommit = true
  ne : a.oldCommit ≠ a.newCommit

theorem GitRefAuthorization.isValid_iff {a : GitRefAuthorization} :
    a.isValid = true ↔ a.Valid := by
  simp only [GitRefAuthorization.isValid, Bool.and_eq_true, List.all_eq_true, List.mem_cons,
    List.not_mem_nil, or_false, forall_eq_or_imp, forall_eq, decide_eq_true_eq]
  constructor
  · rintro ⟨⟨⟨⟨⟨h1, h2, h3⟩, h4⟩, h5⟩, h6⟩, h7⟩
    exact ⟨h1, h2, h3, h4, h5, h6, h7⟩
  · rintro ⟨h1, h2, h3, h4, h5, h6, h7⟩
    exact ⟨⟨⟨⟨⟨h1, h2, h3⟩, h4⟩, h5⟩, h6⟩, h7⟩

/-- The facts of a verified Git grant. -/
structure VerifiedGit (C : Crypto) (bytes : Bytes) (trust : AuthorizationTrust)
    (grant : ValidatedGitRefGrant) : Prop where
  valid : grant.authorization.Valid
  length_le : bytes.length ≤ Git.grantMax
  signerKeyId : identityIsValid grant.signerKeyId = true
  signerKeyId_eq : grant.signerKeyId = trust.keyId
  grantDigest : grant.grantDigest = digestHex C bytes

theorem takeGitEnvelope_eq_ok {keyId : Text} {statement : Bytes} {signature : Octets 64}
    {records records' : Cursor}
    (h : takeGitEnvelope records = .ok ((keyId, statement, signature), records')) :
    identityIsValid keyId = true := by
  unfold takeGitEnvelope at h
  obtain ⟨⟨_, _⟩, -, h⟩ := bind_eq_ok.mp h
  obtain ⟨⟨_, _⟩, -, h⟩ := bind_eq_ok.mp h
  obtain ⟨⟨keyId', _⟩, -, h⟩ := bind_eq_ok.mp h
  obtain ⟨⟨_, _⟩, hkey, h⟩ := bind_eq_ok.mp h
  obtain ⟨⟨_, _⟩, -, h⟩ := bind_eq_ok.mp h
  obtain ⟨⟨_, _⟩, -, h⟩ := bind_eq_ok.mp h
  obtain ⟨⟨_, _⟩, -, h⟩ := bind_eq_ok.mp h
  obtain ⟨⟨_, _⟩, -, h⟩ := bind_eq_ok.mp h
  obtain ⟨⟨_, _⟩, -, h⟩ := bind_eq_ok.mp h
  have hk : keyId' = keyId := congrArg (fun p => p.1.1) (Except.ok.inj h)
  rw [← hk]
  exact require_eq_ok.mp (lift_eq_ok hkey)

/-- What reading establishes. -/
theorem readGitGrant_eq_ok {bytes : Bytes} {grant : SignedGitGrant}
    (h : readGitGrant bytes = .ok grant) :
    grant.authorization.Valid ∧ identityIsValid grant.keyId = true := by
  unfold readGitGrant at h
  obtain ⟨_, -, h⟩ := bind_eq_ok.mp h
  obtain ⟨⟨⟨keyId, statement, signature⟩, _⟩, henvelope, h⟩ := bind_eq_ok.mp h
  obtain ⟨_, -, h⟩ := bind_eq_ok.mp h
  obtain ⟨⟨authorization, _⟩, -, h⟩ := bind_eq_ok.mp h
  obtain ⟨_, hvalid, h⟩ := bind_eq_ok.mp h
  obtain rfl := Except.ok.inj h
  exact ⟨GitRefAuthorization.isValid_iff.mp (require_eq_ok.mp hvalid),
    takeGitEnvelope_eq_ok henvelope⟩

/-- The facts of a verified Git grant are those read from its bytes. -/
theorem readGitGrant_of_verifyGitRefGrant {C : Crypto} {bytes : Bytes}
    {trust : AuthorizationTrust} {grant : ValidatedGitRefGrant}
    (h : verifyGitRefGrant C bytes trust = .ok grant) :
    bytes.length ≤ Git.grantMax ∧ ∃ signed, readGitGrant bytes = .ok signed ∧
      signed.keyId = trust.keyId ∧
      grant = ⟨signed.authorization, signed.keyId, digestHex C bytes⟩ := by
  unfold verifyGitRefGrant at h
  obtain ⟨_, -, h⟩ := bind_eq_ok.mp h
  obtain ⟨_, hlength, h⟩ := bind_eq_ok.mp h
  obtain ⟨signed, hread, h⟩ := bind_eq_ok.mp h
  obtain ⟨_, htrust, h⟩ := bind_eq_ok.mp h
  obtain ⟨_, -, h⟩ := bind_eq_ok.mp h
  obtain ⟨_, -, h⟩ := bind_eq_ok.mp h
  exact ⟨of_decide_eq_true (require_eq_ok.mp hlength), signed, hread,
    of_decide_eq_true (require_eq_ok.mp htrust), (Except.ok.inj h).symm⟩

/-- **What verification of a Git grant establishes.** -/
theorem verifyGitRefGrant_eq_ok {C : Crypto} {bytes : Bytes} {trust : AuthorizationTrust}
    {grant : ValidatedGitRefGrant} (h : verifyGitRefGrant C bytes trust = .ok grant) :
    VerifiedGit C bytes trust grant := by
  obtain ⟨hlength, signed, hread, hkey, rfl⟩ := readGitGrant_of_verifyGitRefGrant h
  obtain ⟨hvalid, hidentity⟩ := readGitGrant_eq_ok hread
  exact ⟨hvalid, hlength, hidentity, hkey, rfl⟩

/-- The facts of a Git grant depend on its bytes only. -/
theorem verifyGitRefGrant_deterministic {C : Crypto} {bytes : Bytes}
    {trust trust' : AuthorizationTrust} {grant grant' : ValidatedGitRefGrant}
    (h : verifyGitRefGrant C bytes trust = .ok grant)
    (h' : verifyGitRefGrant C bytes trust' = .ok grant') : grant = grant' := by
  obtain ⟨-, signed, hread, -, rfl⟩ := readGitGrant_of_verifyGitRefGrant h
  obtain ⟨-, signed', hread', -, rfl⟩ := readGitGrant_of_verifyGitRefGrant h'
  obtain rfl := Except.ok.inj (hread.symm.trans hread')
  rfl

end Authority
end Kapsel
