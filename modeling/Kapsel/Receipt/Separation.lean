import Kapsel.Authority.Codec
import Kapsel.Receipt.Git
import Kapsel.Receipt.Statement

/-!
# Signed artifacts are separated by purpose

Six kinds of artifact are signed: Kubernetes grants of two versions, Git grants, Kubernetes
receipts of two versions and Git receipts.  Each has a magic, a purpose that is also its first
record, and a statement with a magic of its own.  The grants live in
`crates/kapsel-authority`, the receipts in `src/gateway/receipt`, and neither crate sees the
constants of the other.

`Sealed k bytes statement signature` says that the bytes are an envelope of the kind `k`, byte by
byte: its magic, its purpose record, a key record, the statement, the signature, and the magic
of the statement of the same version.  Every reader establishes it of what it accepts, although
the version is found by a prefix test with a fallback.  Two facts about the constants then do the
rest: no magic is a prefix of another (`eq_of_magic`), and the purposes are different texts
without a NUL, so that the NUL between purpose and statement cannot be moved
(`eq_of_message`).
-/

namespace Kapsel

open Framing Grammar Fallible Authority

namespace Gateway

open Receipt

/-! ## The kinds -/

/-- The signed artifacts.  The flag is the version: a newer version is bound to a snapshot of
the target. -/
inductive ArtifactKind where
  | kubernetesGrant (snapshotBound : Bool)
  | gitGrant
  | kubernetesReceipt (snapshotBound : Bool)
  | gitReceipt
  deriving DecidableEq, Repr

namespace ArtifactKind

/-- The magic of the envelope. -/
def magic : ArtifactKind → Bytes
  | kubernetesGrant snapshotBound =>
      if snapshotBound then Authority.snapshotGrantMagic else Authority.signedGrantMagic
  | gitGrant => Authority.Git.grantMagic
  | kubernetesReceipt snapshotBound =>
      if snapshotBound then snapshotReceiptMagic else receiptMagic
  | gitReceipt => GitStatement.receiptMagic

/-- The purpose: the first record, and the head of the signed message. -/
def purpose : ArtifactKind → Text
  | kubernetesGrant snapshotBound =>
      if snapshotBound then Authority.snapshotPurpose else Authority.grantPurpose
  | gitGrant => Authority.Git.purpose
  | kubernetesReceipt snapshotBound =>
      if snapshotBound then snapshotReceiptPurpose else receiptPurpose
  | gitReceipt => GitStatement.purpose

/-- The magic of the statement inside the envelope. -/
def statementMagic : ArtifactKind → Bytes
  | kubernetesGrant snapshotBound =>
      if snapshotBound then Authority.snapshotStatementMagic else Authority.grantStatementMagic
  | gitGrant => Authority.Git.statementMagic
  | kubernetesReceipt snapshotBound =>
      if snapshotBound then Gateway.snapshotStatementMagic else Gateway.statementMagic
  | gitReceipt => GitStatement.statementMagic

/-- The message that is signed for a statement: `signature_input` of the crate that signs. -/
def message (k : ArtifactKind) (statement : Bytes) : Bytes :=
  match k with
  | kubernetesGrant _ | gitGrant => Authority.signatureInput k.purpose statement
  | kubernetesReceipt _ | gitReceipt => Receipt.signatureInput k.purpose statement

theorem message_eq (k : ArtifactKind) (statement : Bytes) :
    k.message statement = k.purpose ++ 0 :: statement := by
  cases k <;> simp [message, Authority.signatureInput, Receipt.signatureInput]

/-- All kinds there are. -/
def all : List ArtifactKind :=
  [kubernetesGrant false, kubernetesGrant true, gitGrant, kubernetesReceipt false,
    kubernetesReceipt true, gitReceipt]

theorem mem_all (k : ArtifactKind) : k ∈ all := by
  rcases k with ⟨_ | _⟩ | _ | ⟨_ | _⟩ | _ <;> decide

/-! ## The constants -/

/-- No magic is a prefix of another. -/
theorem magics_apart : ∀ k ∈ all, ∀ k' ∈ all, k.magic.isPrefixOf k'.magic = true → k = k' := by
  decide

/-- The purposes are different texts. -/
theorem purposes_apart : ∀ k ∈ all, ∀ k' ∈ all, k.purpose = k'.purpose → k = k' := by
  decide

/-- No purpose holds the separator. -/
theorem purposes_without_separator : ∀ k ∈ all, (0 : UInt8) ∉ k.purpose := by
  decide

/-- The bytes behind a magic tell the kind. -/
theorem eq_of_magic {k k' : ArtifactKind} {bytes : Bytes} (h : k.magic <+: bytes)
    (h' : k'.magic <+: bytes) : k = k' := by
  rcases List.prefix_or_prefix_of_prefix h h' with hle | hle
  · exact magics_apart k k.mem_all k' k'.mem_all (List.isPrefixOf_iff_prefix.mpr hle)
  · exact (magics_apart k' k'.mem_all k k.mem_all (List.isPrefixOf_iff_prefix.mpr hle)).symm

end ArtifactKind

/-- What stands before the first separator is determined. -/
theorem eq_of_separated {α : Type} {separator : α} {head head' tail tail' : List α}
    (h : head ++ separator :: tail = head' ++ separator :: tail') (hhead : separator ∉ head)
    (hhead' : separator ∉ head') : head = head' ∧ tail = tail' := by
  induction head generalizing head' with
  | nil =>
    cases head' with
    | nil => exact ⟨rfl, (List.cons.inj h).2⟩
    | cons x head' =>
      have hx : separator = x := (List.cons.inj h).1
      exact absurd (hx ▸ List.mem_cons_self) hhead'
  | cons x head ih =>
    cases head' with
    | nil =>
      have hx : x = separator := (List.cons.inj h).1
      exact absurd (hx ▸ List.mem_cons_self) hhead
    | cons x' head' =>
      obtain ⟨hx, htail⟩ := List.cons.inj h
      obtain ⟨hheads, htails⟩ := ih htail (fun hmem => hhead (List.mem_cons_of_mem x hmem))
        (fun hmem => hhead' (List.mem_cons_of_mem x' hmem))
      exact ⟨by rw [hx, hheads], htails⟩

/-- A signed message tells its kind and its statement. -/
theorem ArtifactKind.eq_of_message {k k' : ArtifactKind} {statement statement' : Bytes}
    (h : k.message statement = k'.message statement') : k = k' ∧ statement = statement' := by
  rw [message_eq, message_eq] at h
  obtain ⟨hpurpose, hstatement⟩ := eq_of_separated h (purposes_without_separator k k.mem_all)
    (purposes_without_separator k' k'.mem_all)
  exact ⟨purposes_apart k k.mem_all k' k'.mem_all hpurpose, hstatement⟩

/-! ## Envelopes -/

/-- The bytes are an envelope of the kind around the statement and the signature: magic,
purpose record and statement version agree. -/
structure Sealed (k : ArtifactKind) (bytes statement : Bytes) (signature : Octets 64) : Prop where
  envelope : ∃ keyId, bytes = k.magic ++ (frame 1 k.purpose ++ (frame 2 keyId ++
    (frame 3 statement ++ frame 4 signature.val)))
  version : k.statementMagic <+: statement

/-- An envelope is of one kind. -/
theorem Sealed.kind_unique {k k' : ArtifactKind} {bytes statement statement' : Bytes}
    {signature signature' : Octets 64} (h : Sealed k bytes statement signature)
    (h' : Sealed k' bytes statement' signature') : k = k' := by
  obtain ⟨_, hbytes⟩ := h.envelope
  obtain ⟨_, hbytes'⟩ := h'.envelope
  exact ArtifactKind.eq_of_magic ⟨_, hbytes.symm⟩ ⟨_, hbytes'.symm⟩

/-- Four records and the end of the input. -/
theorem rest_of_takes {ε : Type} {errors errors' : TakeErrors ε} {c c₁ c₂ c₃ c₄ : Cursor}
    {purpose keyId statement signature : Bytes} {u : Unit}
    (h₁ : c.take errors 1 = .ok (purpose, c₁)) (h₂ : c₁.take errors 2 = .ok (keyId, c₂))
    (h₃ : c₂.take errors 3 = .ok (statement, c₃)) (h₄ : c₃.take errors 4 = .ok (signature, c₄))
    (hend : c₄.finish errors' = .ok u) :
    c.rest = frame 1 purpose ++ (frame 2 keyId ++ (frame 3 statement ++ frame 4 signature)) := by
  have hlast := (Cursor.take_eq_ok h₄).1
  rw [Cursor.finish_eq_ok hend, List.append_nil] at hlast
  rw [(Cursor.take_eq_ok h₁).1, (Cursor.take_eq_ok h₂).1, (Cursor.take_eq_ok h₃).1, hlast]

/-! ## Kubernetes grants -/

/-- The version of a parsed statement is in its magic, and so is its purpose. -/
theorem version_of_parseStatement {statement : Bytes} {authorization : ExactAuthorization}
    (h : parseStatement statement = .ok authorization) :
    (ArtifactKind.kubernetesGrant authorization.approvedTarget.isSome).statementMagic <+:
        statement ∧
      purposeOfStatement statement =
        (ArtifactKind.kubernetesGrant authorization.approvedTarget.isSome).purpose := by
  unfold parseStatement at h
  obtain ⟨records, hstart, h⟩ := bind_eq_ok.mp h
  obtain ⟨⟨authorization', c⟩, htake, h⟩ := bind_eq_ok.mp h
  obtain ⟨_, -, h⟩ := bind_eq_ok.mp h
  obtain rfl := Except.ok.inj h
  have hversion := isSome_of_takeAuthorization htake
  rw [hversion]
  exact ⟨⟨_, (Cursor.start_eq_ok hstart).symm⟩, rfl⟩

/-- The kind of a grant is the version of its statement. -/
theorem sealed_of_readGrant {bytes : Bytes} {grant : SignedGrant}
    (h : readGrant bytes = .ok grant) :
    Sealed (.kubernetesGrant grant.authorization.approvedTarget.isSome) bytes grant.statement
        grant.signature ∧
      parseStatement grant.statement = .ok grant.authorization := by
  unfold readGrant at h
  obtain ⟨records, hstart, h⟩ := bind_eq_ok.mp h
  obtain ⟨⟨⟨keyId, statement, signature⟩, c⟩, henvelope, h⟩ := bind_eq_ok.mp h
  obtain ⟨authorization, hparse, h⟩ := bind_eq_ok.mp h
  obtain ⟨_, hsame, h⟩ := bind_eq_ok.mp h
  obtain rfl := Except.ok.inj h
  have hversion : authorization.approvedTarget.isSome = snapshotGrantMagic.isPrefixOf bytes :=
    of_decide_eq_true (require_eq_ok.mp hsame)
  refine ⟨⟨⟨keyId, ?_⟩, (version_of_parseStatement hparse).1⟩, hparse⟩
  have hbytes := takesAll_takeEnvelope.run hstart henvelope
  rw [envelopeFrames] at hbytes
  rw [hversion]
  exact hbytes

/-- **A verified grant** is an envelope of its version, and the signature was checked over the
message of that version. -/
theorem sealed_of_verifyAuthorizationGrant {C : Crypto} {bytes : Bytes} {trust : AuthorizationTrust}
    {grant : ValidatedAuthorizationGrant} (h : Authority.verifyAuthorizationGrant C bytes trust = .ok grant) :
    ∃ statement signature,
      Sealed (.kubernetesGrant grant.authorization.approvedTarget.isSome) bytes statement
        signature ∧
      parseStatement statement = .ok grant.authorization ∧
      C.verifyStrict trust.publicKey
        ((ArtifactKind.kubernetesGrant grant.authorization.approvedTarget.isSome).message
          statement) signature = true := by
  unfold Authority.verifyAuthorizationGrant at h
  obtain ⟨_, -, h⟩ := bind_eq_ok.mp h
  obtain ⟨_, -, h⟩ := bind_eq_ok.mp h
  obtain ⟨signed, hread, h⟩ := bind_eq_ok.mp h
  obtain ⟨_, -, h⟩ := bind_eq_ok.mp h
  obtain ⟨_, -, h⟩ := bind_eq_ok.mp h
  obtain ⟨_, hverify, h⟩ := bind_eq_ok.mp h
  obtain rfl := Except.ok.inj h
  obtain ⟨hsealed, hparse⟩ := sealed_of_readGrant hread
  have hchecked := require_eq_ok.mp hverify
  rw [(version_of_parseStatement hparse).2] at hchecked
  exact ⟨signed.statement, signed.signature, hsealed, hparse, hchecked⟩

/-! ## Git grants -/

/-- **A verified Git grant** is a Git grant envelope, and the signature was checked over its
message. -/
theorem sealed_of_verifyGitRefGrant {C : Crypto} {bytes : Bytes} {trust : AuthorizationTrust}
    {grant : ValidatedGitRefGrant} (h : verifyGitRefGrant C bytes trust = .ok grant) :
    ∃ statement signature, Sealed .gitGrant bytes statement signature ∧
      C.verifyStrict trust.publicKey (ArtifactKind.gitGrant.message statement) signature =
        true := by
  unfold verifyGitRefGrant at h
  obtain ⟨_, -, h⟩ := bind_eq_ok.mp h
  obtain ⟨_, -, h⟩ := bind_eq_ok.mp h
  obtain ⟨signed, hread, h⟩ := bind_eq_ok.mp h
  obtain ⟨_, -, h⟩ := bind_eq_ok.mp h
  obtain ⟨_, -, h⟩ := bind_eq_ok.mp h
  obtain ⟨_, hverify, h⟩ := bind_eq_ok.mp h
  unfold readGitGrant at hread
  obtain ⟨records, hstart, hread⟩ := bind_eq_ok.mp hread
  obtain ⟨⟨⟨keyId, statement, signature⟩, c⟩, henvelope, hread⟩ := bind_eq_ok.mp hread
  obtain ⟨fields, hfields, hread⟩ := bind_eq_ok.mp hread
  obtain ⟨⟨authorization, _⟩, -, hread⟩ := bind_eq_ok.mp hread
  obtain ⟨_, -, hread⟩ := bind_eq_ok.mp hread
  obtain rfl := Except.ok.inj hread
  have hbytes := takesAll_takeGitEnvelope.run hstart henvelope
  rw [envelopeFrames] at hbytes
  exact ⟨statement, signature, ⟨⟨keyId, hbytes⟩, ⟨_, (Cursor.start_eq_ok hfields).symm⟩⟩,
    require_eq_ok.mp hverify⟩

/-! ## Receipts -/

/-- The records of a receipt envelope. -/
theorem bytes_of_parseEnvelope {σ : Type} {receipt magic : Bytes} {purpose : Text}
    {limits : InspectionLimits} {parse : Bytes → Except ReceiptError σ}
    {envelope : ReceiptEnvelope σ}
    (h : parseEnvelope receipt magic purpose limits parse = .ok envelope) :
    envelope.acceptedPurpose = purpose ∧
      receipt = magic ++ (frame 1 purpose ++ (frame 2 envelope.keyId ++
        (frame 3 envelope.statementBytes ++ frame 4 envelope.signature.val))) := by
  obtain ⟨_, -, h⟩ := bind_eq_ok.mp h
  obtain ⟨_, -, h⟩ := bind_eq_ok.mp h
  obtain ⟨c, hstart, h⟩ := bind_eq_ok.mp h
  obtain ⟨⟨envelope', _⟩, htake, h⟩ := bind_eq_ok.mp h
  obtain rfl := Except.ok.inj h
  obtain ⟨⟨purpose', c₁⟩, h₁, htake⟩ := bind_eq_ok.mp htake
  obtain ⟨⟨_, c₁'⟩, hpurpose, htake⟩ := bind_eq_ok.mp htake
  obtain ⟨⟨keyId, c₂⟩, h₂, htake⟩ := bind_eq_ok.mp htake
  obtain ⟨⟨_, c₂'⟩, hkey, htake⟩ := bind_eq_ok.mp htake
  obtain ⟨⟨statement, c₃⟩, h₃, htake⟩ := bind_eq_ok.mp htake
  obtain ⟨⟨_, c₃'⟩, hparse, htake⟩ := bind_eq_ok.mp htake
  obtain ⟨⟨bytes, c₄⟩, h₄, htake⟩ := bind_eq_ok.mp htake
  obtain ⟨⟨array, c₄'⟩, harray, htake⟩ := bind_eq_ok.mp htake
  obtain ⟨⟨_, c₅⟩, hend, htake⟩ := bind_eq_ok.mp htake
  have henvelope : _ = envelope' := congrArg Prod.fst (Except.ok.inj htake)
  obtain rfl : c₁' = c₁ := cursor_of_lift_eq_ok hpurpose
  obtain rfl : c₂' = c₂ := cursor_of_lift_eq_ok hkey
  obtain rfl : c₃' = c₃ := cursor_of_lift_eq_ok hparse
  obtain rfl : c₄' = c₄ := cursor_of_lift_eq_ok harray
  obtain rfl := of_decide_eq_true (require_eq_ok.mp (lift_eq_ok hpurpose))
  obtain ⟨_, hfinish, -⟩ := map_eq_ok.mp hend
  have hrest := rest_of_takes (take_of_text h₁) (take_of_text h₂) h₃ h₄ hfinish
  have hbytes := Cursor.start_eq_ok hstart
  rw [hrest, ← val_of_arrayOr (lift_eq_ok harray)] at hbytes
  rw [← henvelope]
  exact ⟨rfl, hbytes⟩

/-- A Kubernetes statement carries an approved target exactly when its version is the bound
one. -/
theorem isSome_of_takeStatement {maximumTextBytes : ℕ} {snapshotBound : Bool} {c c' : Cursor}
    {s : ReceiptStatement}
    (h : ReceiptStatement.takeStatement maximumTextBytes snapshotBound c = .ok (s, c')) :
    s.approvedTarget.isSome = snapshotBound := by
  unfold ReceiptStatement.takeStatement at h
  iterate 28 obtain ⟨⟨_, _⟩, -, h⟩ := bind_eq_ok.mp h
  obtain ⟨⟨target, _⟩, htarget, h⟩ := bind_eq_ok.mp h
  obtain ⟨⟨_, _⟩, -, h⟩ := bind_eq_ok.mp h
  obtain ⟨rfl, -⟩ := Prod.mk.inj (Except.ok.inj h)
  unfold ReceiptStatement.takeApproved at htarget
  cases snapshotBound with
  | true =>
    rw [if_pos rfl] at htarget
    iterate 2 obtain ⟨⟨_, _⟩, -, htarget⟩ := bind_eq_ok.mp htarget
    obtain ⟨rfl, -⟩ := Prod.mk.inj (Except.ok.inj htarget)
    rfl
  | false =>
    obtain ⟨rfl, -⟩ := Prod.mk.inj (Except.ok.inj htarget)
    rfl

/-- The version of a parsed Kubernetes statement is in its magic. -/
theorem version_of_parse {statement : Bytes} {limits : InspectionLimits} {s : ReceiptStatement}
    (h : ReceiptStatement.parse statement limits = .ok s) :
    (ArtifactKind.kubernetesReceipt s.approvedTarget.isSome).statementMagic <+: statement := by
  unfold ReceiptStatement.parse at h
  obtain ⟨_, -, h⟩ := bind_eq_ok.mp h
  obtain ⟨_, -, h⟩ := bind_eq_ok.mp h
  obtain ⟨records, hstart, h⟩ := bind_eq_ok.mp h
  obtain ⟨⟨s', c⟩, htake, h⟩ := bind_eq_ok.mp h
  obtain ⟨_, -, h⟩ := bind_eq_ok.mp h
  obtain rfl := Except.ok.inj h
  have hversion := isSome_of_takeStatement htake
  rw [hversion]
  exact ⟨_, (Cursor.start_eq_ok hstart).symm⟩

/-- **A Kubernetes receipt that is structurally accepted** is an envelope of the version of its
statement. -/
theorem sealed_of_parseReceiptEnvelope {receipt : Bytes} {limits : InspectionLimits}
    {envelope : ReceiptEnvelope ReceiptStatement}
    (h : parseReceiptEnvelope receipt limits = .ok envelope) :
    Sealed (.kubernetesReceipt envelope.statement.approvedTarget.isSome) receipt
        envelope.statementBytes envelope.signature ∧
      envelope.acceptedPurpose =
        (ArtifactKind.kubernetesReceipt envelope.statement.approvedTarget.isSome).purpose ∧
      ReceiptStatement.parse envelope.statementBytes limits = .ok envelope.statement := by
  unfold parseReceiptEnvelope at h
  obtain ⟨hpurpose, hbytes⟩ := bytes_of_parseEnvelope h
  have hstatement := (parseEnvelope_eq_ok h).2.2
  unfold parseEnvelopeStatement at hstatement
  obtain ⟨s, hparse, hstatement⟩ := bind_eq_ok.mp hstatement
  obtain ⟨_, hsame, hstatement⟩ := bind_eq_ok.mp hstatement
  have hs : s = envelope.statement := Except.ok.inj hstatement
  rw [hs] at hparse hsame
  have hversion := of_decide_eq_true (require_eq_ok.mp hsame)
  refine ⟨⟨⟨envelope.keyId, ?_⟩, version_of_parse hparse⟩, ?_, hparse⟩
  · rw [hversion]
    exact hbytes
  · rw [hversion]
    exact hpurpose

/-- **A Git receipt that is structurally accepted** is a Git receipt envelope. -/
theorem sealed_of_gitEnvelope {receipt : Bytes} {limits : InspectionLimits}
    {envelope : ReceiptEnvelope GitStatement}
    (h : GitStatement.envelope receipt limits = .ok envelope) :
    Sealed .gitReceipt receipt envelope.statementBytes envelope.signature ∧
      envelope.acceptedPurpose = ArtifactKind.gitReceipt.purpose := by
  unfold GitStatement.envelope at h
  obtain ⟨hpurpose, hbytes⟩ := bytes_of_parseEnvelope h
  have hparse := (parseEnvelope_eq_ok h).2.2
  unfold GitStatement.parse at hparse
  obtain ⟨_, -, hparse⟩ := bind_eq_ok.mp hparse
  obtain ⟨records, hstart, -⟩ := bind_eq_ok.mp hparse
  exact ⟨⟨⟨envelope.keyId, hbytes⟩, ⟨_, (Cursor.start_eq_ok hstart).symm⟩⟩, hpurpose⟩

/-- Authentication checks the signature over the message of the accepted purpose. -/
theorem verified_of_authenticate {σ : Type} {C : Crypto} {envelope : ReceiptEnvelope σ}
    {trust : ReceiptTrustDocument} {time : Int64} {status : InspectionStatus}
    (h : envelope.authenticate C trust time = .ok status) :
    C.verifyStrict trust.publicKey
      (Receipt.signatureInput envelope.acceptedPurpose envelope.statementBytes)
      envelope.signature = true := by
  unfold ReceiptEnvelope.authenticate at h
  obtain ⟨_, -, h⟩ := bind_eq_ok.mp h
  obtain ⟨_, hverify, -⟩ := bind_eq_ok.mp h
  exact require_eq_ok.mp hverify

/-! ## Separation -/

/-- The kinds under which the verifiers of the program accept bytes: an envelope of the kind
around a statement, and a signature over the message of the kind under the given key. -/
def VerifiedAs (C : Crypto) (k : ArtifactKind) (key : Octets 32) (bytes statement : Bytes)
    (signature : Octets 64) : Prop :=
  Sealed k bytes statement signature ∧ C.verifyStrict key (k.message statement) signature = true

/-- **Purposes separate what is signed.**  No bytes are accepted under both grant verifiers, and
none are structurally accepted as receipts of both effects.  A grant or a receipt is accepted
only as an envelope of one kind, whose magic, purpose record and statement version agree, and
the signature is checked over the message of that kind.  The messages of two kinds differ
whatever the statements are, so a signature that was made for an artifact of one kind and is
carried by an envelope of another kind is checked over a message that was not signed. -/
theorem purposes_separate (C : Crypto) :
    (∀ bytes trust trust' grant grant',
      Authority.verifyAuthorizationGrant C bytes trust = .ok grant →
      verifyGitRefGrant C bytes trust' ≠ .ok grant') ∧
    (∀ bytes limits limits' envelope envelope',
      parseReceiptEnvelope bytes limits = .ok envelope →
      GitStatement.envelope bytes limits' ≠ .ok envelope') ∧
    (∀ bytes trust grant, Authority.verifyAuthorizationGrant C bytes trust = .ok grant →
      ∃ statement signature,
        VerifiedAs C (.kubernetesGrant grant.authorization.approvedTarget.isSome)
          trust.publicKey bytes statement signature ∧
        parseStatement statement = .ok grant.authorization) ∧
    (∀ bytes trust grant, verifyGitRefGrant C bytes trust = .ok grant →
      ∃ statement signature,
        VerifiedAs C .gitGrant trust.publicKey bytes statement signature) ∧
    (∀ bytes limits envelope, parseReceiptEnvelope bytes limits = .ok envelope →
      Sealed (.kubernetesReceipt envelope.statement.approvedTarget.isSome) bytes
        envelope.statementBytes envelope.signature ∧
      ReceiptStatement.parse envelope.statementBytes limits = .ok envelope.statement ∧
      ∀ trust time status, envelope.authenticate C trust time = .ok status →
        VerifiedAs C (.kubernetesReceipt envelope.statement.approvedTarget.isSome)
          trust.publicKey bytes envelope.statementBytes envelope.signature) ∧
    (∀ bytes limits envelope, GitStatement.envelope bytes limits = .ok envelope →
      Sealed .gitReceipt bytes envelope.statementBytes envelope.signature ∧
      ∀ trust time status, envelope.authenticate C trust time = .ok status →
        VerifiedAs C .gitReceipt trust.publicKey bytes envelope.statementBytes
          envelope.signature) ∧
    (∀ k k' bytes statement statement' signature signature',
      Sealed k bytes statement signature → Sealed k' bytes statement' signature' → k = k') ∧
    (∀ k k' : ArtifactKind, k ≠ k' → ∀ statement statement',
      k.message statement ≠ k'.message statement') := by
  refine ⟨?_, ?_, ?_, ?_, ?_, ?_, ?_, ?_⟩
  · intro bytes trust trust' grant grant' h h'
    obtain ⟨_, _, hsealed, -⟩ := sealed_of_verifyAuthorizationGrant h
    obtain ⟨_, _, hsealed', -⟩ := sealed_of_verifyGitRefGrant h'
    cases hsealed.kind_unique hsealed'
  · intro bytes limits limits' envelope envelope' h h'
    cases (sealed_of_parseReceiptEnvelope h).1.kind_unique (sealed_of_gitEnvelope h').1
  · intro bytes trust grant h
    obtain ⟨statement, signature, hsealed, hparse, hverify⟩ :=
      sealed_of_verifyAuthorizationGrant h
    exact ⟨statement, signature, ⟨hsealed, hverify⟩, hparse⟩
  · intro bytes trust grant h
    exact sealed_of_verifyGitRefGrant h
  · intro bytes limits envelope h
    obtain ⟨hsealed, hpurpose, hparse⟩ := sealed_of_parseReceiptEnvelope h
    refine ⟨hsealed, hparse, fun trust time status hstatus => ⟨hsealed, ?_⟩⟩
    have hverify := verified_of_authenticate hstatus
    rw [hpurpose] at hverify
    exact hverify
  · intro bytes limits envelope h
    obtain ⟨hsealed, hpurpose⟩ := sealed_of_gitEnvelope h
    refine ⟨hsealed, fun trust time status hstatus => ⟨hsealed, ?_⟩⟩
    have hverify := verified_of_authenticate hstatus
    rw [hpurpose] at hverify
    exact hverify
  · intro k k' bytes statement statement' signature signature' h h'
    exact h.kind_unique h'
  · intro k k' hne statement statement' h
    exact hne (ArtifactKind.eq_of_message h).1

end Gateway
end Kapsel
