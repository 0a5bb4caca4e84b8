import Kapsel.Journal.Bounds
import Kapsel.Receipt.Git

/-!
# Git rows

`src/gateway/journal/git.rs`: the binding of a Git grant, the phases of a Git operation,
the decoder of a Git row and the records that the writers build.

The source's `GitPhase` already says how far an operation got, so `gitRecord binding phase`
is the row of a phase.  As for Kubernetes rows, the writers go from the row of one phase to
the row of the next, and `decodeRecord_phase` reads every valid phase back.  The decoder is
given the binding and accepts only the row of that very grant.
-/

namespace Kapsel

open Grammar Fallible Authority

namespace Gateway
namespace Journal

/-! ## Bindings and phases -/

section
variable (C : Crypto)

/-- `GitBinding`: a Git grant that verified, with its bytes. -/
structure GitBinding where
  authorization : GitRefAuthorization
  signer : Text
  digest : Text
  grant : Bytes
  authentic : ∃ trust, verifyGitRefGrant C grant trust = .ok ⟨authorization, signer, digest⟩

variable {C}

theorem GitBinding.verified (b : GitBinding C) :
    ∃ trust, VerifiedGit C b.grant trust ⟨b.authorization, b.signer, b.digest⟩ := by
  obtain ⟨trust, h⟩ := b.authentic
  exact ⟨trust, verifyGitRefGrant_eq_ok h⟩

/-- The authorization of a binding is valid, so whoever acts for one acts for a valid approval. -/
theorem GitBinding.isValid (b : GitBinding C) : b.authorization.isValid = true := by
  obtain ⟨trust, hverified⟩ := b.verified
  exact GitRefAuthorization.isValid_iff.mpr hverified.valid

/-- **A Git grant decides its facts.** -/
theorem GitBinding.eq_of_grant_eq {b b' : GitBinding C} (h : b.grant = b'.grant) : b = b' := by
  obtain ⟨authorization, signer, digest, grant, trust, hb⟩ := b
  obtain ⟨authorization', signer', digest', grant', trust', hb'⟩ := b'
  obtain rfl : grant = grant' := h
  have heq := verifyGitRefGrant_deterministic hb hb'
  obtain ⟨rfl, rfl, rfl⟩ := ValidatedGitRefGrant.mk.inj heq
  rfl

variable (C)

/-- The appointments of `GitBinding::verify`, in order: the first that accepts decides. -/
def GitBinding.verifyWith (bytes : Bytes) :
    List AuthorizationTrust → Except GatewayError (GitBinding C)
  | [] => .error .untrustedAuthorizationGrant
  | trust :: appointments =>
      match h : verifyGitRefGrant C bytes trust with
      | .ok grant => .ok ⟨grant.authorization, grant.signerKeyId, grant.grantDigest, bytes, trust, h⟩
      | .error _ => verifyWith bytes appointments

/-- `GitBinding::verify`. -/
def GitBinding.verify (bytes : Bytes) (trust : List AuthorizationTrust) :
    Except GatewayError (GitBinding C) := do
  require (bytes.length ≤ 4096) .invalidAuthorizationGrant
  GitBinding.verifyWith C bytes trust

end

/-- `GitRejection`. -/
inductive GitRejection where
  | staleRef
  | invalidObjects
  deriving DecidableEq, Repr

/-- The word of a rejection in its column. -/
def GitRejection.asSql : GitRejection → Text
  | .staleRef => utf8 "stale_ref"
  | .invalidObjects => utf8 "invalid_objects"

/-- `GitPhase`. -/
inductive GitPhase where
  | authorized
  | notAttempted (rejection : GitRejection)
  | attempted (acknowledgement : Option Acknowledgement)
  | observed (acknowledgement : Acknowledgement) (seen : ObservedRef)
  | finalized (statement : GitStatement) (receipt : FrozenReceipt)
  deriving DecidableEq

namespace GitPhase

/-- `GitPhase::state`. -/
def state : GitPhase → OperationState
  | authorized => .authorized
  | notAttempted _ => .notAttempted
  | attempted _ => .applyStarted
  | observed .. => .receiverObserved
  | finalized .. => .finalized

end GitPhase

section
variable {C : Crypto}

/-- The statement of an acknowledgement and an observed ref. -/
def GitBinding.statement (b : GitBinding C) (acknowledgement : Acknowledgement)
    (seen : ObservedRef) : GitStatement :=
  ⟨b.authorization, b.signer, b.digest, acknowledgement, seen⟩

/-- `GitPhase::statement`. -/
def GitPhase.statement (b : GitBinding C) : GitPhase → Option GitStatement
  | .observed acknowledgement seen => some (b.statement acknowledgement seen)
  | .finalized statement _ => some statement
  | .authorized => none
  | .attempted _ => none
  | .notAttempted _ => none

/-! ## Records that the writers build -/

/-- `Journal::insert_git`. -/
def gitAuthorizedRecord (b : GitBinding C) : Record .git :=
  (Record.gitEmpty b.authorization.operationId)
    |>.setText .repositoryId b.authorization.repositoryId
    |>.setText .refName b.authorization.reference
    |>.setText .oldCommit b.authorization.oldCommit
    |>.setText .newCommit b.authorization.newCommit
    |>.setText .authorizationId b.authorization.authorizationId
    |>.setText .authorizationSignerKeyId b.signer
    |>.setText .authorizationGrantDigest b.digest
    |>.setBlob .signedAuthorizationGrant b.grant
    |>.setText .state (utf8 "authorized")

end

/-- `Journal::begin_git_attempt`. -/
def gitAttemptRecord (original : Record .git) : Record .git :=
  original.setText .state (utf8 "apply_started")

/-- `Journal::reject_git`. -/
def gitRejectionRecord (original : Record .git) (rejection : GitRejection) : Record .git :=
  original
    |>.setText .state (utf8 "not_attempted")
    |>.setText .targetRejection rejection.asSql

/-- `Journal::record_git_acknowledgement`. -/
def gitAcknowledgementRecord (original : Record .git) (acknowledgement : Acknowledgement) :
    Record .git :=
  original.setText .acknowledgement acknowledgement.asStr

/-- The columns of an observed ref. -/
def observedColumns : ObservedRef → Except GatewayError (Text × Option Text)
  | .commit id =>
      if gitCommitIdIsValid id then .ok (utf8 "commit", some id) else .error .invalidPersistedState
  | .missing => .ok (utf8 "missing", none)
  | .unknown => .ok (utf8 "unknown", none)

/-- `Journal::freeze_git_observation`. -/
def gitObservationRecord (original : Record .git) (retained : Option Acknowledgement)
    (columns : Text × Option Text) : Record .git :=
  original
    |>.setText .state (utf8 "receiver_observed")
    |>.setText .acknowledgement (retained.getD .unknown).asStr
    |>.setText .observedRefKind columns.1
    |>.setOptionalText .observedCommit columns.2

/-- `Journal::commit_git_receipt`. -/
def gitReceiptRecord (C : Crypto) (original : Record .git) (bytes : Bytes) (keyId : Text) :
    Record .git :=
  original
    |>.setText .state (utf8 "finalized")
    |>.setBlob .receiptBytes bytes
    |>.setText .receiptDigest (digestHex C bytes)
    |>.setText .receiptKeyId keyId

/-! ## The decoder -/

/-- The acknowledgement column. -/
def decodeAcknowledgement (value : Text) : Except GatewayError Acknowledgement :=
  match Acknowledgement.parse value with
  | some acknowledgement => .ok acknowledgement
  | none => .error .invalidPersistedState

/-- The observed-ref columns. -/
def decodeObserved : Option Text → Option Text → Except GatewayError (Option ObservedRef)
  | none, none => .ok none
  | some kind, none =>
      if kind = utf8 "unknown" then .ok (some .unknown)
      else if kind = utf8 "missing" then .ok (some .missing)
      else .error .invalidPersistedState
  | some kind, some commitId =>
      if kind = utf8 "commit" && gitCommitIdIsValid commitId then .ok (some (.commit commitId))
      else .error .invalidPersistedState
  | none, some _ => .error .invalidPersistedState

/-- The last step of `decode_phase`. -/
def phaseOf (state : Text) (rejection : Option Text) :
    Option Acknowledgement → Option ObservedRef → Except GatewayError GitPhase
  | none, none =>
      if state = utf8 "authorized" ∧ rejection = none then .ok .authorized
      else if state = utf8 "not_attempted" ∧ rejection = some (utf8 "stale_ref") then
        .ok (.notAttempted .staleRef)
      else if state = utf8 "not_attempted" ∧ rejection = some (utf8 "invalid_objects") then
        .ok (.notAttempted .invalidObjects)
      else if state = utf8 "apply_started" ∧ rejection = none then .ok (.attempted none)
      else .error .invalidPersistedState
  | some acknowledgement, none =>
      if state = utf8 "apply_started" ∧ rejection = none then
        .ok (.attempted (some acknowledgement))
      else .error .invalidPersistedState
  | some acknowledgement, some seen =>
      if (state = utf8 "receiver_observed" ∨ state = utf8 "finalized") ∧ rejection = none then
        .ok (.observed acknowledgement seen)
      else .error .invalidPersistedState
  | none, some _ => .error .invalidPersistedState

/-- `decode_phase`. -/
def decodePhase (state : Text) (rejection acknowledgement observedKind observedCommit : Option Text) :
    Except GatewayError GitPhase := do
  let acknowledgement ← acknowledgement.mapM decodeAcknowledgement
  let observed ← decodeObserved observedKind observedCommit
  phaseOf state rejection acknowledgement observed

section
variable (C : Crypto)

/-- The receipt columns: a finalized row has all three, and any other row none. -/
def decodeReceipt (operationId state : Text) :
    Option Text → Option Bytes → Option Text → Except GatewayError (Option FrozenReceipt)
  | some digest, some bytes, some keyId =>
      if state = utf8 "finalized" ∧ digestHex C bytes = digest then
        .ok (some ⟨operationId, bytes, digest, keyId⟩)
      else .error .invalidPersistedState
  | none, none, none =>
      if state = utf8 "finalized" then .error .invalidPersistedState else .ok none
  | _, _, _ => .error .invalidPersistedState

variable {C}

/-- The columns that must be those of the grant. -/
def GitBinding.columns (b : GitBinding C) : List (Column × Text) :=
  [(.operationId, b.authorization.operationId), (.repositoryId, b.authorization.repositoryId),
    (.refName, b.authorization.reference), (.oldCommit, b.authorization.oldCommit),
    (.newCommit, b.authorization.newCommit), (.authorizationId, b.authorization.authorizationId),
    (.authorizationSignerKeyId, b.signer), (.authorizationGrantDigest, b.digest)]

/-- One column is that of the grant. -/
def requireColumn (record : Record .git) (field : Column × Text) : Except GatewayError Unit := do
  let value ← record.getText field.1
  require (value = field.2) .operationIdentityConflict

/-- A finalized row carries the receipt of its own statement. -/
def withReceipt (b : GitBinding C) (phase : GitPhase) :
    Option FrozenReceipt → Except GatewayError GitPhase
  | none => .ok phase
  | some receipt => do
      let statement ← present (phase.statement b)
      let (keyId, decoded) ← (GitStatement.decode receipt.bytes).mapError .receipt
      require (decoded = statement && keyId = receipt.keyId) .invalidPersistedState
      return .finalized statement receipt

/-- `decode_record`. -/
def decodeRecord (record : Record .git) (b : GitBinding C) : Except GatewayError GitPhase := do
  forM b.columns (requireColumn record)
  let grant ← record.getBlob .signedAuthorizationGrant
  require (grant = b.grant) .operationIdentityConflict
  let state ← record.getText .state
  let rejection ← record.getOptionalText .targetRejection
  let acknowledgement ← record.getOptionalText .acknowledgement
  let observedKind ← record.getOptionalText .observedRefKind
  let observedCommit ← record.getOptionalText .observedCommit
  let receiptDigest ← record.getOptionalText .receiptDigest
  let receiptBytes ← record.getOptionalBlob .receiptBytes
  let receiptKey ← record.getOptionalText .receiptKeyId
  let receipt ← decodeReceipt C b.authorization.operationId state receiptDigest receiptBytes receiptKey
  let phase ← decodePhase state rejection acknowledgement observedKind observedCommit
  withReceipt b phase receipt

/-! ## The row of a phase -/

namespace GitPhase

def rejection : GitPhase → Option GitRejection
  | notAttempted rejection => some rejection
  | _ => none

def acknowledgement : GitPhase → Option Acknowledgement
  | attempted acknowledgement => acknowledgement
  | observed acknowledgement _ => some acknowledgement
  | finalized statement _ => some statement.acknowledgement
  | _ => none

def seen : GitPhase → Option ObservedRef
  | observed _ seen => some seen
  | finalized statement _ => some statement.observed
  | _ => none

def receipt : GitPhase → Option FrozenReceipt
  | finalized _ receipt => some receipt
  | _ => none

end GitPhase

/-- The word of an observed ref. -/
def kindWord : ObservedRef → Text
  | .commit _ => utf8 "commit"
  | .missing => utf8 "missing"
  | .unknown => utf8 "unknown"

/-- The commit of an observed ref. -/
def commitOf : ObservedRef → Option Text
  | .commit id => some id
  | .missing => none
  | .unknown => none

/-- The value of each column. -/
def gitValue (b : GitBinding C) (p : GitPhase) : Column → Value
  | .operationId => .text b.authorization.operationId
  | .repositoryId => .text b.authorization.repositoryId
  | .refName => .text b.authorization.reference
  | .oldCommit => .text b.authorization.oldCommit
  | .newCommit => .text b.authorization.newCommit
  | .authorizationId => .text b.authorization.authorizationId
  | .authorizationSignerKeyId => .text b.signer
  | .authorizationGrantDigest => .text b.digest
  | .signedAuthorizationGrant => .blob b.grant
  | .state => .text p.state.asSql
  | .targetRejection => .optionalText (p.rejection.map (·.asSql))
  | .acknowledgement => .optionalText (p.acknowledgement.map (·.asStr))
  | .observedRefKind => .optionalText (p.seen.map kindWord)
  | .observedCommit => .optionalText (p.seen.bind commitOf)
  | .receiptDigest => .optionalText (p.receipt.map (·.digest))
  | .receiptBytes => Value.optionalBlob (p.receipt.map (·.bytes))
  | .receiptKeyId => .optionalText (p.receipt.map (·.keyId))
  | _ => .null

theorem fits_gitValue (b : GitBinding C) (p : GitPhase) (c : Column) :
    Table.git.fits c (gitValue b p c) = true := by
  cases c <;> first
    | rfl
    | exact fits_optionalText rfl _
    | exact fits_optionalBlob rfl _

/-- The row of a phase. -/
def gitRecord (b : GitBinding C) (p : GitPhase) : Record .git := ⟨gitValue b p, fits_gitValue b p⟩

/-- An observed ref that freezing accepts. -/
def SeenValid (seen : ObservedRef) : Prop := ∀ id, seen = .commit id → gitCommitIdIsValid id = true

/-- The phases that the writers can reach. -/
def GitPhase.Valid (b : GitBinding C) : GitPhase → Prop
  | .authorized => True
  | .notAttempted _ => True
  | .attempted _ => True
  | .observed _ seen => SeenValid seen
  | .finalized statement receipt =>
      statement = b.statement statement.acknowledgement statement.observed ∧
        SeenValid statement.observed ∧ receipt.operationId = b.authorization.operationId ∧
        GitStatement.decode receipt.bytes = .ok (receipt.keyId, statement) ∧
        digestHex C receipt.bytes = receipt.digest

/-! ## The writers go from phase to phase -/

section
variable (b : GitBinding C)

theorem gitAuthorizedRecord_phase : gitAuthorizedRecord b = gitRecord b .authorized := by
  ext c
  cases c <;> rfl

theorem gitAttemptRecord_phase :
    gitAttemptRecord (gitRecord b .authorized) = gitRecord b (.attempted none) := by
  ext c
  cases c <;> rfl

theorem gitRejectionRecord_phase (rejection : GitRejection) :
    gitRejectionRecord (gitRecord b .authorized) rejection =
      gitRecord b (.notAttempted rejection) := by
  ext c
  cases c <;> rfl

theorem gitAcknowledgementRecord_phase (acknowledgement : Acknowledgement) :
    gitAcknowledgementRecord (gitRecord b (.attempted none)) acknowledgement =
      gitRecord b (.attempted (some acknowledgement)) := by
  ext c
  cases c <;> rfl

theorem observedColumns_eq_ok {seen : ObservedRef} {columns : Text × Option Text}
    (h : observedColumns seen = .ok columns) :
    SeenValid seen ∧ columns = (kindWord seen, commitOf seen) := by
  cases seen with
  | commit id =>
    by_cases hid : gitCommitIdIsValid id = true
    · rw [observedColumns, if_pos hid] at h
      refine ⟨fun id' hid' => ?_, (Except.ok.inj h).symm⟩
      obtain rfl := ObservedRef.commit.inj hid'
      exact hid
    · rw [observedColumns, if_neg hid] at h
      cases h
  | missing => exact ⟨fun _ h' => (nomatch h'), (Except.ok.inj h).symm⟩
  | unknown => exact ⟨fun _ h' => (nomatch h'), (Except.ok.inj h).symm⟩

theorem gitObservationRecord_phase (retained : Option Acknowledgement) (seen : ObservedRef) :
    gitObservationRecord (gitRecord b (.attempted retained)) retained
        (kindWord seen, commitOf seen) =
      gitRecord b (.observed (retained.getD .unknown) seen) := by
  ext c
  cases c <;> rfl

theorem gitReceiptRecord_phase (acknowledgement : Acknowledgement) (seen : ObservedRef)
    (bytes : Bytes) (keyId : Text) :
    gitReceiptRecord C (gitRecord b (.observed acknowledgement seen)) bytes keyId =
      gitRecord b (.finalized (b.statement acknowledgement seen)
        ⟨b.authorization.operationId, bytes, digestHex C bytes, keyId⟩) := by
  ext c
  cases c <;> rfl

end

/-! ## Every phase decodes to itself -/

theorem forM_requireColumn {record : Record .git} {fields : List (Column × Text)} {u : Unit} :
    forM fields (requireColumn record) = .ok u ↔
      ∀ field ∈ fields, record.value field.1 = .text field.2 := by
  induction fields with
  | nil => exact ⟨fun _ _ h => absurd h List.not_mem_nil, fun _ => rfl⟩
  | cons field fields ih =>
    rw [List.forM_cons, bind_eq_ok, List.forall_mem_cons]
    constructor
    · rintro ⟨_, hfield, hrest⟩
      obtain ⟨value, hvalue, hsame⟩ := bind_eq_ok.mp hfield
      obtain rfl := of_decide_eq_true (require_eq_ok.mp hsame)
      exact ⟨Record.getText_eq_ok.mp hvalue, ih.mp hrest⟩
    · rintro ⟨hfield, hrest⟩
      refine ⟨(), bind_eq_ok.mpr ⟨field.2, Record.getText_eq_ok.mpr hfield, ?_⟩, ih.mpr hrest⟩
      exact require_of_true (decide_eq_true rfl)

/-- **A row decodes under one binding only**: the one whose grant it stores. -/
theorem grant_of_decodeRecord {record : Record .git} {b : GitBinding C} {phase : GitPhase}
    (h : decodeRecord record b = .ok phase) :
    record.value .signedAuthorizationGrant = .blob b.grant := by
  obtain ⟨_, -, h⟩ := bind_eq_ok.mp h
  obtain ⟨grant, hgrant, h⟩ := bind_eq_ok.mp h
  obtain ⟨_, hsame, -⟩ := bind_eq_ok.mp h
  obtain rfl := of_decide_eq_true (require_eq_ok.mp hsame)
  exact Record.getBlob_eq_ok.mp hgrant

theorem decodeObserved_seen {seen : Option ObservedRef} (h : ∀ s ∈ seen, SeenValid s) :
    decodeObserved (seen.map kindWord) (seen.bind commitOf) = .ok seen := by
  cases seen with
  | none => rfl
  | some s =>
    cases s with
    | commit id =>
      refine if_pos ?_
      rw [Bool.and_eq_true]
      exact ⟨decide_eq_true rfl, h _ rfl id rfl⟩
    | missing => exact (by decide : decodeObserved (some (utf8 "missing")) none = .ok (some .missing))
    | unknown => exact (by decide : decodeObserved (some (utf8 "unknown")) none = .ok (some .unknown))

theorem decodeAcknowledgement_asStr (acknowledgement : Option Acknowledgement) :
    (acknowledgement.map (·.asStr)).mapM decodeAcknowledgement = .ok acknowledgement := by
  refine mapM_eq_ok (fun v hv => ?_) fun hv => Option.map_eq_none_iff.mp hv
  obtain ⟨x, hx, rfl⟩ := Option.map_eq_some_iff.mp hv
  refine ⟨x, ?_, hx⟩
  rw [decodeAcknowledgement, Acknowledgement.parse_asStr]

/-- The phase that the columns show before the receipt is looked at. -/
def GitPhase.unsigned : GitPhase → GitPhase
  | .finalized statement _ => .observed statement.acknowledgement statement.observed
  | .authorized => .authorized
  | .notAttempted rejection => .notAttempted rejection
  | .attempted acknowledgement => .attempted acknowledgement
  | .observed acknowledgement seen => .observed acknowledgement seen

theorem decodePhase_phase {b : GitBinding C} {p : GitPhase} (h : p.Valid b) :
    decodePhase p.state.asSql (p.rejection.map (·.asSql)) (p.acknowledgement.map (·.asStr))
      (p.seen.map kindWord) (p.seen.bind commitOf) = .ok p.unsigned := by
  have hseen : ∀ s ∈ p.seen, SeenValid s := by
    intro s hs
    cases p with
    | observed acknowledgement seen =>
      obtain rfl := Option.some.inj hs
      exact h
    | finalized statement receipt =>
      obtain rfl := Option.some.inj hs
      exact h.2.1
    | _ => cases hs
  refine bind_eq_ok.mpr ⟨_, decodeAcknowledgement_asStr p.acknowledgement, ?_⟩
  refine bind_eq_ok.mpr ⟨_, decodeObserved_seen hseen, ?_⟩
  clear hseen h
  cases p with
  | authorized => decide
  | notAttempted rejection => cases rejection <;> decide
  | attempted acknowledgement =>
    cases acknowledgement with
    | none => decide
    | some acknowledgement =>
      show phaseOf (utf8 "apply_started") none (some acknowledgement) none = _
      rw [phaseOf, if_pos ⟨rfl, rfl⟩]
      rfl
  | observed acknowledgement seen =>
    show phaseOf (utf8 "receiver_observed") none (some acknowledgement) (some seen) = _
    rw [phaseOf, if_pos ⟨.inl rfl, rfl⟩]
    rfl
  | finalized statement receipt =>
    show phaseOf (utf8 "finalized") none (some statement.acknowledgement)
      (some statement.observed) = _
    rw [phaseOf, if_pos ⟨.inr rfl, rfl⟩]
    rfl

theorem decodeReceipt_phase {b : GitBinding C} {p : GitPhase} (h : p.Valid b) :
    decodeReceipt C b.authorization.operationId p.state.asSql (p.receipt.map (·.digest))
      (p.receipt.map (·.bytes)) (p.receipt.map (·.keyId)) = .ok p.receipt := by
  cases p with
  | finalized statement receipt =>
    obtain ⟨-, -, hid, -, hdigest⟩ := h
    refine (if_pos ⟨rfl, hdigest⟩).trans ?_
    rw [← hid]
    rfl
  | authorized =>
    show decodeReceipt C _ (utf8 "authorized") none none none = _
    rw [decodeReceipt, if_neg (by decide)]
    rfl
  | notAttempted rejection =>
    show decodeReceipt C _ (utf8 "not_attempted") none none none = _
    rw [decodeReceipt, if_neg (by decide)]
    rfl
  | attempted acknowledgement =>
    show decodeReceipt C _ (utf8 "apply_started") none none none = _
    rw [decodeReceipt, if_neg (by decide)]
    rfl
  | observed acknowledgement seen =>
    show decodeReceipt C _ (utf8 "receiver_observed") none none none = _
    rw [decodeReceipt, if_neg (by decide)]
    rfl

/-- **Every valid Git phase decodes to itself.** -/
theorem decodeRecord_phase {b : GitBinding C} {p : GitPhase} (h : p.Valid b) :
    decodeRecord (gitRecord b p) b = .ok p := by
  have hcolumns : forM b.columns (requireColumn (gitRecord b p)) = .ok () := by
    rw [forM_requireColumn]
    simp only [GitBinding.columns, List.forall_mem_cons]
    exact ⟨rfl, rfl, rfl, rfl, rfl, rfl, rfl, rfl, fun _ hnil => absurd hnil List.not_mem_nil⟩
  refine (bind_of_ok hcolumns _).trans ?_
  refine (bind_of_ok (Record.getBlob_eq_ok.mpr rfl) _).trans ?_
  refine (bind_of_ok (require_of_true (decide_eq_true rfl)) _).trans ?_
  refine (bind_of_ok (Record.getText_eq_ok.mpr rfl) _).trans ?_
  iterate 5 refine (bind_of_ok (Record.getOptionalText_of_eq rfl) _).trans ?_
  refine (bind_of_ok (Record.getOptionalBlob_of_eq rfl) _).trans ?_
  refine (bind_of_ok (Record.getOptionalText_of_eq rfl) _).trans ?_
  refine (bind_of_ok (decodeReceipt_phase h) _).trans ?_
  refine (bind_of_ok (decodePhase_phase h) _).trans ?_
  cases p with
  | finalized statement receipt =>
    obtain ⟨hstatement, -, -, hembedded, -⟩ := h
    have hsame : GitPhase.statement b (GitPhase.unsigned (.finalized statement receipt)) =
        some statement := congrArg some hstatement.symm
    refine bind_eq_ok.mpr ⟨statement, ?_, ?_⟩
    · rw [hsame]
      rfl
    · refine bind_eq_ok.mpr ⟨(receipt.keyId, statement), mapError_eq_ok.mpr hembedded, ?_⟩
      refine bind_eq_ok.mpr ⟨(), require_of_true ?_, rfl⟩
      rw [Bool.and_eq_true]
      exact ⟨decide_eq_true rfl, decide_eq_true rfl⟩
  | _ => rfl

end

end Journal
end Gateway
end Kapsel
