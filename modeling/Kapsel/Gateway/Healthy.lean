import Kapsel.Gateway.History
import Kapsel.Journal.Reads

/-!
# Storage that works

The environment of `World.lean` lets storage fail at every exchange.  A claim that an
operation completes is about the other case: nobody else writes, every read shows the
database, and a write that the journal admits is confirmed.  `healthy` is that environment,
with the adapter and the receiver still free to answer as `Outside` says, and
`reacts_healthy` says that it is one of the behaviours which the interleavings range over.

What single reads and writes of the journal yield there follows.  At the end is one run of
each effect, signed with the known answers of `vectors/`: a session that admits an operation
and is answered by the receiver, and then loses the observation.
-/

namespace Kapsel

open BigEndian Framing Grammar Fallible Authority Interaction Interaction.Program Relation

namespace Gateway

open Journal

variable {C : Crypto}

/-! ## The environment -/

/-- What the adapter and the receiver answer. -/
structure Outside where
  identify : SetDeploymentImageRequest → Except TargetReadError TargetIdentity
  apply : DispatchPermission → Except Unit ApplyOutcome
  observe : SetDeploymentImageRequest → ApplyOutcome → Except Unit ReceiverObservation
  openReceiver : GitReceiver → Except GitError Unit
  prepare : GitReceiver → GitRefAuthorization → Except GitError Unit
  send : GitDispatchPermission → Acknowledgement
  observeRef : GitReceiver → ObservedRef

/-- A write on healthy storage. -/
def writes (w : World) (x : Transition C) : Except GatewayError Unit × World :=
  match replaceSqlite w.db x.replacement.expected x.replacement.next with
  | .ok db => (.ok (), ⟨db, w.holder⟩)
  | .error error => (.error error, w)

/-- The worker lease, for whom asks for it. -/
def leases (w : World) (s : ℕ) : Except GatewayError Bool × World :=
  if w.holder = none then (.ok true, ⟨w.db, some s⟩) else (.ok false, w)

/-- Uncontended storage that does not fail. -/
def healthy (outside : Outside) (s : ℕ) (w : World) : (c : Call C) → Answer c × World
  | .read => (Except.ok w.db, w)
  | .replace x => writes w x
  | .tryLockWorker => leases w s
  | .acknowledge _ => ((), w)
  | .identify request => (outside.identify request, w)
  | .grantPermission _ => ((), w)
  | .apply permission => (outside.apply permission, w)
  | .observe request outcome => (outside.observe request outcome, w)
  | .openReceiver receiver => (outside.openReceiver receiver, w)
  | .prepare receiver authorization => (outside.prepare receiver authorization, w)
  | .grantGitPermission _ => ((), w)
  | .send permission => (outside.send permission, w)
  | .observeRef receiver => (outside.observeRef receiver, w)

/-- Healthy storage is one of the behaviours of the environment. -/
theorem reacts_healthy (outside : Outside) (s : ℕ) (w : World) (c : Call C) :
    reacts w s c (healthy outside s w c).1 (healthy outside s w c).2 := by
  cases c with
  | read =>
    refine ⟨rfl, fun db hdb => ?_⟩
    exact (Except.ok.inj hdb).symm
  | replace x =>
    show (Commit x w.db (writes w x).2.db ∧ (writes w x).2.holder = w.holder ∧
        ∀ error, (writes w x).1 = .error error → StorageError error) ∨
      ((writes w x).2 = w ∧ ∃ error, (writes w x).1 = .error error ∧ Refused x w.db error)
    unfold writes
    split
    · rename_i db hreplace
      exact .inl ⟨hreplace, rfl, fun _ h => nomatch h⟩
    · rename_i error hreplace
      exact .inr ⟨rfl, error, rfl, .inr hreplace⟩
  | tryLockWorker =>
    show ((leases w s).1 = .ok true ∧ w.holder = none ∧ (leases w s).2 = ⟨w.db, some s⟩) ∨
      ((leases w s).1 ≠ .ok true ∧ (leases w s).2 = w)
    unfold leases
    split
    · rename_i hfree
      exact .inl ⟨rfl, hfree, rfl⟩
    · exact .inr ⟨fun h => (nomatch h), rfl⟩
  | _ => rfl

/-! ## Sessions that run to their end -/

/-- A further session of a run, started and run to its end against healthy storage. -/
def Execution.after (e : Execution C) (outside : Outside) (s : ℕ) (entry : Entry)
    (hfresh : ∀ m ∈ e.moments, m.session ≠ s) : Execution C where
  moments := (replay (healthy outside s) s (entry.program C)
    (⟨s, .start entry, e.world, e.world⟩ :: e.moments) e.world).1
  world := (replay (healthy outside s) s (entry.program C)
    (⟨s, .start entry, e.world, e.world⟩ :: e.moments) e.world).2
  run := by
    obtain ⟨live, hrun⟩ := e.run
    exact (Run.start s entry hrun hfresh).replay (reacts_healthy outside s)
      (Function.update_self ..)

/-- A further session of a run, lost after so many exchanges with healthy storage. -/
def Execution.interrupted (e : Execution C) (outside : Outside) (s : ℕ) (entry : Entry) (n : ℕ)
    (hfresh : ∀ m ∈ e.moments, m.session ≠ s) : Execution C where
  moments := (replayFor (healthy outside s) s n (entry.program C)
    (⟨s, .start entry, e.world, e.world⟩ :: e.moments) e.world).1
  world := (replayFor (healthy outside s) s n (entry.program C)
    (⟨s, .start entry, e.world, e.world⟩ :: e.moments) e.world).2
  run := by
    obtain ⟨live, hrun⟩ := e.run
    exact (Run.start s entry hrun hfresh).replayFor (reacts_healthy outside s) n
      (Function.update_self ..)

/-- The further session is answered by the healthy environment. -/
theorem Execution.answer_of_mem_after (e : Execution C) {outside : Outside} {s : ℕ} {entry : Entry}
    {hfresh : ∀ m ∈ e.moments, m.session ≠ s} {m : Event C} {c : Call C} {answer : Answer c}
    (hm : m ∈ (e.after outside s entry hfresh).moments) (hdeed : m.deed = .act ⟨c, answer⟩) :
    m ∈ e.moments ∨ answer = (healthy outside s m.before c).1 := by
  rcases answer_of_mem_replay hm hdeed with hstart | hanswer
  · rcases List.mem_cons.mp hstart with rfl | hmem
    · cases hdeed
    · exact .inl hmem
  · exact .inr hanswer

theorem Execution.started_after (e : Execution C) {outside : Outside} {s : ℕ} {entry : Entry}
    {hfresh : ∀ m ∈ e.moments, m.session ≠ s} :
    Started s entry (e.after outside s entry hfresh).moments :=
  ⟨⟨s, .start entry, e.world, e.world⟩, mem_replay List.mem_cons_self, rfl, rfl⟩

/-- The run in which nothing has happened. -/
def Execution.empty : Execution C := ⟨[], (environment C).initial, _, .initial⟩

/-! ## Reads and writes -/

section
variable {outside : Outside} {s : ℕ} {w : World}

theorem yields_snapshot :
    Yields (healthy outside s) w (Storage.snapshot : Action C GatewayError Database) w.db w := rfl

theorem yields_replace {x : Transition C} {db : Database} (h : Commit x w.db db) :
    Yields (healthy outside s) w (Storage.replace x) () ⟨db, w.holder⟩ := by
  have hwrites : writes w x = (.ok (), ⟨db, w.holder⟩) := by
    unfold writes
    rw [h]
  show ((writes w x).1, (writes w x).2) = _
  exact hwrites

end

/-- A write of a row that SQLite admits commits. -/
theorem exists_commit {db : Database} {x : Transition C} {t : Table} {id : Text} {r r' : Record t}
    (hx : x.replacement = ⟨t, some r, r'⟩) (hr : stored db t id = some r)
    (hid : r'.value .operationId = .text id) (hsmall : r.Small) (hne : r ≠ r')
    (hstorable : r'.storable = true) : ∃ db', Commit x db db' ∧ stored db' t id = some r' := by
  have hreadable : Readable db t id := by
    intro r₁ hr₁
    obtain rfl := Option.some.inj (hr.symm.trans hr₁)
    exact withinBounds_of_small hsmall
  obtain ⟨db', hdb'⟩ :=
    (replaceSqlite_update hid hreadable).mpr ⟨hr, isUtf8_of_small hsmall, hne, hstorable⟩
  refine ⟨db', ?_, ?_⟩
  · unfold Commit
    rw [hx]
    exact hdb'
  · obtain ⟨id', hcommits⟩ := replaceSqlite_eq_ok hdb'
    obtain rfl : id' = id := Value.text.inj (hcommits.operationId.symm.trans hid)
    exact hcommits.after

section
variable {x : Transition C} {a : AuthorizedRequest C} {p p' : Phase}

/-- The call of `Io::replace` that takes a row along an edge. -/
theorem replacement_of_advances (h : Advances x a p p') :
    x.replacement = ⟨.kubernetes, some (phaseRecord a p), phaseRecord a p'⟩ := by
  cases h with
  | markAuthorized =>
    rw [Transition.replacement, authorizedRecord_phase]
  | markNotAttempted _ rejection =>
    rw [Transition.replacement, notAttemptedRecord_phase]
  | markStaleApproval _ seen =>
    rw [Transition.replacement, staleApprovalRecord_phase]
  | markApplyStarted _ target =>
    rw [Transition.replacement, applyStartedRecord_phase]
  | recordApplyOutcome _ target outcome resourceVersion hversion =>
    obtain ⟨accepted, generation, uid, version⟩ := outcome
    obtain rfl : version = some resourceVersion := hversion
    rw [Transition.replacement, applyOutcomeRecord_phase]
  | freezeObservation _ target response observation =>
    rw [Transition.replacement, observationRecord_phase]
  | commitReceipt _ target response observation receipt =>
    rw [Transition.replacement, receiptRecord_phase]

theorem replacement_of_gitAdvances {b : GitBinding C} {p p' : GitPhase}
    (h : GitAdvances x b p p') :
    x.replacement = ⟨.git, some (Journal.gitRecord b p), Journal.gitRecord b p'⟩ := by
  cases h with
  | beginGitAttempt => rw [Transition.replacement, gitAttemptRecord_phase]
  | rejectGit _ rejection => rw [Transition.replacement, gitRejectionRecord_phase]
  | recordGitAcknowledgement _ acknowledgement =>
    rw [Transition.replacement, gitAcknowledgementRecord_phase]
  | freezeGitObservation _ retained seen =>
    rw [Transition.replacement, gitObservationRecord_phase]
  | commitGitReceipt _ acknowledgement seen bytes keyId =>
    rw [Transition.replacement, gitReceiptRecord_phase]

/-- The call of `Io::replace` that a move is made of. -/
theorem replacement_of_moves {t : Table} {before : Option (Record t)} {after : Record t}
    (h : Moves x t before after) : x.replacement = ⟨t, before, after⟩ := by
  cases h with
  | insertRequested a => rw [Transition.replacement, requestedRecord_phase]
  | advance hadvances _ => exact replacement_of_advances hadvances
  | insertGit b => rw [Transition.replacement, gitAuthorizedRecord_phase]
  | gitAdvance hadvances _ => exact replacement_of_gitAdvances hadvances

theorem phaseRecord_ne_of_next (h : p.Next p') : phaseRecord a p ≠ phaseRecord a p' := by
  intro hsame
  have hstate := asSql_injective
    (Value.text.inj (congrArg (fun r => Record.value r .state) hsame))
  cases h with
  | respond target response =>
    cases congrArg (fun r => Record.value r .applyAccepted) hsame
  | _ => cases hstate

/-- **An edge is taken** wherever the next phase is valid. -/
theorem exists_commit_of_advances {db : Database} (h : Advances x a p p') (hvalid : p.Valid a)
    (hvalid' : p'.Valid a)
    (hr : stored db .kubernetes a.request.operationId = some (phaseRecord a p)) :
    ∃ db', Commit x db db' ∧
      stored db' .kubernetes a.request.operationId = some (phaseRecord a p') :=
  exists_commit (replacement_of_advances h) hr rfl (small_phaseRecord hvalid)
    (phaseRecord_ne_of_next h.next) (storable_phaseRecord hvalid')

theorem yields_boundRecord {outside : Outside} {s : ℕ} {w : World} {id : Text} (hvalid : p.Valid a)
    (hreadable : p.Readable) (hr : stored w.db .kubernetes id = some (phaseRecord a p)) :
    Yields (healthy outside s) w (Storage.boundRecord (C := C) id (p.loaded a)) (phaseRecord a p) w :=
  yields_snapshot.bind (yields_check (boundRecord_of_stored hvalid hreadable hr) w)

end

/-- The attempted row of a run decodes. -/
theorem Execution.exists_started (e : Execution C) {id : Text}
    (h : (stored e.world.db .kubernetes id).map (·.value .state) =
      some (.text (utf8 "apply_started"))) :
    ∃ r started, stored e.world.db .kubernetes id = some r ∧
      decode C r = .ok (.applyStarted started) := by
  obtain ⟨r, hr, hstate⟩ := Option.map_eq_some_iff.mp h
  obtain ⟨a, p, rfl, rfl, hvalid⟩ := e.sound.lawful.phase hr
  have hsame : p.state = .applyStarted := asSql_injective (Value.text.inj hstate)
  cases p with
  | attempted target response =>
    exact ⟨_, _, hr, decode_phase (p := .attempted target response) hvalid trivial⟩
  | _ => cases hsame

/-! ## Known answers

The grant of `vectors/snapshot-grant-v2.hex` and the receipt of
`vectors/snapshot-receipt-v3.hex`, field by field, with the signatures that are in the files.
The Git grant and the Git receipt are signed with the same two seeds. -/

namespace Known

theorem length_ownerSeed : (List.replicate 32 (7 : UInt8)).length = 32 := rfl

def ownerSeed : Octets 32 := ⟨List.replicate 32 7, length_ownerSeed⟩
def receiptSeed : Octets 32 := ⟨List.replicate 32 9, rfl⟩
def ownerKeyId : Text := utf8 "snapshot-owner-key"
def receiptKeyId : Text := utf8 "snapshot-receipt-key"

/-- The verifying key of the grants. -/
def ownerKey : Octets 32 :=
  ⟨beBytes 32 0xea4a6c63e29c520abef5507b132ec5f9954776aebebe7b92421eea691446d22c, length_beBytes ..⟩

/-- The verifying key of the receipts. -/
def receiptKey : Octets 32 :=
  ⟨beBytes 32 0xfd1724385aa0c75b64fb78cd602fa1d991fdebf76b13c58ed702eac835e9f618, length_beBytes ..⟩

/-- A signature in two halves. -/
def signatureOf (first second : ℕ) : Octets 64 :=
  ⟨beBytes 32 first ++ beBytes 32 second, by rw [List.length_append, length_beBytes, length_beBytes]⟩

def image : Text :=
  utf8 "registry.example/snapshot-worker@sha256:" ++
    utf8 "0123456789abcdef0123456789abcdef0123456789abcdef0123456789abcdef"

def request : SetDeploymentImageRequest :=
  ⟨utf8 "snapshot-op-23", utf8 "snapshot-demo", utf8 "snapshot-worker", utf8 "worker", image⟩

def target : TargetIdentity := ⟨utf8 "approved-uid-31", utf8 "opaque:0047"⟩

def grantStatement : Bytes :=
  Authority.snapshotStatementMagic ++ frame 1 (utf8 "snapshot-auth-17") ++
    frame 2 request.operationId ++ frame 3 request.namespace ++ frame 4 request.deployment ++
    frame 5 request.container ++ frame 6 image ++ frame 7 target.deploymentUid ++
    frame 8 target.resourceVersion

/-- The signature in `vectors/snapshot-grant-v2.hex`. -/
def grantSignature : Octets 64 :=
  signatureOf 0xe95bb32c1de0086140a630898fa35fcdff365459ef2a1082ead9e14b490dc21e
    0xdd96950b6dc94143633a3e0d2fc6accc12534c9967aa9c6d71fa9f788b08f90c

def grant : Bytes :=
  snapshotGrantMagic ++ frame 1 snapshotPurpose ++ frame 2 ownerKeyId ++ frame 3 grantStatement ++
    frame 4 grantSignature.val

def observation : ReceiverObservation where
  deploymentUid := some target.deploymentUid
  resourceVersion := some (utf8 "observed:0067")
  currentGeneration := some 53
  observedGeneration := some 61
  image := some image
  operationMarker := some request.operationId
  desiredReplicas := some 3
  updatedReplicas := some 5
  availableReplicas := some 7
  unavailableReplicas := some 11
  rolloutConditionType := none
  rolloutConditionStatus := none
  rolloutConditionReason := none

def statement : ReceiptStatement where
  approvedTarget := some ⟨target.deploymentUid, target.resourceVersion⟩
  operationId := request.operationId
  authorizationId := utf8 "snapshot-auth-17"
  authorizationSignerKeyId := ownerKeyId
  authorizationGrantDigest := utf8 "de65cf5b10d5f4ed0477f15b4d4d6a31f829fb31d9deb689493734784b863fa5"
  «namespace» := request.namespace
  deployment := request.deployment
  container := request.container
  immutableImageDigest := image
  writeStrategy := writeStrategy
  targetUid := target.deploymentUid
  targetResourceVersion := target.resourceVersion
  receiverUid := observation.deploymentUid
  observedImage := observation.image
  observedOperationMarker := observation.operationMarker
  currentGeneration := observation.currentGeneration
  requestedGeneration := some 59
  observedGeneration := observation.observedGeneration
  observedResourceVersion := observation.resourceVersion
  desiredReplicas := observation.desiredReplicas
  updatedReplicas := observation.updatedReplicas
  availableReplicas := observation.availableReplicas
  unavailableReplicas := observation.unavailableReplicas
  rolloutConditionType := none
  rolloutConditionStatus := none
  rolloutConditionReason := none
  result := .unknown

def statementBytes : Bytes :=
  Gateway.snapshotStatementMagic ++ Receipt.frames 1 (statement.fields ++ statement.approvedFields)

/-- The signature in `vectors/snapshot-receipt-v3.hex`. -/
def receiptSignature : Octets 64 :=
  signatureOf 0x92901086781c704d41b057d9f98cab5d4fd15ffe0f244aa00e5c28ce5f3e7a5c
    0xcbabcfb772963dca4906bb4212613e63776272b1d9968df174362fbb377f6105

def receipt : Bytes :=
  Gateway.snapshotReceiptMagic ++ frame 1 Gateway.snapshotReceiptPurpose ++ frame 2 receiptKeyId ++
    frame 3 statementBytes ++ frame 4 receiptSignature.val

def gitAuthorization : GitRefAuthorization :=
  ⟨utf8 "git-auth-5", utf8 "git-op-9", utf8 "git-repository-2", approvedGitRef,
    utf8 "1111111111111111111111111111111111111111",
    utf8 "2222222222222222222222222222222222222222"⟩

def gitGrantStatement : Bytes :=
  Git.statementMagic ++ frame 1 gitAuthorization.authorizationId ++
    frame 2 gitAuthorization.operationId ++ frame 3 gitAuthorization.repositoryId ++
    frame 4 gitAuthorization.reference ++ frame 5 gitAuthorization.oldCommit ++
    frame 6 gitAuthorization.newCommit

/-- Ed25519 under the seed of the grants. -/
def gitGrantSignature : Octets 64 :=
  signatureOf 0x6278eed9b0d1181d6ea41ea93f26151c378ee8ab2c5947df4c0b14e1b82cb144
    0xb2535d4f56d15c532154165db1e0db89f9f3013f145d1ed98ab0bd7f0ed12305

def gitGrant : Bytes :=
  Git.grantMagic ++ frame 1 Git.purpose ++ frame 2 ownerKeyId ++ frame 3 gitGrantStatement ++
    frame 4 gitGrantSignature.val

def gitStatement : GitStatement :=
  ⟨gitAuthorization, ownerKeyId,
    utf8 "2f548fa4e54488235f7aa78a3b58f00fa1ee53d12fc5f150ec376ee9ccee73e3", .updated,
    .commit gitAuthorization.newCommit⟩

def gitStatementBytes : Bytes :=
  GitStatement.statementMagic ++
    Receipt.frames 1 (gitStatement.fields (utf8 "commit", gitAuthorization.newCommit))

/-- Ed25519 under the seed of the receipts. -/
def gitReceiptSignature : Octets 64 :=
  signatureOf 0x9af066cef56d7466111858b19ff3f3743a402ccaffe72094393a5a3df4d7037c
    0x1414ba69ebf37ff4c09c0c191025aa09f9b79faed730a6ab7d46a16512293808

def gitReceipt : Bytes :=
  GitStatement.receiptMagic ++ frame 1 GitStatement.purpose ++ frame 2 receiptKeyId ++
    frame 3 gitStatementBytes ++ frame 4 gitReceiptSignature.val

/-- The signatures of the known answers. -/
def signatures : List ((Octets 32 × Bytes) × Octets 64) :=
  [((ownerKey, Authority.signatureInput snapshotPurpose grantStatement), grantSignature),
    ((receiptKey, Receipt.signatureInput Gateway.snapshotReceiptPurpose statementBytes),
      receiptSignature),
    ((ownerKey, Authority.signatureInput Git.purpose gitGrantStatement), gitGrantSignature),
    ((receiptKey, Receipt.signatureInput GitStatement.purpose gitStatementBytes),
      gitReceiptSignature)]

/-- The digests of the known answers. -/
def digests : List (Bytes × ℕ) :=
  [(grant, 0xde65cf5b10d5f4ed0477f15b4d4d6a31f829fb31d9deb689493734784b863fa5),
    (receipt, 0x42343c678a54da7b27dc7a4ba0b64394a48c0f7564bfe91fc7e6f668f8900c6d),
    (gitGrant, 0x2f548fa4e54488235f7aa78a3b58f00fa1ee53d12fc5f150ec376ee9ccee73e3),
    (gitReceipt, 0x590e1a45b63ffb84a37d7192acbf87d1213d443e13d77be18b84c71e5f19d055)]

/-- The signature of a message under a key, as far as it is known. -/
def signature (key : Octets 32) (message : Bytes) : Octets 64 :=
  (signatures.lookup (key, message)).getD ⟨List.replicate 64 0, rfl⟩

def verifyingKey (seed : Octets 32) : Octets 32 :=
  if seed = ownerSeed then ownerKey else if seed = receiptSeed then receiptKey else seed

/-- SHA-256 and Ed25519 on the known answers. -/
def crypto : Crypto where
  sha256 bytes := ⟨beBytes 32 ((digests.lookup bytes).getD 0), length_beBytes ..⟩
  keyIsValid _ := true
  verifyStrict key message signed := signed = signature key message
  verifyingKey := verifyingKey
  sign seed message := signature (verifyingKey seed) message

theorem correct : crypto.Correct := ⟨fun _ => rfl, fun _ _ => decide_eq_true rfl⟩

/-- The receivers answer, and the observation is lost. -/
def outside : Outside where
  identify _ := .ok target
  apply _ := .ok ⟨true, some 59, some target.deploymentUid, some (utf8 "applied:0053")⟩
  observe _ _ := .error ()
  openReceiver _ := .ok ()
  prepare _ _ := .ok ()
  send _ := .updated
  observeRef _ := .commit gitAuthorization.newCommit

def authorities : List AuthorizationTrust := [⟨ownerKeyId, ownerKey⟩]

def settings : ReceiptSettings := ⟨receiptSeed, receiptKeyId⟩

/-- Nothing has been done yet. -/
theorem fresh_empty : ∀ m ∈ (Execution.empty : Execution crypto).moments, m.session ≠ 0 :=
  fun _ hm => absurd hm List.not_mem_nil

/-- A session that admits the operation and stops at the lost observation. -/
def attempted : Execution crypto :=
  Execution.empty.after outside 0 ⟨authorities, .admitAndReconcile request grant true none 4⟩
    fresh_empty

/-- The operation was attempted. -/
theorem attempted_state :
    (stored attempted.world.db .kubernetes request.operationId).map (·.value .state) =
      some (.text (utf8 "apply_started")) := by
  decide +kernel

end Known

end Gateway
end Kapsel
