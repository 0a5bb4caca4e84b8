import Kapsel.Gateway.Completion
import Kapsel.Gateway.Serving

/-!
# Git rows read back and complete

The Git half of `Readable.lean` and `Completion.lean`.  Six writers, a decoder that works on
words and optional columns, and a codec for evidence are written apart from each other.  Here they
meet: the row of every run decodes to the phase that its last writer meant
(`Transition.intendedGit`), and an attempted row is frozen, signed, committed and inspected,
whatever the receiver shows of the ref and whether or not the push was acknowledged.

`observed_ref` is the parser of what the receiver prints.  It is not trusted: an answer in any
other form than the one line of the approved ref is `unknown`, and `unknown` completes too.
-/

namespace Kapsel

open Grammar Fallible Authority Receipt Interaction Interaction.Program Relation

namespace Gateway

open Journal

variable {C : Crypto}

/-! ## What the receiver shows -/

/-- `strip_suffix('\n')`. -/
def stripNewline (text : Text) : Option Text :=
  if text.getLast? = some (asciiByte '\n') then some text.dropLast else none

/-- The one line of the approved ref. -/
def observedLine (line : Text) : ObservedRef :=
  match line.splitOn (asciiByte '\t') with
  | [reference, commit, kind, symref] =>
      if reference = approvedGitRef && gitCommitIdIsValid commit && kind = utf8 "commit" &&
        symref.isEmpty then .commit commit else .unknown
  | _ => .unknown

/-- `observed_ref`. -/
def observedRef (bytes : Bytes) : ObservedRef :=
  if bytes.isEmpty then .missing
  else if (ByteArray.mk bytes.toArray).validateUTF8 then
    match stripNewline bytes with
    | none => .unknown
    | some line => observedLine line
  else .unknown

/-- `GitReceiver::observe`, by whether the receiver passed the checks of its custody, its version
and its configuration, and by what the command printed, if it ended well. -/
def GitReceiver.observe (ready : Bool) (output : Option Bytes) : ObservedRef :=
  match ready, output with
  | true, some stdout => observedRef stdout
  | _, _ => .unknown

theorem seenValid_observedLine (line : Text) : SeenValid (observedLine line) := by
  intro id hid
  unfold observedLine at hid
  split at hid
  · split at hid
    · rename_i hline
      obtain rfl := ObservedRef.commit.inj hid
      simp only [Bool.and_eq_true] at hline
      exact hline.1.1.2
    · cases hid
  · cases hid

/-- **Freezing accepts whatever the receiver shows.** -/
theorem seenValid_observe (ready : Bool) (output : Option Bytes) :
    SeenValid (GitReceiver.observe ready output) := by
  unfold GitReceiver.observe
  split
  · unfold observedRef
    split
    · exact fun _ h => (nomatch h)
    · split
      · split
        · exact fun _ h => (nomatch h)
        · exact seenValid_observedLine _
      · exact fun _ h => (nomatch h)
  · exact fun _ h => (nomatch h)

example : observedRef (approvedGitRef ++ utf8 "\t1111111111111111111111111111111111111111\tcommit\t\n") =
    .commit (utf8 "1111111111111111111111111111111111111111") := by decide +kernel

/-! ## What a writer means to leave behind -/

/-- The phase that a Git writer means to leave behind, with the binding it was given. -/
def Transition.intendedGit : Transition C → Option (GitBinding C × GitPhase)
  | .insertGit b => some (b, .authorized)
  | .beginGitAttempt _ b => some (b, .attempted none)
  | .rejectGit _ b rejection => some (b, .notAttempted rejection)
  | .recordGitAcknowledgement _ b acknowledgement => some (b, .attempted (some acknowledgement))
  | .freezeGitObservation _ b retained seen _ =>
      some (b, .observed (retained.getD .unknown) seen)
  | .commitGitReceipt _ b bytes _ =>
      (GitStatement.decode bytes).toOption.map fun (keyId, statement) =>
        (b, .finalized statement ⟨b.authorization.operationId, bytes, digestHex C bytes, keyId⟩)
  | _ => none

section
variable {x : Transition C} {b : GitBinding C} {p p' : GitPhase}

theorem intendedGit_of_gitAdvances (h : GitAdvances x b p p') (hvalid : p'.Valid b) :
    x.intendedGit = some (b, p') := by
  cases h with
  | commitGitReceipt _ acknowledgement seen bytes keyId =>
    obtain ⟨-, -, -, hdecode, -⟩ := hvalid
    have hdecoded : GitStatement.decode bytes = .ok (keyId, b.statement acknowledgement seen) :=
      hdecode
    show (GitStatement.decode bytes).toOption.map _ = _
    rw [hdecoded]
    rfl
  | _ => rfl

theorem gitRecord_ne_of_next (h : p.Next p') : gitRecord b p ≠ gitRecord b p' := by
  intro hsame
  have hstate := asSql_injective
    (Value.text.inj (congrArg (fun r => Record.value r .state) hsame))
  cases h with
  | acknowledge acknowledgement =>
    cases congrArg (fun r => Record.value r .acknowledgement) hsame
  | _ => cases hstate

/-- **An edge is taken** wherever the next phase is valid. -/
theorem exists_commit_of_gitAdvances {db : Database} (h : GitAdvances x b p p')
    (hvalid : p.Valid b) (hvalid' : p'.Valid b)
    (hr : stored db .git b.authorization.operationId = some (gitRecord b p)) :
    ∃ db', Commit x db db' ∧
      stored db' .git b.authorization.operationId = some (gitRecord b p') :=
  exists_commit (replacement_of_gitAdvances h) hr rfl (small_gitRecord hvalid)
    (gitRecord_ne_of_next h.next) (storable_gitRecord hvalid')

end

/-! ## Reads and writes on healthy storage -/

section
variable {outside : Outside} {s : ℕ} {w : World} {b : GitBinding C} {p : GitPhase}

theorem yields_gitRecord (hvalid : p.Valid b)
    (hr : stored w.db .git b.authorization.operationId = some (gitRecord b p)) :
    Yields (healthy outside s) w (Storage.gitRecord b) (some (gitRecord b p)) w :=
  yields_snapshot.bind (yields_checked (readTable_gitPhase hvalid hr) (yields_pure _ w))

/-- The reloaded operation. -/
theorem yields_gitOperation (hvalid : p.Valid b)
    (hr : stored w.db .git b.authorization.operationId = some (gitRecord b p)) :
    Yields (healthy outside s) w (Storage.gitOperation b) (some p) w :=
  (yields_gitRecord hvalid hr).bind
    (yields_checked (decodeRecord_phase hvalid) (yields_pure _ w))

theorem yields_gitWrite (hvalid : p.Valid b)
    (hr : stored w.db .git b.authorization.operationId = some (gitRecord b p)) :
    Yields (healthy outside s) w (Storage.gitWrite b) (gitRecord b p, p) w :=
  (yields_gitRecord hvalid hr).bind
    (yields_checked (decodeRecord_phase hvalid) (yields_pure _ w))

theorem observedColumns_of_valid {seen : ObservedRef} (h : SeenValid seen) :
    observedColumns seen = .ok (kindWord seen, commitOf seen) := by
  cases seen with
  | commit id => exact if_pos (h id rfl)
  | missing => rfl
  | unknown => rfl

/-- **Freezing commits** on healthy storage. -/
theorem exists_yields_freezeGitObservation (outside : Outside) (s : ℕ)
    {retained : Option Acknowledgement} {seen : ObservedRef} (hseen : SeenValid seen)
    (hr : stored w.db .git b.authorization.operationId =
      some (gitRecord b (.attempted retained))) :
    ∃ w', Yields (healthy outside s) w (Storage.freezeGitObservation b seen) () w' ∧
      stored w'.db .git b.authorization.operationId =
        some (gitRecord b (.observed (retained.getD .unknown) seen)) := by
  have hattempted : (GitPhase.attempted retained).Valid b := trivial
  have hobserved : (GitPhase.observed (retained.getD .unknown) seen).Valid b := hseen
  obtain ⟨db', hcommit, hafter⟩ := exists_commit_of_gitAdvances
    (GitAdvances.freezeGitObservation b retained seen) hattempted hobserved hr
  refine ⟨⟨db', w.holder⟩, (yields_gitWrite hattempted hr).bind ?_, hafter⟩
  exact yields_checked (observedColumns_of_valid hseen) (yields_replace hcommit)

/-- **Committing the receipt commits** on healthy storage. -/
theorem exists_yields_commitGitReceipt (outside : Outside) (s : ℕ)
    {acknowledgement : Acknowledgement} {seen : ObservedRef} {bytes : Bytes} {keyId : Text}
    (hseen : SeenValid seen)
    (hdecode : GitStatement.decode bytes = .ok (keyId, b.statement acknowledgement seen))
    (hr : stored w.db .git b.authorization.operationId =
      some (gitRecord b (.observed acknowledgement seen))) :
    ∃ w', Yields (healthy outside s) w (Storage.commitGitReceipt b bytes) () w' ∧
      stored w'.db .git b.authorization.operationId =
        some (gitRecord b (.finalized (b.statement acknowledgement seen)
          ⟨b.authorization.operationId, bytes, digestHex C bytes, keyId⟩)) := by
  have hobserved : (GitPhase.observed acknowledgement seen).Valid b := hseen
  have hfinalized : (GitPhase.finalized (b.statement acknowledgement seen)
      ⟨b.authorization.operationId, bytes, digestHex C bytes, keyId⟩).Valid b :=
    ⟨rfl, hseen, rfl, hdecode, rfl⟩
  obtain ⟨db', hcommit, hafter⟩ := exists_commit_of_gitAdvances
    (GitAdvances.commitGitReceipt b acknowledgement seen bytes keyId) hobserved hfinalized hr
  refine ⟨⟨db', w.holder⟩, (yields_gitWrite hobserved hr).bind ?_, hafter⟩
  refine yields_checked (mapError_eq_ok.mpr hdecode) ?_
  exact yields_checked (require_of_true (decide_eq_true rfl)) (yields_replace hcommit)

end

/-! ## The whole way -/

/-- An attempted Git operation completes: what the receiver shows is frozen, the reloaded operation
is observed, its statement is signed within the bounds, the receipt is committed, the reloaded
operation is finalized with these bytes, and they are inspected under the trust document of the
signing key, with the statement that was frozen. -/
structure GitCompletes (respond : World → (c : Call C) → Answer c × World) (w : World)
    (b : GitBinding C) (retained : Option Acknowledgement) (seen : ObservedRef)
    (settings : ReceiptSettings) (w₁ w₂ : World) (bytes : Bytes) : Prop where
  freezes : Yields respond w (Storage.freezeGitObservation b seen) () w₁
  reloads : Yields respond w₁ (Storage.gitOperation b)
    (some (.observed (retained.getD .unknown) seen)) w₁
  signs : (b.statement (retained.getD .unknown) seen).sign C settings.signingSeed settings.keyId =
    .ok bytes
  fits : bytes.length ≤ receiptBytesMax
  commits : Yields respond w₁ (Storage.commitGitReceipt b bytes) () w₂
  finalized : Yields respond w₂ (Storage.gitOperation b)
    (some (.finalized (b.statement (retained.getD .unknown) seen)
      ⟨b.authorization.operationId, bytes, digestHex C bytes, settings.keyId⟩)) w₂
  retainsBytes : (stored w₂.db .git b.authorization.operationId).map (·.value .receiptBytes) =
    some (.blob bytes)
  inspected : ∀ notBefore notAfter time, notBefore ≤ time → time < notAfter →
    ∃ trust, encodeReceiptTrust (trustOf C settings.signingSeed settings.keyId
        GitStatement.purpose notBefore notAfter) = .ok trust ∧
      inspectGitReceipt C bytes trust time .default =
        ⟨.inspected, some (b.statement (retained.getD .unknown) seen)⟩

/-- The statement of a binding can be written. -/
theorem writable_statement (b : GitBinding C) (acknowledgement : Acknowledgement)
    {seen : ObservedRef} (hseen : SeenValid seen) :
    (b.statement acknowledgement seen).Writable := by
  obtain ⟨trust, hverified⟩ := b.verified
  refine ⟨hverified.valid, hverified.signerKeyId, ?_, ?_⟩
  · have hdigest : b.digest = digestHex C b.grant := hverified.grantDigest
    show isLowercaseSha256 b.digest = true
    rw [hdigest]
    exact isLowercaseSha256_digestHex C b.grant
  · show ∃ words, GitStatement.observedWords seen = .ok words
    cases seen with
    | commit id => exact ⟨_, if_pos (hseen id rfl)⟩
    | missing => exact ⟨_, rfl⟩
    | unknown => exact ⟨_, rfl⟩

/-- **An attempted row completes** on healthy storage. -/
theorem exists_gitCompletes (hC : C.Correct) {b : GitBinding C} {retained : Option Acknowledgement}
    {seen : ObservedRef} {settings : ReceiptSettings} {w : World} (outside : Outside) (s : ℕ)
    (hseen : SeenValid seen) (hkey : identityIsValid settings.keyId = true)
    (hr : stored w.db .git b.authorization.operationId =
      some (gitRecord b (.attempted retained))) :
    ∃ w₁ w₂ bytes, GitCompletes (C := C) (healthy outside s) w b retained seen settings w₁ w₂
      bytes := by
  let acknowledgement := retained.getD .unknown
  obtain ⟨w₁, hfreeze, hrow₁⟩ :=
    exists_yields_freezeGitObservation outside s hseen hr
  obtain ⟨statementBytes, bytes, -, -, hsign, hfits, henvelope⟩ :=
    (writable_statement b acknowledgement hseen).envelope_sign C settings.signingSeed hkey
  have hdecode : GitStatement.decode bytes =
      .ok (settings.keyId, b.statement acknowledgement seen) :=
    bind_eq_ok.mpr ⟨_, henvelope, rfl⟩
  obtain ⟨w₂, hcommit, hrow₂⟩ :=
    exists_yields_commitGitReceipt outside s hseen hdecode hrow₁
  have hobserved : (GitPhase.observed acknowledgement seen).Valid b := hseen
  have hfinalized : (GitPhase.finalized (b.statement acknowledgement seen)
      ⟨b.authorization.operationId, bytes, digestHex C bytes, settings.keyId⟩).Valid b :=
    ⟨rfl, hseen, rfl, hdecode, rfl⟩
  refine ⟨w₁, w₂, bytes, hfreeze, yields_gitOperation hobserved hrow₁, hsign, hfits, hcommit,
    yields_gitOperation hfinalized hrow₂, ?_, ?_⟩
  · rw [hrow₂]
    rfl
  · intro notBefore notAfter time hbefore hafter
    obtain ⟨trust, htrust⟩ := exists_trust (C := C) settings.signingSeed hkey
      (show receiptTextIsValid GitStatement.purpose = true by decide) hbefore hafter
    exact ⟨trust, htrust, inspectGitReceipt_signed hC henvelope htrust hbefore hafter⟩

/-- The row is read back under the trust that verifies its grant. -/
theorem retainedGit_of_stored {db : Database} {b : GitBinding C} {p : GitPhase} (hvalid : p.Valid b)
    (hr : stored db .git b.authorization.operationId = some (gitRecord b p))
    {trust : List AuthorizationTrust} {b' : GitBinding C}
    (hverify : GitBinding.verify C b.grant trust = .ok b') :
    Journal.retainedGit db b.authorization.operationId trust = .ok (some (b, p)) := by
  obtain rfl : b = b' := GitBinding.eq_of_grant_eq (grant_of_verify hverify).symm
  unfold Journal.retainedGit
  refine (bind_of_ok (readTable_gitPhase hvalid hr) _).trans ?_
  refine (bind_of_ok (Record.getBlob_eq_ok.mpr rfl) _).trans ?_
  refine (bind_of_ok hverify _).trans ?_
  refine (bind_of_ok (require_of_true (decide_eq_true rfl)) _).trans ?_
  exact bind_of_ok (decodeRecord_phase hvalid) _

/-- **Git rows read back and complete.**  The Git row that a run leaves under an identity is within
the bounds of the read, and under the binding of its own grant, which is the one that any trust
verifies it to, it decodes to the phase that its last write meant, with exactly what that write was
given.  If that is an attempt, acknowledged or not, it completes with whatever the receiver shows,
every seed and every valid key id. -/
theorem git_rows_read_back_and_complete (hC : C.Correct) (e : Execution C) (id : Text)
    (r : Record .git) (hr : stored e.world.db .git id = some r) :
    ∃ (b : GitBinding C) (phase : GitPhase), b.authorization.operationId = id ∧
      r.value .signedAuthorizationGrant = .blob b.grant ∧
      readTable e.world.db id .git = .ok (some r) ∧ decodeRecord r b = .ok phase ∧
      (∃ m x, LastWrite e.moments .git id r m x ∧ x.intendedGit = some (b, phase)) ∧
      (∀ trust b', GitBinding.verify C b.grant trust = .ok b' →
        Journal.retainedGit e.world.db id trust = .ok (some (b, phase))) ∧
      ∀ retained, phase = .attempted retained → ∀ ready output settings outside s,
        identityIsValid settings.keyId = true →
        ∃ w₁ w₂ bytes, GitCompletes (C := C) (healthy outside s) e.world b retained
          (GitReceiver.observe ready output) settings w₁ w₂ bytes := by
  obtain ⟨m, x, hlast⟩ := exists_last_write e.conforms hr
  obtain ⟨b, phase, rfl, rfl, hvalid⟩ := e.sound.lawful.gitPhase hr
  have hintended : x.intendedGit = some (b, phase) := by
    obtain ⟨before, hcommits, hmoves⟩ := hlast.moves
    generalize hrow : gitRecord b phase = row at hmoves hlast
    cases hmoves with
    | insertGit b' =>
      have hdecode := decodeRecord_phase hvalid
      rw [hrow] at hdecode
      obtain ⟨rfl, rfl⟩ := phase_of_decodeRecord (p := .authorized) trivial hdecode
      rfl
    | gitAdvance hadvances hvalid' =>
      have hdecode := decodeRecord_phase hvalid
      rw [hrow] at hdecode
      obtain ⟨rfl, rfl⟩ := phase_of_decodeRecord hvalid' hdecode
      exact intendedGit_of_gitAdvances hadvances hvalid'
  refine ⟨b, phase, rfl, rfl, readTable_gitPhase hvalid hr, decodeRecord_phase hvalid,
    ⟨m, x, hlast, hintended⟩, fun trust b' hverify => retainedGit_of_stored hvalid hr hverify, ?_⟩
  rintro retained rfl ready output settings outside s hkey
  exact exists_gitCompletes hC outside s (seenValid_observe ready output) hkey hr

/-- A session that admits the Git operation and is lost after the attempt was committed. -/
def Known.gitAttempted : Execution Known.crypto :=
  Execution.empty.interrupted Known.outside 0
    ⟨Known.authorities, .admitAndReconcileGit Known.gitAuthorization.operationId Known.gitGrant
      (some ⟨Known.gitAuthorization.repositoryId⟩) none⟩ 12
    Known.fresh_empty

theorem Known.gitAttempted_state :
    (stored Known.gitAttempted.world.db .git Known.gitAuthorization.operationId).map
        (·.value .state) = some (.text (utf8 "apply_started")) := by
  decide +kernel

/-- The known Git operation was attempted, and completes with the commit that the receiver
shows. -/
theorem known_git_row_completes :
    ∃ (b : GitBinding Known.crypto) (retained : Option Acknowledgement),
      b.authorization.operationId = Known.gitAuthorization.operationId ∧
      ∃ w₁ w₂ bytes, GitCompletes (healthy Known.outside 1) Known.gitAttempted.world b retained
        (GitReceiver.observe true (some (approvedGitRef ++
          utf8 "\t2222222222222222222222222222222222222222\tcommit\t\n"))) Known.settings w₁ w₂
        bytes := by
  obtain ⟨r, hr, hstate⟩ := Option.map_eq_some_iff.mp Known.gitAttempted_state
  obtain ⟨b, phase, hid, -, -, hdecode, -, -, hcompletes⟩ :=
    git_rows_read_back_and_complete Known.correct Known.gitAttempted _ r hr
  obtain ⟨b', phase', -, rfl, hvalid⟩ := Known.gitAttempted.sound.lawful.gitPhase hr
  obtain ⟨rfl, rfl⟩ := phase_of_decodeRecord hvalid hdecode
  have hsame : phase.state = .applyStarted := asSql_injective (Value.text.inj hstate)
  cases phase with
  | attempted retained =>
    exact ⟨b', retained, hid, hcompletes retained rfl _ _ Known.settings Known.outside 1 (by decide)⟩
  | _ => cases hsame

end Gateway
end Kapsel
