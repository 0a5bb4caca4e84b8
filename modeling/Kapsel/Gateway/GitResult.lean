import Kapsel.Gateway.Dispatch
import Kapsel.Gateway.Readable

/-!
# Where a Git result comes from

A later observation that shows the new commit makes it tempting to infer success.  The
journal does not: the result is a function of the acknowledgement alone, and an
acknowledgement other than `unknown` can only have come from the one send of the operation,
through the commit that recorded it while the row was still attempted and not yet frozen.

The argument goes backwards through the last writes of a row: a finalized row was observed,
an observed row was frozen from an attempted row with or without an acknowledgement, and an
attempted row with an acknowledgement was written by the session that had just been
answered.
-/

namespace Kapsel

open Grammar Fallible Authority Interaction Interaction.Program Relation

namespace Gateway

open Journal

variable {C : Crypto}

/-! ## What a row says of its phase -/

theorem asStr_injective {x y : Acknowledgement} (h : x.asStr = y.asStr) : x = y :=
  Option.some.inj ((Acknowledgement.parse_asStr x).symm.trans
    ((congrArg Acknowledgement.parse h).trans (Acknowledgement.parse_asStr y)))

/-- Two valid phases with the same row are the same. -/
theorem phase_eq_of_gitRecord_eq {b b' : GitBinding C} {p p' : GitPhase} (hvalid : p.Valid b)
    (hvalid' : p'.Valid b') (h : gitRecord b p = gitRecord b' p') : b = b' ∧ p = p' := by
  obtain rfl := eq_of_gitRecord_eq h
  have hdecode := decodeRecord_phase hvalid
  rw [h, decodeRecord_phase hvalid'] at hdecode
  exact ⟨rfl, (Except.ok.inj hdecode).symm⟩

/-! ## Last writes of a Git row -/

section
variable {moments : List (Event C)} {w : World} {b : GitBinding C} {id : Text}

/-- **The freeze of an observed row.** -/
structure Froze (m : Event C) (b : GitBinding C) (retained : Option Acknowledgement)
    (seen : ObservedRef) : Prop where
  commits : CommitsAt m (.freezeGitObservation (gitRecord b (.attempted retained)) b retained seen
    (kindWord seen, commitOf seen))
  before : stored m.before.db .git b.authorization.operationId =
    some (gitRecord b (.attempted retained))

/-- **The recording of an acknowledgement.** -/
structure Recorded (m : Event C) (b : GitBinding C) (acknowledgement : Acknowledgement) : Prop where
  commits : CommitsAt m (.recordGitAcknowledgement (gitRecord b (.attempted none)) b
    acknowledgement)
  before : stored m.before.db .git b.authorization.operationId =
    some (gitRecord b (.attempted none))

/-- The last write of a row in a valid phase. -/
theorem exists_last_gitAdvance {p : GitPhase} (h : Conforms (environment C) allowed moments w)
    (hvalid : p.Valid b) (hp : p ≠ .authorized)
    (hr : stored w.db .git b.authorization.operationId = some (gitRecord b p)) :
    ∃ later m earlier x p₀, moments = later ++ m :: earlier ∧ CommitsAt m x ∧
      GitAdvances x b p₀ p ∧
      stored m.before.db .git b.authorization.operationId = some (gitRecord b p₀) := by
  obtain ⟨m, x, hlast⟩ := exists_last_write h hr
  obtain ⟨later, earlier, hsplit, -⟩ := hlast.splits
  obtain ⟨before, hcommits, hmoves⟩ := hlast.moves
  generalize hrow : gitRecord b p = row at hmoves hcommits
  cases hmoves with
  | insertGit b' =>
    have hauthorized : GitPhase.authorized.Valid b' := trivial
    obtain ⟨-, rfl⟩ := phase_eq_of_gitRecord_eq hvalid hauthorized hrow
    exact absurd rfl hp
  | @gitAdvance _ b' p₀ p' hadvances hvalid' =>
    obtain ⟨rfl, rfl⟩ := phase_eq_of_gitRecord_eq hvalid hvalid' hrow
    exact ⟨later, m, earlier, x, p₀, hsplit, hlast.commits, hadvances, hcommits.before⟩

theorem exists_freeze {acknowledgement : Acknowledgement} {seen : ObservedRef}
    (h : Conforms (environment C) allowed moments w) (hvalid : SeenValid seen)
    (hr : stored w.db .git b.authorization.operationId =
      some (gitRecord b (.observed acknowledgement seen))) :
    ∃ later m earlier retained, moments = later ++ m :: earlier ∧ Froze m b retained seen ∧
      acknowledgement = retained.getD .unknown := by
  obtain ⟨later, m, earlier, x, p₀, hsplit, hcommits, hadvances, hbefore⟩ :=
    exists_last_gitAdvance h (p := .observed acknowledgement seen) hvalid (fun hp => nomatch hp) hr
  cases hadvances with
  | freezeGitObservation _ retained =>
    exact ⟨later, m, earlier, retained, hsplit, ⟨hcommits, hbefore⟩, rfl⟩

theorem exists_recording {acknowledgement : Acknowledgement}
    (h : Conforms (environment C) allowed moments w)
    (hr : stored w.db .git b.authorization.operationId =
      some (gitRecord b (.attempted (some acknowledgement)))) :
    ∃ later m earlier, moments = later ++ m :: earlier ∧ Recorded m b acknowledgement := by
  obtain ⟨later, m, earlier, x, p₀, hsplit, hcommits, hadvances, hbefore⟩ :=
    exists_last_gitAdvance h (p := .attempted (some acknowledgement)) trivial
      (fun hp => nomatch hp) hr
  cases hadvances with
  | recordGitAcknowledgement =>
    exact ⟨later, m, earlier, hsplit, hcommits, hbefore⟩

/-- Whoever records an acknowledgement has just been answered by the receiver. -/
theorem exists_send {m : Event C} {earlier : List (Event C)} {acknowledgement : Acknowledgement}
    (h : Conforms (environment C) allowed (m :: earlier) w)
    (hrecorded : Recorded m b acknowledgement) :
    ∃ n ∈ earlier, ∃ permission, n.session = m.session ∧
      permission.prepared.authorization = b.authorization ∧
      n.deed = .act (sent permission acknowledgement) := by
  obtain ⟨⟨answer, hdeed⟩, -⟩ := hrecorded.commits
  obtain ⟨entry, -, hallowed, -⟩ := h.exchange hdeed
  obtain ⟨-, permission, hlast, hauthorization⟩ := hallowed.2
  obtain ⟨n, hn, hsession, hsent⟩ := mem_history.mp (mem_of_latest hlast)
  exact ⟨n, hn, permission, hsession, hauthorization, hsent⟩

end

/-- The one send of an operation answered, its answer was recorded, and the row was frozen
with it, in this order. -/
def AnsweredRecordedFrozen (moments : List (Event C)) (b : GitBinding C)
    (acknowledgement : Acknowledgement) (seen : ObservedRef) : Prop :=
  ∃ later freeze middle record earlier, moments = later ++ freeze :: (middle ++ record :: earlier) ∧
    Froze freeze b (some acknowledgement) seen ∧ Recorded record b acknowledgement ∧
    ∃ n ∈ earlier, ∃ permission, n.session = record.session ∧
      permission.prepared.authorization = b.authorization ∧
      n.deed = .act (sent permission acknowledgement)

section
variable {moments : List (Event C)} {w : World} {b : GitBinding C}

/-- **The acknowledgement of an observed row** was answered by the send, or it is `unknown`
and the row was frozen without one. -/
theorem provenance_of_observed {acknowledgement : Acknowledgement} {seen : ObservedRef}
    (h : Conforms (environment C) allowed moments w) (hvalid : SeenValid seen)
    (hr : stored w.db .git b.authorization.operationId =
      some (gitRecord b (.observed acknowledgement seen))) :
    AnsweredRecordedFrozen moments b acknowledgement seen ∨
      acknowledgement = .unknown ∧ ∃ m ∈ moments, Froze m b none seen := by
  obtain ⟨later, freeze, earlier, retained, rfl, hfroze, rfl⟩ := exists_freeze h hvalid hr
  cases retained with
  | none =>
    exact .inr ⟨rfl, freeze, List.mem_append_right later List.mem_cons_self, hfroze⟩
  | some acknowledgement =>
    have hbefore := h.of_append.tail.1
    obtain ⟨middle, record, first, rfl, hrecorded⟩ := exists_recording hbefore hfroze.before
    obtain ⟨n, hn, permission, hsession, hauthorization, hsent⟩ :=
      exists_send hbefore.of_append hrecorded
    exact .inl ⟨later, freeze, middle, record, first, rfl, hfroze, hrecorded, n, hn, permission,
      hsession, hauthorization, hsent⟩

/-- More moments later. -/
theorem AnsweredRecordedFrozen.append {acknowledgement : Acknowledgement} {seen : ObservedRef}
    (h : AnsweredRecordedFrozen moments b acknowledgement seen) (newer : List (Event C)) :
    AnsweredRecordedFrozen (newer ++ moments) b acknowledgement seen := by
  obtain ⟨later, freeze, middle, record, earlier, rfl, hrest⟩ := h
  exact ⟨newer ++ later, freeze, middle, record, earlier, (List.append_assoc ..).symm, hrest⟩

/-- The same for a row whose observation is frozen, finalized or not. -/
theorem provenance_of_statement {p : GitPhase} {s : GitStatement}
    (h : Conforms (environment C) allowed moments w) (hvalid : p.Valid b)
    (hs : p.statement b = some s)
    (hr : stored w.db .git b.authorization.operationId = some (gitRecord b p)) :
    AnsweredRecordedFrozen moments b s.acknowledgement s.observed ∨
      s.acknowledgement = .unknown ∧ ∃ m ∈ moments, Froze m b none s.observed := by
  cases p with
  | authorized => cases hs
  | notAttempted rejection => cases hs
  | attempted acknowledgement => cases hs
  | observed acknowledgement seen =>
    obtain rfl := Option.some.inj hs
    exact provenance_of_observed h hvalid hr
  | finalized statement receipt =>
    obtain rfl := Option.some.inj hs
    obtain ⟨later, m, earlier, x, p₀, rfl, hcommits, hadvances, hbefore⟩ :=
      exists_last_gitAdvance h hvalid (fun hp => nomatch hp) hr
    cases hadvances with
    | commitGitReceipt _ acknowledgement seen =>
      rcases provenance_of_observed h.of_append.tail.1 hvalid.2.1 hbefore with hsent | ⟨hunknown, n,
        hn, hfroze⟩
      · refine .inl ?_
        have happend := hsent.append (later ++ [m])
        rwa [List.append_assoc] at happend
      · exact .inr ⟨hunknown, n, List.mem_append_right later (List.mem_cons_of_mem m hn), hfroze⟩

end

/-! ## The projections of a result -/

/-- The states of a row whose observation is frozen. -/
def frozenStates : List Value := [.text (utf8 "receiver_observed"), .text (utf8 "finalized")]

theorem exists_statement_of_frozen {b : GitBinding C} {p : GitPhase}
    (h : (gitRecord b p).value .state ∈ frozenStates) : ∃ s, p.statement b = some s := by
  cases p with
  | observed acknowledgement seen => exact ⟨_, rfl⟩
  | finalized statement receipt => exact ⟨_, rfl⟩
  | _ =>
    rw [← List.contains_iff_mem] at h
    exact absurd h Bool.false_ne_true

/-- The statement, the projection of a status request and every inspection of the receipt
show the same result, and it is a function of the acknowledgement. -/
structure ResultProjected (b : GitBinding C) (phase : GitPhase) (s : GitStatement) : Prop where
  statement : s.result = GitStatement.resultOf s.acknowledgement
  status : (RetainedGitOperation.fromPhase b phase).result =
    some (GitStatement.resultOf s.acknowledgement)
  inspection : ∀ bytes digest, (RetainedGitOperation.fromPhase b phase).receipt =
    some (bytes, digest) → ∀ trust time limits s',
      (inspectGitReceipt C bytes trust time limits).statement = some s' →
        s'.result = GitStatement.resultOf s.acknowledgement

section
variable {b : GitBinding C} {p : GitPhase} {s : GitStatement}

theorem resultProjected (hvalid : p.Valid b) (hs : p.statement b = some s) :
    ResultProjected b p s := by
  refine ⟨rfl, ?_, fun bytes digest hreceipt trust time limits s' hinspect => ?_⟩
  · show (p.statement b).map GitStatement.result = _
    rw [hs]
    rfl
  · cases p with
    | finalized statement receipt =>
      obtain rfl := Option.some.inj hs
      obtain ⟨rfl, -⟩ := Prod.mk.inj (Option.some.inj hreceipt)
      obtain rfl := statement_eq_of_inspect hinspect hvalid.2.2.2.1
      rfl
    | _ => cases hreceipt

theorem acknowledgement_of_statement (hs : p.statement b = some s) :
    (gitRecord b p).value .acknowledgement = .text s.acknowledgement.asStr ∧
      (gitRecord b p).value .observedRefKind = .text (kindWord s.observed) ∧
      (gitRecord b p).value .observedCommit = .optionalText (commitOf s.observed) := by
  cases p with
  | observed acknowledgement seen =>
    obtain rfl := Option.some.inj hs
    exact ⟨rfl, rfl, rfl⟩
  | finalized statement receipt =>
    obtain rfl := Option.some.inj hs
    exact ⟨rfl, rfl, rfl⟩
  | _ => cases hs

end

/-- The send of an answered operation is the only one. -/
theorem dispatches_eq_one {moments : List (Event C)} {w : World} {b : GitBinding C}
    {acknowledgement : Acknowledgement} {seen : ObservedRef}
    (h : Conforms (environment C) allowed moments w)
    (hanswered : AnsweredRecordedFrozen moments b acknowledgement seen) :
    occurrences (dispatches .git b.authorization.operationId) moments = 1 := by
  refine Nat.le_antisymm (dispatches_le_one h _ _) ?_
  obtain ⟨later, freeze, middle, record, earlier, rfl, -, -, n, hn, permission, -, hsame, hsent⟩ :=
    hanswered
  refine List.countP_pos_iff.mpr ⟨n, ?_, ?_⟩
  · exact List.mem_append_right later (List.mem_cons_of_mem _
      (List.mem_append_right middle (List.mem_cons_of_mem _ hn)))
  · rw [Moment.isOf, hsent]
    simp only [dispatches, sent, hsame, Bool.and_eq_true, decide_eq_true_eq]
    exact ⟨trivial, trivial⟩

/-- A row that was frozen without an acknowledgement. -/
structure FrozenUnknown (db : Database) (b : GitBinding C) (seen : ObservedRef) : Prop where
  row : ∃ r phase s, stored db .git b.authorization.operationId = some r ∧
    r.value .acknowledgement = .text (utf8 "unknown") ∧ decodeRecord r b = .ok phase ∧
    phase.statement b = some s ∧ s.observed = seen ∧ s.acknowledgement = .unknown ∧
    s.result = .unknown

theorem FrozenUnknown.of_phase {db : Database} {b : GitBinding C} {p : GitPhase} {s : GitStatement}
    (hrow : stored db .git b.authorization.operationId = some (gitRecord b p)) (hvalid : p.Valid b)
    (hs : p.statement b = some s) (hunknown : s.acknowledgement = .unknown) :
    FrozenUnknown db b s.observed := by
  refine ⟨_, p, s, hrow, ?_, decodeRecord_phase hvalid, hs, rfl, hunknown, ?_⟩
  · rw [(acknowledgement_of_statement hs).1, hunknown]
    rfl
  · rw [GitStatement.result, hunknown]
    rfl

theorem eq_of_kindWord {seen seen' : ObservedRef} (hkind : kindWord seen' = kindWord seen)
    (hcommit : Value.optionalText (commitOf seen) = .null ∨
      Value.optionalText (commitOf seen') = .optionalText (commitOf seen)) : seen' = seen := by
  cases seen with
  | commit id =>
    cases seen' with
    | commit id' =>
      rcases hcommit with hnull | hsame
      · cases hnull
      · rw [Value.text.inj hsame]
    | missing => exact absurd hkind (by decide : utf8 "missing" ≠ utf8 "commit")
    | unknown => exact absurd hkind (by decide : utf8 "unknown" ≠ utf8 "commit")
  | missing =>
    cases seen' with
    | commit id' => exact absurd hkind (by decide : utf8 "commit" ≠ utf8 "missing")
    | missing => rfl
    | unknown => exact absurd hkind (by decide)
  | unknown =>
    cases seen' with
    | commit id' => exact absurd hkind (by decide : utf8 "commit" ≠ utf8 "unknown")
    | missing => exact absurd hkind (by decide)
    | unknown => rfl

/-- What was frozen stays: the columns of the statement are written once. -/
theorem statement_of_grows {b : GitBinding C} {acknowledgement : Acknowledgement}
    {seen : ObservedRef} {p' : GitPhase} (hvalid' : p'.Valid b)
    (h : Grows (gitRecord b (.observed acknowledgement seen)) (gitRecord b p')) :
    p'.statement b = some (b.statement acknowledgement seen) := by
  have hword := (h .acknowledgement (by decide)).resolve_left fun hnull => nomatch hnull
  have hkind := (h .observedRefKind (by decide)).resolve_left fun hnull => nomatch hnull
  have hcommit := h .observedCommit (by decide)
  cases p' with
  | observed acknowledgement' seen' =>
    obtain rfl := asStr_injective (Value.text.inj hword)
    obtain rfl := eq_of_kindWord (Value.text.inj hkind) hcommit
    rfl
  | finalized statement receipt =>
    have hsame := asStr_injective (Value.text.inj hword)
    have hseen := eq_of_kindWord (Value.text.inj hkind) hcommit
    rw [GitPhase.statement, hvalid'.1, hsame, hseen]
  | _ => cases hkind

/-- A row that was frozen without an acknowledgement stays unknown. -/
theorem frozenUnknown_of_freeze (e : Execution C) {later earlier : List (Event C)} {m : Event C}
    {b : GitBinding C} {seen : ObservedRef} (hsplit : e.moments = later ++ m :: earlier)
    (hafter : stored m.after.db .git b.authorization.operationId =
      some (gitRecord b (.observed .unknown seen))) : FrozenUnknown e.world.db b seen := by
  have hm : m ∈ e.moments := by
    rw [hsplit]
    exact List.mem_append_right later List.mem_cons_self
  obtain ⟨r, hr, hgrows, -⟩ := grows_of_evolves (e.sound.past m hm).2.2 hafter
  obtain ⟨b', p, -, rfl, hvalid⟩ := e.sound.lawful.gitPhase hr
  have hgrant := (hgrows .signedAuthorizationGrant (by decide)).resolve_left fun hnull =>
    nomatch hnull
  obtain rfl : b' = b := GitBinding.eq_of_grant_eq (Value.blob.inj hgrant)
  exact FrozenUnknown.of_phase hr hvalid (statement_of_grows hvalid hgrows) rfl

/-- **Where a Git result comes from**, in every run.  The acknowledgement of a row whose
observation is frozen is other than `unknown` only if the one send of the operation answered
it, and the answer was recorded before the row was frozen; the statement, the status and
every inspection of the receipt show the result of that acknowledgement.  A row that is
frozen while it has no acknowledgement is unknown, then and ever after, whatever ref was
observed. -/
theorem git_result_of_acknowledgement (e : Execution C) :
    (∀ id r, stored e.world.db .git id = some r → r.value .state ∈ frozenStates →
      ∃ b phase s, b.authorization.operationId = id ∧ decodeRecord (C := C) r b = .ok phase ∧
        phase.statement b = some s ∧ r.value .acknowledgement = .text s.acknowledgement.asStr ∧
        (s.acknowledgement ≠ .unknown →
          AnsweredRecordedFrozen e.moments b s.acknowledgement s.observed ∧
            occurrences (dispatches .git id) e.moments = 1) ∧
        ResultProjected b phase s) ∧
    (∀ later m earlier original b retained seen columns, e.moments = later ++ m :: earlier →
      CommitsAt m (.freezeGitObservation original b retained seen columns) → ∀ r,
        stored m.before.db .git b.authorization.operationId = some r →
        r.value .acknowledgement = .null →
          FrozenUnknown m.after.db b seen ∧ FrozenUnknown e.world.db b seen) := by
  refine ⟨fun id r hr hstate => ?_, fun later m earlier original b retained seen columns hsplit
    hcommits r hr hnull => ?_⟩
  · obtain ⟨b, p, rfl, rfl, hvalid⟩ := e.sound.lawful.gitPhase hr
    obtain ⟨s, hs⟩ := exists_statement_of_frozen hstate
    refine ⟨b, p, s, rfl, decodeRecord_phase hvalid, hs, (acknowledgement_of_statement hs).1,
      fun hknown => ?_, resultProjected hvalid hs⟩
    have hanswered := (provenance_of_statement e.conforms hvalid hs hr).resolve_right
      fun hunknown => hknown hunknown.1
    exact ⟨hanswered, dispatches_eq_one e.conforms hanswered⟩
  · have hm : m ∈ e.moments := by
      rw [hsplit]
      exact List.mem_append_right later List.mem_cons_self
    obtain ⟨t, id, before, after, hwrite, hmoves⟩ := e.moves hm hcommits
    cases hmoves with
    | advance hadvances _ => cases hadvances
    | gitAdvance hadvances hvalid =>
      cases hadvances
      obtain rfl := id_of_gitRecord hwrite
      obtain rfl := Option.some.inj (hwrite.before.symm.trans hr)
      cases retained with
      | some acknowledgement => cases hnull
      | none =>
        exact ⟨FrozenUnknown.of_phase hwrite.after hvalid rfl rfl,
          frozenUnknown_of_freeze e hsplit hwrite.after⟩

end Gateway
end Kapsel
