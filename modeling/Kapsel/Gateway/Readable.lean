import Kapsel.Gateway.Healthy
import Kapsel.Gateway.WriteOnce

/-!
# Every reachable row reads back

The writers and the decoder are written separately, and the decoder is hostile: it checks
the columns of a row against each other in dozens of ways.  Here they meet.  The row that
is stored under an identity was written by some last commit (`exists_last_write`), and the
decoder returns exactly the operation which that commit was meant to leave behind
(`Transition.intended`).

`Transition.intended` is said in terms of what the writer was given.  Of freezing two
things are to be noted: the statement carries the result and the generation of the
classification, and the response, where there is one, is read back with that generation,
since the two share a column.
-/

namespace Kapsel

open Grammar Fallible Authority Interaction Interaction.Program Relation

namespace Gateway

open Journal

variable {C : Crypto}

/-! ## What a writer means to leave behind -/

/-- Preflight saw this target. -/
def Journal.AuthorizedOperation.withPreflight (operation : AuthorizedOperation)
    (target : ValidatedTargetIdentity) : AuthorizedOperation :=
  { operation with request := { operation.request with preflightTarget := some target.toApproved } }

/-- The statement of an attempted operation and an observation. -/
def statementOf (operation : ApplyStartedOperation) (observation : ReceiverObservation) :
    ReceiptStatement where
  approvedTarget := operation.authorized.request.approvedTarget
  operationId := operation.request.request.operationId
  authorizationId := operation.authorized.authorization.authorizationId
  authorizationSignerKeyId := operation.authorized.authorization.signerKeyId
  authorizationGrantDigest := operation.authorized.authorization.grantDigest.digest
  «namespace» := operation.request.request.namespace
  deployment := operation.request.request.deployment
  container := operation.request.request.container
  immutableImageDigest := operation.request.request.immutableImageDigest
  writeStrategy := Gateway.writeStrategy
  targetUid := operation.attempt.target.deploymentUid
  targetResourceVersion := operation.attempt.target.resourceVersion
  receiverUid := observation.deploymentUid
  observedImage := observation.image
  observedOperationMarker := observation.operationMarker
  currentGeneration := observation.currentGeneration
  requestedGeneration :=
    observation.requestedGeneration operation.request operation.classificationOutcome
  observedGeneration := observation.observedGeneration
  observedResourceVersion := observation.resourceVersion
  desiredReplicas := observation.desiredReplicas
  updatedReplicas := observation.updatedReplicas
  availableReplicas := observation.availableReplicas
  unavailableReplicas := observation.unavailableReplicas
  rolloutConditionType := observation.rolloutConditionType
  rolloutConditionStatus := observation.rolloutConditionStatus
  rolloutConditionReason := observation.rolloutConditionReason
  result := observation.classify operation.request operation.classificationOutcome

/-- The operation that a Kubernetes writer means to leave behind. -/
def Transition.intended : Transition C → Option LoadedOperation
  | .insertRequested a =>
      some (.requested ⟨⟨a.authorization.authorization.approvedTarget, none, a.request⟩⟩)
  | .markAuthorized _ a => some (.authorized
      ⟨⟨a.authorization.authorization.approvedTarget, none, a.request⟩, authorizationFacts a⟩)
  | .markNotAttempted _ operation rejection => some (.notAttempted ⟨operation, rejection⟩)
  | .markStaleApproval _ operation observed =>
      some (.notAttempted ⟨operation.withPreflight observed, .staleApproval⟩)
  | .markApplyStarted _ operation target =>
      some (.applyStarted ⟨operation.withPreflight target, ⟨target, none⟩⟩)
  | .recordApplyOutcome _ operation outcome => some (.applyStarted ⟨operation.authorized,
      ⟨operation.attempt.target, outcome.resourceVersion.map fun resourceVersion =>
        ⟨outcome.accepted, outcome.requestedGeneration, resourceVersion⟩⟩⟩)
  | .freezeObservation _ operation observation => some (.receiverObserved
      ⟨⟨operation.authorized, ⟨operation.attempt.target, operation.attempt.response.map fun r =>
        { r with requestedGeneration := (statementOf operation observation).requestedGeneration }⟩⟩,
        statementOf operation observation⟩)
  | .commitReceipt _ operation receipt => some (.finalized ⟨operation, receipt⟩)
  | _ => none

section
variable {x : Transition C} {a : AuthorizedRequest C} {p p' : Phase}

theorem intended_of_advances (h : Advances x a p p') : x.intended = some (p'.loaded a) := by
  cases h with
  | recordApplyOutcome _ target outcome resourceVersion hversion =>
    simp only [Transition.intended, hversion]
    rfl
  | _ => rfl

end

/-! ## The last write -/

/-- The write that a row is the result of: nothing changed the row after it. -/
structure LastWrite (moments : List (Event C)) (t : Table) (id : Text) (r : Record t)
    (m : Event C) (x : Transition C) : Prop where
  commits : CommitsAt m x
  splits : ∃ later earlier, moments = later ++ m :: earlier ∧
    ∀ m' ∈ later, stored m'.before.db t id = some r ∧ stored m'.after.db t id = some r
  moves : ∃ before, Commits m.before.db m.after.db id before r ∧ Moves x t before r

/-- A moment that leaves the row alone. -/
theorem LastWrite.cons {moments : List (Event C)} {t : Table} {id : Text} {r : Record t}
    {m n : Event C} {x : Transition C} (h : LastWrite moments t id r m x)
    (hbefore : stored n.before.db t id = some r) (hafter : stored n.after.db t id = some r) :
    LastWrite (n :: moments) t id r m x := by
  obtain ⟨later, earlier, hsplit, hlater⟩ := h.splits
  refine ⟨h.commits, ⟨n :: later, earlier, by rw [hsplit, List.cons_append], ?_⟩, h.moves⟩
  exact List.forall_mem_cons.mpr ⟨⟨hbefore, hafter⟩, hlater⟩

/-- **Every row has a last write.** -/
theorem exists_last_write {moments : List (Event C)} {w : World}
    (h : Conforms (environment C) allowed moments w) {t : Table} {id : Text} {r : Record t}
    (hr : stored w.db t id = some r) : ∃ m x, LastWrite moments t id r m x := by
  induction h with
  | initial =>
    rw [environment, stored_empty] at hr
    cases hr
  | start s entry _ _ ih =>
    obtain ⟨m, x, hlast⟩ := ih hr
    exact ⟨m, x, hlast.cons hr hr⟩
  | stop s _ _ hleaves ih =>
    obtain rfl := hleaves
    obtain ⟨m, x, hlast⟩ := ih hr
    exact ⟨m, x, hlast.cons hr hr⟩
  | @act moments w s entry c answer w' hconforms hactive hallowed hreacts ih =>
    have hkept : stored w.db t id = some r →
        ∃ m x, LastWrite (⟨s, .act ⟨c, answer⟩, w, w'⟩ :: moments) t id r m x := by
      intro hbefore
      obtain ⟨m, x, hlast⟩ := ih hbefore
      exact ⟨m, x, hlast.cons hbefore hr⟩
    rcases reacts_cases hreacts with rfl | ⟨x, rfl, hcommit, -⟩ | ⟨-, -, rfl⟩
    · exact hkept hr
    · obtain ⟨t', id', before, after, hcommits, hmoves⟩ :=
        (sound_of_conforms hconforms).moves hactive hallowed.1 hallowed.2 hcommit
      by_cases htouched : t' = t ∧ id' = id
      · obtain ⟨rfl, rfl⟩ := htouched
        obtain rfl := Option.some.inj (hcommits.after.symm.trans hr)
        exact ⟨_, x, ⟨⟨answer, rfl⟩, hcommit⟩, ⟨[], moments, rfl, fun _ hm => absurd hm
          List.not_mem_nil⟩, before, hcommits, hmoves⟩
      · refine hkept ?_
        rw [← hr]
        exact (stored_of_commits hcommits fun ht hid => htouched ⟨ht.symm, hid.symm⟩).symm
    · exact hkept hr

/-! ## Reading back -/

/-- Preflight rejects for the reasons of the production adapter only. -/
def ProductionPreflight (moments : List (Event C)) : Prop :=
  ∀ m ∈ moments, ∀ request response rejection,
    m.deed = .act (identified request response) → response = .error (.permanent rejection) →
      rejection ∈ productionRejections

/-- The rejection that a writer recorded was an answer of preflight. -/
theorem Execution.readable_of_advances (e : Execution C) (hproduction : ProductionPreflight e.moments)
    {m : Event C} {x : Transition C} {a : AuthorizedRequest C} {p p' : Phase} (hm : m ∈ e.moments)
    (hcommits : CommitsAt m x) (hadvances : Advances x a p p') : p'.Readable := by
  cases hadvances with
  | markNotAttempted _ rejection =>
    obtain ⟨⟨answer, hdeed⟩, -⟩ := hcommits
    obtain ⟨earlier, later, hsplit, hconforms⟩ := e.exists_conforms hm
    obtain ⟨entry, -, hallowed, -⟩ := hconforms.exchange hdeed
    obtain ⟨m₀, hm₀, -, hdeed₀⟩ := mem_history.mp hallowed.2.2
    refine hproduction m₀ ?_ _ _ _ hdeed₀ rfl
    rw [hsplit]
    exact List.mem_append_right later (List.mem_cons_of_mem m hm₀)
  | _ => trivial

/-- **Every reachable Kubernetes row reads back** as what its last write meant: the row is
within the bounds of the read, and it decodes to the variant of the last transition with
exactly the facts that this transition was given. -/
theorem reachable_row_decodes (e : Execution C) (hproduction : ProductionPreflight e.moments)
    (id : Text) (r : Record .kubernetes) (hr : stored e.world.db .kubernetes id = some r) :
    r.withinBounds = true ∧ readTable e.world.db id .kubernetes = .ok (some r) ∧
      ∃ m x loaded, LastWrite e.moments .kubernetes id r m x ∧ x.intended = some loaded ∧
        decode C r = .ok loaded := by
  obtain ⟨m, x, hlast⟩ := exists_last_write e.conforms hr
  obtain ⟨a, p, -, rfl, hvalid⟩ := e.sound.lawful.phase hr
  refine ⟨withinBounds_of_small (small_phaseRecord hvalid), readTable_phase hvalid hr, ?_⟩
  obtain ⟨before, hcommits, hmoves⟩ := hlast.moves
  have hm : m ∈ e.moments := by
    obtain ⟨later, earlier, hsplit, -⟩ := hlast.splits
    rw [hsplit]
    exact List.mem_append_right later List.mem_cons_self
  generalize hrow : phaseRecord a p = row at hmoves hlast
  cases hmoves with
  | insertRequested a' =>
    exact ⟨m, _, _, hlast, rfl, decode_phase (p := .requested) trivial trivial⟩
  | advance hadvances hvalid' =>
    refine ⟨m, x, _, hlast, intended_of_advances hadvances, decode_phase hvalid' ?_⟩
    exact e.readable_of_advances hproduction hm hlast.commits hadvances

/-- The known preflight rejects nothing. -/
theorem known_productionPreflight : ProductionPreflight Known.attempted.moments := by
  intro m hm request response rejection hdeed hresponse
  unfold Known.attempted at hm
  rcases Execution.empty.answer_of_mem_after hm hdeed with hnil | hanswer
  · exact absurd hnil List.not_mem_nil
  · cases hanswer.symm.trans hresponse

/-- The known operation reads back as attempted. -/
theorem known_row_decodes :
    ∃ r, stored Known.attempted.world.db .kubernetes Known.request.operationId = some r ∧
      r.withinBounds = true ∧
      readTable Known.attempted.world.db Known.request.operationId .kubernetes = .ok (some r) ∧
      ∃ m x loaded, LastWrite Known.attempted.moments .kubernetes Known.request.operationId r m x ∧
        x.intended = some loaded ∧ decode Known.crypto r = .ok loaded := by
  obtain ⟨r, started, hr, -⟩ := Known.attempted.exists_started Known.attempted_state
  exact ⟨r, hr, reachable_row_decodes Known.attempted known_productionPreflight _ r hr⟩

end Gateway
end Kapsel
