import Kapsel.Gateway.GitCompletion
import Kapsel.Gateway.Progress

/-!
# A pass completes healthy work

With the lease in hand, storage that commits, a receiver whose answers pass their validation and
signing material, one pass takes an operation from wherever a run left it to its end.

`Cooperates` and `CooperatesGit` are what is asked of the receiver.  The steps of the pass follow
one by one, each from the row of one phase to the row of a later one: submission, the attempt with
its preflight, the observation, the receipt.  `loopSettles_of_valid` chains the turns of the
Kubernetes loop and `exists_yields_advance` the sections of the Git pass.

`pass_ends_and_completes` joins this to `Progress.lean`, where the loop is shown to end whatever
it is answered.
-/

namespace Kapsel

open Grammar Fallible Authority Receipt Interaction Interaction.Program Relation

namespace Gateway

open Journal

variable {C : Crypto}

/-! ## Receivers that answer -/

/-- The preflight, the response and the observation of the request pass their validation. -/
structure Cooperates (outside : Outside) (request : ValidatedRequest) : Prop where
  identify : (∃ rejection ∈ productionRejections,
      outside.identify request.toAdapterRequest = .error (.permanent rejection)) ∨
    ∃ target validated, outside.identify request.toAdapterRequest = .ok target ∧
      ValidatedTargetIdentity.tryFrom target = .ok validated
  apply : ∀ target : ValidatedTargetIdentity, ∃ outcome resourceVersion,
    outside.apply ⟨request, target⟩ = .ok outcome ∧ outcome.validate = .ok () ∧
      outcome.deploymentUid = some target.deploymentUid ∧
      outcome.resourceVersion = some resourceVersion
  observe : ∀ outcome, ∃ observation,
    outside.observe request.toAdapterRequest outcome = .ok observation ∧
      observation.validate = .ok ()

/-- The repository of the authorization opens, its preparation succeeds or is a rejection, and
what it shows is a ref. -/
structure CooperatesGit (outside : Outside) (authorization : GitRefAuthorization)
    (receiver : GitReceiver) : Prop where
  repositoryId : receiver.repositoryId = authorization.repositoryId
  opens : outside.openReceiver receiver = .ok ()
  prepare : outside.prepare receiver authorization = .ok () ∨
    outside.prepare receiver authorization = .error .staleRef ∨
    outside.prepare receiver authorization = .error .invalidObjects
  observe : SeenValid (outside.observeRef receiver)

/-! ## Reads and writes of a Kubernetes row -/

section
variable {a : AuthorizedRequest C} {p p' : Phase} {x : Transition C} {outside : Outside} {s : ℕ}
  {w : World}

/-- The row of the approval is that of the phase. -/
def At (a : AuthorizedRequest C) (p : Phase) (w : World) : Prop :=
  stored w.db .kubernetes a.request.operationId = some (phaseRecord a p)

theorem exists_yields_edge (outside : Outside) (s : ℕ) (h : Advances x a p p') (hvalid : p.Valid a) (hvalid' : p'.Valid a)
    (hr : At a p w) :
    ∃ w', Yields (healthy outside s) w (Storage.replace x) () w' ∧ At a p' w' := by
  obtain ⟨db', hcommit, hafter⟩ := exists_commit_of_advances h hvalid hvalid' hr
  exact ⟨⟨db', w.holder⟩, yields_replace hcommit, hafter⟩

theorem yields_operation (hvalid : p.Valid a) (hreadable : p.Readable) (hr : At a p w) :
    Yields (healthy outside s) w (Storage.operation (C := C) a.request.operationId)
      (some (p.loaded a)) w :=
  yields_snapshot.bind (yields_check (operation_of_stored hvalid hreadable hr) w)

theorem yields_existingSubmission (hvalid : p.Valid a) (hreadable : p.Readable) (hr : At a p w) :
    Yields (healthy outside s) w (Storage.existingSubmission a) (some p.state) w := by
  have hstate : ((some (p.loaded a)).map (·.state)) = some p.state :=
    congrArg some (p.state_loaded a)
  rw [← hstate]
  exact (yields_authorizedOperation hvalid hreadable hr).bind (yields_pure _ w)

/-! ## Submission -/

/-- **Submission authorizes** a requested row. -/
theorem exists_yields_submitAuthorized (outside : Outside) (s : ℕ)
    {authorities : List AuthorizationTrust} {request : SetDeploymentImageRequest} {signedGrant : Bytes}
    (hbind : bindAuthorization C authorities request signedGrant = .ok a)
    (hr : At a .requested w) :
    ∃ w', Yields (healthy outside s) w (submitAuthorized (C := C) authorities request signedGrant)
        .created w' ∧ At a .authorized w' := by
  obtain ⟨verified, hverified, hbound⟩ := bind_eq_ok.mp hbind
  obtain ⟨validated, hvalidated, hbound⟩ := bind_eq_ok.mp hbound
  obtain ⟨w', hedge, hafter⟩ := exists_yields_edge outside s (Advances.markAuthorized a) trivial
    trivial hr
  refine ⟨w', ?_, hafter⟩
  refine yields_checked hvalidated (yields_checked hverified (yields_checked hbound ?_))
  have hread : Yields (healthy outside s) w (Storage.existingSubmission a) (some .requested) w :=
    yields_existingSubmission (p := .requested) trivial trivial hr
  have hmark : Yields (healthy outside s) w (markRequestedAuthorized a) () w' := by
    refine (yields_operation (p := .requested) trivial trivial hr).bind ?_
    refine yields_checked (require_of_true (decide_eq_true rfl)) ?_
    refine hread.bind (yields_checked (require_of_true (decide_eq_true rfl)) ?_)
    exact (yields_boundRecord (p := .requested) trivial trivial hr).bind hedge
  exact hread.bind (hmark.bind (yields_pure _ w'))

/-! ## The attempt -/

/-- The target that preflight found, or the row that says why there is none. -/
theorem exists_yields_preflightTarget (hcooperates : Cooperates outside a.request)
    (hr : At a .authorized w) :
    (∃ target, Yields (healthy outside s) w
        (preflightTarget a (Journal.authorizedOperation a none)) (some target) w) ∨
      ∃ rejection ∈ productionRejections, ∃ w', Yields (healthy outside s) w
          (preflightTarget a (Journal.authorizedOperation a none)) none w' ∧
        At a (.rejected rejection) w' := by
  have hread : Yields (healthy outside s) w (requireAuthorized a) (Phase.authorized.loaded a) w :=
    yields_requireAuthorized (p := .authorized) trivial trivial hr
  rcases hcooperates.identify with ⟨rejection, hmem, hidentify⟩ | ⟨target, validated, hidentify, hvalid⟩
  · obtain ⟨w', hedge, hafter⟩ := exists_yields_edge outside s
      (Advances.markNotAttempted a rejection) trivial trivial hr
    have hmark : Yields (healthy outside s) w (Storage.markNotAttempted (C := C)
        (Journal.authorizedOperation a none) rejection) () w' :=
      (yields_boundRecord (p := .authorized) trivial trivial hr).bind hedge
    refine .inr ⟨rejection, hmem, w', ?_, hafter⟩
    refine yields_asked (congrArg (·, w) hidentify) (hread.bind ?_)
    exact hmark.bind (yields_pure none w')
  · refine .inl ⟨validated, yields_asked (congrArg (·, w) hidentify) (hread.bind ?_)⟩
    exact yields_checked (mapError_eq_ok.mpr hvalid) (yields_pure _ w)

/-- The attempt on a target that the approval allows is committed, and permitted. -/
theorem exists_yields_startAttempt (outside : Outside) (s : ℕ) {target : ValidatedTargetIdentity}
    (hvalid : AttemptValid a target none) (hr : At a .authorized w) :
    ∃ w', Yields (healthy outside s) w
        (Storage.startAttempt (C := C) (Journal.authorizedOperation a none) target)
        (some ⟨a.request, target⟩) w' ∧ At a (.attempted target none) w' := by
  obtain ⟨w', hedge, hafter⟩ := exists_yields_edge outside s (Advances.markApplyStarted a target)
    trivial hvalid hr
  have hmark : Yields (healthy outside s) w (Storage.markApplyStarted (C := C)
      (Journal.authorizedOperation a none) target) () w' :=
    (yields_boundRecord (p := .authorized) trivial trivial hr).bind hedge
  exact ⟨w', hmark.bind (yields_ask (yields_pure _ w')), hafter⟩

/-- The attempt begins, or the approval is stale. -/
theorem exists_yields_beginAttempt (outside : Outside) (s : ℕ) (seen : ValidatedTargetIdentity)
    (hr : At a .authorized w) :
    (∃ target w', Yields (healthy outside s) w
        (Storage.beginAttempt (C := C) (Journal.authorizedOperation a none) seen)
        (some ⟨a.request, target⟩) w' ∧ AttemptValid a target none ∧
        At a (.attempted target none) w') ∨
      ∃ w', Yields (healthy outside s) w
          (Storage.beginAttempt (C := C) (Journal.authorizedOperation a none) seen) none w' ∧
        (Phase.stale seen).Valid a ∧ At a (.stale seen) w' := by
  have hbound : Yields (healthy outside s) w (Storage.boundRecord (C := C) a.request.operationId
      (.authorized (Journal.authorizedOperation a none))) (phaseRecord a .authorized) w :=
    yields_boundRecord (p := .authorized) trivial trivial hr
  have hfresh : ∀ target : ValidatedTargetIdentity,
      (∀ approved ∈ AuthorizedRequest.approvedTarget a, target.toApproved = approved) →
      AttemptValid a target none := fun target happroved =>
    ⟨happroved, fun _ hnone => nomatch hnone⟩
  have happroved : (Journal.authorizedOperation a none).approvedTarget =
      AuthorizedRequest.approvedTarget a := rfl
  cases htarget : AuthorizedRequest.approvedTarget a with
  | none =>
    have hvalid := hfresh seen (by simp [htarget])
    obtain ⟨w', hstart, hafter⟩ := exists_yields_startAttempt outside s hvalid hr
    refine .inl ⟨seen, w', hbound.bind ?_, hvalid, hafter⟩
    rw [happroved, htarget]
    exact hstart
  | some approved =>
    by_cases hstale : seen.deploymentUid ≠ approved.uid ∨
        seen.resourceVersion ≠ approved.resourceVersion
    · have hne : seen.toApproved ≠ approved := by
        rintro rfl
        rcases hstale with h | h <;> exact h rfl
      obtain ⟨w', hedge, hafter⟩ := exists_yields_edge outside s
        (Advances.markStaleApproval a seen) trivial ⟨approved, htarget, hne⟩ hr
      have hmark : Yields (healthy outside s) w (Storage.markStaleApproval (C := C)
          (Journal.authorizedOperation a none) seen) () w' := hbound.bind hedge
      refine .inr ⟨w', hbound.bind ?_, ⟨approved, htarget, hne⟩, hafter⟩
      rw [happroved, htarget]
      show Yields (healthy outside s) w (if _ then _ else _) none w'
      rw [if_pos hstale]
      exact hmark.bind (yields_pure none w')
    · obtain ⟨huid, hversion⟩ := not_or.mp hstale
      have hsame : seen.toApproved = approved := by
        obtain ⟨uid, resourceVersion⟩ := approved
        obtain rfl := not_not.mp huid
        obtain rfl := not_not.mp hversion
        rfl
      have hvalid := hfresh seen (by simp [htarget, hsame])
      obtain ⟨w', hstart, hafter⟩ := exists_yields_startAttempt outside s hvalid hr
      refine .inl ⟨seen, w', hbound.bind ?_, hvalid, hafter⟩
      rw [happroved, htarget]
      show Yields (healthy outside s) w (if _ then _ else _) _ w'
      rw [if_neg hstale]
      refine yields_checked (a := seen) ?_ hstart
      subst hsame
      exact mapError_eq_ok.mpr (ValidatedTargetIdentity.tryFrom_eq_ok.mpr rfl)

theorem checkOutcome_attempted {target : ValidatedTargetIdentity}
    {response : Option ApplyResponseFacts} {outcome : ApplyOutcome} {resourceVersion : Text}
    (huid : outcome.deploymentUid = some target.deploymentUid)
    (hversion : outcome.resourceVersion = some resourceVersion) :
    checkOutcome (phaseRecord a (.attempted target response)) outcome = .ok () := by
  have hread : (phaseRecord a (.attempted target response)).getOptionalText .targetUid =
      .ok (some target.deploymentUid) :=
    Record.getOptionalText_of_eq (v := some target.deploymentUid) rfl
  refine bind_eq_ok.mpr ⟨_, hread, require_of_true ?_⟩
  rw [huid, hversion, decide_eq_true rfl]
  rfl

/-- The dispatched attempt is answered, and the answer recorded. -/
theorem exists_yields_dispatch {target : ValidatedTargetIdentity}
    (hcooperates : Cooperates outside a.request) (hvalid : AttemptValid a target none)
    (hr : At a (.attempted target none) w) :
    ∃ response w', Yields (healthy outside s) w (dispatch a ⟨a.request, target⟩)
        (startedOperation a target (some response)) w' ∧
      AttemptValid a target (some response) ∧ At a (.attempted target (some response)) w' := by
  obtain ⟨outcome, resourceVersion, happly, houtcome, huid, hversion⟩ := hcooperates.apply target
  have hvalid' := attemptValid_of_outcome hvalid houtcome hversion huid
  obtain ⟨w', hedge, hafter⟩ := exists_yields_edge outside s
    (Advances.recordApplyOutcome a target outcome resourceVersion hversion) hvalid hvalid' hr
  have hstarted : ∀ {w : World} {response : Option ApplyResponseFacts},
      AttemptValid a target response → At a (.attempted target response) w →
      Yields (healthy outside s) w (requireStarted a) (startedOperation a target response) w := by
    intro w response hvalid hr
    exact (yields_authorizedOperation (p := .attempted target response) hvalid trivial hr).bind
      (yields_pure _ w)
  have hrecord : Yields (healthy outside s) w
      (Storage.recordApplyOutcome (C := C) (startedOperation a target none) outcome) () w' := by
    refine yields_checked houtcome ?_
    refine (yields_boundRecord (p := .attempted target none) hvalid trivial hr).bind ?_
    exact yields_checked (checkOutcome_attempted huid hversion) hedge
  refine ⟨_, w', ?_, hvalid', hafter⟩
  refine (hstarted hvalid hr).bind (yields_asked (congrArg (·, w) happly) ?_)
  refine yields_checked (mapError_eq_ok.mpr rfl) ?_
  refine (yields_requireAuthorized (p := .attempted target none) hvalid trivial hr).bind ?_
  exact hrecord.bind (hstarted hvalid' hafter)

/-! ## The turns of the loop -/

/-- The phase is the end of the operation, and is read back. -/
structure Settled (a : AuthorizedRequest C) (p : Phase) : Prop where
  valid : p.Valid a
  readable : p.Readable
  ended : p.state = .notAttempted ∨ p.state = .finalized

/-- The observation of an attempted row passes its validation, and is frozen. -/
theorem exists_yields_frozen {target : ValidatedTargetIdentity}
    {response : Option ApplyResponseFacts} (hcooperates : Cooperates outside a.request)
    (hvalid : AttemptValid a target response) (hr : At a (.attempted target response) w) :
    ∃ observation w', Yields (healthy outside s) w
        (observeAndFreeze a (startedOperation a target response)) .receiverObserved w' ∧
      (Phase.observed target response observation).Valid a ∧
      At a (.observed target response observation) w' := by
  obtain ⟨observation, hobserve, hobservation⟩ :=
    hcooperates.observe (startedOperation a target response).classificationOutcome
  have hbounded := ReceiverObservation.validate_eq_ok.mp hobservation
  obtain ⟨w', hfreeze, hafter⟩ :=
    exists_yields_observeAndFreeze (s := s) hvalid hobserve hbounded hr
  exact ⟨observation, w', hfreeze, ⟨hvalid, hbounded⟩, hafter⟩

/-- **A pass over an authorized row** ends it without an attempt or freezes its observation. -/
theorem exists_yields_run_authorized (hcooperates : Cooperates outside a.request)
    (hr : At a .authorized w) :
    ∃ state p w', Yields (healthy outside s) w (runLockedOperationOnce a) (some state) w' ∧
      At a p w' ∧
      (Settled a p ∨ ∃ target response observation, p = .observed target response observation ∧
        p.Valid a) := by
  have hread : Yields (healthy outside s) w (Storage.authorizedOperation a)
      (some (.authorized (Journal.authorizedOperation a none))) w :=
    yields_authorizedOperation (p := .authorized) trivial trivial hr
  have hended : ∀ {p : Phase} {w' : World}, Yields (healthy outside s) w
      (freshAttempt a (Journal.authorizedOperation a none)) none w' → At a p w' → Settled a p →
      ∃ state p w', Yields (healthy outside s) w (runLockedOperationOnce a) (some state) w' ∧
        At a p w' ∧
        (Settled a p ∨ ∃ target response observation, p = .observed target response observation ∧
          p.Valid a) := by
    intro p w' hfresh hafter hsettled
    exact ⟨.notAttempted, p, w', hread.bind (hfresh.bind (yields_pure _ w')), hafter, .inl hsettled⟩
  rcases exists_yields_preflightTarget (s := s) hcooperates hr with
    ⟨seen, hpreflight⟩ | ⟨rejection, hmem, w', hpreflight, hafter⟩
  · rcases exists_yields_beginAttempt outside s seen hr with
      ⟨target, w₁, hbegin, hvalid, hattempted⟩ | ⟨w₁, hbegin, hvalid, hafter⟩
    · obtain ⟨response, w₂, hdispatch, hvalid', hanswered⟩ :=
        exists_yields_dispatch (s := s) hcooperates hvalid hattempted
      obtain ⟨observation, w₃, hfreeze, hobserved, hafter⟩ :=
        exists_yields_frozen (s := s) hcooperates hvalid' hanswered
      have hfresh : Yields (healthy outside s) w
          (freshAttempt a (Journal.authorizedOperation a none))
          (some (startedOperation a target (some response))) w₂ :=
        hpreflight.bind (hbegin.bind (hdispatch.bind (yields_pure _ w₂)))
      exact ⟨.receiverObserved, _, w₃,
        hread.bind (hfresh.bind (hfreeze.bind (yields_pure _ w₃))), hafter,
        .inr ⟨target, some response, observation, rfl, hobserved⟩⟩
    · exact hended (hpreflight.bind (hbegin.bind (yields_pure none w₁))) hafter
        ⟨hvalid, trivial, .inl rfl⟩
  · exact hended (hpreflight.bind (yields_pure none w')) hafter ⟨trivial, hmem, .inl rfl⟩

section
variable {authorities : List AuthorizationTrust} {request : SetDeploymentImageRequest}
  {signedGrant : Bytes} {settings : ReceiptSettings} {w' : World} {n : ℕ}

theorem yields_turn_requested
    (hbind : bindAuthorization C authorities request signedGrant = .ok a)
    (hr : At a .requested w) :
    ∃ w', Yields (healthy outside s) w
        (reconcileTurn authorities request signedGrant true (some settings) a) (.inl true) w' ∧
      At a .authorized w' := by
  obtain ⟨w', hsubmit, hafter⟩ :=
    exists_yields_submitAuthorized outside s hbind hr
  refine ⟨w', ?_, hafter⟩
  refine (yields_mapErr (yields_authorizedOperation (p := .requested) trivial trivial hr)).bind ?_
  exact (yields_mapErr hsubmit).bind (yields_pure _ w')

theorem yields_turn_running {p : Phase} {state : OperationState}
    (hp : p.state = .authorized ∨ p.state = .applyStarted) (hvalid : p.Valid a) (hr : At a p w)
    (hrun : Yields (healthy outside s) w (runLockedOperationOnce a) (some state) w') :
    Yields (healthy outside s) w
      (reconcileTurn authorities request signedGrant true (some settings) a) (.inl true) w' := by
  cases p with
  | authorized =>
    refine (yields_mapErr (yields_authorizedOperation (p := .authorized) trivial trivial hr)).bind ?_
    exact (yields_mapErr hrun).bind (yields_pure _ w')
  | attempted target response =>
    refine (yields_mapErr (yields_authorizedOperation (p := .attempted target response) hvalid
      trivial hr)).bind ?_
    exact (yields_mapErr hrun).bind (yields_pure _ w')
  | _ => simp [Phase.state] at hp

theorem yields_turn_observed {target : ValidatedTargetIdentity}
    {response : Option ApplyResponseFacts} {observation : ReceiverObservation}
    (hkey : identityIsValid settings.keyId = true)
    (hvalid : (Phase.observed target response observation).Valid a)
    (hr : At a (.observed target response observation) w) :
    ∃ p w', Yields (healthy outside s) w
        (reconcileTurn authorities request signedGrant true (some settings) a) (.inl true) w' ∧
      At a p w' ∧ Settled a p := by
  obtain ⟨statementBytes, receipt, -, -, -, -, hbuild, -, -, hreceipt⟩ :=
    exists_buildReceipt hvalid.1 hvalid.2 settings hkey
  obtain ⟨w', hcommit, hafter⟩ :=
    exists_yields_commitReceipt outside s hvalid.1 hvalid.2 hreceipt hr
  refine ⟨.finalized target response observation receipt, w', ?_, hafter,
    ⟨hvalid.1, hvalid.2, hreceipt⟩, trivial, .inr rfl⟩
  have hfinalize : Yields (healthy outside s) w
      (finalizeReceipt (C := C) (observedOperation a target response observation) settings)
      .finalized w' := yields_checked hbuild (hcommit.bind (yields_pure _ w'))
  refine (yields_mapErr (yields_authorizedOperation (p := .observed target response observation)
    hvalid trivial hr)).bind ?_
  exact (yields_mapErr hfinalize).bind (yields_pure _ w')

/-- The loop ends at a settled row. -/
theorem yields_loop_settled {p : Phase} (hsettled : Settled a p) (hr : At a p w) :
    Yields (healthy outside s) w
      (reconcileLoop authorities request signedGrant true (some settings) a (n + 1))
      (some (p.loaded a)) w := by
  have hturn : Yields (healthy outside s) w
      (reconcileTurn authorities request signedGrant true (some settings) a)
      (.inr (some (p.loaded a))) w := by
    refine (yields_mapErr (yields_authorizedOperation hsettled.valid hsettled.readable hr)).bind ?_
    have hended := hsettled.ended
    cases p with
    | rejected | stale | finalized => exact yields_pure _ w
    | _ => simp [Phase.state] at hended
  exact hturn.bind (yields_pure _ w)

/-- The loop settles the row within so many turns. -/
def LoopSettles (outside : Outside) (s : ℕ) (authorities : List AuthorizationTrust)
    (request : SetDeploymentImageRequest) (signedGrant : Bytes) (settings : ReceiptSettings)
    (a : AuthorizedRequest C) (n : ℕ) (w : World) : Prop :=
  ∃ p w', Yields (healthy outside s) w
      (reconcileLoop authorities request signedGrant true (some settings) a n)
      (some (p.loaded a)) w' ∧ At a p w' ∧ Settled a p

theorem LoopSettles.turn
    (hloop : LoopSettles outside s authorities request signedGrant settings a n w')
    (hturn : Yields (healthy outside s) w
      (reconcileTurn authorities request signedGrant true (some settings) a) (.inl true) w') :
    LoopSettles outside s authorities request signedGrant settings a (n + 1) w := by
  obtain ⟨p, w'', hyields, hafter, hsettled⟩ := hloop
  exact ⟨p, w'', hturn.bind hyields, hafter, hsettled⟩

theorem loopSettles_settled {p : Phase} (hsettled : Settled a p) (hr : At a p w) :
    LoopSettles outside s authorities request signedGrant settings a (n + 1) w :=
  ⟨p, w, yields_loop_settled hsettled hr, hr, hsettled⟩

theorem loopSettles_observed {target : ValidatedTargetIdentity}
    {response : Option ApplyResponseFacts} {observation : ReceiverObservation}
    (hkey : identityIsValid settings.keyId = true)
    (hvalid : (Phase.observed target response observation).Valid a)
    (hr : At a (.observed target response observation) w) :
    LoopSettles outside s authorities request signedGrant settings a (n + 2) w := by
  obtain ⟨p, w', hturn, hafter, hsettled⟩ := yields_turn_observed hkey hvalid hr
  exact (loopSettles_settled hsettled hafter).turn hturn

theorem loopSettles_attempted {target : ValidatedTargetIdentity}
    {response : Option ApplyResponseFacts} (hcooperates : Cooperates outside a.request)
    (hkey : identityIsValid settings.keyId = true) (hvalid : AttemptValid a target response)
    (hr : At a (.attempted target response) w) :
    LoopSettles outside s authorities request signedGrant settings a (n + 3) w := by
  obtain ⟨observation, w', hfreeze, hobserved, hafter⟩ :=
    exists_yields_frozen (s := s) hcooperates hvalid hr
  have hrun : Yields (healthy outside s) w (runLockedOperationOnce a) (some .receiverObserved) w' :=
    (yields_authorizedOperation (p := .attempted target response) hvalid trivial hr).bind
      (hfreeze.bind (yields_pure _ w'))
  exact (loopSettles_observed hkey hobserved hafter).turn
    (yields_turn_running (p := .attempted target response) (.inr rfl) hvalid hr hrun)

theorem loopSettles_authorized (hcooperates : Cooperates outside a.request)
    (hkey : identityIsValid settings.keyId = true) (hr : At a .authorized w) :
    LoopSettles outside s authorities request signedGrant settings a (n + 3) w := by
  obtain ⟨state, p, w', hrun, hafter, hended⟩ :=
    exists_yields_run_authorized (s := s) hcooperates hr
  have hturn : Yields (healthy outside s) w
      (reconcileTurn authorities request signedGrant true (some settings) a) (.inl true) w' :=
    yields_turn_running (p := .authorized) (.inl rfl) trivial hr hrun
  rcases hended with hsettled | ⟨target, response, observation, rfl, hvalid⟩
  · exact (loopSettles_settled hsettled hafter).turn hturn
  · exact (loopSettles_observed hkey hvalid hafter).turn hturn

/-- **The loop settles every row that it finds**, within five turns. -/
theorem loopSettles_of_valid {p : Phase} (hcooperates : Cooperates outside a.request)
    (hkey : identityIsValid settings.keyId = true)
    (hbind : bindAuthorization C authorities request signedGrant = .ok a) (hvalid : p.Valid a)
    (hreadable : p.Readable) (hr : At a p w) :
    LoopSettles outside s authorities request signedGrant settings a (n + 5) w := by
  cases p with
  | requested =>
    obtain ⟨w', hturn, hafter⟩ := yields_turn_requested hbind hr
    exact (loopSettles_authorized hcooperates hkey hafter).turn hturn
  | authorized => exact loopSettles_authorized hcooperates hkey hr
  | attempted target response => exact loopSettles_attempted hcooperates hkey hvalid hr
  | observed target response observation => exact loopSettles_observed hkey hvalid hr
  | rejected rejection => exact loopSettles_settled ⟨hvalid, hreadable, .inl rfl⟩ hr
  | stale seen => exact loopSettles_settled ⟨hvalid, hreadable, .inl rfl⟩ hr
  | finalized target response observation receipt =>
    exact loopSettles_settled ⟨hvalid, hreadable, .inr rfl⟩ hr

end

/-! ## The pass -/

/-- An operation that has not ended is admitted with the lease, and acknowledged. -/
theorem yields_admitServiceOperation {state : OperationState}
    {admission : Action C GatewayError OperationState} (hstate : state ≠ .finalized)
    (hstate' : state ≠ .notAttempted) (hfree : w.holder = none)
    (hadmission : Yields (healthy outside s) ⟨w.db, some s⟩ admission state ⟨w.db, some s⟩) :
    Yields (healthy outside s) w (admitServiceOperation (some state) admission) (some state)
      ⟨w.db, some s⟩ := by
  have hlease : healthy (C := C) outside s w .tryLockWorker = (Except.ok true, ⟨w.db, some s⟩) :=
    if_pos hfree
  have hopen : ¬ (some state = some OperationState.finalized ∨
      some state = some OperationState.notAttempted) := by
    rintro (h | h)
    · exact hstate (Option.some.inj h)
    · exact hstate' (Option.some.inj h)
  unfold admitServiceOperation
  rw [if_neg hopen]
  refine yields_asked hlease ((yields_lift hadmission).bind ?_)
  exact yields_ask (yields_pure _ _)

/-- **A pass settles every Kubernetes row that has not ended.** -/
theorem exists_yields_admitAndReconcile {authorities : List AuthorizationTrust}
    {request : SetDeploymentImageRequest} {signedGrant : Bytes} {settings : ReceiptSettings}
    {n : ℕ} {p : Phase} (hcooperates : Cooperates outside a.request)
    (hkey : identityIsValid settings.keyId = true)
    (hbind : bindAuthorization C authorities request signedGrant = .ok a) (hvalid : p.Valid a)
    (hopen : p.state ≠ .finalized ∧ p.state ≠ .notAttempted) (hfree : w.holder = none)
    (hr : At a p w) :
    ∃ p' w', Yields (healthy outside s) w
        (admitAndReconcile (C := C) authorities request signedGrant true (some settings) (n + 5))
        () w' ∧ At a p' w' ∧ Settled a p' := by
  have hreadable : p.Readable := by
    cases p with
    | rejected rejection => exact absurd rfl hopen.2
    | _ => trivial
  have hr' : At a p ⟨w.db, some s⟩ := hr
  obtain ⟨p', w', hloop, hafter, hsettled⟩ :=
    loopSettles_of_valid (s := s) (n := n) hcooperates hkey hbind hvalid hreadable hr'
  have hadmission : Yields (healthy outside s) ⟨w.db, some s⟩ (admitRequested a) p.state
      ⟨w.db, some s⟩ := (yields_existingSubmission hvalid hreadable hr').bind (yields_pure _ _)
  have hadmits := yields_admitServiceOperation hopen.1 hopen.2 hfree hadmission
  refine ⟨p', w', ?_, hafter, hsettled⟩
  refine yields_checked (mapError_eq_ok.mpr hbind) ?_
  refine (yields_mapErr (yields_authorizedOperation hvalid hreadable hr)).bind ?_
  rw [← p.state_loaded a] at hadmits
  refine hadmits.bind ?_
  have hlocked : Yields (healthy outside s) ⟨w.db, some s⟩ (reconcileLockedWithAdapter (C := C)
      authorities request signedGrant true (some settings) (n + 5)) (some (p'.loaded a)) w' :=
    yields_checked (mapError_eq_ok.mpr hbind) hloop
  exact hlocked.bind (yields_pure _ w')

end

/-! ## Git rows -/

section
variable {b : GitBinding C} {p p' : GitPhase} {x : Transition C} {outside : Outside} {s : ℕ}
  {w : World}

/-- The row of the binding is that of the phase. -/
def AtGit (b : GitBinding C) (p : GitPhase) (w : World) : Prop :=
  stored w.db .git b.authorization.operationId = some (Journal.gitRecord b p)

/-- The phase is the end of the operation. -/
structure SettledGit (b : GitBinding C) (p : GitPhase) : Prop where
  valid : p.Valid b
  ended : p.state = .notAttempted ∨ p.state = .finalized

theorem exists_yields_gitEdge (outside : Outside) (s : ℕ) (h : GitAdvances x b p p')
    (hvalid : p.Valid b) (hvalid' : p'.Valid b) (hr : AtGit b p w) :
    ∃ w', Yields (healthy outside s) w (Storage.replace x) () w' ∧ AtGit b p' w' := by
  obtain ⟨db', hcommit, hafter⟩ := exists_commit_of_gitAdvances h hvalid hvalid' hr
  exact ⟨⟨db', w.holder⟩, yields_replace hcommit, hafter⟩

theorem yields_requireGitPhase (hvalid : p.Valid b) (hr : AtGit b p w) :
    Yields (healthy outside s) w (requireGitPhase b) p w :=
  (yields_gitOperation hvalid hr).bind (yields_pure _ w)

/-- A rejection of the preparation ends the operation. -/
theorem exists_yields_rejectGit (outside : Outside) (s : ℕ) (rejection : GitRejection)
    (hr : AtGit b .authorized w) :
    ∃ w', Yields (healthy outside s) w (Storage.rejectGit b rejection) () w' ∧
      AtGit b (.notAttempted rejection) w' := by
  obtain ⟨w', hedge, hafter⟩ := exists_yields_gitEdge outside s (GitAdvances.rejectGit b rejection)
    trivial trivial hr
  refine ⟨w', (yields_gitWrite (p := .authorized) trivial hr).bind ?_, hafter⟩
  exact yields_checked (require_of_true (decide_eq_true rfl)) hedge

/-- The attempt is committed, sent and acknowledged. -/
theorem exists_yields_sendGit (outside : Outside) (s : ℕ) (receiver : GitReceiver)
    (hr : AtGit b .authorized w) :
    ∃ acknowledgement w', Yields (healthy outside s) w (do
        let permission ← Storage.beginGitAttempt b ⟨receiver, b.authorization⟩
        let acknowledgement : Acknowledgement ← perform (Call.send permission)
        Storage.recordGitAcknowledgement b acknowledgement) () w' ∧
      AtGit b (.attempted (some acknowledgement)) w' := by
  obtain ⟨w₁, hattempt, hafter₁⟩ := exists_yields_gitEdge outside s (GitAdvances.beginGitAttempt b)
    trivial trivial hr
  obtain ⟨w₂, hrecord, hafter₂⟩ := exists_yields_gitEdge outside s
    (GitAdvances.recordGitAcknowledgement b (outside.send ⟨⟨receiver, b.authorization⟩⟩))
    trivial trivial hafter₁
  have hbegin : Yields (healthy outside s) w
      (Storage.beginGitAttempt b ⟨receiver, b.authorization⟩) ⟨⟨receiver, b.authorization⟩⟩ w₁ := by
    refine yields_checked (require_of_true (decide_eq_true rfl)) ?_
    refine (yields_gitWrite (p := .authorized) trivial hr).bind ?_
    refine yields_checked (require_of_true (decide_eq_true rfl)) ?_
    exact hattempt.bind (yields_ask (yields_pure _ w₁))
  refine ⟨_, w₂, hbegin.bind (yields_ask ?_), hafter₂⟩
  refine (yields_gitWrite (p := .attempted none) trivial hafter₁).bind ?_
  exact yields_checked (require_of_true (decide_eq_true rfl)) hrecord

/-- The preparation answers for the approval. -/
theorem yields_prepare {receiver : GitReceiver} {answer : Except GitError Unit}
    (hrepository : receiver.repositoryId = b.authorization.repositoryId)
    (hanswer : outside.prepare receiver b.authorization = answer) :
    Yields (healthy outside s) w (prepare (C := C) receiver b.authorization)
      (answer.map fun _ => ⟨receiver, b.authorization⟩) w := by
  refine yields_asked (congrArg (·, w) hanswer) ?_
  have happroval : ¬ ((!b.authorization.isValid ||
      decide (b.authorization.repositoryId ≠ receiver.repositoryId)) = true) := by
    rw [b.isValid, hrepository]
    simp
  rw [if_neg happroval]
  exact yields_pure _ w

/-- **An authorized Git row** is attempted, or ends without an attempt. -/
theorem exists_yields_advanceAuthorized {receiver : GitReceiver}
    (hcooperates : CooperatesGit outside b.authorization receiver) (hr : AtGit b .authorized w) :
    ∃ p w', Yields (healthy outside s) w (advanceAuthorized b (some receiver) .authorized) p w' ∧
      AtGit b p w' ∧ (SettledGit b p ∨ ∃ acknowledgement, p = .attempted acknowledgement) := by
  have hrepository := hcooperates.repositoryId
  have hafterwards : ∀ {p : GitPhase} {w' : World},
      Yields (healthy outside s) w (freshGitAttempt b receiver) () w' → AtGit b p w' → p.Valid b →
      Yields (healthy outside s) w (advanceAuthorized b (some receiver) .authorized) p w' := by
    intro p w' hfresh hafter hvalid
    refine Yields.bind (a := receiver) (yields_pure receiver w) ?_
    exact hfresh.bind (yields_requireGitPhase hvalid hafter)
  rcases hcooperates.prepare with hprepared | hrejected | hrejected
  · obtain ⟨acknowledgement, w', hsend, hafter⟩ := exists_yields_sendGit outside s receiver hr
    have hfresh : Yields (healthy outside s) w (freshGitAttempt b receiver) () w' :=
      (yields_prepare hrepository hprepared).bind hsend
    exact ⟨_, w', hafterwards hfresh hafter trivial, hafter, .inr ⟨_, rfl⟩⟩
  · obtain ⟨w', hreject, hafter⟩ := exists_yields_rejectGit outside s .staleRef hr
    have hfresh : Yields (healthy outside s) w (freshGitAttempt b receiver) () w' :=
      (yields_prepare hrepository hrejected).bind hreject
    exact ⟨_, w', hafterwards hfresh hafter trivial, hafter, .inl ⟨trivial, .inl rfl⟩⟩
  · obtain ⟨w', hreject, hafter⟩ := exists_yields_rejectGit outside s .invalidObjects hr
    have hfresh : Yields (healthy outside s) w (freshGitAttempt b receiver) () w' :=
      (yields_prepare hrepository hrejected).bind hreject
    exact ⟨_, w', hafterwards hfresh hafter trivial, hafter, .inl ⟨trivial, .inl rfl⟩⟩

/-- **An attempted Git row** is observed. -/
theorem exists_yields_advanceAttempted {receiver : GitReceiver} {retained : Option Acknowledgement}
    (hseen : SeenValid (outside.observeRef receiver)) (hr : AtGit b (.attempted retained) w) :
    ∃ acknowledgement seen w', Yields (healthy outside s) w
        (advanceAttempted b (some receiver) (.attempted retained)) (.observed acknowledgement seen)
        w' ∧ SeenValid seen ∧ AtGit b (.observed acknowledgement seen) w' := by
  obtain ⟨w', hfreeze, hafter⟩ := exists_yields_freezeGitObservation outside s hseen hr
  have hvalid : (GitPhase.observed (retained.getD .unknown) (outside.observeRef receiver)).Valid b :=
    hseen
  refine ⟨_, _, w', ?_, hseen, hafter⟩
  refine Yields.bind (a := receiver) (yields_pure receiver w) (yields_ask ?_)
  exact hfreeze.bind (yields_requireGitPhase hvalid hafter)

/-- **An observed Git row** is finalized. -/
theorem exists_yields_advanceObserved {settings : ReceiptSettings}
    {acknowledgement : Acknowledgement} {seen : ObservedRef} (outside : Outside) (s : ℕ)
    (hkey : identityIsValid settings.keyId = true) (hseen : SeenValid seen)
    (hr : AtGit b (.observed acknowledgement seen) w) :
    ∃ p w', Yields (healthy outside s) w
        (advanceObserved b (some settings) (.observed acknowledgement seen)) p w' ∧
      AtGit b p w' ∧ SettledGit b p := by
  obtain ⟨statementBytes, bytes, -, -, hsign, hfits, henvelope⟩ :=
    (writable_statement b acknowledgement hseen).envelope_sign C settings.signingSeed hkey
  have hdecode : GitStatement.decode bytes =
      .ok (settings.keyId, b.statement acknowledgement seen) :=
    bind_eq_ok.mpr ⟨_, henvelope, rfl⟩
  obtain ⟨w', hcommit, hafter⟩ := exists_yields_commitGitReceipt outside s hseen hdecode hr
  have hfinalized : (GitPhase.finalized (b.statement acknowledgement seen)
      ⟨b.authorization.operationId, bytes, digestHex C bytes, settings.keyId⟩).Valid b :=
    ⟨rfl, hseen, rfl, hdecode, rfl⟩
  refine ⟨_, w', ?_, hafter, hfinalized, .inr rfl⟩
  refine yields_checked (mapError_eq_ok.mpr hsign) ?_
  exact hcommit.bind (yields_requireGitPhase hfinalized hafter)

/-- What the three sections of `advance` make of a settled row. -/
theorem yields_advance_settled {receiver : Option GitReceiver} {signing : Option ReceiptSettings}
    (hsettled : SettledGit b p) :
    Yields (healthy outside s) w (advanceAttempted b receiver p >>= advanceObserved b signing) p
      w := by
  have hended := hsettled.ended
  cases p with
  | notAttempted rejection => exact yields_pure _ w
  | finalized statement receipt => exact yields_pure _ w
  | _ => simp [GitPhase.state] at hended

/-- The receiver that the state needs is there. -/
def Equipped (outside : Outside) (b : GitBinding C) (receiver : Option GitReceiver) (p : GitPhase) :
    Prop :=
  p.state = .authorized ∨ p.state = .applyStarted →
    ∃ r, receiver = some r ∧ CooperatesGit outside b.authorization r

theorem wrongRepository_of_equipped {receiver : Option GitReceiver}
    (h : Equipped outside b receiver p) : wrongRepository b receiver p = false := by
  cases p with
  | authorized =>
    obtain ⟨r, rfl, hcooperates⟩ := h (.inl rfl)
    simp [wrongRepository, hcooperates.repositoryId]
  | attempted retained =>
    obtain ⟨r, rfl, hcooperates⟩ := h (.inr rfl)
    simp [wrongRepository, hcooperates.repositoryId]
  | _ => rfl

/-- The second and the third section of `advance`, from an attempted row. -/
theorem exists_yields_advance_attempted {receiver : GitReceiver} {settings : ReceiptSettings}
    {retained : Option Acknowledgement} (hkey : identityIsValid settings.keyId = true)
    (hseen : SeenValid (outside.observeRef receiver)) (hr : AtGit b (.attempted retained) w) :
    ∃ p w', Yields (healthy outside s) w (advanceAttempted b (some receiver) (.attempted retained) >>=
        advanceObserved b (some settings)) p w' ∧ AtGit b p w' ∧ SettledGit b p := by
  obtain ⟨acknowledgement, seen, w₁, hfreeze, hseen', hafter₁⟩ :=
    exists_yields_advanceAttempted (s := s) hseen hr
  obtain ⟨p, w₂, hfinalize, hafter₂, hsettled⟩ :=
    exists_yields_advanceObserved outside s hkey hseen' hafter₁
  exact ⟨p, w₂, hfreeze.bind hfinalize, hafter₂, hsettled⟩

/-- **One pass of `advance` settles** every valid row. -/
theorem exists_yields_advance {receiver : Option GitReceiver} {settings : ReceiptSettings}
    (hkey : identityIsValid settings.keyId = true) (hvalid : p.Valid b)
    (hequipped : Equipped outside b receiver p) (hr : AtGit b p w) :
    ∃ p' w', Yields (healthy outside s) w (advance b receiver (some settings)) p' w' ∧
      AtGit b p' w' ∧ SettledGit b p' := by
  have hsections : ∀ {p' : GitPhase} {w' : World}, Yields (healthy outside s) w
      (advanceAuthorized b receiver p >>= fun phase =>
        advanceAttempted b receiver phase >>= advanceObserved b (some settings)) p' w' →
      Yields (healthy outside s) w (advance b receiver (some settings)) p' w' := by
    intro p' w' hrest
    refine (yields_requireGitPhase hvalid hr).bind ?_
    refine yields_checked (a := ()) (require_of_true ?_) hrest
    rw [wrongRepository_of_equipped hequipped]
    rfl
  have hskip : p ≠ .authorized →
      Yields (healthy outside s) w (advanceAuthorized b receiver p) p w := by
    intro hp
    unfold advanceAuthorized
    rw [if_neg hp]
    exact yields_pure p w
  cases p with
  | authorized =>
    obtain ⟨r, rfl, hcooperates⟩ := hequipped (.inl rfl)
    obtain ⟨p₁, w₁, hfirst, hafter₁, hended⟩ :=
      exists_yields_advanceAuthorized (s := s) hcooperates hr
    rcases hended with hsettled | ⟨retained, rfl⟩
    · exact ⟨p₁, w₁, hsections (hfirst.bind (yields_advance_settled hsettled)), hafter₁, hsettled⟩
    · obtain ⟨p', w', hrest, hafter, hsettled⟩ :=
        exists_yields_advance_attempted (s := s) hkey hcooperates.observe hafter₁
      exact ⟨p', w', hsections (hfirst.bind hrest), hafter, hsettled⟩
  | attempted retained =>
    obtain ⟨r, rfl, hcooperates⟩ := hequipped (.inr rfl)
    obtain ⟨p', w', hrest, hafter, hsettled⟩ :=
      exists_yields_advance_attempted (s := s) hkey hcooperates.observe hr
    exact ⟨p', w', hsections ((hskip fun h => nomatch h).bind hrest), hafter, hsettled⟩
  | observed acknowledgement seen =>
    obtain ⟨p', w', hrest, hafter, hsettled⟩ :=
      exists_yields_advanceObserved outside s hkey hvalid hr
    have hlast : Yields (healthy outside s) w
        (advanceAttempted b receiver (.observed acknowledgement seen) >>=
          advanceObserved b (some settings)) p' w' :=
      Yields.bind (yields_pure _ w) hrest
    exact ⟨p', w', hsections ((hskip fun h => nomatch h).bind hlast), hafter, hsettled⟩
  | notAttempted rejection =>
    have hsettled : SettledGit b (.notAttempted rejection) := ⟨hvalid, .inl rfl⟩
    exact ⟨_, w, hsections ((hskip fun h => nomatch h).bind (yields_advance_settled hsettled)), hr,
      hsettled⟩
  | finalized statement receipt =>
    have hsettled : SettledGit b (.finalized statement receipt) := ⟨hvalid, .inr rfl⟩
    exact ⟨_, w, hsections ((hskip fun h => nomatch h).bind (yields_advance_settled hsettled)), hr,
      hsettled⟩

/-- The receiver that the state needs opens. -/
theorem exists_yields_openNeededReceiver {receiver : GitReceiver} (p : GitPhase)
    (hcooperates : CooperatesGit outside b.authorization receiver) :
    ∃ opened, Yields (healthy outside s) w
        (openNeededReceiver (C := C) (some receiver) p.state) opened w ∧
      Equipped outside b opened p := by
  by_cases hneeded : p.state = .authorized ∨ p.state = .applyStarted
  · refine ⟨some receiver, ?_, fun _ => ⟨receiver, rfl, hcooperates⟩⟩
    unfold openNeededReceiver
    rw [if_pos hneeded]
    refine yields_asked (congrArg (·, w) hcooperates.opens) ?_
    exact yields_checked (mapError_eq_ok.mpr rfl) (yields_pure _ w)
  · refine ⟨none, ?_, fun h => absurd h hneeded⟩
    unfold openNeededReceiver
    rw [if_neg hneeded]
    exact yields_pure _ w

/-- **A pass settles every Git row that has not ended.** -/
theorem exists_yields_admitAndReconcileGit {authorities : List AuthorizationTrust}
    {receiver : GitReceiver} {settings : ReceiptSettings}
    (hcooperates : CooperatesGit outside b.authorization receiver)
    (hkey : identityIsValid settings.keyId = true)
    (hverify : GitBinding.verify C b.grant authorities = .ok b) (hvalid : p.Valid b)
    (hopen : p.state ≠ .finalized ∧ p.state ≠ .notAttempted) (hfree : w.holder = none)
    (hr : AtGit b p w) :
    ∃ p' w', Yields (healthy outside s) w
        (admitAndReconcileGit (C := C) authorities b.authorization.operationId b.grant
          (some receiver) (some settings)) () w' ∧ AtGit b p' w' ∧ SettledGit b p' := by
  have hr' : AtGit b p ⟨w.db, some s⟩ := hr
  have hadmission : Yields (healthy outside s) ⟨w.db, some s⟩ (do
      return (← Storage.insertGit b).state) p.state ⟨w.db, some s⟩ := by
    refine Yields.bind (a := p) ?_ (yields_pure _ _)
    exact (yields_gitOperation hvalid hr').bind (yields_pure _ _)
  have hadmits := yields_admitServiceOperation hopen.1 hopen.2 hfree hadmission
  obtain ⟨opened, hopened, hequipped⟩ :=
    exists_yields_openNeededReceiver (s := s) (w := ⟨w.db, some s⟩) p hcooperates
  obtain ⟨p', w', hadvance, hafter, hsettled⟩ :=
    exists_yields_advance (s := s) hkey hvalid hequipped hr'
  refine ⟨p', w', ?_, hafter, hsettled⟩
  refine yields_checked (mapError_eq_ok.mpr hverify) ?_
  refine yields_checked (require_of_true (decide_eq_true rfl)) ?_
  refine (yields_mapErr (yields_gitOperation hvalid hr)).bind (hadmits.bind (hopened.bind ?_))
  refine (yields_mapErr hadvance).bind ?_
  have hended := hsettled.ended
  cases p' with
  | observed acknowledgement seen => simp [GitPhase.state] at hended
  | _ => exact yields_pure _ w'

end

/-! ## States of rows -/

theorem terminal_of_ended {state : OperationState}
    (h : state = .notAttempted ∨ state = .finalized) :
    Value.text state.asSql ∈ terminalStates := by
  rcases h with rfl | rfl <;> decide

theorem open_of_not_terminal {state : OperationState}
    (h : Value.text state.asSql ∉ terminalStates) :
    state ≠ .finalized ∧ state ≠ .notAttempted := by
  constructor
  · rintro rfl
    exact h (terminal_of_ended (.inr rfl))
  · rintro rfl
    exact h (terminal_of_ended (.inl rfl))

/-! ## Every run -/

/-- What the turns of the loop do, for a session of a run. -/
structure LoopEnds (e : Execution C) (s : ℕ) (authorities : List AuthorizationTrust)
    (request : SetDeploymentImageRequest) (signedGrant : Bytes) (adapter : Bool)
    (settings : Option ReceiptSettings) (a : AuthorizedRequest C) : Prop where
  forward : ∀ later turn start, history s e.moments = later ++ turn ++ start →
    Returns (reconcileTurn authorities request signedGrant adapter settings a).run turn
      (.ok (.inl true)) → MovesForward e s a.request.operationId turn start
  turns : ∀ k later own start, history s e.moments = later ++ own ++ start →
    Turns authorities request signedGrant adapter settings a k own → k ≤ 4
  ends : ∀ n later own start result, 5 ≤ n → history s e.moments = later ++ own ++ start →
    (Returns (reconcileLoop authorities request signedGrant adapter settings a n).run own result ↔
      ∃ k ≤ 5, Iterates authorities request signedGrant adapter settings a k own result)

/-- **A reconcile pass ends and completes healthy work.**  In every run, whatever the adapter and
the storage answer and whatever other sessions do: a turn of the loop that continues has moved the
row to a later state, at most four turns continue, and the loop of any number of turns from five on
is the loop of at most five.  From every row that a run leaves before its end, with the lease free,
commits that succeed, a receiver whose answers pass their validation and a signing key, one pass
returns with the row ended, for a Kubernetes row and for a Git row. -/
theorem pass_ends_and_completes (e : Execution C) :
    (∀ s authorities request signedGrant adapter settings (a : AuthorizedRequest C),
      bindAuthorization C authorities request signedGrant = .ok a →
      LoopEnds e s authorities request signedGrant adapter settings a) ∧
    (∀ id r authorities request signedGrant (a : AuthorizedRequest C) outside s settings turns,
      e.world.holder = none → stored e.world.db .kubernetes id = some r →
      r.value .state ∉ terminalStates →
      r.value .signedAuthorizationGrant = .blob signedGrant →
      bindAuthorization C authorities request signedGrant = .ok a →
      Cooperates outside a.request → identityIsValid settings.keyId = true → 5 ≤ turns →
      ∃ w' r', Yields (healthy outside s) e.world
          (admitAndReconcile (C := C) authorities request signedGrant true (some settings) turns)
          () w' ∧
        stored w'.db .kubernetes id = some r' ∧ r'.value .state ∈ terminalStates) ∧
    (∀ id r authorities signedGrant (b : GitBinding C) outside s receiver settings,
      e.world.holder = none → stored e.world.db .git id = some r →
      r.value .state ∉ terminalStates →
      r.value .signedAuthorizationGrant = .blob signedGrant →
      GitBinding.verify C signedGrant authorities = .ok b →
      CooperatesGit outside b.authorization receiver → identityIsValid settings.keyId = true →
      ∃ w' r', Yields (healthy outside s) e.world
          (admitAndReconcileGit (C := C) authorities id signedGrant (some receiver) (some settings))
          () w' ∧
        stored w'.db .git id = some r' ∧ r'.value .state ∈ terminalStates) := by
  refine ⟨?_, ?_, ?_⟩
  · intro s authorities request signedGrant adapter settings a hbind
    exact ⟨fun later turn start hhistory hturn => e.movesForward hbind hhistory hturn,
      fun k later own start hhistory hturns => e.turns_le_four hbind hturns hhistory,
      fun n later own start result hn hhistory => e.returns_reconcileLoop_iff hbind hn hhistory⟩
  · intro id r authorities request signedGrant a outside s settings turns hfree hr hopen hgrant hbind
      hcooperates hkey hturns
    obtain ⟨a', p, rfl, rfl, hvalid⟩ := e.sound.lawful.phase hr
    obtain rfl : a' = a := by
      refine eq_of_grant_value (hgrant.trans ?_)
      rw [(bindAuthorization_eq_ok hbind).2]
    obtain ⟨n, rfl⟩ := Nat.exists_eq_add_of_le' hturns
    obtain ⟨p', w', hpass, hafter, hsettled⟩ := exists_yields_admitAndReconcile (s := s) (n := n)
      hcooperates hkey hbind hvalid (open_of_not_terminal hopen) hfree hr
    exact ⟨w', _, hpass, hafter, terminal_of_ended hsettled.ended⟩
  · intro id r authorities signedGrant b outside s receiver settings hfree hr hopen hgrant hverify
      hcooperates hkey
    obtain ⟨b', p, rfl, rfl, hvalid⟩ := e.sound.lawful.gitPhase hr
    have hbytes := grant_of_verify hverify
    obtain rfl : b' = b := GitBinding.eq_of_grant_eq ((Value.blob.inj hgrant).trans hbytes.symm)
    subst hbytes
    obtain ⟨p', w', hpass, hafter, hsettled⟩ := exists_yields_admitAndReconcileGit (s := s)
      hcooperates hkey hverify hvalid (open_of_not_terminal hopen) hfree hr
    exact ⟨w', _, hpass, hafter, terminal_of_ended hsettled.ended⟩

/-- The receivers answer, and what they answer passes its validation. -/
def Known.cooperative : Outside :=
  { Known.outside with
    apply := fun permission =>
      .ok ⟨true, some 59, some permission.target.deploymentUid, some (utf8 "applied:0053")⟩
    observe := fun _ _ => .ok Known.observation }

theorem Known.cooperates (request : ValidatedRequest) : Cooperates Known.cooperative request where
  identify := .inr ⟨Known.target, ⟨Known.target, by decide⟩, rfl,
    ValidatedTargetIdentity.tryFrom_eq_ok.mpr rfl⟩
  apply target := by
    have huid := (TargetIdentity.validate_eq_ok.mp target.valid).1
    exact ⟨_, utf8 "applied:0053", rfl, ApplyOutcome.validate_eq_ok.mpr ⟨huid, rfl, rfl⟩, rfl, rfl⟩
  observe _ := ⟨Known.observation, rfl, by decide⟩

/-- A session that submits the operation and does no more. -/
def Known.submitted : Execution Known.crypto :=
  Execution.empty.after Known.outside 0 ⟨Known.authorities, .submitAuthorized Known.request
    Known.grant⟩ Known.fresh_empty

/-- The known operation, submitted by another session, is completed by the next pass. -/
theorem known_operation_reconciled :
    ∃ w' r', Yields (healthy (C := Known.crypto) Known.cooperative 1) Known.submitted.world
        (admitAndReconcile Known.authorities Known.request Known.grant true (some Known.settings) 5)
        () w' ∧
      stored w'.db .kubernetes Known.request.operationId = some r' ∧
      r'.value .state ∈ terminalStates := by
  have hfree : Known.submitted.world.holder = none := by decide +kernel
  have hbound : (bindAuthorization Known.crypto Known.authorities Known.request
      Known.grant).toOption.isSome = true := by decide +kernel
  obtain ⟨a, ha⟩ := Option.isSome_iff_exists.mp hbound
  have hrow : (stored Known.submitted.world.db .kubernetes Known.request.operationId).map
      (fun r => (r.value .state, r.value .signedAuthorizationGrant)) =
      some (.text (utf8 "authorized"), .blob Known.grant) := by decide +kernel
  obtain ⟨r, hr, hvalues⟩ := Option.map_eq_some_iff.mp hrow
  obtain ⟨hstate, hgrant⟩ := Prod.mk.inj hvalues
  have hopen : r.value .state ∉ terminalStates := by
    rw [hstate]
    decide
  exact (pass_ends_and_completes Known.submitted).2.1 _ r Known.authorities Known.request
    Known.grant a Known.cooperative 1 Known.settings 5 hfree hr hopen hgrant
    (toOption_eq_some.mp ha) (Known.cooperates a.request) (by decide) (Nat.le_refl 5)

end Gateway
end Kapsel
