import Kapsel.Gateway.Protocol
import Mathlib.Logic.Relation

/-!
# What a write does to a row

`Phase.Next` and `GitPhase.Next` are the edges of the two lifecycles, without columns and
without writers.  `Advances x a p p'` says that the writer `x` takes the row of `a` along
the edge from `p` to `p'`.

`advances_of_guarded` and `gitAdvances_of_guarded` connect them with the protocol: a writer
that checked what it has to check, and whose expected record is the row of a valid phase,
takes that row along an edge to the row of a valid phase.  Two things cannot be seen from
the checks of one writer and are premises here: that a row is authorized for the request it
was inserted for, and that a response is recorded once.
-/

namespace Kapsel

open Grammar Fallible Authority Interaction Interaction.Program

namespace Gateway

open Journal

variable {C : Crypto}

/-! ## A row names its request -/

theorem request_eq_of_agrees {a a' : AuthorizedRequest C} (h : a.authorization = a'.authorization) :
    a = a' := by
  obtain ⟨request, authorization, hagrees⟩ := a
  obtain ⟨request', authorization', hagrees'⟩ := a'
  obtain rfl : authorization = authorization' := h
  have hrequest : request = request' := by
    simp only [authorizationMatches, Bool.and_eq_true, decide_eq_true_eq] at hagrees hagrees'
    obtain ⟨⟨⟨⟨h₁, h₂⟩, h₃⟩, h₄⟩, h₅⟩ := hagrees
    obtain ⟨⟨⟨⟨h₁', h₂'⟩, h₃'⟩, h₄'⟩, h₅'⟩ := hagrees'
    apply ValidatedRequest.ext_request
    obtain ⟨⟨_, _, _, _, _⟩, _⟩ := request
    obtain ⟨⟨_, _, _, _, _⟩, _⟩ := request'
    exact SetDeploymentImageRequest.mk.injEq .. ▸ ⟨h₁.symm.trans h₁', h₂.symm.trans h₂',
      h₃.symm.trans h₃', h₄.symm.trans h₄', h₅.symm.trans h₅'⟩
  subst hrequest
  rfl

/-- **The grant in a row decides whose row it is.** -/
theorem eq_of_grant_value {a a' : AuthorizedRequest C} {p : Phase}
    (h : (phaseRecord a p).value .signedAuthorizationGrant =
      .blob a'.authorization.signedGrant) : a = a' :=
  request_eq_of_agrees (VerifiedAuthorization.eq_of_signedGrant_eq (Value.blob.inj h))

theorem eq_of_phaseRecord_eq {a a' : AuthorizedRequest C} {p p' : Phase}
    (h : phaseRecord a p = phaseRecord a' p') : a = a' :=
  eq_of_grant_value (congrArg (fun r => Record.value r .signedAuthorizationGrant) h)

theorem eq_of_gitRecord_eq {b b' : GitBinding C} {p p' : GitPhase}
    (h : gitRecord b p = gitRecord b' p') : b = b' :=
  GitBinding.eq_of_grant_eq
    (Value.blob.inj (congrArg (fun r => Record.value r .signedAuthorizationGrant) h))

/-! ## A row shows its phase -/

theorem asSql_injective {s s' : OperationState} (h : s.asSql = s'.asSql) : s = s' := by
  cases s <;> cases s' <;> first
    | rfl
    | exact absurd h (by decide)

theorem state_of_decode_phase {a : AuthorizedRequest C} {p : Phase} {loaded : LoadedOperation}
    (h : decode C (phaseRecord a p) = .ok loaded) : loaded.state = p.state :=
  asSql_injective (Value.text.inj (state_of_decode h)).symm

/-- A row that is not a rejection decodes to its phase. -/
theorem loaded_of_decode {a : AuthorizedRequest C} {p : Phase} {loaded : LoadedOperation}
    (hvalid : p.Valid a) (h : decode C (phaseRecord a p) = .ok loaded)
    (hstate : loaded.state ≠ .notAttempted) : loaded = p.loaded a := by
  rw [state_of_decode_phase h] at hstate
  have hreadable : p.Readable := by
    cases p with
    | rejected rejection => exact absurd rfl hstate
    | _ => trivial
  exact Except.ok.inj (h.symm.trans (decode_phase hvalid hreadable))

theorem phase_of_requested {a : AuthorizedRequest C} {p : Phase} {operation : RequestedOperation}
    (hvalid : p.Valid a) (h : decode C (phaseRecord a p) = .ok (.requested operation)) :
    p = .requested ∧ operation = ⟨requestFacts a none⟩ := by
  have hloaded := loaded_of_decode hvalid h (by exact fun hs => nomatch hs)
  cases p with
  | requested => exact ⟨rfl, LoadedOperation.requested.inj hloaded⟩
  | _ => cases hloaded

theorem phase_of_authorized {a : AuthorizedRequest C} {p : Phase} {operation : AuthorizedOperation}
    (hvalid : p.Valid a) (h : decode C (phaseRecord a p) = .ok (.authorized operation)) :
    p = .authorized ∧ operation = Journal.authorizedOperation a none := by
  have hloaded := loaded_of_decode hvalid h (by exact fun hs => nomatch hs)
  cases p with
  | authorized => exact ⟨rfl, LoadedOperation.authorized.inj hloaded⟩
  | _ => cases hloaded

theorem phase_of_applyStarted {a : AuthorizedRequest C} {p : Phase}
    {operation : ApplyStartedOperation} (hvalid : p.Valid a)
    (h : decode C (phaseRecord a p) = .ok (.applyStarted operation)) :
    ∃ target response, p = .attempted target response ∧
      operation = startedOperation a target response := by
  have hloaded := loaded_of_decode hvalid h (by exact fun hs => nomatch hs)
  cases p with
  | attempted target response =>
    exact ⟨target, response, rfl, LoadedOperation.applyStarted.inj hloaded⟩
  | _ => cases hloaded

theorem phase_of_receiverObserved {a : AuthorizedRequest C} {p : Phase}
    {operation : ReceiverObservedOperation} (hvalid : p.Valid a)
    (h : decode C (phaseRecord a p) = .ok (.receiverObserved operation)) :
    ∃ target response observation, p = .observed target response observation ∧
      operation = observedOperation a target response observation := by
  have hloaded := loaded_of_decode hvalid h (by exact fun hs => nomatch hs)
  cases p with
  | observed target response observation =>
    exact ⟨target, response, observation, rfl, LoadedOperation.receiverObserved.inj hloaded⟩
  | _ => cases hloaded

/-- A Git row decodes under a binding only if it is that binding's, and then to its phase. -/
theorem phase_of_decodeRecord {b b' : GitBinding C} {p phase : GitPhase} (hvalid : p.Valid b)
    (h : decodeRecord (gitRecord b p) b' = .ok phase) : b = b' ∧ phase = p := by
  obtain rfl : b = b' := GitBinding.eq_of_grant_eq (Value.blob.inj (grant_of_decodeRecord h))
  exact ⟨rfl, Except.ok.inj (h.symm.trans (decodeRecord_phase hvalid))⟩

/-! ## Lifecycles -/

/-- The edges of a Kubernetes operation. -/
inductive Journal.Phase.Next : Phase → Phase → Prop
  | authorize : Next .requested .authorized
  | reject (rejection : TargetRejection) : Next .authorized (.rejected rejection)
  | goStale (seen : ValidatedTargetIdentity) : Next .authorized (.stale seen)
  | attempt (target : ValidatedTargetIdentity) : Next .authorized (.attempted target none)
  | respond (target : ValidatedTargetIdentity) (response : ApplyResponseFacts) :
      Next (.attempted target none) (.attempted target (some response))
  | observe (target : ValidatedTargetIdentity) (response : Option ApplyResponseFacts)
      (observation : ReceiverObservation) :
      Next (.attempted target response) (.observed target response observation)
  | finalize (target : ValidatedTargetIdentity) (response : Option ApplyResponseFacts)
      (observation : ReceiverObservation) (receipt : FrozenReceipt) :
      Next (.observed target response observation)
        (.finalized target response observation receipt)

/-- The edges of a Git operation. -/
inductive Journal.GitPhase.Next : GitPhase → GitPhase → Prop
  | reject (rejection : GitRejection) : Next .authorized (.notAttempted rejection)
  | attempt : Next .authorized (.attempted none)
  | acknowledge (acknowledgement : Acknowledgement) :
      Next (.attempted none) (.attempted (some acknowledgement))
  | observe (retained : Option Acknowledgement) (seen : ObservedRef) :
      Next (.attempted retained) (.observed (retained.getD .unknown) seen)
  | finalize (statement : GitStatement) (receipt : FrozenReceipt) :
      Next (.observed statement.acknowledgement statement.observed) (.finalized statement receipt)

/-! ## Writers -/

/-- The writer takes the row of the request along an edge. -/
inductive Advances : Transition C → AuthorizedRequest C → Phase → Phase → Prop
  | markAuthorized (a) :
      Advances (.markAuthorized (phaseRecord a .requested) a) a .requested .authorized
  | markNotAttempted (a) (rejection : TargetRejection) :
      Advances (.markNotAttempted (phaseRecord a .authorized) (Journal.authorizedOperation a none)
          rejection) a .authorized (.rejected rejection)
  | markStaleApproval (a) (seen : ValidatedTargetIdentity) :
      Advances (.markStaleApproval (phaseRecord a .authorized) (Journal.authorizedOperation a none)
          seen) a .authorized (.stale seen)
  | markApplyStarted (a) (target : ValidatedTargetIdentity) :
      Advances (.markApplyStarted (phaseRecord a .authorized) (Journal.authorizedOperation a none)
          target) a .authorized (.attempted target none)
  | recordApplyOutcome (a) (target : ValidatedTargetIdentity) (outcome : ApplyOutcome)
      (resourceVersion : Text) : outcome.resourceVersion = some resourceVersion →
      Advances (.recordApplyOutcome (phaseRecord a (.attempted target none))
          (startedOperation a target none) outcome) a (.attempted target none)
        (.attempted target (some ⟨outcome.accepted, outcome.requestedGeneration, resourceVersion⟩))
  | freezeObservation (a) (target : ValidatedTargetIdentity)
      (response : Option ApplyResponseFacts) (observation : ReceiverObservation) :
      Advances (.freezeObservation (phaseRecord a (.attempted target response))
          (startedOperation a target response) observation) a (.attempted target response)
        (.observed target response observation)
  | commitReceipt (a) (target : ValidatedTargetIdentity) (response : Option ApplyResponseFacts)
      (observation : ReceiverObservation) (receipt : FrozenReceipt) :
      Advances (.commitReceipt (phaseRecord a (.observed target response observation))
          (observedOperation a target response observation) receipt)
        a (.observed target response observation) (.finalized target response observation receipt)

/-- The writer takes the row of the binding along an edge. -/
inductive GitAdvances : Transition C → GitBinding C → GitPhase → GitPhase → Prop
  | beginGitAttempt (b) :
      GitAdvances (.beginGitAttempt (gitRecord b .authorized) b) b .authorized (.attempted none)
  | rejectGit (b) (rejection : GitRejection) :
      GitAdvances (.rejectGit (gitRecord b .authorized) b rejection) b .authorized
        (.notAttempted rejection)
  | recordGitAcknowledgement (b) (acknowledgement : Acknowledgement) :
      GitAdvances (.recordGitAcknowledgement (gitRecord b (.attempted none)) b acknowledgement) b
        (.attempted none) (.attempted (some acknowledgement))
  | freezeGitObservation (b) (retained : Option Acknowledgement) (seen : ObservedRef) :
      GitAdvances (.freezeGitObservation (gitRecord b (.attempted retained)) b retained seen
          (kindWord seen, commitOf seen)) b (.attempted retained)
        (.observed (retained.getD .unknown) seen)
  | commitGitReceipt (b) (acknowledgement : Acknowledgement) (seen : ObservedRef) (bytes : Bytes)
      (keyId : Text) :
      GitAdvances (.commitGitReceipt (gitRecord b (.observed acknowledgement seen)) b bytes keyId) b
        (.observed acknowledgement seen) (.finalized (b.statement acknowledgement seen)
          ⟨b.authorization.operationId, bytes, digestHex C bytes, keyId⟩)

section
variable {x : Transition C} {a : AuthorizedRequest C} {b : GitBinding C}

theorem Advances.next {p p' : Phase} (h : Advances x a p p') : p.Next p' := by
  cases h with
  | markAuthorized => exact .authorize
  | markNotAttempted _ rejection => exact .reject rejection
  | markStaleApproval _ seen => exact .goStale seen
  | markApplyStarted _ target => exact .attempt target
  | recordApplyOutcome _ target outcome resourceVersion _ => exact .respond target _
  | freezeObservation _ target response observation => exact .observe target response observation
  | commitReceipt _ target response observation receipt =>
    exact .finalize target response observation receipt

theorem GitAdvances.next {p p' : GitPhase} (h : GitAdvances x b p p') : p.Next p' := by
  cases h with
  | beginGitAttempt => exact .attempt
  | rejectGit _ rejection => exact .reject rejection
  | recordGitAcknowledgement _ acknowledgement => exact .acknowledge acknowledgement
  | freezeGitObservation _ retained seen => exact .observe retained seen
  | commitGitReceipt _ acknowledgement seen bytes keyId =>
    exact .finalize (b.statement acknowledgement seen) _

/-- The checks of `record_apply_outcome` make the response a valid one. -/
theorem attemptValid_of_outcome {target : ValidatedTargetIdentity} {outcome : ApplyOutcome}
    {response : Option ApplyResponseFacts} {resourceVersion : Text}
    (hvalid : AttemptValid a target response) (houtcome : outcome.validate = .ok ())
    (hversion : outcome.resourceVersion = some resourceVersion)
    (huid : outcome.deploymentUid = some target.deploymentUid) :
    AttemptValid a target
      (some ⟨outcome.accepted, outcome.requestedGeneration, resourceVersion⟩) := by
  refine ⟨hvalid.approved, fun r hr => ?_⟩
  obtain rfl := Option.some.inj hr
  obtain ⟨accepted, generation, uid, version⟩ := outcome
  obtain rfl : version = some resourceVersion := hversion
  obtain rfl : uid = some target.deploymentUid := huid
  exact houtcome

/-- The checks of `commit_receipt` make the receipt one of the frozen statement. -/
theorem receiptValid_of_check {target : ValidatedTargetIdentity}
    {response : Option ApplyResponseFacts} {observation : ReceiverObservation}
    {receipt : FrozenReceipt}
    (hid : receipt.operationId = (observedOperation a target response observation).operationId)
    (h : checkReceipt C (observedOperation a target response observation) receipt = .ok ()) :
    ReceiptValid a (frozenStatement a target response observation) receipt := by
  obtain ⟨decoded, hdecoded, h⟩ := bind_eq_ok.mp h
  obtain ⟨keyId, statement⟩ := decoded
  simp only [require_eq_ok, Bool.and_eq_true, decide_eq_true_eq] at h
  obtain ⟨⟨rfl, rfl⟩, hdigest⟩ := h
  exact ⟨hid, mapError_eq_ok.mp hdecoded, hdigest⟩

/-- **A guarded write takes the row of a valid phase along an edge.** -/
theorem advances_of_guarded {p : Phase} {next : Record .kubernetes} (hguarded : x.Guarded)
    (hvalid : p.Valid a) (hx : x.replacement = ⟨.kubernetes, some (phaseRecord a p), next⟩)
    (hsame : ∀ expected a', x = .markAuthorized expected a' → a' = a)
    (honce : ∀ expected operation outcome, x = .recordApplyOutcome expected operation outcome →
      p.response = none) :
    ∃ p', Advances x a p p' ∧ p'.Valid a ∧ next = phaseRecord a p' := by
  cases x with
  | insertRequested a' => cases hx
  | markAuthorized expected a' =>
    cases hx
    obtain rfl := hsame _ _ rfl
    obtain ⟨operation, hdecode, -⟩ := hguarded
    obtain ⟨rfl, -⟩ := phase_of_requested hvalid hdecode
    exact ⟨.authorized, .markAuthorized a', trivial, authorizedRecord_phase a'⟩
  | markNotAttempted expected operation rejection =>
    cases hx
    obtain ⟨rfl, rfl⟩ := phase_of_authorized hvalid hguarded
    exact ⟨.rejected rejection, .markNotAttempted a rejection, trivial,
      notAttemptedRecord_phase a rejection⟩
  | markStaleApproval expected operation seen =>
    cases hx
    obtain ⟨hdecode, approved, happroved, hstale⟩ := hguarded
    obtain ⟨rfl, rfl⟩ := phase_of_authorized hvalid hdecode
    exact ⟨.stale seen, .markStaleApproval a seen, ⟨approved, happroved, hstale⟩,
      staleApprovalRecord_phase a seen⟩
  | markApplyStarted expected operation target =>
    cases hx
    obtain ⟨hdecode, happroved⟩ := hguarded
    obtain ⟨rfl, rfl⟩ := phase_of_authorized hvalid hdecode
    exact ⟨.attempted target none, .markApplyStarted a target,
      ⟨happroved, fun _ hnone => nomatch hnone⟩, applyStartedRecord_phase a target⟩
  | recordApplyOutcome expected operation outcome =>
    cases hx
    obtain ⟨hdecode, houtcome, hchecked⟩ := hguarded
    obtain ⟨target, response, rfl, rfl⟩ := phase_of_applyStarted hvalid hdecode
    obtain rfl : response = none := honce _ _ _ rfl
    obtain ⟨uid, huid, hchecked⟩ := bind_eq_ok.mp hchecked
    obtain rfl := Except.ok.inj (huid.symm.trans
      (Record.getOptionalText_of_eq (v := some target.deploymentUid) rfl))
    simp only [require_eq_ok, Bool.and_eq_true, decide_eq_true_eq] at hchecked
    obtain ⟨⟨-, hsameUid⟩, hversion⟩ := hchecked
    obtain ⟨resourceVersion, hresource⟩ := Option.isSome_iff_exists.mp hversion
    refine ⟨_, .recordApplyOutcome a target outcome resourceVersion hresource,
      attemptValid_of_outcome hvalid houtcome hresource hsameUid, ?_⟩
    obtain ⟨accepted, generation, uid', version⟩ := outcome
    obtain rfl : version = some resourceVersion := hresource
    exact applyOutcomeRecord_phase a target none accepted generation uid' resourceVersion
  | freezeObservation expected operation observation =>
    cases hx
    obtain ⟨hdecode, hobservation⟩ := hguarded
    obtain ⟨target, response, rfl, rfl⟩ := phase_of_applyStarted hvalid hdecode
    exact ⟨_, .freezeObservation a target response observation,
      ⟨hvalid, ReceiverObservation.validate_eq_ok.mp hobservation⟩,
      observationRecord_phase a target response observation⟩
  | commitReceipt expected operation receipt =>
    cases hx
    obtain ⟨hdecode, hid, hchecked⟩ := hguarded
    obtain ⟨target, response, observation, rfl, rfl⟩ := phase_of_receiverObserved hvalid hdecode
    exact ⟨_, .commitReceipt a target response observation receipt,
      ⟨hvalid.1, hvalid.2, receiptValid_of_check hid hchecked⟩,
      receiptRecord_phase a target response observation receipt⟩
  | _ => cases hx

/-- **A guarded write takes the row of a valid Git phase along an edge.** -/
theorem gitAdvances_of_guarded {p : GitPhase} {next : Record .git} (hguarded : x.Guarded)
    (hvalid : p.Valid b) (hx : x.replacement = ⟨.git, some (gitRecord b p), next⟩) :
    ∃ p', GitAdvances x b p p' ∧ p'.Valid b ∧ next = gitRecord b p' := by
  cases x with
  | beginGitAttempt original b' =>
    cases hx
    obtain ⟨rfl, rfl⟩ := phase_of_decodeRecord hvalid hguarded
    exact ⟨_, .beginGitAttempt b, trivial, gitAttemptRecord_phase b⟩
  | rejectGit original b' rejection =>
    cases hx
    obtain ⟨rfl, rfl⟩ := phase_of_decodeRecord hvalid hguarded
    exact ⟨_, .rejectGit b rejection, trivial, gitRejectionRecord_phase b rejection⟩
  | recordGitAcknowledgement original b' acknowledgement =>
    cases hx
    obtain ⟨rfl, rfl⟩ := phase_of_decodeRecord hvalid hguarded
    exact ⟨_, .recordGitAcknowledgement b acknowledgement, trivial,
      gitAcknowledgementRecord_phase b acknowledgement⟩
  | freezeGitObservation original b' retained seen columns =>
    cases hx
    obtain ⟨hdecode, hcolumns⟩ := hguarded
    obtain ⟨rfl, rfl⟩ := phase_of_decodeRecord hvalid hdecode
    obtain ⟨hseen, rfl⟩ := observedColumns_eq_ok hcolumns
    exact ⟨_, .freezeGitObservation b retained seen, hseen,
      gitObservationRecord_phase b retained seen⟩
  | commitGitReceipt original b' bytes keyId =>
    cases hx
    obtain ⟨acknowledgement, seen, hdecode, hbytes⟩ := hguarded
    obtain ⟨rfl, rfl⟩ := phase_of_decodeRecord hvalid hdecode
    exact ⟨_, .commitGitReceipt b acknowledgement seen bytes keyId,
      ⟨rfl, hvalid, rfl, hbytes, rfl⟩, gitReceiptRecord_phase b acknowledgement seen bytes keyId⟩
  | _ => cases hx

end

end Gateway
end Kapsel
