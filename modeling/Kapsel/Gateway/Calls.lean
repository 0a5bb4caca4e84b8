import Kapsel.Interaction.Program
import Kapsel.Journal.CompareAndSet
import Kapsel.Journal.Git

/-!
# What the gateway asks of its environment

A gateway handle talks to the storage, to the worker lease, to a Kubernetes adapter and to
a Git receiver.  Each of these is a question here, and the answer is whatever the other
side says.

A write is asked for by naming the writer and what it was given: `Transition` has one
constructor for each lifecycle writer of the journal, and `Transition.replacement` is the
call of `Io::replace` that the writer makes.  The construction of a dispatch permission is
not an exchange in the source, but it is an event that matters, so it is asked for as well.
-/

namespace Kapsel

open Grammar Fallible Authority Interaction

namespace Gateway

open Journal

/-! ## Writers -/

section
variable (C : Crypto)

/-- The lifecycle writers, with the record each one is about to replace. -/
inductive Transition where
  | insertRequested (authorized : AuthorizedRequest C)
  | markAuthorized (expected : Record .kubernetes) (authorized : AuthorizedRequest C)
  | markNotAttempted (expected : Record .kubernetes) (operation : AuthorizedOperation)
      (rejection : TargetRejection)
  | markStaleApproval (expected : Record .kubernetes) (operation : AuthorizedOperation)
      (observed : ValidatedTargetIdentity)
  | markApplyStarted (expected : Record .kubernetes) (operation : AuthorizedOperation)
      (target : ValidatedTargetIdentity)
  | recordApplyOutcome (expected : Record .kubernetes) (operation : ApplyStartedOperation)
      (outcome : ApplyOutcome)
  | freezeObservation (expected : Record .kubernetes) (operation : ApplyStartedOperation)
      (observation : ReceiverObservation)
  | commitReceipt (expected : Record .kubernetes) (operation : ReceiverObservedOperation)
      (receipt : FrozenReceipt)
  | insertGit (binding : GitBinding C)
  | beginGitAttempt (original : Record .git) (binding : GitBinding C)
  | rejectGit (original : Record .git) (binding : GitBinding C) (rejection : GitRejection)
  | recordGitAcknowledgement (original : Record .git) (binding : GitBinding C)
      (acknowledgement : Acknowledgement)
  | freezeGitObservation (original : Record .git) (binding : GitBinding C)
      (retained : Option Acknowledgement) (seen : ObservedRef) (columns : Text × Option Text)
  | commitGitReceipt (original : Record .git) (binding : GitBinding C) (bytes : Bytes)
      (keyId : Text)

variable {C}

/-- The call of `Io::replace` that a writer makes. -/
def Transition.replacement : Transition C → Replacement
  | .insertRequested authorized => ⟨.kubernetes, none, requestedRecord authorized⟩
  | .markAuthorized expected authorized =>
      ⟨.kubernetes, some expected, authorizedRecord expected authorized⟩
  | .markNotAttempted expected _ rejection =>
      ⟨.kubernetes, some expected, notAttemptedRecord expected rejection⟩
  | .markStaleApproval expected _ observed =>
      ⟨.kubernetes, some expected, staleApprovalRecord expected observed⟩
  | .markApplyStarted expected _ target =>
      ⟨.kubernetes, some expected, applyStartedRecord expected target⟩
  | .recordApplyOutcome expected _ outcome =>
      ⟨.kubernetes, some expected, applyOutcomeRecord expected outcome⟩
  | .freezeObservation expected operation observation =>
      ⟨.kubernetes, some expected, observationRecord expected operation observation⟩
  | .commitReceipt expected _ receipt => ⟨.kubernetes, some expected, receiptRecord expected receipt⟩
  | .insertGit binding => ⟨.git, none, gitAuthorizedRecord binding⟩
  | .beginGitAttempt original _ => ⟨.git, some original, gitAttemptRecord original⟩
  | .rejectGit original _ rejection => ⟨.git, some original, gitRejectionRecord original rejection⟩
  | .recordGitAcknowledgement original _ acknowledgement =>
      ⟨.git, some original, gitAcknowledgementRecord original acknowledgement⟩
  | .freezeGitObservation original _ retained _ columns =>
      ⟨.git, some original, gitObservationRecord original retained columns⟩
  | .commitGitReceipt original _ bytes keyId =>
      ⟨.git, some original, gitReceiptRecord C original bytes keyId⟩

end

/-! ## Questions and answers -/

/-- `AdmissionDecision`. -/
inductive AdmissionDecision where
  | admitted (state : OperationState)
  | busy
  | full
  deriving DecidableEq, Repr

/-- `GitError`. -/
inductive GitError where
  | custody
  | configuration
  | unavailable
  | invalidApproval
  | invalidObjects
  | staleRef
  deriving DecidableEq, Repr

/-- `GitReceiver`, as far as the gateway looks at it. -/
structure GitReceiver where
  repositoryId : Text
  deriving DecidableEq

/-- `PreparedTransition`: an approval that preflight has checked at a receiver. -/
structure PreparedTransition where
  receiver : GitReceiver
  authorization : GitRefAuthorization
  deriving DecidableEq

/-- `GitDispatchPermission`. -/
structure GitDispatchPermission where
  prepared : PreparedTransition
  deriving DecidableEq

/-- The questions. -/
inductive Call (C : Crypto) where
  | read
  | replace (transition : Transition C)
  | tryLockWorker
  | acknowledge (decision : AdmissionDecision)
  | identify (request : SetDeploymentImageRequest)
  | grantPermission (permission : DispatchPermission)
  | apply (permission : DispatchPermission)
  | observe (request : SetDeploymentImageRequest) (outcome : ApplyOutcome)
  | openReceiver (receiver : GitReceiver)
  | prepare (receiver : GitReceiver) (authorization : GitRefAuthorization)
  | grantGitPermission (permission : GitDispatchPermission)
  | send (permission : GitDispatchPermission)
  | observeRef (receiver : GitReceiver)

/-- The answers. -/
def Answer {C : Crypto} : Call C → Type
  | .read => Except SqliteError Database
  | .replace _ => Except GatewayError Unit
  | .tryLockWorker => Except GatewayError Bool
  | .acknowledge _ => Unit
  | .identify _ => Except TargetReadError TargetIdentity
  | .grantPermission _ => Unit
  | .apply _ => Except Unit ApplyOutcome
  | .observe _ _ => Except Unit ReceiverObservation
  | .openReceiver _ => Except GitError Unit
  | .prepare _ _ => Except GitError Unit
  | .grantGitPermission _ => Unit
  | .send _ => Acknowledgement
  | .observeRef _ => ObservedRef

/-- A computation of the gateway that may fail. -/
abbrev Action (C : Crypto) (ε α : Type) : Type := ExceptT ε (Program (Call C) Answer) α

end Gateway
end Kapsel
