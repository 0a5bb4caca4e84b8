import Kapsel.Application.Service

/-!
# What a handle can be asked to do

`Entry`: the calls that open a session on a handle, with the program each one runs.  A handle
is known by the authorities it was opened with, and a handle of the service application by its
catalog too.  The functions that the source only calls under the worker lease are entries too,
behind the lease.
-/

namespace Kapsel

open Grammar Fallible Authority Interaction Interaction.Program

namespace Gateway

open Journal Application

variable {C : Crypto}

/-! ## Entries -/

/-- A call on a handle. -/
inductive Command where
  | submitAuthorized (request : SetDeploymentImageRequest) (signedGrant : Bytes)
  | admitAndReconcile (request : SetDeploymentImageRequest) (signedGrant : Bytes) (adapter : Bool)
      (settings : Option ReceiptSettings) (turns : ℕ)
  | reconcileLocked (request : SetDeploymentImageRequest) (signedGrant : Bytes) (adapter : Bool)
      (settings : Option ReceiptSettings) (turns : ℕ)
  | runLockedOperationOnce (request : SetDeploymentImageRequest) (signedGrant : Bytes)
  | admitAndReconcileGit (id : Text) (grant : Bytes) (configuration : Option GitReceiver)
      (signing : Option ReceiptSettings)
  | advance (grant : Bytes) (receiver : Option GitReceiver) (signing : Option ReceiptSettings)
  | historyIds (after : Option Text)
  | authorizedOperation (request : SetDeploymentImageRequest) (signedGrant : Bytes)
  | retainedOperation (id : Text)
  | authorizedGit (grant : Bytes)
  | retainedGit (id : Text)
  | openService (approvals : List ServiceApproval)
  | select (approvals : List SelectableApproval) (id : Text) (execution : ServiceExecution)
      (turns : ℕ)
  | admittedState (approvals : List SelectableApproval) (id : Text)
  | status (id : Text)
  | receipt (id : Text)
  | history (after : Option Text)

/-- A call on the handle with these authorities. -/
structure Entry where
  authorities : List AuthorizationTrust
  command : Command

/-- The call on its own: its result is the caller's. -/
def discard {ε α : Type} (p : Action C ε α) : Program (Call C) Answer Unit := do
  let _ ← p.run
  return ()

/-- Take the lease, or give up. -/
def withLease {α : Type} (p : Action C GatewayError α) :
    Action C GatewayError (Option α) := do
  let locked : Except GatewayError Bool ← perform (Call.tryLockWorker : Call C)
  match locked with
  | .error error => throw error
  | .ok false => return none
  | .ok true => return some (← p)

/-- The program of a session. -/
def Entry.program (C : Crypto) (entry : Entry) : Program (Call C) Answer Unit :=
  match entry.command with
  | .submitAuthorized request signedGrant =>
      discard (submitAuthorized entry.authorities request signedGrant)
  | .admitAndReconcile request signedGrant adapter settings turns =>
      discard (admitAndReconcile entry.authorities request signedGrant adapter settings turns)
  | .reconcileLocked request signedGrant adapter settings turns =>
      discard (withLease (ExceptT.lift (reconcileLockedWithAdapter entry.authorities request
        signedGrant adapter settings turns).run))
  | .runLockedOperationOnce request signedGrant =>
      discard (withLease (do
        let authorized ← check (bindAuthorization C entry.authorities request signedGrant)
        runLockedOperationOnce authorized))
  | .admitAndReconcileGit id grant configuration signing =>
      discard (admitAndReconcileGit entry.authorities id grant configuration signing)
  | .advance grant receiver signing =>
      discard (withLease (do
        let b ← check (GitBinding.verify C grant entry.authorities)
        advance b receiver signing))
  | .historyIds after => discard (historyIds (C := C) after)
  | .authorizedOperation request signedGrant =>
      discard (authorizedOperation entry.authorities request signedGrant)
  | .retainedOperation id => discard (retainedOperation (C := C) entry.authorities id)
  | .authorizedGit grant => discard (authorizedGit (C := C) entry.authorities grant)
  | .retainedGit id => discard (retainedGit (C := C) entry.authorities id)
  | .openService approvals => discard (openService (C := C) ⟨entry.authorities, approvals⟩)
  | .select approvals id execution turns =>
      discard (select (C := C) entry.authorities approvals id execution turns)
  | .admittedState approvals id =>
      discard (admittedState (C := C) entry.authorities approvals id)
  | .status id => discard (status (C := C) entry.authorities id)
  | .receipt id => discard (receipt (C := C) entry.authorities id)
  | .history after => discard (Application.history (C := C) entry.authorities after)

end Gateway
end Kapsel
