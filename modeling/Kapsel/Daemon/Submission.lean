import Kapsel.Daemon.Protocol

/-!
# What a submission is answered

`admit_submission` of `crates/kapsel-daemon/src/server/runtime.rs` either executes the operation,
or, when the worker is taken, only looks at what is retained.  `contendedAdmission` is its decision
in the second case: nothing retained is an answer only when the selection that held the worker was
kept alive and is about another operation, and the current one is too.
-/

namespace Kapsel

open Authority Interaction

namespace Daemon

open Gateway Application

/-- `contended_admission`.  The second argument says whether the pinned selection is about this
operation, the third whether the current one is, if that could be read. -/
def contendedAdmission : Except ServiceError (Option OperationState) → Option Bool →
    Option Bool → SubmissionAdmission
  | .ok (some phase), _, _ => .decided (.admitted phase)
  | .error error, _, _ => .error error
  | .ok none, none, _ => .indeterminate
  | .ok none, some true, some _ => .indeterminate
  | .ok none, some false, some true => .indeterminate
  | .ok none, some false, some false => .decided .busy
  | .ok none, some _, none => .error .operationFailure

/-- What the execution closure answers when it ends without an acknowledgement. -/
def unacknowledged : Except ServiceError ServiceStop → SubmissionAdmission
  | .error error => .error error
  | .ok _ => .error .operationFailure

section
variable {C : Crypto} (trust : List AuthorizationTrust) (approvals : List SelectableApproval) (id : Text)

end

/-- **The answer is `BUSY` only when nothing is retained** and neither the pinned selection nor the
current one is about this operation. -/
theorem contendedAdmission_eq_busy {retained : Except ServiceError (Option OperationState)}
    {pinned current : Option Bool} (h : contendedAdmission retained pinned current = .decided .busy) :
    retained = .ok none ∧ pinned = some false ∧ current = some false := by
  unfold contendedAdmission at h
  split at h <;> cases h
  exact ⟨rfl, rfl, rfl⟩

end Daemon
end Kapsel
