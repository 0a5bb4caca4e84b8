import Kapsel.Application.Disposition
import Kapsel.Daemon.Submission

/-!
# The jobs of the daemon

`server/runtime/jobs.rs`, and how far a connection of `server/runtime.rs` is.  A connection has a
permit, and its handler spawns at most one job: a read, an execution, or the probe of a submission
that finds the worker taken.  A job is a supervisor and a blocking closure that share a lease.  The
lease holds the permit of the connection and, for an execution or a probe, a selection; the
selection holds the one submission permit.  What is shared is released when its last holder drops
it.  Connections are numbered, and a job and a selection have the number of the connection that made
them.

* `Job` is a job that is registered, `Stage` how far a connection is.
* `Stage.holdsConnection`, `Stage.holdsExecution` and `Stage.holdsWork` say what it still holds, and
  `Stage.refers` which selection it keeps alive.
-/

namespace Kapsel

open Grammar Authority Interaction

namespace Daemon
namespace Runtime

open Gateway Application

/-! ## Jobs -/

/-- The thread of the runtime, or that of the blocking closure of a connection. -/
inductive Thread where
  | runtime
  | closure (c : ℕ)
  deriving DecidableEq

/-- What a job is for.  A probe has pinned a selection, or there was none. -/
inductive Kind where
  | read
  | execute
  | probe (pin : Option ℕ)
  deriving DecidableEq

namespace Kind

/-- The selection that a job of the connection keeps. -/
def selection (c : ℕ) : Kind → Option ℕ
  | read => none
  | execute => some c
  | probe pin => pin

/-- The closure captures the selection too. -/
def captures : Kind → Bool
  | probe _ => true
  | _ => false

end Kind

/-- The first field of a `JobLease` that is not dropped yet. -/
inductive Field where
  | connection
  | execution
  | retirement
  deriving DecidableEq

/-- How far a blocking closure is. -/
inductive Body where
  | started
  | probed (retained : Except ServiceError (Option OperationState))
  | compared (retained : Except ServiceError (Option OperationState)) (current : Option Bool)
  | decided
  | recorded (result : Except ServiceError ServiceStop)
  | reported
  | ended

/-- A job that is registered. -/
inductive Job where
  /-- The supervisor has not been polled; it holds the lease and the closure. -/
  | spawned
  /-- The closure runs, and the supervisor waits for it or has been aborted. -/
  | running (body : Body) (supervised : Bool)
  /-- The closure has returned, and the supervisor has not been polled since. -/
  | returned
  /-- The last clone of the lease is being dropped, by the supervisor or by the closure. -/
  | retiring (field : Field) (supervised : Bool)
  /-- The supervisor was aborted before its first poll; what is left of its lease and closure. -/
  | discarded (field : Option Field) (work : Bool)
  /-- Nothing is left. -/
  | retired

namespace Job

/-- `supervisor.is_finished()`. -/
def supervisorFinished : Job → Bool
  | running _ supervised => !supervised
  | retiring _ supervised => !supervised
  | retired => true
  | _ => false

/-- The channel of `retirement` is closed. -/
def retirementClosed : Job → Bool
  | discarded none _ => true
  | retired => true
  | _ => false

/-- What `Jobs::spawn` keeps in the registry. -/
def retained (job : Job) : Bool := !job.supervisorFinished || !job.retirementClosed

/-- Some clone of the lease has the permit of the connection. -/
def holdsConnection : Job → Bool
  | spawned => true
  | running _ _ => true
  | returned => true
  | retiring field _ => field = .connection
  | discarded field _ => field = some .connection
  | retired => false

/-- Some clone of the lease has the selection. -/
def holdsExecution : Job → Bool
  | spawned => true
  | running _ _ => true
  | returned => true
  | retiring field _ => field ≠ .retirement
  | discarded field _ => field = some .connection || field = some .execution
  | retired => false

/-- The closure still has what it captured. -/
def holdsWork : Job → Bool
  | spawned => true
  | running body _ => !(body matches .ended)
  | discarded _ work => work
  | _ => false

/-- The sender of the job's channel is dropped. -/
def senderGone : Job → Bool
  | spawned => false
  | running body _ => (body matches .reported | .decided | .ended)
  | discarded _ work => !work
  | _ => true

/-- The thread that drops the lease. -/
def dropper (c : ℕ) : Job → Option Thread
  | retiring _ true => some .runtime
  | retiring _ false => some (.closure c)
  | discarded (some _) _ => some .runtime
  | _ => none

/-- The field of the lease that is dropped next. -/
def field : Job → Option Field
  | retiring field _ => some field
  | discarded field _ => field
  | _ => none

/-- A field of the lease is dropped, and the next is what is left. -/
def dropField : Job → Job
  | retiring .connection supervised => retiring .execution supervised
  | retiring .execution supervised => retiring .retirement supervised
  | retiring .retirement _ => retired
  | discarded (some .connection) work => discarded (some .execution) work
  | discarded (some .execution) work => discarded (some .retirement) work
  | discarded (some .retirement) work => discarded none work
  | job => job

/-- What the closure captured is dropped without having run. -/
def dropWork : Job → Job
  | discarded field _ => discarded field false
  | job => job

/-- The supervisor is polled first, and the closure starts. -/
def start : Job → Job
  | spawned => running .started true
  | job => job

/-- The closure goes on. -/
def setBody (body : Body) : Job → Job
  | running _ supervised => running body supervised
  | job => job

/-- The closure returns and drops its clone of the lease, which is the last without a supervisor. -/
def finishBody : Job → Job
  | running _ true => returned
  | running _ false => retiring .connection false
  | job => job

/-- The supervisor goes on to drop its clone of the lease, which is the last. -/
def finish : Job → Job
  | returned => retiring .connection true
  | job => job

/-- The supervisor is dropped. -/
def abort : Job → Job
  | spawned => discarded (some .connection) true
  | running body _ => running body false
  | returned => retiring .connection true
  | job => job

/-- Nothing is left of a supervisor that was dropped before its first poll. -/
def discard : Job → Job
  | discarded none false => retired
  | job => job

end Job

/-! ## Connections -/

/-- The handler of a connection whose job is spawned. -/
inductive Handler where
  | waiting
  | answered
  | returned
  deriving DecidableEq

/-- How far a connection is. -/
inductive Stage where
  | absent
  | receiving
  /-- The handler has the publication lock and is about to try the submission permit. -/
  | selecting
  /-- It has made a selection, and is about to remove what is known of an earlier one. -/
  | clearing
  /-- It is about to publish the selection. -/
  | publishing
  /-- The permit is taken; it is about to upgrade the published selection. -/
  | pinning
  /-- It is in `Jobs::spawn`. -/
  | registering (kind : Kind)
  /-- The registry had no room; what is left of the selection and of the closure. -/
  | refused (kind : Kind) (execution work : Bool)
  /-- There is a job. -/
  | serving (handler : Handler) (kind : Kind) (job : Job)
  /-- The handler has an answer and there is no job. -/
  | dismissed (returned : Bool)

namespace Stage

/-- The thread of the runtime is in the middle of this. -/
def busy : Stage → Bool
  | selecting => true
  | clearing => true
  | publishing => true
  | pinning => true
  | registering _ => true
  | refused _ _ _ => true
  | serving _ _ (.retiring _ supervised) => supervised
  | serving _ _ (.discarded _ _) => true
  | _ => false

/-- The handler has the publication lock. -/
def locks : Stage → Bool
  | selecting => true
  | clearing => true
  | publishing => true
  | pinning => true
  | _ => false

/-- The handler has not returned. -/
def handled : Stage → Bool
  | absent => false
  | serving .returned _ _ => false
  | dismissed true => false
  | _ => true

/-- The handler, or a clone of the lease, has the permit of the connection. -/
def holdsConnection : Stage → Bool
  | serving .returned _ job => job.holdsConnection
  | stage => stage.handled

def kind : Stage → Option Kind
  | clearing => some .execute
  | publishing => some .execute
  | registering kind => some kind
  | refused kind _ _ => some kind
  | serving _ kind _ => some kind
  | _ => none

def job : Stage → Option Job
  | serving _ _ job => some job
  | _ => none

def mapJob (f : Job → Job) : Stage → Stage
  | serving handler kind job => serving handler kind (f job)
  | stage => stage

/-- `Jobs::spawn` has registered the job. -/
def register : Stage → Stage
  | registering kind => serving .waiting kind .spawned
  | stage => stage

/-- `Jobs::spawn` has no room. -/
def refuse : Stage → Stage
  | registering kind => refused kind true true
  | stage => stage

/-- The selection that was refused is dropped. -/
def dropExecution : Stage → Stage
  | refused kind _ work => refused kind false work
  | stage => stage

/-- The closure that was refused, or whose supervisor was never polled, is dropped. -/
def dropWork : Stage → Stage
  | refused kind execution _ => refused kind execution false
  | stage => stage.mapJob Job.dropWork

/-- The wait of the handler ends. -/
def answer : Stage → Stage
  | serving _ kind job => serving .answered kind job
  | stage => stage

/-- The handler returns. -/
def leave : Stage → Stage
  | serving _ kind job => serving .returned kind job
  | dismissed _ => dismissed true
  | stage => stage

/-- What the blocking closure is for and how far it is, while it runs. -/
def closure : Stage → Option (Kind × Body)
  | serving _ kind (.running body _) => some (kind, body)
  | _ => none

/-- The handler or a clone of the lease has the selection. -/
def holdsExecution : Stage → Bool
  | clearing => true
  | publishing => true
  | registering _ => true
  | refused _ execution _ => execution
  | serving _ _ job => job.holdsExecution
  | _ => false

/-- The closure of the job, or what becomes it, has what it captures. -/
def holdsWork : Stage → Bool
  | clearing => true
  | publishing => true
  | registering _ => true
  | refused _ _ work => work
  | serving _ _ job => job.holdsWork
  | _ => false

/-- The selection in the lease of the job. -/
def selection (c : ℕ) (stage : Stage) : Option ℕ := stage.kind.bind (Kind.selection c)

/-- The closure of a probe has captured its pin. -/
def captures (stage : Stage) : Bool := stage.kind.any Kind.captures && stage.holdsWork

/-- There is a strong reference to the selection here. -/
def refers (c : ℕ) (stage : Stage) (n : ℕ) : Bool :=
  stage.selection c = some n && (stage.holdsExecution || stage.captures)

variable {stage stage' : Stage} {kind : Kind} {body body' : Body} {c n : ℕ}

theorem refers_iff : stage.refers c n = true ↔
    stage.selection c = some n ∧ (stage.holdsExecution = true ∨ stage.captures = true) := by
  simp [refers]

/-- What drops the lease or the closure drops references at most. -/
theorem refers_mono (hk : stage'.kind = stage.kind)
    (he : stage'.holdsExecution = true → stage.holdsExecution = true)
    (hw : stage'.holdsWork = true → stage.holdsWork = true) (h : stage'.refers c n = true) :
    stage.refers c n = true := by
  obtain ⟨hs, hr⟩ := refers_iff.mp h
  rw [selection, hk] at hs
  refine refers_iff.mpr ⟨hs, hr.imp he fun hc => ?_⟩
  simp only [captures, Bool.and_eq_true, hk] at hc ⊢
  exact ⟨hc.1, hw hc.2⟩

theorem holdsWork_dropField {handler : Handler} {job : Job} :
    (serving handler kind job.dropField).holdsWork = (serving handler kind job).holdsWork := by
  rcases job with _ | _ | _ | ⟨_ | _ | _, _⟩ | ⟨_ | _ | _ | _, _⟩ | _
  all_goals rfl

theorem refers_dropField_mono {handler : Handler} {job : Job}
    (h : (serving handler kind job.dropField).refers c n = true) :
    (serving handler kind job).refers c n = true := by
  have he : job.dropField.holdsExecution = true → job.holdsExecution = true := by
    rcases job with _ | _ | _ | ⟨_ | _ | _, _⟩ | ⟨_ | _ | _ | _, _⟩ | _
    all_goals simp [Job.dropField, Job.holdsExecution]
  have same : (serving handler kind job.dropField).kind = (serving handler kind job).kind := rfl
  exact refers_mono same he (by rw [holdsWork_dropField]; exact fun hw => hw) h

/-- Only the selection of a lease is a reference. -/
theorem refers_dropField {handler : Handler} {job : Job} (h : job.field ≠ some .execution) :
    (serving handler kind job.dropField).refers c n = (serving handler kind job).refers c n := by
  rcases job with _ | _ | _ | ⟨_ | _ | _, _⟩ | ⟨_ | _ | _ | _, _⟩ | _
  all_goals first
    | rfl
    | exact absurd rfl h

/-- A closure runs where the job does. -/
theorem closure_eq_some : stage.closure = some (kind, body) ↔
    ∃ handler supervised, stage = .serving handler kind (.running body supervised) := by
  constructor
  · intro h
    unfold closure at h
    split at h
    · cases h
      exact ⟨_, _, rfl⟩
    · cases h
  · rintro ⟨handler, supervised, rfl⟩
    rfl

@[simp] theorem mapJob_setBody_mapJob_setBody :
    (stage.mapJob (Job.setBody body)).mapJob (Job.setBody body') =
      stage.mapJob (Job.setBody body') := by
  rcases stage with _ | _ | _ | _ | _ | _ | _ | _ | ⟨handler, kind, job⟩ | _
  case serving => cases job <;> rfl
  all_goals rfl

end Stage

/-- What goes through the channel of a job. -/
inductive Reply where
  | page
  | admission (decision : SubmissionAdmission)

/-- A connection.  `running` is the flag of the selection that it made, and `channel` what the
closure of its job has sent. -/
structure Connection where
  id : Text
  stage : Stage
  running : Bool
  channel : Option Reply

end Runtime
end Daemon
end Kapsel
