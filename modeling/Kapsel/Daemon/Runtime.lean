import Kapsel.Daemon.Jobs
import Kapsel.Interaction.Actions

/-!
# The runtime of the daemon

`server/runtime.rs`.  The runtime has one thread.  Handlers, supervisors and the accept loop take
turns on it, and `busy` is the connection that it is in the middle of.  Closures run on threads of
their own.  Between any two actions of one thread that others can see, the other threads may act.

* `ServerState` is the state of the process.
* `Act` is one action, `Enabled` when it can be taken and `next` what it does.  Most are a `Move` of a
  connection or a piece of the `Work` of its closure.
* `runtime` is the system that they make, over the rows that the journal has at first.

The application is any that `ApplicationReads` and `ApplicationExecution` allow: an execution may
admit its operation, acknowledge anything and end with any result, and the look of a probe at the
journal may fail.  A supervisor may be aborted at any time, and an execution may unwind.  No lock is
poisoned, as nothing panics while it holds one; only the last look of a probe may find so.
-/

namespace Kapsel

open Grammar Authority Interaction

namespace Daemon
namespace Runtime

open Gateway Application

/-! ## The process -/

/-- The publication lock.  A closure has it in `observation` and for the second look of a probe. -/
inductive Lock where
  | free
  | handler (c : ℕ)
  | looking (c : ℕ) (id : Text)
  | holding (c : ℕ) (id : Text) (n : ℕ)
  | held (c n : ℕ)
  | missing (c : ℕ) (id : Text)
  | unlocking (c : ℕ)
  deriving DecidableEq

/-- The closure that has the lock. -/
def Lock.closure : Lock → Option ℕ
  | free => none
  | handler _ => none
  | looking c _ => some c
  | holding c _ _ => some c
  | held c _ => some c
  | missing c _ => some c
  | unlocking c => some c

/-- The reference that `upgrade` gave the closure. -/
def Lock.reference : Lock → Option ℕ
  | holding _ _ n => some n
  | held _ n => some n
  | _ => none

/-- The accept loop, and `Jobs::drain` with the jobs that it still waits for. -/
inductive Serving where
  | accepting
  | stopping
  | draining (jobs : List ℕ)
  | drained
  deriving DecidableEq

/-- `ServerState`, and all that goes on in the process.  `submission` is the selection that has the
permit, and `releasing` the thread that drops it.  `rows` are the admissions in the journal. -/
structure ServerState where
  connection : ℕ → Connection
  accepted : ℕ
  connections : ℕ
  submission : Option ℕ
  releasing : Option Thread
  selected : Option ℕ
  lock : Lock
  busy : Option ℕ
  stopped : List (Text × ExecutionObservation)
  registry : List ℕ
  serving : Serving
  rows : Text → Option OperationState

/-- `CONNECTIONS_MAX`. -/
def connectionsMax : ℕ := 8

namespace ServerState

/-- `ServerState::new`, over the rows that are retained. -/
def initial (rows : Text → Option OperationState) : ServerState :=
  ⟨fun _ => ⟨[], .absent, false, none⟩, 0, connectionsMax, none, none, none, .free, none, [], [],
    .accepting, rows⟩

/-- The stage of a connection. -/
def stage (s : ServerState) (c : ℕ) : Stage := (s.connection c).stage

/-- The identity that a connection submits, and that of the selection that it makes. -/
def id (s : ServerState) (c : ℕ) : Text := (s.connection c).id

/-- Somebody has a strong reference to the selection. -/
def refers (s : ServerState) (n : ℕ) : Bool :=
  (List.range s.accepted).any (fun c => (s.stage c).refers c n) || s.lock.reference = some n

/-- `Weak::upgrade` of the published selection. -/
def upgrade (s : ServerState) : Option ℕ :=
  match s.selected with
  | some n => if s.refers n then some n else none
  | none => none

/-- What the registry keeps of its jobs. -/
def retained (s : ServerState) : List ℕ :=
  s.registry.filter fun c => (s.stage c).job.any Job.retained

def setConnection (s : ServerState) (c : ℕ) (connection : Connection) : ServerState :=
  { s with connection := Function.update s.connection c connection }

def setStage (s : ServerState) (c : ℕ) (stage : Stage) : ServerState :=
  s.setConnection c { s.connection c with stage := stage }

/-- The connection goes on, and with it the thread of the runtime. -/
def turn (s : ServerState) (c : ℕ) (stage : Stage) : ServerState :=
  { s.setStage c stage with busy := if stage.busy then some c else none }

def setBody (s : ServerState) (c : ℕ) (body : Body) : ServerState :=
  s.setStage c ((s.stage c).mapJob (Job.setBody body))

def send (s : ServerState) (c : ℕ) (reply : Reply) : ServerState :=
  s.setConnection c { s.connection c with channel := some reply }

def setRunning (s : ServerState) (c : ℕ) (running : Bool) : ServerState :=
  s.setConnection c { s.connection c with running := running }

/-- A thread has dropped something.  Where it was the last reference to the selection, the thread
goes on to drop that. -/
def settle (s : ServerState) (thread : Thread) : ServerState :=
  match s.submission with
  | some n =>
      if s.releasing = none && !s.refers n then { s with releasing := some thread } else s
  | none => s

end ServerState

/-! ## Actions -/

/-- How the wait for a channel ends. -/
inductive Wait where
  | received (reply : Reply)
  | lost
  | expired

/-- One action of the handler of a connection, of the supervisor or of either end of the job. -/
inductive Move where
  | dismiss
  | read
  | submit (id : Text)
  | acquire
  | contend
  | clear
  | publish
  | pin
  | register
  | refuse
  | dropExecution
  | dropWork
  | fail
  | answer (wait : Wait)
  | leave
  | start
  | finishBody
  | finish
  | abort
  | discard
  | dropField (thread : Thread)

/-- The handler takes the publication lock or has it. -/
def Move.selects : Move → Bool
  | .submit _ => true
  | .acquire => true
  | .contend => true
  | .clear => true
  | .publish => true
  | .pin => true
  | _ => false

/-- One action inside of a blocking closure: that of an execution, then that of a probe, then the
look at the published selection, which a read and a probe have, and the end of a read. -/
inductive Work where
  | insert (phase : OperationState)
  | acknowledge (decision : ServiceAdmission)
  | recordStop (result : Except ServiceError ServiceStop)
  | unwind
  | report
  | unmark
  | probe (fault : Option ServiceError)
  | poisoned
  | decide
  | unpin
  | look (id : Text)
  | upgrade
  | inspect
  | letGo
  | miss
  | unlock
  | finishRead

/-- One action of one thread. -/
inductive Act where
  | accept
  | stop
  | drain
  | awaitJob
  | drained
  | release (thread : Thread)
  | move (c : ℕ) (move : Move)
  | work (c : ℕ) (work : Work)

/-! ## What an action does -/

/-- `record_stop`. -/
def recordStop (stopped : List (Text × ExecutionObservation)) (id : Text)
    (result : Except ServiceError ServiceStop) : List (Text × ExecutionObservation) :=
  let others := stopped.filter (·.1 ≠ id)
  (if others.length = 32 then others.tail else others) ++ [(id, ServiceStop.observation result)]

/-- What `observation` finds in the stopped queue. -/
def stoppedObservation (stopped : List (Text × ExecutionObservation)) (id : Text) :
    ExecutionObservation :=
  match stopped.find? fun entry => entry.1 = id with
  | some entry => entry.2
  | none => .unknown

namespace ServerState

/-- What `observation` says of the published selection. -/
def selectionObservation (s : ServerState) (n : ℕ) (id : Text) : ExecutionObservation :=
  if s.id n = id && (s.connection n).running then .active else .otherWorker

/-- The selection that a probe has pinned is about its own identity. -/
def pinnedMatches (s : ServerState) (c : ℕ) : Option Bool :=
  ((s.stage c).selection c).map fun n => s.id n = s.id c

/-- A probe has looked at the published selection; a read does not keep what it saw. -/
def compare (s : ServerState) (c : ℕ) (found : Bool) : ServerState :=
  match (s.stage c).closure with
  | some (_, .probed retained) => s.setBody c (.compared retained (some found))
  | _ => s

/-- The connection goes on in one thread, and where that is the one of the runtime, so does that. -/
def goOn (s : ServerState) (c : ℕ) (thread : Thread) (stage : Stage) : ServerState :=
  match thread with
  | .runtime => s.turn c stage
  | .closure _ => s.setStage c stage

/-- The next field of a lease is dropped by its last holder.  The permit of the connection is
returned where the handler has returned too. -/
def dropField (s : ServerState) (c : ℕ) (thread : Thread) : ServerState :=
  let dropped := s.goOn c thread ((s.stage c).mapJob Job.dropField)
  match (s.stage c).job.bind Job.field with
  | some .connection => { dropped with
      connections := s.connections + if (s.stage c).handled then 0 else 1 }
  | some .execution => dropped.settle thread
  | _ => dropped

/-- A closure is dropped without having run.  That of an execution has the marker of its
selection. -/
def dropWork (s : ServerState) (c : ℕ) : ServerState :=
  let marked := if (s.stage c).kind = some .execute then s.setRunning c false else s
  (marked.setStage c (s.stage c).dropWork).settle .runtime

/-- The state after an action of a connection. -/
def moved (s : ServerState) (c : ℕ) : Move → ServerState
  | .dismiss => s.turn c (.dismissed false)
  | .read => s.turn c (.registering .read)
  | .submit id =>
      { (s.setConnection c { s.connection c with id := id }).turn c .selecting with
        lock := .handler c }
  | .acquire => { (s.setRunning c true).turn c .clearing with submission := some c }
  | .contend => s.turn c .pinning
  | .clear => { s.turn c .publishing with stopped := s.stopped.filter (·.1 ≠ s.id c) }
  | .publish => { s.turn c (.registering .execute) with selected := some c, lock := .free }
  | .pin => { s.turn c (.registering (.probe s.upgrade)) with lock := .free }
  | .register => { s.turn c (s.stage c).register with registry := s.retained ++ [c] }
  | .refuse => { s.turn c (s.stage c).refuse with registry := s.retained }
  | .dropExecution => (s.setStage c (s.stage c).dropExecution).settle .runtime
  | .dropWork => s.dropWork c
  | .fail => s.turn c (.dismissed false)
  | .answer _ => s.setStage c (s.stage c).answer
  | .leave => { s.setStage c (s.stage c).leave with
      connections := s.connections + if (s.stage c).job.any Job.holdsConnection then 0 else 1 }
  | .start => s.setStage c ((s.stage c).mapJob Job.start)
  | .finishBody => s.setStage c ((s.stage c).mapJob Job.finishBody)
  | .finish => s.turn c ((s.stage c).mapJob Job.finish)
  | .abort => s.turn c ((s.stage c).mapJob Job.abort)
  | .discard => s.turn c ((s.stage c).mapJob Job.discard)
  | .dropField thread => s.dropField c thread

/-- The state after the closure of a connection has gone on. -/
def worked (s : ServerState) (c : ℕ) : Work → ServerState
  | .insert phase => { s with rows := Function.update s.rows (s.id c) (some phase) }
  | .acknowledge decision => s.send c (.admission (.decided decision))
  | .recordStop result => { s.setBody c (.recorded result) with
      stopped := Runtime.recordStop s.stopped (s.id c) result }
  | .unwind => s.setBody c .reported
  | .report =>
      match (s.stage c).closure with
      | some (_, .recorded result) =>
          (s.send c ((s.connection c).channel.getD (.admission (unacknowledged result)))).setBody c
            .reported
      | _ => s
  | .unmark => (s.setRunning c false).setBody c .ended
  | .probe fault => s.setBody c (.probed (match fault with
      | some error => .error error
      | none => .ok (s.rows (s.id c))))
  | .poisoned =>
      match (s.stage c).closure with
      | some (_, .probed retained) => s.setBody c (.compared retained none)
      | _ => s
  | .decide =>
      match (s.stage c).closure with
      | some (_, .compared retained current) =>
          (s.send c (.admission (contendedAdmission retained (s.pinnedMatches c) current))).setBody c
            .decided
      | _ => s
  | .unpin => (s.setBody c .ended).settle (.closure c)
  | .look id => { s with lock := .looking c id }
  | .upgrade =>
      match s.lock with
      | .looking _ id => { s with lock := match s.upgrade with
          | some n => .holding c id n
          | none => .missing c id }
      | _ => s
  | .inspect =>
      match s.lock with
      | .holding _ id n => { s.compare c (s.id n = id) with lock := .held c n }
      | _ => s
  | .letGo => { s with lock := .unlocking c }.settle (.closure c)
  | .miss => { s.compare c false with lock := .unlocking c }
  | .unlock => { s with lock := .free }
  | .finishRead => (s.send c .page).setBody c .ended

/-- The state after an action. -/
def next (s : ServerState) : Act → ServerState
  | .accept => { s.setConnection s.accepted ⟨[], .receiving, false, none⟩ with
      accepted := s.accepted + 1, connections := s.connections - 1 }
  | .stop => { s with serving := .stopping }
  | .drain => { s with serving := .draining s.registry, registry := [] }
  | .awaitJob =>
      match s.serving with
      | .draining (_ :: jobs) => { s with serving := .draining jobs }
      | _ => s
  | .drained => { s with serving := .drained }
  | .release _ => { s with submission := none, releasing := none }
  | .move c move => s.moved c move
  | .work c work => s.worked c work

/-! ## When an action can be taken -/

/-- The runtime can poll something. -/
def Idle (s : ServerState) : Prop := s.busy = none ∧ s.releasing ≠ some .runtime

/-- The closure of a connection is here, and neither drops a selection nor has the lock. -/
def At (s : ServerState) (c : ℕ) (kind : Kind) (body : Body) : Prop :=
  (s.stage c).closure = some (kind, body) ∧ s.releasing ≠ some (.closure c) ∧ s.lock.closure ≠ some c

/-- The connection can go on so. -/
def CanMove (s : ServerState) (c : ℕ) : Move → Prop
  | .dismiss => s.Idle ∧ s.stage c = .receiving
  | .read => s.Idle ∧ s.stage c = .receiving
  | .submit _ => s.Idle ∧ s.stage c = .receiving ∧ s.lock = .free
  | .acquire => s.stage c = .selecting ∧ s.submission = none
  | .contend => s.stage c = .selecting ∧ s.submission ≠ none
  | .clear => s.stage c = .clearing
  | .publish => s.stage c = .publishing
  | .pin => s.stage c = .pinning
  | .register => (∃ kind, s.stage c = .registering kind) ∧ s.retained.length < connectionsMax
  | .refuse => (∃ kind, s.stage c = .registering kind) ∧ connectionsMax ≤ s.retained.length
  | .dropExecution => s.releasing ≠ some .runtime ∧
      ∃ kind work, s.stage c = .refused kind true work
  | .dropWork => s.releasing ≠ some .runtime ∧
      ((∃ kind execution, s.stage c = .refused kind execution true) ∨
        ∃ handler kind field, s.stage c = .serving handler kind (.discarded field true))
  | .fail => s.releasing ≠ some .runtime ∧ ∃ kind, s.stage c = .refused kind false false
  | .answer wait => s.Idle ∧ ∃ kind job, s.stage c = .serving .waiting kind job ∧
      match wait with
      | .received reply => (s.connection c).channel = some reply
      | .lost => (s.connection c).channel = none ∧ job.senderGone = true
      | .expired => True
  | .leave => s.Idle ∧
      ((∃ kind job, s.stage c = .serving .answered kind job) ∨ s.stage c = .dismissed false)
  | .start => s.Idle ∧ ∃ handler kind, s.stage c = .serving handler kind .spawned
  | .finishBody => ∃ kind, s.At c kind .ended
  | .finish => s.Idle ∧ ∃ handler kind, s.stage c = .serving handler kind .returned
  | .abort => s.Idle ∧ ∃ handler kind job, s.stage c = .serving handler kind job ∧
      (job = .spawned ∨ (∃ body, job = .running body true) ∨ job = .returned)
  | .discard => s.releasing ≠ some .runtime ∧
      ∃ handler kind, s.stage c = .serving handler kind (.discarded none false)
  | .dropField thread => s.releasing ≠ some thread ∧
      ∃ handler kind job, s.stage c = .serving handler kind job ∧ job.dropper c = some thread

/-- The closure of the connection can go on so. -/
def CanWork (s : ServerState) (c : ℕ) : Work → Prop
  | .insert _ => s.At c .execute .started
  | .acknowledge _ => s.At c .execute .started ∧ (s.connection c).channel = none
  | .recordStop _ => s.At c .execute .started
  | .unwind => s.At c .execute .started
  | .report => ∃ result, s.At c .execute (.recorded result)
  | .unmark => s.At c .execute .reported
  | .probe _ => ∃ pin, s.At c (.probe pin) .started
  | .poisoned => ∃ pin retained, s.At c (.probe pin) (.probed retained)
  | .decide => ∃ pin retained current, s.At c (.probe pin) (.compared retained current)
  | .unpin => ∃ pin, s.At c (.probe pin) .decided
  | .look id => s.lock = .free ∧ (s.At c .read .started ∨
      (∃ pin retained, s.At c (.probe pin) (.probed retained)) ∧ id = s.id c)
  | .upgrade => ∃ id, s.lock = .looking c id
  | .inspect => ∃ id n, s.lock = .holding c id n
  | .letGo => ∃ n, s.lock = .held c n
  | .miss => ∃ id, s.lock = .missing c id
  | .unlock => s.releasing ≠ some (.closure c) ∧ s.lock = .unlocking c
  | .finishRead => s.At c .read .started

/-- The action can be taken. -/
def Enabled (s : ServerState) : Act → Prop
  | .accept => s.Idle ∧ s.serving = .accepting ∧ 0 < s.connections
  | .stop => s.Idle ∧ s.serving = .accepting
  | .drain => s.Idle ∧ s.serving = .stopping ∧ ∀ c < s.accepted, (s.stage c).handled = false
  | .awaitJob => s.Idle ∧ ∃ c jobs, s.serving = .draining (c :: jobs) ∧
      (s.stage c).job.any Job.retained = false
  | .drained => s.Idle ∧ s.serving = .draining []
  | .release thread => s.releasing = some thread
  | .move c move => s.CanMove c move
  | .work c work => s.CanWork c work

/-! ## What an action leaves alone -/

section
variable {s s' : ServerState} {c n : ℕ} {thread : Thread} {stage : Stage} {connection : Connection}

@[simp] theorem connection_setConnection_self :
    (s.setConnection c connection).connection c = connection := by
  simp [setConnection]

theorem connection_setConnection_of_ne (h : n ≠ c) :
    (s.setConnection c connection).connection n = s.connection n := by
  simp [setConnection, h]

@[simp] theorem connection_setStage_self :
    (s.setStage c stage).connection c = { s.connection c with stage := stage } :=
  connection_setConnection_self

@[simp] theorem connection_turn_self :
    (s.turn c stage).connection c = { s.connection c with stage := stage } :=
  connection_setConnection_self

@[simp] theorem stage_setStage_self : (s.setStage c stage).stage c = stage := by
  simp [ServerState.stage]

@[simp] theorem stage_turn_self : (s.turn c stage).stage c = stage := by
  simp [ServerState.stage]

@[simp] theorem stage_setRunning {running : Bool} : (s.setRunning c running).stage = s.stage := by
  funext n
  by_cases h : n = c
  · simp [ServerState.stage, setRunning, h]
  · simp [ServerState.stage, setRunning, connection_setConnection_of_ne h]

@[simp] theorem stage_send {reply : Reply} : (s.send c reply).stage = s.stage := by
  funext n
  by_cases h : n = c
  · simp [ServerState.stage, send, h]
  · simp [ServerState.stage, send, connection_setConnection_of_ne h]

/-- To drop a reference is at most to begin to drop the selection. -/
theorem settle_eq (s : ServerState) (thread : Thread) :
    ∃ releasing, s.settle thread = { s with releasing := releasing } := by
  unfold settle
  split
  · split
    · exact ⟨_, rfl⟩
    · exact ⟨_, rfl⟩
  · exact ⟨_, rfl⟩

@[simp] theorem connection_settle : (s.settle thread).connection = s.connection := by
  obtain ⟨releasing, h⟩ := s.settle_eq thread
  rw [h]

@[simp] theorem stage_settle : (s.settle thread).stage = s.stage := by
  funext n
  simp [ServerState.stage]

@[simp] theorem accepted_settle : (s.settle thread).accepted = s.accepted := by
  obtain ⟨releasing, h⟩ := s.settle_eq thread
  rw [h]

@[simp] theorem connections_settle : (s.settle thread).connections = s.connections := by
  obtain ⟨releasing, h⟩ := s.settle_eq thread
  rw [h]

@[simp] theorem submission_settle : (s.settle thread).submission = s.submission := by
  obtain ⟨releasing, h⟩ := s.settle_eq thread
  rw [h]

@[simp] theorem selected_settle : (s.settle thread).selected = s.selected := by
  obtain ⟨releasing, h⟩ := s.settle_eq thread
  rw [h]

@[simp] theorem lock_settle : (s.settle thread).lock = s.lock := by
  obtain ⟨releasing, h⟩ := s.settle_eq thread
  rw [h]

@[simp] theorem busy_settle : (s.settle thread).busy = s.busy := by
  obtain ⟨releasing, h⟩ := s.settle_eq thread
  rw [h]

@[simp] theorem stopped_settle : (s.settle thread).stopped = s.stopped := by
  obtain ⟨releasing, h⟩ := s.settle_eq thread
  rw [h]

@[simp] theorem registry_settle : (s.settle thread).registry = s.registry := by
  obtain ⟨releasing, h⟩ := s.settle_eq thread
  rw [h]

@[simp] theorem serving_settle : (s.settle thread).serving = s.serving := by
  obtain ⟨releasing, h⟩ := s.settle_eq thread
  rw [h]

/-- The other connections, and how far the accept loop is. -/
structure Framed (s s' : ServerState) (c : ℕ) : Prop where
  others : ∀ n ≠ c, s'.connection n = s.connection n
  accepted : s'.accepted = s.accepted
  serving : s'.serving = s.serving

theorem Framed.settle (h : Framed s s' c) : Framed s (s'.settle thread) c :=
  ⟨by simpa using h.others, by simpa using h.accepted, by simpa using h.serving⟩

theorem Framed.goOn : Framed s (s.goOn c thread stage) c := by
  cases thread with
  | runtime => exact ⟨fun n h => connection_setConnection_of_ne h, rfl, rfl⟩
  | closure d => exact ⟨fun n h => connection_setConnection_of_ne h, rfl, rfl⟩

theorem Framed.dropField : Framed s (s.dropField c thread) c := by
  have frame : Framed s (s.goOn c thread ((s.stage c).mapJob Job.dropField)) c := .goOn
  unfold ServerState.dropField
  split
  · exact ⟨frame.others, frame.accepted, frame.serving⟩
  · exact frame.settle
  · exact frame

theorem Framed.dropWork : Framed s (s.dropWork c) c := by
  refine Framed.settle ?_
  split
  · exact ⟨fun n h => by simp [setRunning, setStage, connection_setConnection_of_ne h], rfl, rfl⟩
  · exact ⟨fun n h => connection_setConnection_of_ne h, rfl, rfl⟩

/-- What a move of a connection leaves alone. -/
theorem framed_moved (s : ServerState) (c : ℕ) (move : Move) : Framed s (s.moved c move) c := by
  cases move with
  | submit id =>
    exact ⟨fun n h => by simp [moved, turn, setStage, connection_setConnection_of_ne h], rfl, rfl⟩
  | acquire =>
    exact ⟨fun n h => by simp [moved, turn, setRunning, setStage, connection_setConnection_of_ne h],
      rfl, rfl⟩
  | dropExecution => exact Framed.settle ⟨fun n h => connection_setConnection_of_ne h, rfl, rfl⟩
  | dropWork => exact .dropWork
  | dropField thread => exact .dropField
  | _ => exact ⟨fun n h => connection_setConnection_of_ne h, rfl, rfl⟩

/-- The identity, the permit, what is published and the queue stay as they are. -/
structure Still (s s' : ServerState) (c : ℕ) : Prop where
  id : s'.id c = s.id c
  submission : s'.submission = s.submission
  selected : s'.selected = s.selected
  lock : s'.lock = s.lock
  stopped : s'.stopped = s.stopped

theorem Still.settle (h : Still s s' c) : Still s (s'.settle thread) c :=
  ⟨by simpa [ServerState.id] using h.id, by simpa using h.submission, by simpa using h.selected,
    by simpa using h.lock, by simpa using h.stopped⟩

theorem Still.turn : Still s (s.turn c stage) c :=
  ⟨by simp [ServerState.id], rfl, rfl, rfl, rfl⟩

theorem Still.setStage : Still s (s.setStage c stage) c :=
  ⟨by simp [ServerState.id], rfl, rfl, rfl, rfl⟩

theorem Still.dropField : Still s (s.dropField c thread) c := by
  have gone : Still s (s.goOn c thread ((s.stage c).mapJob Job.dropField)) c := by
    cases thread with
    | runtime => exact .turn
    | closure d => exact .setStage
  unfold ServerState.dropField
  split
  · exact ⟨gone.id, gone.submission, gone.selected, gone.lock, gone.stopped⟩
  · exact gone.settle
  · exact gone

theorem Still.dropWork : Still s (s.dropWork c) c := by
  refine Still.settle ?_
  split
  · exact ⟨by simp [ServerState.id, setRunning], rfl, rfl, rfl, rfl⟩
  · exact .setStage

theorem still_moved {move : Move} (h : move.selects = false) : Still s (s.moved c move) c := by
  cases move with
  | submit id => cases h
  | acquire => cases h
  | contend => cases h
  | clear => cases h
  | publish => cases h
  | pin => cases h
  | dropExecution => exact Still.setStage.settle
  | dropWork => exact .dropWork
  | dropField thread => exact .dropField
  | register => exact ⟨Still.turn.id, rfl, rfl, rfl, rfl⟩
  | refuse => exact ⟨Still.turn.id, rfl, rfl, rfl, rfl⟩
  | leave => exact ⟨Still.setStage.id, rfl, rfl, rfl, rfl⟩
  | _ => first
    | exact .turn
    | exact .setStage

/-- How a move takes a connection from one stage to the next; `upgraded` is what a pin finds. -/
inductive Passage (upgraded : Option ℕ) : Move → Stage → Stage → Prop
  | dismiss : Passage upgraded .dismiss .receiving (.dismissed false)
  | read : Passage upgraded .read .receiving (.registering .read)
  | submit (id : Text) : Passage upgraded (.submit id) .receiving .selecting
  | acquire : Passage upgraded .acquire .selecting .clearing
  | contend : Passage upgraded .contend .selecting .pinning
  | clear : Passage upgraded .clear .clearing .publishing
  | publish : Passage upgraded .publish .publishing (.registering .execute)
  | pin : Passage upgraded .pin .pinning (.registering (.probe upgraded))
  | register (kind : Kind) :
      Passage upgraded .register (.registering kind) (.serving .waiting kind .spawned)
  | refuse (kind : Kind) : Passage upgraded .refuse (.registering kind) (.refused kind true true)
  | dropExecution (kind : Kind) (work : Bool) :
      Passage upgraded .dropExecution (.refused kind true work) (.refused kind false work)
  | dropRefusedWork (kind : Kind) (execution : Bool) :
      Passage upgraded .dropWork (.refused kind execution true) (.refused kind execution false)
  | dropWork (handler : Handler) (kind : Kind) (field : Option Field) :
      Passage upgraded .dropWork (.serving handler kind (.discarded field true))
        (.serving handler kind (.discarded field false))
  | fail (kind : Kind) : Passage upgraded .fail (.refused kind false false) (.dismissed false)
  | answer (wait : Wait) (kind : Kind) (job : Job) :
      Passage upgraded (.answer wait) (.serving .waiting kind job) (.serving .answered kind job)
  | leave (kind : Kind) (job : Job) :
      Passage upgraded .leave (.serving .answered kind job) (.serving .returned kind job)
  | leaveDismissed : Passage upgraded .leave (.dismissed false) (.dismissed true)
  | start (handler : Handler) (kind : Kind) :
      Passage upgraded .start (.serving handler kind .spawned)
        (.serving handler kind (.running .started true))
  | finishBody (handler : Handler) (kind : Kind) :
      Passage upgraded .finishBody (.serving handler kind (.running .ended true))
        (.serving handler kind .returned)
  | finishBodyAborted (handler : Handler) (kind : Kind) :
      Passage upgraded .finishBody (.serving handler kind (.running .ended false))
        (.serving handler kind (.retiring .connection false))
  | finish (handler : Handler) (kind : Kind) :
      Passage upgraded .finish (.serving handler kind .returned)
        (.serving handler kind (.retiring .connection true))
  | abortSpawned (handler : Handler) (kind : Kind) :
      Passage upgraded .abort (.serving handler kind .spawned)
        (.serving handler kind (.discarded (some .connection) true))
  | abortRunning (handler : Handler) (kind : Kind) (body : Body) :
      Passage upgraded .abort (.serving handler kind (.running body true))
        (.serving handler kind (.running body false))
  | abortReturned (handler : Handler) (kind : Kind) :
      Passage upgraded .abort (.serving handler kind .returned)
        (.serving handler kind (.retiring .connection true))
  | discard (handler : Handler) (kind : Kind) :
      Passage upgraded .discard (.serving handler kind (.discarded none false))
        (.serving handler kind .retired)
  | dropField (handler : Handler) (kind : Kind) (job : Job) (thread : Thread) (field : Field) :
      job.field = some field → Passage upgraded (.dropField thread) (.serving handler kind job)
        (.serving handler kind job.dropField)

theorem stage_dropField : (s.dropField c thread).stage c = (s.stage c).mapJob Job.dropField := by
  have gone : (s.goOn c thread ((s.stage c).mapJob Job.dropField)).stage c =
      (s.stage c).mapJob Job.dropField := by
    cases thread with
    | runtime => exact stage_turn_self
    | closure d => exact stage_setStage_self
  unfold dropField
  split
  · exact gone
  · rw [stage_settle]
    exact gone
  · exact gone

theorem stage_dropWork : (s.dropWork c).stage c = (s.stage c).dropWork := by
  unfold dropWork
  rw [stage_settle]
  exact stage_setStage_self

theorem Job.field_of_dropper {job : Job} (h : job.dropper c = some thread) :
    ∃ field, job.field = some field := by
  rcases job with _ | _ | _ | ⟨field, _⟩ | ⟨_ | field, _⟩ | _
  case retiring => exact ⟨field, rfl⟩
  case discarded.some => exact ⟨field, rfl⟩
  all_goals cases h

/-- **What a move does to its connection.** -/
theorem passage_moved {move : Move} (can : s.CanMove c move) :
    Passage s.upgrade move (s.stage c) ((s.moved c move).stage c) := by
  cases move with
  | dismiss =>
    rw [can.2, moved, stage_turn_self]
    exact .dismiss
  | read =>
    rw [can.2, moved, stage_turn_self]
    exact .read
  | submit id =>
    have after : (s.moved c (.submit id)).stage c = .selecting :=
      stage_turn_self (s := s.setConnection c { s.connection c with id := id })
    rw [can.2.1, after]
    exact .submit id
  | acquire =>
    have after : (s.moved c .acquire).stage c = .clearing :=
      stage_turn_self (s := s.setRunning c true)
    rw [can.1, after]
    exact .acquire
  | contend =>
    rw [can.1, moved, stage_turn_self]
    exact .contend
  | clear =>
    have hs : s.stage c = .clearing := can
    have after : (s.moved c .clear).stage c = .publishing := stage_turn_self (s := s)
    rw [hs, after]
    exact .clear
  | publish =>
    have hs : s.stage c = .publishing := can
    have after : (s.moved c .publish).stage c = .registering .execute := stage_turn_self (s := s)
    rw [hs, after]
    exact .publish
  | pin =>
    have hs : s.stage c = .pinning := can
    have after : (s.moved c .pin).stage c = .registering (.probe s.upgrade) :=
      stage_turn_self (s := s)
    rw [hs, after]
    exact .pin
  | register =>
    obtain ⟨⟨kind, hs⟩, -⟩ := can
    have after : (s.moved c .register).stage c = (s.stage c).register := stage_turn_self (s := s)
    rw [after, hs]
    exact .register kind
  | refuse =>
    obtain ⟨⟨kind, hs⟩, -⟩ := can
    have after : (s.moved c .refuse).stage c = (s.stage c).refuse := stage_turn_self (s := s)
    rw [after, hs]
    exact .refuse kind
  | dropExecution =>
    obtain ⟨-, kind, work, hs⟩ := can
    rw [moved, stage_settle, stage_setStage_self, hs]
    exact .dropExecution kind work
  | dropWork =>
    rw [moved, stage_dropWork]
    rcases can with ⟨-, ⟨kind, execution, hs⟩ | ⟨handler, kind, field, hs⟩⟩
    · rw [hs]
      exact .dropRefusedWork kind execution
    · rw [hs]
      exact .dropWork handler kind field
  | fail =>
    obtain ⟨-, kind, hs⟩ := can
    rw [moved, stage_turn_self, hs]
    exact .fail kind
  | answer wait =>
    obtain ⟨-, kind, job, hs, -⟩ := can
    rw [moved, stage_setStage_self, hs]
    exact .answer wait kind job
  | leave =>
    have after : (s.moved c .leave).stage c = (s.stage c).leave := stage_setStage_self (s := s)
    rw [after]
    obtain ⟨-, ⟨kind, job, hs⟩ | hs⟩ := can
    · rw [hs]
      exact .leave kind job
    · rw [hs]
      exact .leaveDismissed
  | start =>
    obtain ⟨-, handler, kind, hs⟩ := can
    rw [moved, stage_setStage_self, hs]
    exact .start handler kind
  | finishBody =>
    obtain ⟨kind, hc, -⟩ := can
    obtain ⟨handler, supervised, hs⟩ := Stage.closure_eq_some.mp hc
    rw [moved, stage_setStage_self, hs]
    cases supervised with
    | true => exact .finishBody handler kind
    | false => exact .finishBodyAborted handler kind
  | finish =>
    obtain ⟨-, handler, kind, hs⟩ := can
    rw [moved, stage_turn_self, hs]
    exact .finish handler kind
  | abort =>
    obtain ⟨-, handler, kind, job, hs, hj⟩ := can
    rw [moved, stage_turn_self, hs]
    rcases hj with rfl | ⟨body, rfl⟩ | rfl
    · exact .abortSpawned handler kind
    · exact .abortRunning handler kind body
    · exact .abortReturned handler kind
  | discard =>
    obtain ⟨-, handler, kind, hs⟩ := can
    rw [moved, stage_turn_self, hs]
    exact .discard handler kind
  | dropField thread =>
    obtain ⟨-, handler, kind, job, hs, ht⟩ := can
    obtain ⟨field, hf⟩ := Job.field_of_dropper ht
    rw [moved, stage_dropField, hs]
    exact .dropField handler kind job thread field hf

/-- A job keeps its kind. -/
theorem serving_of_passage {upgraded : Option ℕ} {move : Move} {handler : Handler} {kind : Kind}
    {job : Job} (p : Passage upgraded move (.serving handler kind job) stage) :
    ∃ handler' job', stage = .serving handler' kind job' := by
  cases p <;> exact ⟨_, _, rfl⟩

/-- What the work of a closure leaves alone. -/
structure Worked (s s' : ServerState) (c : ℕ) : Prop extends Framed s s' c where
  connections : s'.connections = s.connections
  submission : s'.submission = s.submission
  selected : s'.selected = s.selected
  busy : s'.busy = s.busy
  registry : s'.registry = s.registry
  id : s'.id c = s.id c
  stage : s'.stage c = s.stage c ∨
    ∃ body, body ≠ .started ∧ s'.stage c = (s.stage c).mapJob (Job.setBody body)

theorem Worked.refl : Worked s s c :=
  ⟨⟨fun _ _ => rfl, rfl, rfl⟩, rfl, rfl, rfl, rfl, rfl, rfl, .inl rfl⟩

theorem Worked.setBody (body : Body) (h : body ≠ .started) : Worked s (s.setBody c body) c :=
  ⟨⟨fun n h => connection_setConnection_of_ne h, rfl, rfl⟩, rfl, rfl, rfl, rfl, rfl,
    by simp [ServerState.id, ServerState.setBody], .inr ⟨body, h, by simp [ServerState.setBody]⟩⟩

theorem Worked.send {reply : Reply} : Worked s (s.send c reply) c :=
  ⟨⟨fun n h => connection_setConnection_of_ne h, rfl, rfl⟩, rfl, rfl, rfl, rfl, rfl,
    by simp [ServerState.id, ServerState.send], .inl (by simp)⟩

theorem Worked.setRunning {running : Bool} : Worked s (s.setRunning c running) c :=
  ⟨⟨fun n h => connection_setConnection_of_ne h, rfl, rfl⟩, rfl, rfl, rfl, rfl, rfl,
    by simp [ServerState.id, ServerState.setRunning], .inl (by simp)⟩

theorem Worked.compare {found : Bool} : Worked s (s.compare c found) c := by
  unfold ServerState.compare
  split
  · exact .setBody _ nofun
  · exact .refl

theorem Worked.trans {s'' : ServerState} (h : Worked s s' c) (h' : Worked s' s'' c) :
    Worked s s'' c where
  others n hn := (h'.others n hn).trans (h.others n hn)
  accepted := h'.accepted.trans h.accepted
  serving := h'.serving.trans h.serving
  connections := h'.connections.trans h.connections
  submission := h'.submission.trans h.submission
  selected := h'.selected.trans h.selected
  busy := h'.busy.trans h.busy
  registry := h'.registry.trans h.registry
  id := h'.id.trans h.id
  stage := by
    rcases h'.stage with e' | ⟨body', hb', e'⟩
    · rw [e']
      exact h.stage
    · rcases h.stage with e | ⟨body, -, e⟩
      · exact .inr ⟨body', hb', by rw [e', e]⟩
      · refine .inr ⟨body', hb', ?_⟩
        rw [e', e]
        exact Stage.mapJob_setBody_mapJob_setBody

/-- The lock, the queue and the journal are not what `Worked` is about. -/
theorem Worked.besides {lock : Lock} {stopped : List (Text × ExecutionObservation)}
    {rows : Text → Option OperationState} (h : Worked s s' c) :
    Worked s { s' with lock := lock, stopped := stopped, rows := rows } c :=
  ⟨⟨h.others, h.accepted, h.serving⟩, h.connections, h.submission, h.selected, h.busy, h.registry,
    h.id, h.stage⟩

theorem Worked.settle (h : Worked s s' c) : Worked s (s'.settle thread) c where
  toFramed := h.toFramed.settle
  connections := by simpa using h.connections
  submission := by simpa using h.submission
  selected := by simpa using h.selected
  busy := by simpa using h.busy
  registry := by simpa using h.registry
  id := by simpa [ServerState.id] using h.id
  stage := by simpa using h.stage

/-- What the work of a closure leaves alone. -/
theorem worked_worked (s : ServerState) (c : ℕ) (work : Work) : Worked s (s.worked c work) c := by
  cases work with
  | insert phase => exact Worked.refl.besides
  | acknowledge decision => exact .send
  | recordStop result => exact (Worked.setBody (.recorded result) nofun).besides
  | unwind => exact .setBody _ nofun
  | report =>
    simp only [worked]
    split
    · exact Worked.send.trans (.setBody _ nofun)
    · exact .refl
  | unmark => exact Worked.setRunning.trans (.setBody _ nofun)
  | probe fault => exact .setBody _ nofun
  | poisoned =>
    simp only [worked]
    split
    · exact .setBody _ nofun
    · exact .refl
  | decide =>
    simp only [worked]
    split
    · exact Worked.send.trans (.setBody _ nofun)
    · exact .refl
  | unpin => exact (Worked.setBody .ended nofun).settle
  | look id => exact Worked.refl.besides
  | upgrade =>
    simp only [worked]
    split
    · exact Worked.refl.besides
    · exact .refl
  | inspect =>
    simp only [worked]
    split
    · exact Worked.compare.besides
    · exact .refl
  | letGo => exact Worked.refl.besides.settle
  | miss => exact Worked.compare.besides
  | unlock => exact Worked.refl.besides
  | finishRead => exact Worked.send.trans (.setBody _ nofun)

/-- What an action does to a connection: nothing, or it is accepted, or it goes on by itself. -/
theorem connection_next (s : ServerState) (act : Act) (n : ℕ) :
    (s.next act).connection n = s.connection n ∨ (act = .accept ∧ n = s.accepted) ∨
      (∃ move, act = .move n move) ∨ ∃ work, act = .work n work := by
  cases act with
  | accept =>
    by_cases hn : n = s.accepted
    · exact .inr (.inl ⟨rfl, hn⟩)
    · exact .inl (connection_setConnection_of_ne hn)
  | awaitJob =>
    refine .inl ?_
    simp only [next]
    split <;> rfl
  | move c move =>
    by_cases hn : n = c
    · exact .inr (.inr (.inl ⟨move, hn ▸ rfl⟩))
    · exact .inl ((s.framed_moved c move).others n hn)
  | work c work =>
    by_cases hn : n = c
    · exact .inr (.inr (.inr ⟨work, hn ▸ rfl⟩))
    · exact .inl ((s.worked_worked c work).others n hn)
  | _ => exact .inl rfl

theorem connection_accept : (s.next .accept).connection s.accepted = ⟨[], .receiving, false, none⟩ :=
  connection_setConnection_self

section
variable {kind : Kind} {body : Body}

/-- A closure that works goes on to run. -/
theorem Worked.serving_stage (h : Worked s s' c) (hc : (s.stage c).closure = some (kind, body)) :
    ∃ handler supervised body', s.stage c = .serving handler kind (.running body supervised) ∧
      s'.stage c = .serving handler kind (.running body' supervised) ∧
        (body' = .started → body = .started) := by
  obtain ⟨handler, supervised, hs⟩ := Stage.closure_eq_some.mp hc
  rcases h.stage with e | ⟨body', hb, e⟩
  · exact ⟨handler, supervised, body, hs, e.trans hs, fun h => h⟩
  · refine ⟨handler, supervised, body', hs, ?_, fun h => absurd h hb⟩
    rw [e, hs]
    rfl

theorem Worked.busy_stage (h : Worked s s' c) (hc : (s.stage c).closure = some (kind, body)) :
    (s'.stage c).busy = (s.stage c).busy := by
  obtain ⟨handler, supervised, body', hs, hs', -⟩ := h.serving_stage hc
  rw [hs, hs']
  rfl

theorem Worked.locks_stage (h : Worked s s' c) (hc : (s.stage c).closure = some (kind, body)) :
    (s'.stage c).locks = (s.stage c).locks := by
  obtain ⟨handler, supervised, body', hs, hs', -⟩ := h.serving_stage hc
  rw [hs, hs']
  rfl

end

end

end ServerState

/-- What can happen in one process, over the rows that are retained when it starts. -/
def runtime (rows : Text → Option OperationState) : System ServerState Act where
  initial := .initial rows
  Enabled := ServerState.Enabled
  next := ServerState.next

end Runtime
end Daemon
end Kapsel
