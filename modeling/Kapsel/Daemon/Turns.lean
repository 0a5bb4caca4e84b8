import Kapsel.Daemon.Runtime

/-!
# Turns and the publication lock

At most one connection has the turn of the runtime, and what it does in its turn depends on nothing
that another handler could change meanwhile.  The publication lock is with one handler or one
closure, and the closure that has it is where it looks at the published selection.  The marker of a
selection is set only while the closure of its execution has not ended.

* `OrderlyAt` says so for one connection, and `Orderly` for all of them.
* `progress_worked`: what the work of a closure does to its body.
* `orderly_of_possible`: all that can happen is orderly.
-/

namespace Kapsel

open Grammar Authority Interaction

namespace Daemon
namespace Runtime

open Gateway Application

namespace Lock

/-- The connection whose handler or closure has the lock. -/
def owner : Lock → Option ℕ
  | free => none
  | handler c => some c
  | looking c _ => some c
  | holding c _ _ => some c
  | held c _ => some c
  | missing c _ => some c
  | unlocking c => some c

/-- The closure is about to look at the published selection, and a probe looks for its own
identity. -/
def Before (connection : Connection) (id : Text) : Prop :=
  connection.stage.closure = some (.read, .started) ∨
    (∃ pin retained, connection.stage.closure = some (.probe pin, .probed retained)) ∧
      id = connection.id

/-- The closure has looked. -/
def After (connection : Connection) : Prop :=
  connection.stage.closure = some (.read, .started) ∨
    ∃ pin retained current, connection.stage.closure = some (.probe pin, .compared retained current)

/-- The closure that has the lock is where it looks at the published selection. -/
def Fits (connection : Connection) : Lock → Prop
  | free => False
  | handler _ => False
  | looking _ id => Before connection id
  | holding _ id _ => Before connection id
  | missing _ id => Before connection id
  | held _ _ => After connection
  | unlocking _ => After connection

variable {lock : Lock} {connection connection' : Connection} {id : Text} {c : ℕ}

theorem owner_of_closure (h : lock.closure = some c) : lock.owner = some c := by
  cases lock with
  | free => cases h
  | handler d => cases h
  | _ => exact h

theorem Before.congr (h : Before connection id)
    (hclosure : connection'.stage.closure = connection.stage.closure)
    (hid : connection'.id = connection.id) : Before connection' id := by
  unfold Before
  rw [hclosure, hid]
  exact h

theorem After.congr (h : After connection)
    (hclosure : connection'.stage.closure = connection.stage.closure) : After connection' := by
  unfold After
  rw [hclosure]
  exact h

theorem Fits.congr (h : lock.Fits connection)
    (hclosure : connection'.stage.closure = connection.stage.closure)
    (hid : connection'.id = connection.id) : lock.Fits connection' := by
  cases lock with
  | free => exact h
  | handler d => exact h
  | looking d id => exact Before.congr h hclosure hid
  | holding d id n => exact Before.congr h hclosure hid
  | missing d id => exact Before.congr h hclosure hid
  | held d n => exact After.congr h hclosure
  | unlocking d => exact After.congr h hclosure

/-- A closure that looks at the published selection has not ended. -/
theorem Fits.closure (h : lock.Fits connection) :
    ∃ kind body, connection.stage.closure = some (kind, body) ∧ body ≠ .ended := by
  have before {id : Text} (h : Before connection id) :
      ∃ kind body, connection.stage.closure = some (kind, body) ∧ body ≠ .ended := by
    rcases h with h | ⟨⟨pin, retained, h⟩, -⟩
    · exact ⟨_, _, h, nofun⟩
    · exact ⟨_, _, h, nofun⟩
  have after (h : After connection) :
      ∃ kind body, connection.stage.closure = some (kind, body) ∧ body ≠ .ended := by
    rcases h with h | ⟨pin, retained, current, h⟩
    · exact ⟨_, _, h, nofun⟩
    · exact ⟨_, _, h, nofun⟩
  cases lock with
  | free => exact h.elim
  | handler d => exact h.elim
  | looking d id => exact before h
  | holding d id n => exact before h
  | missing d id => exact before h
  | held d n => exact after h
  | unlocking d => exact after h

end Lock

namespace ServerState

/-- The turn of a connection, its part in the lock, and its marker. -/
structure OrderlyAt (s : ServerState) (c : ℕ) : Prop where
  busy : (s.stage c).busy = true ↔ s.busy = some c
  locks : (s.stage c).locks = true ↔ s.lock = .handler c
  looks : s.lock.closure = some c → s.lock.Fits (s.connection c)
  marked : (s.connection c).running = true →
    (s.stage c).kind = some .execute ∧ (s.stage c).holdsWork = true

variable {s s' : ServerState} {c n : ℕ} {stage old : Stage} {move : Move} {work : Work}

/-! ## Closures -/

/-- How the work of a closure takes its body on; `found` is what a probe finds in the journal. -/
inductive Progress (found : Option OperationState) : Work → Kind → Body → Body → Prop
  | insert (phase : OperationState) : Progress found (.insert phase) .execute .started .started
  | acknowledge (decision : ServiceAdmission) :
      Progress found (.acknowledge decision) .execute .started .started
  | recordStop (result : Except ServiceError ServiceStop) :
      Progress found (.recordStop result) .execute .started (.recorded result)
  | unwind : Progress found .unwind .execute .started .reported
  | report (result : Except ServiceError ServiceStop) :
      Progress found .report .execute (.recorded result) .reported
  | unmark : Progress found .unmark .execute .reported .ended
  | probe (pin : Option ℕ) (fault : Option ServiceError) :
      Progress found (.probe fault) (.probe pin) .started (.probed (match fault with
        | some error => .error error
        | none => .ok found))
  | poisoned (pin : Option ℕ) (retained : Except ServiceError (Option OperationState)) :
      Progress found .poisoned (.probe pin) (.probed retained) (.compared retained none)
  | decide (pin : Option ℕ) (retained : Except ServiceError (Option OperationState))
      (current : Option Bool) :
      Progress found .decide (.probe pin) (.compared retained current) .decided
  | unpin (pin : Option ℕ) : Progress found .unpin (.probe pin) .decided .ended
  | look (id : Text) (kind : Kind) (body : Body) : Progress found (.look id) kind body body
  | upgrade (kind : Kind) (body : Body) : Progress found .upgrade kind body body
  | inspectRead : Progress found .inspect .read .started .started
  | inspect (pin : Option ℕ) (retained : Except ServiceError (Option OperationState))
      (current : Bool) :
      Progress found .inspect (.probe pin) (.probed retained) (.compared retained (some current))
  | letGo (kind : Kind) (body : Body) : Progress found .letGo kind body body
  | missRead : Progress found .miss .read .started .started
  | miss (pin : Option ℕ) (retained : Except ServiceError (Option OperationState)) :
      Progress found .miss (.probe pin) (.probed retained) (.compared retained (some false))
  | unlock (kind : Kind) (body : Body) : Progress found .unlock kind body body
  | finishRead : Progress found .finishRead .read .started .ended

/-- The closure of the connection goes on so. -/
def Progresses (s : ServerState) (c : ℕ) (work : Work) : Prop :=
  ∃ handler supervised kind body body', body ≠ .ended ∧
    s.stage c = .serving handler kind (.running body supervised) ∧
    (s.worked c work).stage c = .serving handler kind (.running body' supervised) ∧
    Progress (s.rows (s.id c)) work kind body body'

section
variable {kind : Kind} {body body' : Body}

theorem Progresses.of_setBody (hc : (s.stage c).closure = some (kind, body)) (hb : body ≠ .ended)
    (gone : (s.worked c work).stage c = (s.stage c).mapJob (Job.setBody body'))
    (p : Progress (s.rows (s.id c)) work kind body body') : s.Progresses c work := by
  obtain ⟨handler, supervised, hs⟩ := Stage.closure_eq_some.mp hc
  refine ⟨handler, supervised, kind, body, body', hb, hs, ?_, p⟩
  rw [gone, hs]
  rfl

theorem Progresses.of_same (hc : (s.stage c).closure = some (kind, body)) (hb : body ≠ .ended)
    (same : (s.worked c work).stage c = s.stage c)
    (p : Progress (s.rows (s.id c)) work kind body body) : s.Progresses c work := by
  obtain ⟨handler, supervised, hs⟩ := Stage.closure_eq_some.mp hc
  exact ⟨handler, supervised, kind, body, body, hb, hs, same.trans hs, p⟩

end

/-! ## One connection -/

namespace OrderlyAt

theorem closure_ne (h : s.OrderlyAt c) (hs : s.stage c = old) (hc : old.closure = none) :
    s.lock.closure ≠ some c := by
  intro hl
  obtain ⟨kind, body, hsome, -⟩ := (h.looks hl).closure
  have none : (s.stage c).closure = none := by rw [hs, hc]
  cases none.symm.trans hsome

/-- A closure that does not run does not look. -/
theorem quiet (h : s.OrderlyAt c) (hs : s.stage c = old) (hc : old.closure = none) :
    s.lock.closure = some c → stage.closure = old.closure :=
  fun hl => absurd hl (h.closure_ne hs hc)

/-- Only the connection, the turn and the lock count. -/
theorem congr (h : s.OrderlyAt c) (hc : s'.connection c = s.connection c) (hb : s'.busy = s.busy)
    (hl : s'.lock = s.lock) : s'.OrderlyAt c := by
  obtain ⟨busy, locks, looks, marked⟩ := h
  simp only [ServerState.stage, ← hc, ← hb, ← hl] at busy locks looks marked
  exact ⟨busy, locks, looks, marked⟩

/-- The connection goes on outside of its turn. -/
theorem setStage (h : s.OrderlyAt c) (stage : Stage) (hs : s.stage c = old) (hbusy : stage.busy = old.busy)
    (hlocks : stage.locks = old.locks)
    (hclosure : s.lock.closure = some c → stage.closure = old.closure)
    (hmarked : (s.connection c).running = true → old.kind = some .execute → old.holdsWork = true →
      stage.kind = some .execute ∧ stage.holdsWork = true) : (s.setStage c stage).OrderlyAt c where
  busy := by
    rw [stage_setStage_self, hbusy, ← hs]
    exact h.busy
  locks := by
    rw [stage_setStage_self, hlocks, ← hs]
    exact h.locks
  looks hl := by
    subst hs
    have same : stage.closure = (s.connection c).stage.closure := hclosure hl
    exact (h.looks hl).congr (by simpa using same) (by simp)
  marked hr := by
    have hr : (s.connection c).running = true := by simpa using hr
    subst hs
    rw [stage_setStage_self]
    exact hmarked hr (h.marked hr).1 (h.marked hr).2

/-- The connection goes on in its turn. -/
theorem turn (h : s.OrderlyAt c) (stage : Stage) (hs : s.stage c = old) (hlocks : stage.locks = old.locks)
    (hclosure : s.lock.closure = some c → stage.closure = old.closure)
    (hmarked : (s.connection c).running = true → old.kind = some .execute → old.holdsWork = true →
      stage.kind = some .execute ∧ stage.holdsWork = true) : (s.turn c stage).OrderlyAt c where
  busy := by
    rw [stage_turn_self, ServerState.turn]
    cases stage.busy with
    | false => simp
    | true => simp
  locks := by
    rw [stage_turn_self, hlocks, ← hs]
    exact h.locks
  looks hl := by
    subst hs
    have same : stage.closure = (s.connection c).stage.closure := hclosure hl
    exact (h.looks hl).congr (by simpa using same) (by simp)
  marked hr := by
    have hr : (s.connection c).running = true := by simpa using hr
    subst hs
    rw [stage_turn_self]
    exact hmarked hr (h.marked hr).1 (h.marked hr).2

/-- Only the closure of an execution has a marker. -/
theorem unmarked (h : s.OrderlyAt c) (hs : s.stage c = old) (hk : old.kind ≠ some .execute) :
    (s.connection c).running ≠ true := by
  intro hr
  subst hs
  exact hk (h.marked hr).1

/-- The connection takes the lock or gives it up in its turn. -/
theorem relock (stage : Stage) (hs : s'.stage c = stage) (hbusy : s'.busy = if stage.busy then some c else none)
    (hlocks : stage.locks = true ↔ s'.lock = .handler c) (hclosure : s'.lock.closure = none)
    (hmarked : (s'.connection c).running = true →
      stage.kind = some .execute ∧ stage.holdsWork = true) : s'.OrderlyAt c where
  busy := by
    rw [hs, hbusy]
    cases stage.busy with
    | false => simp
    | true => simp
  locks := by rwa [hs]
  looks hl := by
    rw [hclosure] at hl
    cases hl
  marked := by rwa [hs]

theorem setRunning (h : s.OrderlyAt c) : (s.setRunning c false).OrderlyAt c where
  busy := by
    rw [stage_setRunning]
    exact h.busy
  locks := by
    rw [stage_setRunning]
    exact h.locks
  looks hl := (h.looks hl).congr (by simp [ServerState.setRunning])
    (by simp [ServerState.setRunning])
  marked hr := by simp [ServerState.setRunning] at hr

theorem send {reply : Reply} (h : s.OrderlyAt c) : (s.send c reply).OrderlyAt c where
  busy := by
    rw [stage_send]
    exact h.busy
  locks := by
    rw [stage_send]
    exact h.locks
  looks hl := (h.looks hl).congr (by simp [ServerState.send]) (by simp [ServerState.send])
  marked hr := by
    rw [stage_send]
    exact h.marked (by simpa [ServerState.send] using hr)

theorem dropWork (h : s.OrderlyAt c) (hs : s.stage c = old) (hbusy : old.dropWork.busy = old.busy)
    (hlocks : old.dropWork.locks = old.locks) (hclosure : old.closure = none) :
    (s.dropWork c).OrderlyAt c := by
  unfold ServerState.dropWork
  rw [hs]
  split
  · next hk =>
    have hs' : (s.setRunning c false).stage c = old := by rw [stage_setRunning, hs]
    have dropped := h.setRunning.setStage _ hs' hbusy hlocks (h.quiet hs hclosure)
      (by simp [ServerState.setRunning])
    exact dropped.congr (by simp) (by simp) (by simp)
  · next hk =>
    have dropped := h.setStage _ hs hbusy hlocks (h.quiet hs hclosure)
      fun hr => absurd hr (h.unmarked hs hk)
    exact dropped.congr (by simp) (by simp) (by simp)

theorem dropField {thread : Thread} {handler : Handler} {kind : Kind} {job : Job} (h : s.OrderlyAt c)
    (hs : s.stage c = .serving handler kind job) (ht : job.dropper c = some thread) :
    (s.dropField c thread).OrderlyAt c := by
  have dropped : (s.goOn c thread ((s.stage c).mapJob Job.dropField)).OrderlyAt c := by
    rw [hs]
    rcases job with _ | _ | _ | ⟨_ | _ | _, _ | _⟩ | ⟨_ | _ | _ | _, work⟩ | _ <;> cases ht
    all_goals first
      | exact h.turn _ hs rfl (h.quiet hs rfl) fun _ hk hw => ⟨hk, hw⟩
      | exact h.setStage _ hs rfl rfl (h.quiet hs rfl) fun _ hk hw => ⟨hk, hw⟩
  unfold ServerState.dropField
  split
  · exact dropped.congr rfl rfl rfl
  · exact dropped.congr (by simp) (by simp) (by simp)
  · exact dropped

/-- A move of a connection keeps it orderly. -/
theorem moved (h : s.OrderlyAt c) (can : s.CanMove c move) : (s.moved c move).OrderlyAt c := by
  cases move with
  | dismiss =>
    obtain ⟨-, hs⟩ := can
    exact h.turn _ hs rfl (h.quiet hs rfl) (by rintro _ ⟨⟩)
  | read =>
    obtain ⟨-, hs⟩ := can
    exact h.turn _ hs rfl (h.quiet hs rfl) (by rintro _ ⟨⟩)
  | submit id =>
    obtain ⟨-, hs, -⟩ := can
    refine relock .selecting (by simp [ServerState.moved, ServerState.stage,
      ServerState.turn, ServerState.setStage]) rfl (by simp [ServerState.moved, Stage.locks]) rfl ?_
    intro hr
    have hr : (s.connection c).running = true := by
      simpa [ServerState.moved, ServerState.turn, ServerState.setStage] using hr
    exact absurd hr (h.unmarked hs (by rintro ⟨⟩))
  | acquire =>
    obtain ⟨hs, -⟩ := can
    have locked : s.lock = .handler c := by simpa [hs, Stage.locks] using h.locks
    have locked' : (s.moved c .acquire).lock = .handler c := locked
    exact relock .clearing (by simp [ServerState.moved, ServerState.stage,
      ServerState.turn]) rfl (by simp [locked', Stage.locks]) (by rw [locked']; rfl)
      fun _ => ⟨rfl, rfl⟩
  | contend =>
    obtain ⟨hs, -⟩ := can
    exact h.turn _ hs rfl (h.quiet hs rfl) (by rintro _ ⟨⟩)
  | clear =>
    have cleared := h.turn .publishing can rfl (h.quiet can rfl) fun _ _ _ => ⟨rfl, rfl⟩
    exact cleared.congr rfl rfl rfl
  | publish =>
    exact relock (.registering .execute) (by simp [ServerState.moved, ServerState.stage])
      rfl (by simp [ServerState.moved, Stage.locks]) rfl fun _ => ⟨rfl, rfl⟩
  | pin =>
    refine relock (.registering (.probe s.upgrade))
      (by simp [ServerState.moved, ServerState.stage]) rfl
      (by simp [ServerState.moved, Stage.locks]) rfl ?_
    intro hr
    have hr : (s.connection c).running = true := by simpa [ServerState.moved] using hr
    exact absurd hr (h.unmarked can (by rintro ⟨⟩))
  | register =>
    obtain ⟨⟨kind, hs⟩, -⟩ := can
    rw [ServerState.moved, hs]
    have registered := h.turn (.serving .waiting kind .spawned) hs rfl (h.quiet hs rfl)
      fun _ hk _ => ⟨hk, rfl⟩
    exact registered.congr rfl rfl rfl
  | refuse =>
    obtain ⟨⟨kind, hs⟩, -⟩ := can
    rw [ServerState.moved, hs]
    have refused := h.turn (.refused kind true true) hs rfl (h.quiet hs rfl)
      fun _ hk _ => ⟨hk, rfl⟩
    exact refused.congr rfl rfl rfl
  | dropExecution =>
    obtain ⟨-, kind, work, hs⟩ := can
    rw [ServerState.moved, hs]
    have dropped := h.setStage (.refused kind false work) hs rfl rfl (h.quiet hs rfl)
      fun _ hk hw => ⟨hk, hw⟩
    exact dropped.congr (by simp [Stage.dropExecution]) (by simp [Stage.dropExecution])
      (by simp [Stage.dropExecution])
  | dropWork =>
    rcases can with ⟨-, ⟨kind, execution, hs⟩ | ⟨handler, kind, field, hs⟩⟩
    · exact h.dropWork hs rfl rfl rfl
    · exact h.dropWork hs rfl rfl rfl
  | fail =>
    obtain ⟨-, kind, hs⟩ := can
    exact h.turn _ hs rfl (h.quiet hs rfl) (by rintro _ _ ⟨⟩)
  | answer wait =>
    obtain ⟨-, kind, job, hs, -⟩ := can
    rw [ServerState.moved, hs]
    exact h.setStage _ hs (by cases job <;> rfl) rfl (fun _ => by cases job <;> rfl)
      fun _ hk hw => ⟨hk, hw⟩
  | leave =>
    obtain ⟨-, ⟨kind, job, hs⟩ | hs⟩ := can
    · have left := h.setStage (.serving .returned kind job) hs (by cases job <;> rfl) rfl
        (fun _ => by cases job <;> rfl) fun _ hk hw => ⟨hk, hw⟩
      rw [ServerState.moved, hs]
      exact left.congr rfl rfl rfl
    · have left := h.setStage (.dismissed true) hs rfl rfl (h.quiet hs rfl) (by rintro _ ⟨⟩)
      rw [ServerState.moved, hs]
      exact left.congr rfl rfl rfl
  | start =>
    obtain ⟨-, handler, kind, hs⟩ := can
    rw [ServerState.moved, hs]
    exact h.setStage _ hs rfl rfl (h.quiet hs rfl) fun _ hk _ => ⟨hk, rfl⟩
  | finishBody =>
    obtain ⟨kind, hc, -, hl⟩ := can
    obtain ⟨handler, supervised, hs⟩ := Stage.closure_eq_some.mp hc
    rw [ServerState.moved, hs]
    cases supervised with
    | true => exact h.setStage _ hs rfl rfl (fun hlock => absurd hlock hl) (by rintro _ _ ⟨⟩)
    | false => exact h.setStage _ hs rfl rfl (fun hlock => absurd hlock hl) (by rintro _ _ ⟨⟩)
  | finish =>
    obtain ⟨-, handler, kind, hs⟩ := can
    rw [ServerState.moved, hs]
    exact h.turn _ hs rfl (h.quiet hs rfl) (by rintro _ _ ⟨⟩)
  | abort =>
    obtain ⟨-, handler, kind, job, hs, hj⟩ := can
    rw [ServerState.moved, hs]
    rcases hj with rfl | ⟨body, rfl⟩ | rfl
    · exact h.turn _ hs rfl (h.quiet hs rfl) fun _ hk _ => ⟨hk, rfl⟩
    · exact h.turn _ hs rfl (fun _ => rfl) fun _ hk hw => ⟨hk, hw⟩
    · exact h.turn _ hs rfl (h.quiet hs rfl) (by rintro _ _ ⟨⟩)
  | discard =>
    obtain ⟨-, handler, kind, hs⟩ := can
    rw [ServerState.moved, hs]
    exact h.turn _ hs rfl (h.quiet hs rfl) (by rintro _ _ ⟨⟩)
  | dropField thread =>
    obtain ⟨-, handler, kind, job, hs, ht⟩ := can
    exact h.dropField hs ht

theorem fits {lock : Lock} (h : s.OrderlyAt c) (hlock : s.lock = lock)
    (hc : lock.closure = some c) : lock.Fits (s.connection c) := by
  subst hlock
  exact h.looks hc

/-- The closure that goes on runs, and has not ended. -/
theorem closure_of_canWork (h : s.OrderlyAt c) (can : s.CanWork c work) :
    ∃ kind body, (s.stage c).closure = some (kind, body) ∧ body ≠ .ended := by
  cases work with
  | insert phase => exact ⟨_, _, can.1, nofun⟩
  | acknowledge decision => exact ⟨_, _, can.1.1, nofun⟩
  | recordStop result => exact ⟨_, _, can.1, nofun⟩
  | unwind => exact ⟨_, _, can.1, nofun⟩
  | report =>
    obtain ⟨result, hc, -⟩ := can
    exact ⟨_, _, hc, nofun⟩
  | unmark => exact ⟨_, _, can.1, nofun⟩
  | probe fault =>
    obtain ⟨pin, hc, -⟩ := can
    exact ⟨_, _, hc, nofun⟩
  | poisoned =>
    obtain ⟨pin, retained, hc, -⟩ := can
    exact ⟨_, _, hc, nofun⟩
  | decide =>
    obtain ⟨pin, retained, current, hc, -⟩ := can
    exact ⟨_, _, hc, nofun⟩
  | unpin =>
    obtain ⟨pin, hc, -⟩ := can
    exact ⟨_, _, hc, nofun⟩
  | look id =>
    rcases can with ⟨-, ⟨hc, -⟩ | ⟨⟨pin, retained, hc, -⟩, -⟩⟩
    · exact ⟨_, _, hc, nofun⟩
    · exact ⟨_, _, hc, nofun⟩
  | upgrade =>
    obtain ⟨id, hl⟩ := can
    exact (h.fits hl rfl).closure
  | inspect =>
    obtain ⟨id, n, hl⟩ := can
    exact (h.fits hl rfl).closure
  | letGo =>
    obtain ⟨n, hl⟩ := can
    exact (h.fits hl rfl).closure
  | miss =>
    obtain ⟨id, hl⟩ := can
    exact (h.fits hl rfl).closure
  | unlock => exact (h.fits can.2 rfl).closure
  | finishRead => exact ⟨_, _, can.1, nofun⟩

/-- **What the work of a closure does to its body.** -/
theorem progress_worked (h : s.OrderlyAt c) (can : s.CanWork c work) : s.Progresses c work := by
  cases work with
  | insert phase => exact .of_same can.1 (by rintro ⟨⟩) rfl (.insert phase)
  | acknowledge decision => exact .of_same can.1.1 (by rintro ⟨⟩) (by simp [ServerState.worked]) (.acknowledge decision)
  | recordStop result =>
    have gone : (s.setBody c (.recorded result)).stage c = _ := stage_setStage_self
    exact .of_setBody can.1 (by rintro ⟨⟩) gone (.recordStop result)
  | unwind => exact .of_setBody can.1 (by rintro ⟨⟩) stage_setStage_self .unwind
  | report =>
    obtain ⟨result, hc, -⟩ := can
    refine .of_setBody hc (by rintro ⟨⟩) ?_ (.report result)
    simp only [ServerState.worked, hc, setBody, stage_setStage_self, stage_send]
  | unmark =>
    refine .of_setBody can.1 (by rintro ⟨⟩) ?_ .unmark
    simp only [ServerState.worked, setBody, stage_setStage_self, stage_setRunning]
  | probe fault =>
    obtain ⟨pin, hc, -⟩ := can
    exact .of_setBody hc (by rintro ⟨⟩) stage_setStage_self (.probe pin fault)
  | poisoned =>
    obtain ⟨pin, retained, hc, -⟩ := can
    refine .of_setBody hc (by rintro ⟨⟩) ?_ (.poisoned pin retained)
    simp only [ServerState.worked, hc, setBody, stage_setStage_self]
  | decide =>
    obtain ⟨pin, retained, current, hc, -⟩ := can
    refine .of_setBody hc (by rintro ⟨⟩) ?_ (.decide pin retained current)
    simp only [ServerState.worked, hc, setBody, stage_setStage_self, stage_send]
  | unpin =>
    obtain ⟨pin, hc, -⟩ := can
    refine .of_setBody hc (by rintro ⟨⟩) ?_ (.unpin pin)
    simp only [ServerState.worked, setBody, stage_settle, stage_setStage_self]
  | look id =>
    rcases can with ⟨-, ⟨hc, -⟩ | ⟨⟨pin, retained, hc, -⟩, -⟩⟩
    · exact .of_same hc (by rintro ⟨⟩) rfl (.look id _ _)
    · exact .of_same hc (by rintro ⟨⟩) rfl (.look id _ _)
  | upgrade =>
    obtain ⟨id, hl⟩ := can
    obtain ⟨kind, body, hc, hb⟩ := (h.fits hl rfl).closure
    refine .of_same hc hb ?_ (.upgrade kind body)
    simp only [ServerState.worked, hl]
    rfl
  | inspect =>
    obtain ⟨id, n, hl⟩ := can
    have before : Lock.Before (s.connection c) id := h.fits hl rfl
    rcases before with hc | ⟨⟨pin, retained, hc⟩, -⟩
    · have hc : (s.stage c).closure = some (.read, .started) := hc
      refine .of_same hc (by rintro ⟨⟩) ?_ .inspectRead
      simp only [ServerState.worked, hl, compare, hc]
      rfl
    · have hc : (s.stage c).closure = some (.probe pin, .probed retained) := hc
      refine .of_setBody hc (by rintro ⟨⟩) ?_ (.inspect pin retained (s.id n = id))
      simp only [ServerState.worked, hl, compare, hc]
      exact stage_setStage_self
  | letGo =>
    obtain ⟨n, hl⟩ := can
    obtain ⟨kind, body, hc, hb⟩ := (h.fits hl rfl).closure
    refine .of_same hc hb ?_ (.letGo kind body)
    simp only [ServerState.worked, stage_settle]
    rfl
  | miss =>
    obtain ⟨id, hl⟩ := can
    have before : Lock.Before (s.connection c) id := h.fits hl rfl
    rcases before with hc | ⟨⟨pin, retained, hc⟩, -⟩
    · have hc : (s.stage c).closure = some (.read, .started) := hc
      refine .of_same hc (by rintro ⟨⟩) ?_ .missRead
      simp only [ServerState.worked, compare, hc]
      rfl
    · have hc : (s.stage c).closure = some (.probe pin, .probed retained) := hc
      refine .of_setBody hc (by rintro ⟨⟩) ?_ (.miss pin retained)
      simp only [ServerState.worked, compare, hc]
      exact stage_setStage_self
  | unlock =>
    obtain ⟨kind, body, hc, hb⟩ := (h.fits can.2 rfl).closure
    exact .of_same hc hb rfl (.unlock kind body)
  | finishRead =>
    refine .of_setBody can.1 (by rintro ⟨⟩) ?_ .finishRead
    simp only [ServerState.worked, setBody, stage_setStage_self, stage_send]

/-- What a probe or a read finds when it looks. -/
theorem fits_compare {id : Text} {found : Bool} (h : Lock.Before (s.connection c) id) :
    Lock.After ((s.compare c found).connection c) := by
  unfold compare
  rcases h with h | ⟨⟨pin, retained, h⟩, -⟩
  · have hc : (s.stage c).closure = some (.read, .started) := h
    rw [hc]
    exact .inl h
  · have hc : (s.stage c).closure = some (.probe pin, .probed retained) := h
    obtain ⟨handler, supervised, hs⟩ := Stage.closure_eq_some.mp hc
    rw [hc]
    refine .inr ⟨pin, retained, some found, ?_⟩
    simp [setBody, hs, Stage.mapJob, Job.setBody, Stage.closure]

/-- The work of a closure keeps the lock in order. -/
theorem looks_worked (h : s.OrderlyAt c) (can : s.CanWork c work)
    (hl : (s.worked c work).lock.closure = some c) :
    (s.worked c work).lock.Fits ((s.worked c work).connection c) := by
  cases work with
  | insert phase => exact absurd hl can.2.2
  | acknowledge decision => exact absurd hl can.1.2.2
  | recordStop result => exact absurd hl can.2.2
  | unwind => exact absurd hl can.2.2
  | report =>
    obtain ⟨result, hc, -, hlock⟩ := can
    simp only [ServerState.worked, hc] at hl
    exact absurd hl hlock
  | unmark => exact absurd hl can.2.2
  | probe fault =>
    obtain ⟨pin, -, -, hlock⟩ := can
    exact absurd hl hlock
  | poisoned =>
    obtain ⟨pin, retained, hc, -, hlock⟩ := can
    simp only [ServerState.worked, hc] at hl
    exact absurd hl hlock
  | decide =>
    obtain ⟨pin, retained, current, hc, -, hlock⟩ := can
    simp only [ServerState.worked, hc] at hl
    exact absurd hl hlock
  | unpin =>
    obtain ⟨pin, -, -, hlock⟩ := can
    simp only [ServerState.worked, lock_settle] at hl
    exact absurd hl hlock
  | look id =>
    rcases can with ⟨-, ⟨hc, -⟩ | ⟨⟨pin, retained, hc, -⟩, hid⟩⟩
    · exact .inl hc
    · exact .inr ⟨⟨pin, retained, hc⟩, hid⟩
  | upgrade =>
    obtain ⟨id, hlock⟩ := can
    have before : Lock.Before (s.connection c) id := h.fits hlock rfl
    simp only [ServerState.worked, hlock]
    cases s.upgrade with
    | none => exact before
    | some n => exact before
  | inspect =>
    obtain ⟨id, n, hlock⟩ := can
    have before : Lock.Before (s.connection c) id := h.fits hlock rfl
    simp only [ServerState.worked, hlock]
    exact fits_compare before
  | letGo =>
    obtain ⟨n, hlock⟩ := can
    have after : Lock.After (s.connection c) := h.fits hlock rfl
    simp only [ServerState.worked, lock_settle, connection_settle]
    exact after
  | miss =>
    obtain ⟨id, hlock⟩ := can
    have before : Lock.Before (s.connection c) id := h.fits hlock rfl
    exact fits_compare before
  | unlock => cases hl
  | finishRead => exact absurd hl can.2.2

/-- A marker stays while the closure of its execution has not ended. -/
theorem marked_setBody {kind : Kind} {body body' : Body} (h : s.OrderlyAt c)
    (hc : (s.stage c).closure = some (kind, body)) (hb : body' ≠ .ended)
    (hr : (s.connection c).running = true) :
    ((s.setBody c body').stage c).kind = some .execute ∧
      ((s.setBody c body').stage c).holdsWork = true := by
  obtain ⟨handler, supervised, hs⟩ := Stage.closure_eq_some.mp hc
  have hk := (h.marked hr).1
  rw [hs] at hk
  rw [setBody, stage_setStage_self, hs]
  refine ⟨hk, ?_⟩
  cases body' with
  | ended => exact absurd rfl hb
  | _ => rfl

/-- Only the closure of an execution has a marker. -/
theorem unmarked_closure {kind : Kind} {body : Body} (h : s.OrderlyAt c)
    (hc : (s.stage c).closure = some (kind, body)) (hk : kind ≠ .execute) :
    (s.connection c).running ≠ true := by
  obtain ⟨handler, supervised, hs⟩ := Stage.closure_eq_some.mp hc
  exact h.unmarked hs fun he => hk (Option.some_inj.mp he)

theorem marked_compare {id : Text} {found : Bool} (h : s.OrderlyAt c)
    (hb : Lock.Before (s.connection c) id)
    (hr : ((s.compare c found).connection c).running = true) :
    ((s.compare c found).stage c).kind = some .execute ∧
      ((s.compare c found).stage c).holdsWork = true := by
  have running : ((s.compare c found).connection c).running = (s.connection c).running := by
    unfold compare
    split
    · simp [setBody]
    · rfl
  rw [running] at hr
  rcases hb with hc | ⟨⟨pin, retained, hc⟩, -⟩
  · exact absurd hr (h.unmarked_closure hc (by rintro ⟨⟩))
  · exact absurd hr (h.unmarked_closure hc (by rintro ⟨⟩))

/-- The work of a closure keeps its marker in order. -/
theorem marked_worked (h : s.OrderlyAt c) (can : s.CanWork c work)
    (hr : ((s.worked c work).connection c).running = true) :
    ((s.worked c work).stage c).kind = some .execute ∧
      ((s.worked c work).stage c).holdsWork = true := by
  cases work with
  | insert phase => exact h.marked hr
  | acknowledge decision => exact h.send.marked hr
  | recordStop result =>
    exact h.marked_setBody can.1 (by rintro ⟨⟩) (by simpa [ServerState.worked, setBody] using hr)
  | unwind => exact h.marked_setBody can.1 (by rintro ⟨⟩) (by simpa [ServerState.worked, setBody] using hr)
  | report =>
    obtain ⟨result, hc, -⟩ := can
    simp only [ServerState.worked, hc] at hr ⊢
    exact h.send.marked_setBody (by rwa [stage_send]) (by rintro ⟨⟩) (by simpa [setBody] using hr)
  | unmark => simp [ServerState.worked, ServerState.setRunning, setBody] at hr
  | probe fault =>
    obtain ⟨pin, hc, -⟩ := can
    have hr : (s.connection c).running = true := by simpa [ServerState.worked, setBody] using hr
    exact absurd hr (h.unmarked_closure hc (by rintro ⟨⟩))
  | poisoned =>
    obtain ⟨pin, retained, hc, -⟩ := can
    simp only [ServerState.worked, hc] at hr
    have hr : (s.connection c).running = true := by simpa [setBody] using hr
    exact absurd hr (h.unmarked_closure hc (by rintro ⟨⟩))
  | decide =>
    obtain ⟨pin, retained, current, hc, -⟩ := can
    simp only [ServerState.worked, hc] at hr
    have hr : (s.connection c).running = true := by simpa [setBody, ServerState.send] using hr
    exact absurd hr (h.unmarked_closure hc (by rintro ⟨⟩))
  | unpin =>
    obtain ⟨pin, hc, -⟩ := can
    have hr : (s.connection c).running = true := by simpa [ServerState.worked, setBody] using hr
    exact absurd hr (h.unmarked_closure hc (by rintro ⟨⟩))
  | look id => exact h.marked hr
  | upgrade =>
    obtain ⟨id, hlock⟩ := can
    simp only [ServerState.worked, hlock] at hr ⊢
    exact h.marked hr
  | inspect =>
    obtain ⟨id, n, hlock⟩ := can
    have before : Lock.Before (s.connection c) id := h.fits hlock rfl
    simp only [ServerState.worked, hlock] at hr ⊢
    exact h.marked_compare before hr
  | letGo =>
    simp only [ServerState.worked, connection_settle, stage_settle] at hr ⊢
    exact h.marked hr
  | miss =>
    obtain ⟨id, hlock⟩ := can
    have before : Lock.Before (s.connection c) id := h.fits hlock rfl
    exact h.marked_compare before hr
  | unlock => exact h.marked hr
  | finishRead =>
    have hr : (s.connection c).running = true := by
      simpa [ServerState.worked, setBody, ServerState.send] using hr
    exact absurd hr (h.unmarked_closure can.1 (by rintro ⟨⟩))

/-- The work of a closure leaves the lock alone, or takes it from a closure and gives it to none
but its own. -/
theorem lock_worked (can : s.CanWork c work) : (s.worked c work).lock = s.lock ∨
    ((s.lock = .free ∨ s.lock.closure = some c) ∧
      ((s.worked c work).lock = .free ∨ (s.worked c work).lock.closure = some c)) := by
  cases work with
  | report =>
    obtain ⟨result, hc, -⟩ := can
    simp only [ServerState.worked, hc]
    exact .inl rfl
  | poisoned =>
    obtain ⟨pin, retained, hc, -⟩ := can
    simp only [ServerState.worked, hc]
    exact .inl rfl
  | decide =>
    obtain ⟨pin, retained, current, hc, -⟩ := can
    simp only [ServerState.worked, hc]
    exact .inl rfl
  | unpin => exact .inl lock_settle
  | look id => exact .inr ⟨.inl can.1, .inr rfl⟩
  | upgrade =>
    obtain ⟨id, hlock⟩ := can
    refine .inr ⟨.inr (by rw [hlock]; rfl), .inr ?_⟩
    simp only [ServerState.worked, hlock]
    cases s.upgrade with
    | none => rfl
    | some n => rfl
  | inspect =>
    obtain ⟨id, n, hlock⟩ := can
    refine .inr ⟨.inr (by rw [hlock]; rfl), .inr ?_⟩
    simp only [ServerState.worked, hlock]
    rfl
  | letGo =>
    obtain ⟨n, hlock⟩ := can
    refine .inr ⟨.inr (by rw [hlock]; rfl), .inr ?_⟩
    simp only [ServerState.worked, lock_settle]
    rfl
  | miss =>
    obtain ⟨id, hlock⟩ := can
    exact .inr ⟨.inr (by rw [hlock]; rfl), .inr rfl⟩
  | unlock => exact .inr ⟨.inr (by rw [can.2]; rfl), .inl rfl⟩
  | _ => exact .inl rfl

/-- The work of a closure keeps its connection orderly. -/
theorem worked (h : s.OrderlyAt c) (can : s.CanWork c work) : (s.worked c work).OrderlyAt c where
  busy := by
    obtain ⟨kind, body, hc, -⟩ := h.closure_of_canWork can
    rw [(s.worked_worked c work).busy, ← h.busy, (s.worked_worked c work).busy_stage hc]
  locks := by
    obtain ⟨kind, body, hc, -⟩ := h.closure_of_canWork can
    rw [(s.worked_worked c work).locks_stage hc, h.locks]
    rcases lock_worked can with same | ⟨hold, hnew⟩
    · rw [same]
    · constructor
      · intro hl
        rcases hold with hf | hf <;> (rw [hl] at hf; cases hf)
      · intro hl
        rcases hnew with hf | hf <;> (rw [hl] at hf; cases hf)
  looks := h.looks_worked can
  marked := h.marked_worked can

/-- Another connection stays orderly. -/
theorem frame (h : s.OrderlyAt n) (hc : s'.connection n = s.connection n)
    (hbusy : s'.busy = some n ↔ s.busy = some n)
    (hlock : s'.lock = s.lock ∨ s.lock.owner ≠ some n ∧ s'.lock.owner ≠ some n) :
    s'.OrderlyAt n := by
  have hs : s'.stage n = s.stage n := congrArg Connection.stage hc
  refine ⟨by rw [hs, hbusy, h.busy], ?_, ?_, by rw [hs, hc]; exact h.marked⟩
  · rcases hlock with same | ⟨hold, hnew⟩
    · rw [hs, same, h.locks]
    · rw [hs, h.locks]
      constructor
      · intro hl
        exact absurd (congrArg Lock.owner hl) hold
      · intro hl
        exact absurd (congrArg Lock.owner hl) hnew
  · rcases hlock with same | ⟨-, hnew⟩
    · rw [same, hc]
      exact h.looks
    · intro hl
      exact absurd (Lock.owner_of_closure hl) hnew

end OrderlyAt

theorem busy_turn (stage : Stage) (hbusy : s.busy = none ∨ s.busy = some c) (hn : n ≠ c) :
    (s.turn c stage).busy = some n ↔ s.busy = some n := by
  have old : s.busy ≠ some n := by
    rcases hbusy with h | h <;> simp [h, Ne.symm hn]
  have new : (s.turn c stage).busy ≠ some n := by
    rw [turn]
    cases stage.busy with
    | false => simp
    | true => simp [Ne.symm hn]
  exact ⟨fun h => absurd h new, fun h => absurd h old⟩

/-- A connection takes the turn when nobody has it. -/
theorem busy_moved (h : s.OrderlyAt c) (can : s.CanMove c move) (hn : n ≠ c) :
    (s.moved c move).busy = some n ↔ s.busy = some n := by
  have mine (hb : (s.stage c).busy = true) : s.busy = none ∨ s.busy = some c := .inr (h.busy.mp hb)
  cases move with
  | dismiss => exact busy_turn _ (.inl can.1.1) hn
  | read => exact busy_turn _ (.inl can.1.1) hn
  | submit id =>
    have turned := busy_turn (s := s.setConnection c { s.connection c with id := id }) .selecting
      (.inl can.1.1) hn
    exact turned
  | acquire =>
    have turned := busy_turn (s := s.setRunning c true) .clearing
      (mine (by rw [can.1]; rfl)) hn
    exact turned
  | contend => exact busy_turn _ (mine (by rw [can.1]; rfl)) hn
  | clear =>
    have hs : s.stage c = .clearing := can
    exact busy_turn .publishing (mine (by rw [hs]; rfl)) hn
  | publish =>
    have hs : s.stage c = .publishing := can
    exact busy_turn (.registering .execute) (mine (by rw [hs]; rfl)) hn
  | pin =>
    have hs : s.stage c = .pinning := can
    exact busy_turn (.registering (.probe s.upgrade)) (mine (by rw [hs]; rfl)) hn
  | register =>
    obtain ⟨⟨kind, hs⟩, -⟩ := can
    exact busy_turn _ (mine (by rw [hs]; rfl)) hn
  | refuse =>
    obtain ⟨⟨kind, hs⟩, -⟩ := can
    exact busy_turn _ (mine (by rw [hs]; rfl)) hn
  | dropExecution => simp [ServerState.moved, setStage, setConnection]
  | dropWork =>
    simp only [ServerState.moved, ServerState.dropWork, busy_settle]
    split <;> rfl
  | fail =>
    obtain ⟨-, kind, hs⟩ := can
    exact busy_turn _ (mine (by rw [hs]; rfl)) hn
  | answer wait => rfl
  | leave => rfl
  | start => rfl
  | finishBody => rfl
  | finish => exact busy_turn _ (.inl can.1.1) hn
  | abort => exact busy_turn _ (.inl can.1.1) hn
  | discard =>
    obtain ⟨-, handler, kind, hs⟩ := can
    exact busy_turn _ (mine (by rw [hs]; rfl)) hn
  | dropField thread =>
    obtain ⟨-, handler, kind, job, hs, ht⟩ := can
    have gone : (s.goOn c thread ((s.stage c).mapJob Job.dropField)).busy = some n ↔
        s.busy = some n := by
      cases thread with
      | closure d => rfl
      | runtime =>
        refine busy_turn _ (mine ?_) hn
        rw [hs]
        rcases job with _ | _ | _ | ⟨field, _ | _⟩ | ⟨_ | field, work⟩ | _ <;> cases ht
        · rfl
        · rfl
    simp only [ServerState.moved, ServerState.dropField]
    split
    · exact gone
    · rw [busy_settle]
      exact gone
    · exact gone

/-- Handlers take the lock when it is free, and give it up. -/
theorem lock_moved (h : s.OrderlyAt c) (can : s.CanMove c move) :
    (s.moved c move).lock = s.lock ∨ ((s.lock = .free ∨ s.lock = .handler c) ∧
      ((s.moved c move).lock = .free ∨ (s.moved c move).lock = .handler c)) := by
  have mine (hs : (s.stage c).locks = true) : s.lock = .free ∨ s.lock = .handler c :=
    .inr (h.locks.mp hs)
  cases hsel : move.selects with
  | false => exact .inl (still_moved hsel).lock
  | true =>
    cases move with
    | submit id => exact .inr ⟨.inl can.2.2, .inr rfl⟩
    | acquire => exact .inl rfl
    | contend => exact .inl rfl
    | clear => exact .inl rfl
    | publish => exact .inr ⟨mine (by rw [show s.stage c = _ from can]; rfl), .inl rfl⟩
    | pin => exact .inr ⟨mine (by rw [show s.stage c = _ from can]; rfl), .inl rfl⟩
    | _ => cases hsel

/-- A connection that goes on has been accepted. -/
theorem stage_ne_absent_of_canMove (can : s.CanMove c move) : s.stage c ≠ .absent := by
  intro ha
  cases move <;> simp [CanMove, At, ha, Stage.closure] at can

/-- All connections are orderly, and those that have not been accepted are as they were. -/
structure Orderly (s : ServerState) : Prop where
  fresh : ∀ c, s.accepted ≤ c → s.connection c = ⟨[], .absent, false, none⟩
  each : ∀ c, s.OrderlyAt c

namespace Orderly

theorem lt_accepted (h : s.Orderly) (hs : s.stage c ≠ .absent) : c < s.accepted := by
  by_contra hc
  exact hs (congrArg Connection.stage (h.fresh c (Nat.le_of_not_lt hc)))

/-- A connection goes on by itself. -/
theorem framed (h : s.Orderly) (frame : Framed s s' c) (hs : s.stage c ≠ .absent)
    (hbusy : ∀ n ≠ c, s'.busy = some n ↔ s.busy = some n)
    (hlock : s'.lock = s.lock ∨ ∀ n ≠ c, s.lock.owner ≠ some n ∧ s'.lock.owner ≠ some n)
    (mine : s'.OrderlyAt c) : s'.Orderly where
  fresh n hn := by
    rw [frame.accepted] at hn
    have lt := h.lt_accepted hs
    rw [frame.others n (by omega), h.fresh n hn]
  each n := by
    by_cases hn : n = c
    · rw [hn]
      exact mine
    · exact (h.each n).frame (frame.others n hn) (hbusy n hn) (hlock.imp_right fun hl => hl n hn)

theorem moved (h : s.Orderly) (can : s.CanMove c move) : (s.moved c move).Orderly := by
  refine h.framed (s.framed_moved c move) (stage_ne_absent_of_canMove can)
    (fun n hn => busy_moved (h.each c) can hn) ?_ ((h.each c).moved can)
  refine (lock_moved (h.each c) can).imp_right fun ⟨hold, hnew⟩ n hn => ⟨?_, ?_⟩
  · rcases hold with hl | hl <;> simp [hl, Lock.owner, Ne.symm hn]
  · rcases hnew with hl | hl <;> simp [hl, Lock.owner, Ne.symm hn]

theorem worked (h : s.Orderly) (can : s.CanWork c work) : (s.worked c work).Orderly := by
  obtain ⟨kind, body, hc, -⟩ := (h.each c).closure_of_canWork can
  have hs : s.stage c ≠ .absent := by
    intro ha
    rw [ha] at hc
    cases hc
  refine h.framed (s.worked_worked c work).toFramed hs
    (fun n _ => by rw [(s.worked_worked c work).busy]) ?_ ((h.each c).worked can)
  refine (OrderlyAt.lock_worked can).imp_right fun ⟨hold, hnew⟩ n hn => ⟨?_, ?_⟩
  · rcases hold with hl | hl
    · simp [hl, Lock.owner]
    · simp [Lock.owner_of_closure hl, Ne.symm hn]
  · rcases hnew with hl | hl
    · simp [hl, Lock.owner]
    · simp [Lock.owner_of_closure hl, Ne.symm hn]

theorem accept (h : s.Orderly) : (s.next .accept).Orderly where
  fresh n hn := by
    have hn : s.accepted + 1 ≤ n := hn
    have others : (s.next .accept).connection n = s.connection n :=
      connection_setConnection_of_ne (by omega)
    rw [others, h.fresh n (by omega)]
  each n := by
    by_cases hn : n = s.accepted
    · subst hn
      have absent : s.stage s.accepted = .absent :=
        congrArg Connection.stage (h.fresh s.accepted le_rfl)
      have received := (h.each s.accepted).setStage .receiving absent rfl rfl
        ((h.each s.accepted).quiet absent rfl) nofun
      refine received.congr ?_ rfl rfl
      simp [ServerState.next, h.fresh]
    · exact (h.each n).frame (connection_setConnection_of_ne hn) Iff.rfl (.inl rfl)

/-- **Whatever happens, turns are taken one by one and so is the lock.** -/
theorem next {act : Act} (h : s.Orderly) (enabled : s.Enabled act) : (s.next act).Orderly := by
  cases act with
  | accept => exact h.accept
  | stop => exact ⟨h.fresh, fun c => (h.each c).congr rfl rfl rfl⟩
  | drain => exact ⟨h.fresh, fun c => (h.each c).congr rfl rfl rfl⟩
  | awaitJob =>
    obtain ⟨-, c, jobs, hserving, -⟩ := enabled
    simp only [ServerState.next, hserving]
    exact ⟨h.fresh, fun c => (h.each c).congr rfl rfl rfl⟩
  | drained => exact ⟨h.fresh, fun c => (h.each c).congr rfl rfl rfl⟩
  | release thread => exact ⟨h.fresh, fun c => (h.each c).congr rfl rfl rfl⟩
  | move c move => exact h.moved enabled
  | work c work => exact h.worked enabled

end Orderly

end ServerState

variable {rows : Text → Option OperationState} {acts : List Act}

theorem orderly_initial : (ServerState.initial rows).Orderly where
  fresh _ _ := rfl
  each c := by
    refine ⟨?_, ?_, ?_, ?_⟩
    · exact ⟨nofun, nofun⟩
    · exact ⟨nofun, nofun⟩
    · nofun
    · nofun

/-- All that can happen is orderly. -/
theorem orderly_of_possible (h : (runtime rows).Possible acts) :
    ((runtime rows).after acts).Orderly :=
  h.invariant orderly_initial fun _ _ orderly enabled => orderly.next enabled

end Runtime
end Daemon
end Kapsel
