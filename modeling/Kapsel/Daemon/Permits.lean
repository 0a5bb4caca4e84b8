import Kapsel.Daemon.Selections
import Mathlib.Data.Finset.Card
import Mathlib.Data.Finset.Range

/-!
# Jobs and permits

Every connection that is accepted takes one of eight permits, and returns it when its handler and
the lease of its job have both dropped it.  The registry has the jobs that have not retired, and a
job leaves it only then.  So a drain of the registry waits for all that is left.

* `Conserved`: the permits that are free and those that are held are eight.
* `Registered`: what the registry knows, and that nothing is handled once it is drained.
* `Releasing`: where the selection is being dropped, its thread is there.
* `retained_lt`: without aborts a handler that registers a job finds room.
* `permits_conserved`: **all of this, in every run.**
-/

namespace Kapsel

open Grammar Authority Interaction

namespace Daemon
namespace Runtime

open Gateway Application

/-- A job has retired, or the registry keeps it. -/
theorem Job.retained_eq_false {job : Job} : job.retained = false ↔ job = .retired := by
  rcases job with _ | _ | _ | _ | ⟨_ | _, _⟩ | _
  all_goals simp [Job.retained, Job.supervisorFinished, Job.retirementClosed]

theorem Job.retained_of_ne {job : Job} (h : job ≠ .retired) : job.retained = true := by
  rw [← Bool.not_eq_false]
  exact fun hr => h (Job.retained_eq_false.mp hr)

/-- The supervisor of the job was not aborted. -/
def Job.supervised : Job → Bool
  | running _ supervised => supervised
  | retiring _ supervised => supervised
  | discarded _ _ => false
  | _ => true

namespace Stage

variable {stage : Stage}

/-- A closure drops the last lease of its job, or runs. -/
def detached : Stage → Bool
  | serving _ _ (.running _ _) => true
  | serving _ _ (.retiring _ false) => true
  | _ => false

/-- The thread of the runtime drops what is left of a job. -/
def dropping : Stage → Bool
  | refused _ _ _ => true
  | serving _ _ (.retiring _ true) => true
  | serving _ _ (.discarded _ _) => true
  | _ => false

/-- Only the handler counts, where there is a job. -/
theorem handled_serving {handler : Handler} {kind kind' : Kind} {job job' : Job} :
    (serving handler kind job).handled = (serving handler kind' job').handled := by
  cases handler <;> rfl

/-- A connection that has returned its permit is over: its handler has returned, and its closure does
not run. -/
theorem over_of_not_holdsConnection (h : stage.holdsConnection = false) :
    stage.handled = false ∧ stage.closure = none := by
  rcases stage with _ | _ | _ | _ | _ | _ | _ | _ | ⟨_ | _ | _, kind, job⟩ | _ | _
  case serving.returned =>
    cases job with
    | spawned => cases h
    | running body supervised => cases h
    | _ => exact ⟨rfl, rfl⟩
  case absent => exact ⟨rfl, rfl⟩
  case dismissed.true => exact ⟨rfl, rfl⟩
  all_goals cases h

end Stage

namespace ServerState

variable {s s' : ServerState} {c n : ℕ} {old stage : Stage} {move : Move} {work : Work} {act : Act}
  {upgraded : Option ℕ}

/-! ## The permits of connections -/

/-- The connections that have a permit. -/
def holders (s : ServerState) : Finset ℕ :=
  (Finset.range s.accepted).filter fun c => (s.stage c).holdsConnection = true

/-- The permits that are free and those that are held are all that there are. -/
def Conserved (s : ServerState) : Prop := s.connections + s.holders.card = connectionsMax

theorem mem_holders : n ∈ s.holders ↔ n < s.accepted ∧ (s.stage n).holdsConnection = true := by
  rw [holders, Finset.mem_filter, Finset.mem_range]

theorem stage_of_framed (frame : Framed s s' c) (hn : n ≠ c) : s'.stage n = s.stage n :=
  congrArg Connection.stage (frame.others n hn)

theorem holders_of_framed (frame : Framed s s' c)
    (same : (s'.stage c).holdsConnection = (s.stage c).holdsConnection) :
    s'.holders = s.holders := by
  ext n
  rw [mem_holders, mem_holders, frame.accepted]
  by_cases hn : n = c
  · rw [hn, same]
  · rw [stage_of_framed frame hn]

theorem holders_erase (frame : Framed s s' c) (gone : (s'.stage c).holdsConnection = false) :
    s'.holders = s.holders.erase c := by
  ext n
  rw [Finset.mem_erase, mem_holders, mem_holders, frame.accepted]
  by_cases hn : n = c
  · simp [hn, gone]
  · simp [hn, stage_of_framed frame hn]

theorem Conserved.framed (h : s.Conserved) (frame : Framed s s' c)
    (same : (s'.stage c).holdsConnection = (s.stage c).holdsConnection)
    (hconn : s'.connections = s.connections) : s'.Conserved := by
  rw [Conserved, holders_of_framed frame same, hconn]
  exact h

/-- The connection returns its permit. -/
theorem Conserved.give (h : s.Conserved) (frame : Framed s s' c) (lt : c < s.accepted)
    (held : (s.stage c).holdsConnection = true) (gone : (s'.stage c).holdsConnection = false)
    (hconn : s'.connections = s.connections + 1) : s'.Conserved := by
  have card := Finset.card_erase_add_one (mem_holders.mpr ⟨lt, held⟩)
  rw [Conserved, holders_erase frame gone, hconn]
  unfold Conserved at h
  omega

theorem holdsConnection_of_passage (p : Passage upgraded move old stage) (hl : move ≠ .leave)
    (hd : ∀ thread, move ≠ .dropField thread) : stage.holdsConnection = old.holdsConnection := by
  cases p with
  | leave kind job => exact absurd rfl hl
  | leaveDismissed => exact absurd rfl hl
  | dropField handler kind job thread field hf => exact absurd rfl (hd thread)
  | dropWork handler kind field => cases handler <;> rfl
  | start handler kind => cases handler <;> rfl
  | finishBody handler kind => cases handler <;> rfl
  | finishBodyAborted handler kind => cases handler <;> rfl
  | finish handler kind => cases handler <;> rfl
  | abortSpawned handler kind => cases handler <;> rfl
  | abortRunning handler kind body => cases handler <;> rfl
  | abortReturned handler kind => cases handler <;> rfl
  | discard handler kind => cases handler <;> rfl
  | _ => rfl

/-- A permit that is returned is not taken back. -/
theorem holdsConnection_mono (p : Passage upgraded move old stage)
    (h : stage.holdsConnection = true) : old.holdsConnection = true := by
  by_cases hl : move = .leave
  · subst hl
    cases p <;> rfl
  by_cases hd : ∃ thread, move = .dropField thread
  · obtain ⟨thread, rfl⟩ := hd
    cases p with
    | dropField handler kind job thread field hf =>
      cases handler with
      | returned =>
        rcases job with _ | _ | _ | ⟨_ | _ | _, _⟩ | ⟨_ | _ | _ | _, _⟩ | _
        all_goals first
          | (cases hf; done)
          | cases h
      | _ => rfl
  · rw [← holdsConnection_of_passage p hl fun thread ht => hd ⟨thread, ht⟩]
    exact h

theorem returned_next (orderly : s.Orderly) (enabled : s.Enabled act) (lt : c < s.accepted)
    (h : (s.stage c).holdsConnection = false) : ((s.next act).stage c).holdsConnection = false := by
  rcases s.connection_next act c with same | ⟨rfl, rfl⟩ | ⟨move, rfl⟩ | ⟨work, rfl⟩
  · rwa [stage, same]
  · exact absurd lt (Nat.lt_irrefl _)
  · refine Bool.eq_false_iff.mpr fun held => ?_
    cases h.symm.trans (holdsConnection_mono (passage_moved enabled) held)
  · obtain ⟨handler, supervised, kind, body, body', -, hs, hs', -⟩ :=
      (orderly.each c).progress_worked enabled
    rw [hs] at h
    rw [next, hs']
    cases handler <;> exact h

theorem accepted_next : s.accepted ≤ (s.next act).accepted := by
  cases act with
  | accept => exact Nat.le_succ _
  | awaitJob =>
    simp only [next]
    split <;> exact le_rfl
  | move c move => exact (s.framed_moved c move).accepted.ge
  | work c work => exact (s.worked_worked c work).accepted.ge
  | _ => exact le_rfl

theorem connections_moved (hl : move ≠ .leave) (hd : ∀ thread, move ≠ .dropField thread) :
    (s.moved c move).connections = s.connections := by
  cases move with
  | leave => exact absurd rfl hl
  | dropField thread => exact absurd rfl (hd thread)
  | dropExecution => exact connections_settle
  | dropWork =>
    simp only [moved, dropWork, connections_settle]
    split <;> rfl
  | _ => rfl

theorem connections_dropField {thread : Thread} : (s.dropField c thread).connections =
    s.connections + if (s.stage c).job.bind Job.field = some .connection ∧
      (s.stage c).handled = false then 1 else 0 := by
  have gone (stage : Stage) : (s.goOn c thread stage).connections = s.connections := by
    cases thread <;> rfl
  unfold dropField
  split
  · next hf =>
    cases hh : (s.stage c).handled with
    | true => simp
    | false => simp [hf]
  · next hf => simp [hf, gone]
  · next hf _ =>
    rw [if_neg fun h => hf h.1]
    exact gone _

theorem Conserved.leave (h : s.Conserved) (orderly : s.Orderly) (can : s.CanMove c .leave) :
    (s.moved c .leave).Conserved := by
  have frame := s.framed_moved c .leave
  have lt : c < s.accepted := orderly.lt_accepted (stage_ne_absent_of_canMove can)
  have left : (s.moved c .leave).stage c = (s.stage c).leave := stage_setStage_self (s := s)
  obtain ⟨-, ⟨kind, job, hs⟩ | hs⟩ := can
  · rw [hs] at left
    cases hj : job.holdsConnection with
    | true =>
      refine h.framed frame ?_ ?_
      · rw [left, hs]
        exact hj
      · simp [moved, hs, Stage.job, hj]
    | false =>
      refine h.give frame lt ?_ ?_ ?_
      · rw [hs]
        rfl
      · rw [left]
        exact hj
      · simp [moved, hs, Stage.job, hj]
  · rw [hs] at left
    refine h.give frame lt ?_ ?_ ?_
    · rw [hs]
      rfl
    · rw [left]
      rfl
    · simp [moved, hs, Stage.job]

theorem Conserved.dropField {thread : Thread} (h : s.Conserved) (orderly : s.Orderly)
    (can : s.CanMove c (.dropField thread)) : (s.moved c (.dropField thread)).Conserved := by
  have frame := s.framed_moved c (.dropField thread)
  have lt : c < s.accepted := orderly.lt_accepted (stage_ne_absent_of_canMove can)
  obtain ⟨-, handler, kind, job, hs, ht⟩ := can
  have dropped : (s.moved c (.dropField thread)).stage c = .serving handler kind job.dropField := by
    rw [moved, stage_dropField, hs]
    rfl
  have returns : (s.moved c (.dropField thread)).connections = _ := connections_dropField
  rw [hs] at returns
  by_cases hf : job.field = some .connection
  · have held : job.holdsConnection = true ∧ job.dropField.holdsConnection = false := by
      rcases job with _ | _ | _ | ⟨_ | _ | _, _⟩ | ⟨_ | _ | _ | _, _⟩ | _
      all_goals first
        | exact ⟨rfl, rfl⟩
        | cases hf
    cases handler with
    | returned =>
      refine h.give frame lt ?_ ?_ ?_
      · rw [hs]
        exact held.1
      · rw [dropped]
        exact held.2
      · rw [returns]
        simp [Stage.job, Stage.handled, hf]
    | _ =>
      refine h.framed frame ?_ ?_
      · rw [dropped, hs]
        rfl
      · rw [returns]
        simp [Stage.handled]
  · have same : job.dropField.holdsConnection = job.holdsConnection := by
      rcases job with _ | _ | _ | ⟨_ | _ | _, _⟩ | ⟨_ | _ | _ | _, _⟩ | _
      all_goals first
        | rfl
        | exact absurd rfl hf
    refine h.framed frame ?_ ?_
    · rw [dropped, hs]
      cases handler with
      | returned => exact same
      | _ => rfl
    · rw [returns]
      simp [Stage.job, hf]

theorem Conserved.accept (h : s.Conserved) (some : 0 < s.connections) :
    (s.next .accept).Conserved := by
  have fresh : s.accepted ∉ s.holders := fun hmem => absurd (mem_holders.mp hmem).1 (Nat.lt_irrefl _)
  have holders_eq : (s.next .accept).holders = insert s.accepted s.holders := by
    ext n
    have accepted : (s.next .accept).accepted = s.accepted + 1 := rfl
    rw [Finset.mem_insert, mem_holders, mem_holders, accepted]
    by_cases hn : n = s.accepted
    · subst hn
      simp [stage, connection_accept, Stage.holdsConnection, Stage.handled]
    · have same : (s.next .accept).stage n = s.stage n :=
        congrArg Connection.stage (connection_setConnection_of_ne hn)
      rw [same]
      simp only [hn, false_or]
      exact and_congr_left' (by omega)
  have taken : (s.next .accept).connections = s.connections - 1 := rfl
  rw [Conserved, holders_eq, Finset.card_insert_of_notMem fresh, taken]
  unfold Conserved at h
  omega

theorem Conserved.next (h : s.Conserved) (orderly : s.Orderly) (enabled : s.Enabled act) :
    (s.next act).Conserved := by
  cases act with
  | accept => exact h.accept enabled.2.2
  | stop => exact h
  | drain => exact h
  | awaitJob =>
    obtain ⟨-, d, jobs, hserving, -⟩ := enabled
    simp only [ServerState.next, hserving]
    exact h
  | drained => exact h
  | release thread => exact h
  | move c move =>
    by_cases hl : move = .leave
    · subst hl
      exact h.leave orderly enabled
    by_cases hd : ∃ thread, move = .dropField thread
    · obtain ⟨thread, rfl⟩ := hd
      exact h.dropField orderly enabled
    · have hd : ∀ thread, move ≠ .dropField thread := fun thread ht => hd ⟨thread, ht⟩
      exact h.framed (s.framed_moved c move)
        (holdsConnection_of_passage (passage_moved enabled) hl hd) (connections_moved hl hd)
  | work c work =>
    have worked := s.worked_worked c work
    obtain ⟨handler, supervised, kind, body, body', -, hs, hs', -⟩ :=
      (orderly.each c).progress_worked enabled
    have frame : Framed s (s.worked c work) c := worked.toFramed
    show (s.worked c work).Conserved
    refine h.framed frame ?_ worked.connections
    rw [hs, hs']
    cases handler <;> rfl

/-! ## The registry -/

/-- What the registry knows: at most eight jobs, each once, and all that have not retired, but for
those that a drain waits for.  Once the registry is drained nothing is handled. -/
structure Registered (s : ServerState) : Prop where
  nodup : s.registry.Nodup
  length_le : s.registry.length ≤ connectionsMax
  jobs : ∀ n ∈ s.registry, (s.stage n).job.isSome = true
  listed : ∀ n, (s.stage n).job.any Job.retained = true →
    n ∈ s.registry ∨ ∃ jobs, s.serving = .draining jobs ∧ n ∈ jobs
  closed : s.serving ≠ .accepting → s.serving ≠ .stopping →
    s.registry = [] ∧ ∀ n, (s.stage n).handled = false

theorem handled_of_passage (p : Passage upgraded move old stage) (h : stage.handled = true) :
    old.handled = true := by
  cases p <;> first
    | rfl
    | exact Stage.handled_serving.trans h

/-- Only `Jobs::spawn` makes a job that has not retired. -/
theorem retained_job_of_passage (p : Passage upgraded move old stage) (hr : move ≠ .register)
    (h : stage.job.any Job.retained = true) : old.job.any Job.retained = true := by
  cases p with
  | register kind => exact absurd rfl hr
  | dropField handler kind job thread field hf =>
    refine Job.retained_of_ne ?_
    rintro rfl
    cases hf
  | _ => first
    | exact h
    | rfl

theorem registry_moved (hr : move ≠ .register) (hf : move ≠ .refuse) :
    (s.moved c move).registry = s.registry := by
  cases move with
  | register => exact absurd rfl hr
  | refuse => exact absurd rfl hf
  | dropExecution => exact registry_settle
  | dropWork =>
    simp only [moved, dropWork, registry_settle]
    split <;> rfl
  | dropField thread =>
    have gone (stage : Stage) : (s.goOn c thread stage).registry = s.registry := by
      cases thread <;> rfl
    simp only [moved, dropField]
    split
    · exact gone _
    · rw [registry_settle]
      exact gone _
    · exact gone _
  | _ => rfl

/-- The connection goes on, and the registry forgets what has retired at most. -/
theorem Registered.framed (h : s.Registered) (frame : Framed s s' c)
    (sub : s'.registry.Sublist s.registry)
    (kept : ∀ n ∈ s.registry, (s.stage n).job.any Job.retained = true → n ∈ s'.registry)
    (hjob : (s.stage c).job.isSome = true → (s'.stage c).job.isSome = true)
    (hretained : (s'.stage c).job.any Job.retained = true →
      (s.stage c).job.any Job.retained = true)
    (hhandled : (s'.stage c).handled = true → (s.stage c).handled = true) : s'.Registered where
  nodup := h.nodup.sublist sub
  length_le := sub.length_le.trans h.length_le
  jobs n hn := by
    have job := h.jobs n (sub.subset hn)
    by_cases hc : n = c
    · subst hc
      exact hjob job
    · rwa [stage_of_framed frame hc]
  listed n hn := by
    have before : (s.stage n).job.any Job.retained = true := by
      by_cases hc : n = c
      · subst hc
        exact hretained hn
      · rwa [stage_of_framed frame hc] at hn
    rw [frame.serving]
    exact (h.listed n before).imp_left fun hmem => kept n hmem before
  closed ha hs := by
    rw [frame.serving] at ha hs
    obtain ⟨empty, quiet⟩ := h.closed ha hs
    refine ⟨List.eq_nil_of_sublist_nil (empty ▸ sub), fun n => ?_⟩
    by_cases hc : n = c
    · subst hc
      exact Bool.eq_false_iff.mpr fun hh => Bool.eq_false_iff.mp (quiet n) (hhandled hh)
    · rw [stage_of_framed frame hc]
      exact quiet n

theorem mem_retained (h : n ∈ s.registry) (hn : (s.stage n).job.any Job.retained = true) :
    n ∈ s.retained := List.mem_filter.mpr ⟨h, hn⟩

/-- `Jobs::spawn` registers the job. -/
theorem Registered.register (h : s.Registered) (can : s.CanMove c .register) :
    (s.moved c .register).Registered := by
  obtain ⟨⟨kind, hs⟩, room⟩ := can
  have frame := s.framed_moved c .register
  have registered : (s.moved c .register).stage c = .serving .waiting kind .spawned := by
    have turned : (s.moved c .register).stage c = (s.stage c).register := stage_turn_self (s := s)
    rw [turned, hs]
    rfl
  have fresh : c ∉ s.registry := by
    intro hmem
    have job := h.jobs c hmem
    rw [hs] at job
    cases job
  have sub : s.retained.Sublist s.registry := List.filter_sublist
  have registry : (s.moved c .register).registry = s.retained ++ [c] := rfl
  have ne {n : ℕ} (hn : n ∈ s.registry) : n ≠ c := by
    rintro rfl
    exact fresh hn
  refine ⟨?_, ?_, fun n hn => ?_, fun n hn => ?_, fun ha hd => ?_⟩
  · rw [registry]
    refine List.nodup_append.mpr ⟨h.nodup.sublist sub, List.nodup_singleton c, fun n hn m hm => ?_⟩
    rw [List.mem_singleton.mp hm]
    exact ne (sub.subset hn)
  · rw [registry, List.length_append]
    exact room
  · rw [registry, List.mem_append, List.mem_singleton] at hn
    rcases hn with hn | rfl
    · rw [stage_of_framed frame (ne (sub.subset hn))]
      exact h.jobs n (sub.subset hn)
    · rw [registered]
      rfl
  · rw [registry, frame.serving, List.mem_append, List.mem_singleton]
    by_cases hc : n = c
    · exact .inl (.inr hc)
    · rw [stage_of_framed frame hc] at hn
      exact (h.listed n hn).imp_left fun hmem => .inl (mem_retained hmem hn)
  · rw [frame.serving] at ha hd
    have quiet := (h.closed ha hd).2 c
    rw [hs] at quiet
    cases quiet

theorem Registered.moved (h : s.Registered) (can : s.CanMove c move) :
    (s.moved c move).Registered := by
  by_cases hr : move = .register
  · subst hr
    exact h.register can
  have passage := passage_moved can
  have goes (sub : (s.moved c move).registry.Sublist s.registry)
      (kept : ∀ n ∈ s.registry, (s.stage n).job.any Job.retained = true →
        n ∈ (s.moved c move).registry) : (s.moved c move).Registered := by
    refine h.framed (s.framed_moved c move) sub kept (fun hj => ?_)
      (retained_job_of_passage passage hr) (handled_of_passage passage)
    obtain ⟨handler, kind, job, hs⟩ : ∃ handler kind job, s.stage c = .serving handler kind job := by
      cases hs : s.stage c with
      | serving handler kind job => exact ⟨handler, kind, job, rfl⟩
      | _ =>
        rw [hs] at hj
        cases hj
    rw [hs] at passage
    obtain ⟨handler', job', hs'⟩ := serving_of_passage passage
    rw [hs']
    rfl
  by_cases hf : move = .refuse
  · subst hf
    exact goes List.filter_sublist fun n hn hj => mem_retained hn hj
  · have same := registry_moved (s := s) (c := c) hr hf
    refine goes ?_ fun n hn _ => ?_
    · rw [same]
    · rwa [same]

theorem Registered.next (h : s.Registered) (orderly : s.Orderly) (enabled : s.Enabled act) :
    (s.next act).Registered := by
  cases act with
  | accept =>
    have others (n : ℕ) (hn : n ≠ s.accepted) : (s.next .accept).stage n = s.stage n :=
      congrArg Connection.stage (connection_setConnection_of_ne hn)
    have absent : s.stage s.accepted = .absent :=
      congrArg Connection.stage (orderly.fresh s.accepted le_rfl)
    have received : (s.next .accept).stage s.accepted = .receiving :=
      congrArg Connection.stage connection_accept
    refine ⟨h.nodup, h.length_le, fun n hn => ?_, fun n hn => ?_, fun ha => ?_⟩
    · have job := h.jobs n hn
      by_cases hc : n = s.accepted
      · rw [hc, absent] at job
        cases job
      · rwa [others n hc]
    · by_cases hc : n = s.accepted
      · rw [hc, received] at hn
        cases hn
      · rw [others n hc] at hn
        exact h.listed n hn
    · exact absurd enabled.2.1 ha
  | stop =>
    refine ⟨h.nodup, h.length_le, h.jobs, fun n hn => .inl ?_, fun _ hs => absurd rfl hs⟩
    rcases h.listed n hn with hmem | ⟨jobs, hserving, -⟩
    · exact hmem
    · cases enabled.2.symm.trans hserving
  | drain =>
    obtain ⟨-, hserving, quiet⟩ := enabled
    refine ⟨List.nodup_nil, Nat.zero_le _, (by rintro _ ⟨⟩), fun n hn => .inr ⟨s.registry, rfl, ?_⟩,
      fun _ _ => ⟨rfl, fun n => ?_⟩⟩
    · rcases h.listed n hn with hmem | ⟨jobs, hdraining, -⟩
      · exact hmem
      · cases hserving.symm.trans hdraining
    · by_cases hn : n < s.accepted
      · exact quiet n hn
      · exact congrArg (fun connection => connection.stage.handled)
          (orderly.fresh n (Nat.le_of_not_lt hn))
  | awaitJob =>
    obtain ⟨-, d, jobs, hserving, retired⟩ := enabled
    simp only [ServerState.next, hserving]
    have drained := h.closed (by rw [hserving]; rintro ⟨⟩) (by rw [hserving]; rintro ⟨⟩)
    refine ⟨h.nodup, h.length_le, h.jobs, fun n hn => ?_, fun _ _ => drained⟩
    have before : (s.stage n).job.any Job.retained = true := hn
    rcases h.listed n before with hmem | ⟨jobs', hserving', hmem⟩
    · exact .inl hmem
    · obtain rfl : d :: jobs = jobs' := Serving.draining.inj (hserving.symm.trans hserving')
      rcases List.mem_cons.mp hmem with rfl | hmem
      · cases retired.symm.trans before
      · exact .inr ⟨jobs, rfl, hmem⟩
  | drained =>
    obtain ⟨-, hserving⟩ := enabled
    have drained := h.closed (by rw [hserving]; rintro ⟨⟩) (by rw [hserving]; rintro ⟨⟩)
    refine ⟨h.nodup, h.length_le, h.jobs, fun n hn => ?_, fun _ _ => drained⟩
    rcases h.listed n hn with hmem | ⟨jobs', hserving', hmem⟩
    · exact .inl hmem
    · obtain rfl : [] = jobs' := Serving.draining.inj (hserving.symm.trans hserving')
      cases hmem
  | release thread => exact ⟨h.nodup, h.length_le, h.jobs, h.listed, h.closed⟩
  | move c move => exact h.moved enabled
  | work c work =>
    have worked := s.worked_worked c work
    obtain ⟨handler, supervised, kind, body, body', -, hs, hs', -⟩ :=
      (orderly.each c).progress_worked enabled
    have frame : Framed s (s.worked c work) c := worked.toFramed
    show (s.worked c work).Registered
    refine h.framed frame ?_ ?_ ?_ ?_ ?_
    · rw [worked.registry]
    · rw [worked.registry]
      exact fun _ hn _ => hn
    · rw [hs']
      exact fun _ => rfl
    · rw [hs]
      exact fun _ => by cases supervised <;> rfl
    · rw [hs, hs']
      cases handler <;> exact fun h => h

/-! ## The thread that drops the selection -/

/-- The thread is where it may drop a selection. -/
def Drops (s : ServerState) : Thread → Prop
  | .runtime => ∃ n, (s.stage n).dropping = true
  | .closure n => (s.stage n).detached = true

/-- Where the selection is being dropped, its thread is in the middle of that. -/
def Releasing (s : ServerState) : Prop := ∀ thread, s.releasing = some thread → s.Drops thread

theorem Drops.congr {thread : Thread} (h : s.Drops thread) (same : s'.stage = s.stage) :
    s'.Drops thread := by
  cases thread with
  | runtime =>
    obtain ⟨n, hn⟩ := h
    exact ⟨n, same ▸ hn⟩
  | closure n =>
    show (s'.stage n).detached = true
    rw [same]
    exact h

/-- A thread has dropped something, and may go on to drop the selection. -/
theorem Releasing.settle {thread : Thread} (h : s.Releasing) (drops : s.Drops thread) :
    (s.settle thread).Releasing := by
  intro t ht
  have known : s.releasing = some t ∨ t = thread := by
    unfold ServerState.settle at ht
    split at ht
    · split at ht
      · exact .inr (Option.some_inj.mp ht).symm
      · exact .inl ht
    · exact .inl ht
  rcases known with old | rfl
  · exact (h t old).congr stage_settle
  · exact drops.congr stage_settle

theorem Releasing.framed (h : s.Releasing) (frame : Framed s s' c)
    (hrel : s'.releasing = s.releasing)
    (hdetached : s.releasing = some (.closure c) → (s.stage c).detached = true →
      (s'.stage c).detached = true)
    (hdropping : s.releasing = some .runtime → (s.stage c).dropping = true →
      (s'.stage c).dropping = true) : s'.Releasing := by
  intro thread ht
  rw [hrel] at ht
  have before := h thread ht
  cases thread with
  | runtime =>
    obtain ⟨n, hn⟩ := before
    by_cases hc : n = c
    · subst hc
      exact ⟨n, hdropping ht hn⟩
    · exact ⟨n, by rwa [stage_of_framed frame hc]⟩
  | closure n =>
    by_cases hc : n = c
    · subst hc
      exact hdetached ht before
    · show (s'.stage n).detached = true
      rwa [stage_of_framed frame hc]

theorem detached_of_passage (p : Passage upgraded move old stage) (hf : move ≠ .finishBody)
    (hd : ∀ thread, move ≠ .dropField thread) (h : old.detached = true) :
    stage.detached = true := by
  cases p with
  | finishBody handler kind => exact absurd rfl hf
  | finishBodyAborted handler kind => exact absurd rfl hf
  | dropField handler kind job thread field hfield => exact absurd rfl (hd thread)
  | answer wait kind job => rcases job with _ | _ | _ | ⟨_, _ | _⟩ | _ | _ <;> exact h
  | leave kind job => rcases job with _ | _ | _ | ⟨_, _ | _⟩ | _ | _ <;> exact h
  | abortRunning handler kind body => rfl
  | _ => cases h

/-- While the thread of the runtime drops a selection, the connection that it drops it for does not
go on. -/
theorem dropping_eq_false (can : s.CanMove c move) (hr : s.releasing = some .runtime) :
    (s.stage c).dropping = false := by
  cases move with
  | acquire =>
    rw [can.1]
    rfl
  | contend =>
    rw [can.1]
    rfl
  | clear =>
    rw [show s.stage c = .clearing from can]
    rfl
  | publish =>
    rw [show s.stage c = .publishing from can]
    rfl
  | pin =>
    rw [show s.stage c = .pinning from can]
    rfl
  | register =>
    obtain ⟨⟨kind, hs⟩, -⟩ := can
    rw [hs]
    rfl
  | refuse =>
    obtain ⟨⟨kind, hs⟩, -⟩ := can
    rw [hs]
    rfl
  | finishBody =>
    obtain ⟨kind, hc, -⟩ := can
    obtain ⟨handler, supervised, hs⟩ := Stage.closure_eq_some.mp hc
    rw [hs]
    rfl
  | dropField thread =>
    obtain ⟨hne, handler, kind, job, hs, ht⟩ := can
    rw [hs]
    rcases job with _ | _ | _ | ⟨field, _ | _⟩ | ⟨_ | field, work⟩ | _
    case retiring.true => exact absurd (hr.trans ht) hne
    case discarded.some => exact absurd (hr.trans ht) hne
    case discarded.none => cases ht
    all_goals rfl
  | dropExecution => exact absurd hr can.1
  | dropWork => exact absurd hr can.1
  | fail => exact absurd hr can.1
  | discard => exact absurd hr can.1
  | _ => exact absurd hr can.1.2

theorem Releasing.dropField {thread : Thread} (h : s.Releasing)
    (can : s.CanMove c (.dropField thread)) : (s.moved c (.dropField thread)).Releasing := by
  have quiet := dropping_eq_false can
  obtain ⟨hne, handler, kind, job, hs, ht⟩ := can
  have frame : Framed s (s.goOn c thread ((s.stage c).mapJob Job.dropField)) c := .goOn
  have hrel : (s.goOn c thread ((s.stage c).mapJob Job.dropField)).releasing = s.releasing := by
    cases thread <;> rfl
  have gone : (s.goOn c thread ((s.stage c).mapJob Job.dropField)).stage c =
      .serving handler kind job.dropField := by
    rw [hs]
    cases thread with
    | runtime => exact stage_turn_self
    | closure d => exact stage_setStage_self
  have dropped : (s.goOn c thread ((s.stage c).mapJob Job.dropField)).Releasing := by
    refine h.framed frame hrel (fun hr hdetached => ?_) fun hr hdropping => ?_
    · rw [hs] at hdetached
      rcases job with _ | _ | _ | ⟨field, _ | _⟩ | ⟨_ | field, work⟩ | _
      case retiring.false => exact absurd (hr.trans ht) hne
      all_goals first
        | (cases hdetached; done)
        | cases ht
    · cases (quiet hr).symm.trans hdropping
  simp only [moved, ServerState.dropField]
  split
  · exact dropped
  · next hf =>
    refine dropped.settle ?_
    rw [hs] at hf
    rcases job with _ | _ | _ | ⟨_ | _ | _, _ | _⟩ | ⟨_ | _ | _ | _, work⟩ | _ <;> cases hf <;> cases ht
    · show (Stage.detached _) = true
      rw [gone]
      rfl
    · exact ⟨c, by rw [gone]; rfl⟩
    · exact ⟨c, by rw [gone]; rfl⟩
  · exact dropped

theorem Releasing.moved (h : s.Releasing) (can : s.CanMove c move) :
    (s.moved c move).Releasing := by
  have passage := passage_moved can
  have frame := s.framed_moved c move
  have drops (hr : s.releasing = some .runtime) (hd : (s.stage c).dropping = true) :
      ((s.moved c move).stage c).dropping = true := by
    cases (dropping_eq_false can hr).symm.trans hd
  have goes (hrel : (s.moved c move).releasing = s.releasing) (hf : move ≠ .finishBody)
      (hd : ∀ thread, move ≠ .dropField thread) : (s.moved c move).Releasing :=
    h.framed frame hrel (fun _ hdetached => detached_of_passage passage hf hd hdetached) drops
  cases move with
  | dropField thread => exact h.dropField can
  | finishBody => exact h.framed frame rfl (fun hr => absurd hr can.choose_spec.2.1) drops
  | dropExecution =>
    obtain ⟨-, kind, work, hs⟩ := can
    have dropped : (s.setStage c (s.stage c).dropExecution).stage c = .refused kind false work := by
      rw [stage_setStage_self, hs]
      rfl
    have base : (s.setStage c (s.stage c).dropExecution).Releasing := by
      refine h.framed ⟨fun n hn => connection_setConnection_of_ne hn, rfl, rfl⟩ rfl
        (fun _ hdetached => ?_) fun _ _ => ?_
      · rw [hs] at hdetached
        cases hdetached
      · rw [dropped]
        rfl
    exact base.settle ⟨c, by rw [dropped]; rfl⟩
  | dropWork =>
    have dropped : (s.stage c).dropWork.dropping = true ∧ (s.stage c).detached = false := by
      rcases can with ⟨-, ⟨kind, execution, hs⟩ | ⟨handler, kind, field, hs⟩⟩
      · rw [hs]
        exact ⟨rfl, rfl⟩
      · rw [hs]
        exact ⟨rfl, rfl⟩
    have base (marked : ServerState) (hframe : Framed s marked c)
        (hrel : marked.releasing = s.releasing) :
        (marked.setStage c (s.stage c).dropWork).Releasing := by
      refine h.framed (c := c) ⟨fun n hn => ?_, hframe.accepted, hframe.serving⟩ hrel
        (fun _ hdetached => ?_) fun _ _ => ?_
      · exact (connection_setConnection_of_ne hn).trans (hframe.others n hn)
      · cases dropped.2.symm.trans hdetached
      · rw [stage_setStage_self]
        exact dropped.1
    have drops (marked : ServerState) : (marked.setStage c (s.stage c).dropWork).Drops .runtime :=
      ⟨c, by rw [stage_setStage_self]; exact dropped.1⟩
    simp only [ServerState.moved, ServerState.dropWork]
    split
    · exact (base _ ⟨fun n hn => connection_setConnection_of_ne hn, rfl, rfl⟩ rfl).settle (drops _)
    · exact (base s ⟨fun _ _ => rfl, rfl, rfl⟩ rfl).settle (drops s)
  | _ => exact goes rfl (by rintro ⟨⟩) (by rintro _ ⟨⟩)

theorem Releasing.next (h : s.Releasing) (orderly : s.Orderly) (enabled : s.Enabled act) :
    (s.next act).Releasing := by
  cases act with
  | accept =>
    intro thread ht
    have before := h thread ht
    have others {n : ℕ} (hn : (s.stage n).detached = true ∨ (s.stage n).dropping = true) :
        (s.next .accept).stage n = s.stage n := by
      refine congrArg Connection.stage (connection_setConnection_of_ne ?_)
      rintro rfl
      rw [stage, orderly.fresh s.accepted le_rfl] at hn
      rcases hn with hn | hn <;> cases hn
    cases thread with
    | runtime =>
      obtain ⟨n, hn⟩ := before
      exact ⟨n, by rwa [others (.inr hn)]⟩
    | closure n =>
      show ((s.next .accept).stage n).detached = true
      rwa [others (.inl before)]
  | stop => exact h
  | drain => exact h
  | awaitJob =>
    obtain ⟨-, d, jobs, hserving, -⟩ := enabled
    simp only [ServerState.next, hserving]
    exact h
  | drained => exact h
  | release thread => rintro _ ⟨⟩
  | move c move => exact h.moved enabled
  | work c work =>
    have worked := s.worked_worked c work
    obtain ⟨handler, supervised, kind, body, body', -, hs, hs', -⟩ :=
      (orderly.each c).progress_worked enabled
    have goes (s' : ServerState) (hframe : Framed s s' c)
        (hstage : s'.stage c = .serving handler kind (.running body' supervised))
        (hrel : s'.releasing = s.releasing) : s'.Releasing := by
      refine h.framed hframe hrel (fun _ _ => ?_) fun _ hdropping => ?_
      · rw [hstage]
        rfl
      · rw [hs] at hdropping
        cases hdropping
    have detached (s' : ServerState)
        (hstage : s'.stage c = .serving handler kind (.running body' supervised)) :
        s'.Drops (.closure c) := congrArg Stage.detached hstage
    cases work with
    | unpin =>
      have hstage : (s.setBody c .ended).stage c = _ := (congrFun stage_settle c).symm.trans hs'
      exact (goes _ (Worked.setBody .ended (by rintro ⟨⟩)).toFramed hstage rfl).settle (detached _ hstage)
    | letGo =>
      have hstage : ({ s with lock := .unlocking c } : ServerState).stage c = _ :=
        (congrFun stage_settle c).symm.trans hs'
      exact (goes _ Worked.refl.besides.toFramed hstage rfl).settle (detached _ hstage)
    | report =>
      obtain ⟨result, hc, -⟩ := enabled
      exact goes _ worked.toFramed hs' (by simp only [ServerState.next, ServerState.worked, hc]; rfl)
    | poisoned =>
      obtain ⟨pin, retained, hc, -⟩ := enabled
      exact goes _ worked.toFramed hs' (by simp only [ServerState.next, ServerState.worked, hc]; rfl)
    | decide =>
      obtain ⟨pin, retained, current, hc, -⟩ := enabled
      exact goes _ worked.toFramed hs' (by simp only [ServerState.next, ServerState.worked, hc]; rfl)
    | upgrade =>
      obtain ⟨id, hl⟩ := enabled
      exact goes _ worked.toFramed hs' (by simp only [ServerState.next, ServerState.worked, hl])
    | inspect =>
      obtain ⟨id, n, hl⟩ := enabled
      refine goes _ worked.toFramed hs' ?_
      simp only [ServerState.next, ServerState.worked, hl]
      exact releasing_compare
    | miss => exact goes _ worked.toFramed hs' releasing_compare
    | _ => exact goes _ worked.toFramed hs' rfl

/-! ## Room for a job -/

/-- No supervisor was aborted. -/
def Supervised (s : ServerState) : Prop := ∀ n, (s.stage n).job.all Job.supervised = true

theorem supervised_of_passage (p : Passage upgraded move old stage) (ha : move ≠ .abort)
    (h : old.job.all Job.supervised = true) : stage.job.all Job.supervised = true := by
  cases p with
  | abortSpawned handler kind => exact absurd rfl ha
  | abortRunning handler kind body => exact absurd rfl ha
  | abortReturned handler kind => exact absurd rfl ha
  | finishBodyAborted handler kind => cases h
  | dropField handler kind job thread field hf =>
    rcases job with _ | _ | _ | ⟨_ | _ | _, _⟩ | ⟨_ | _ | _ | _, _⟩ | _
    all_goals first
      | rfl
      | exact h
  | _ => first
    | rfl
    | exact h

theorem Supervised.next (h : s.Supervised) (orderly : s.Orderly) (enabled : s.Enabled act)
    (ha : ∀ n, act ≠ .move n .abort) : (s.next act).Supervised := by
  intro n
  rcases s.connection_next act n with same | ⟨rfl, rfl⟩ | ⟨move, rfl⟩ | ⟨work, rfl⟩
  · rw [stage, same]
    exact h n
  · rw [stage, connection_accept]
    rfl
  · exact supervised_of_passage (passage_moved enabled) (fun hm => ha n (by rw [hm])) (h n)
  · obtain ⟨handler, supervised, kind, body, body', -, hs, hs', -⟩ :=
      (orderly.each n).progress_worked enabled
    have before := h n
    rw [hs] at before
    rw [next, hs']
    exact before

/-- A job that is supervised and has not retired has the permit of its connection, unless the
runtime is dropping its lease in this turn. -/
theorem holdsConnection_of_supervised {handler : Handler} {kind : Kind} {job : Job}
    (h : job.supervised = true) (hr : job ≠ .retired)
    (hb : (Stage.serving handler kind job).busy = false) :
    (Stage.serving handler kind job).holdsConnection = true := by
  cases handler with
  | returned =>
    cases job with
    | retiring field supervised =>
      cases supervised with
      | true => cases hb
      | false => cases h
    | discarded field work => cases h
    | retired => exact absurd rfl hr
    | _ => rfl
  | _ => rfl

/-- **A handler that registers a job finds room**, as long as no supervisor is aborted. -/
theorem retained_lt {kind : Kind} (orderly : s.Orderly) (registered : s.Registered)
    (conserved : s.Conserved) (supervised : s.Supervised) (hs : s.stage c = .registering kind) :
    s.retained.length < connectionsMax := by
  have mine : c ∈ s.holders := by
    refine mem_holders.mpr ⟨orderly.lt_accepted (by rw [hs]; nofun), ?_⟩
    rw [hs]
    rfl
  have turn : s.busy = some c := (orderly.each c).busy.mp (by rw [hs]; rfl)
  have sub : s.retained.toFinset ⊆ s.holders.erase c := by
    intro n hn
    obtain ⟨hmem, hretained⟩ := List.mem_filter.mp (List.mem_toFinset.mp hn)
    have job := registered.jobs n hmem
    have kept := supervised n
    cases hn : s.stage n with
    | serving handler kind' job' =>
      rw [hn] at hretained kept
      have ne : n ≠ c := by
        rintro rfl
        cases hs.symm.trans hn
      have quiet : (s.stage n).busy = false := by
        refine Bool.eq_false_iff.mpr fun hb => ne ?_
        exact Option.some_inj.mp (((orderly.each n).busy.mp hb).symm.trans turn)
      rw [hn] at quiet
      refine Finset.mem_erase.mpr ⟨ne, mem_holders.mpr ⟨orderly.lt_accepted (by rw [hn]; nofun), ?_⟩⟩
      rw [hn]
      refine holdsConnection_of_supervised kept ?_ quiet
      rintro rfl
      cases hretained
    | _ =>
      rw [hn] at job
      cases job
  have nodup : s.retained.Nodup := registered.nodup.sublist List.filter_sublist
  have card := Finset.card_le_card sub
  rw [List.toFinset_card_of_nodup nodup] at card
  have erased := Finset.card_erase_add_one mine
  unfold Conserved at conserved
  omega

/-! ## The end of a drain -/

/-- **Nothing is left of what the registry does not know any more.** -/
theorem over_of_drained (registered : s.Registered)
    (hserving : s.serving = .drained) (n : ℕ) :
    (s.stage n).holdsConnection = false ∧ (s.stage n).closure = none ∧
      (s.stage n).detached = false ∧ (s.stage n).dropping = false ∧
      ∀ m, (s.stage n).refers n m = false := by
  obtain ⟨empty, quiet⟩ := registered.closed (by rw [hserving]; nofun) (by rw [hserving]; nofun)
  have handled := quiet n
  have retired : ∀ job, (s.stage n).job = some job → job = .retired := by
    intro job hj
    refine Job.retained_eq_false.mp (Bool.eq_false_iff.mpr fun hr => ?_)
    rcases registered.listed n (by rw [hj]; exact hr) with hmem | ⟨jobs, hdraining, -⟩
    · rw [empty] at hmem
      cases hmem
    · cases hserving.symm.trans hdraining
  have none_refers {stage : Stage} (he : stage.holdsExecution = false) (hw : stage.holdsWork = false)
      (m : ℕ) : stage.refers n m = false := by
    simp [Stage.refers, Stage.captures, he, hw]
  generalize s.stage n = stage at handled retired ⊢
  rcases stage with _ | _ | _ | _ | _ | _ | _ | _ | ⟨_ | _ | _, kind, job⟩ | _ | _
  case absent => exact ⟨rfl, rfl, rfl, rfl, none_refers rfl rfl⟩
  case serving.returned =>
    obtain rfl := retired job rfl
    exact ⟨rfl, rfl, rfl, rfl, none_refers rfl rfl⟩
  case dismissed.true => exact ⟨rfl, rfl, rfl, rfl, none_refers rfl rfl⟩
  all_goals cases handled

/-- **A drain returns every permit.** -/
theorem permits_of_drained (orderly : s.Orderly) (permit : s.Permit) (conserved : s.Conserved)
    (registered : s.Registered) (releasing : s.Releasing) (hserving : s.serving = .drained) :
    s.connections = connectionsMax ∧ s.submission = none := by
  have finished := over_of_drained registered hserving
  refine ⟨?_, ?_⟩
  · have empty : s.holders = ∅ := by
      refine Finset.eq_empty_of_forall_notMem fun n hn => ?_
      cases (finished n).1.symm.trans (mem_holders.mp hn).2
    rw [Conserved, empty, Finset.card_empty] at conserved
    exact conserved
  · have dead (n : ℕ) : s.refers n ≠ true := by
      intro hn
      rcases refers_iff.mp hn with ⟨d, -, hr⟩ | hl
      · cases ((finished d).2.2.2.2 n).symm.trans hr
      · obtain ⟨d, hd⟩ : ∃ d, s.lock.closure = some d := by
          cases hlock : s.lock with
          | holding d id m => exact ⟨d, rfl⟩
          | held d m => exact ⟨d, rfl⟩
          | _ =>
            rw [hlock] at hl
            cases hl
        obtain ⟨kind, body, hc, -⟩ := ((orderly.each d).looks hd).closure
        cases (finished d).2.1.symm.trans hc
    cases hsub : s.submission with
    | none => rfl
    | some n =>
      obtain ⟨thread, ht⟩ := Option.ne_none_iff_exists'.mp
        ((permit.used n hsub).resolve_left (dead n))
      have drops := releasing thread ht
      cases thread with
      | runtime =>
        obtain ⟨d, hd⟩ := drops
        cases (finished d).2.2.2.1.symm.trans hd
      | closure d => cases (finished d).2.2.1.symm.trans drops

end ServerState

section
variable {rows : Text → Option OperationState} {acts : List Act}

theorem conserved_of_possible (h : (runtime rows).Possible acts) :
    ((runtime rows).after acts).Conserved := by
  induction acts with
  | nil => rfl
  | cons act acts ih => exact (ih h.1).next (orderly_of_possible h.1) h.2

theorem registered_of_possible (h : (runtime rows).Possible acts) :
    ((runtime rows).after acts).Registered := by
  induction acts with
  | nil => exact ⟨List.nodup_nil, Nat.zero_le _, nofun, nofun, fun ha => absurd rfl ha⟩
  | cons act acts ih => exact (ih h.1).next (orderly_of_possible h.1) h.2

theorem releasing_of_possible (h : (runtime rows).Possible acts) :
    ((runtime rows).after acts).Releasing := by
  induction acts with
  | nil => nofun
  | cons act acts ih => exact (ih h.1).next (orderly_of_possible h.1) h.2

theorem supervised_of_possible (h : (runtime rows).Possible acts)
    (unaborted : ∀ n, Act.move n .abort ∉ acts) : ((runtime rows).after acts).Supervised := by
  induction acts with
  | nil => exact fun _ => rfl
  | cons act acts ih =>
    refine (ih h.1 fun n hn => unaborted n (List.mem_cons_of_mem act hn)).next
      (orderly_of_possible h.1) h.2 fun n hn => unaborted n ?_
    exact hn ▸ List.mem_cons_self

/-- **The closure of a connection that has returned its permit never runs again.** -/
theorem closure_of_returned {later : List Act} {c : ℕ} (possible : (runtime rows).Possible (later ++ acts))
    (lt : c < ((runtime rows).after acts).accepted)
    (h : (((runtime rows).after acts).stage c).holdsConnection = false) :
    (((runtime rows).after (later ++ acts)).stage c).closure = none := by
  have returned : c < ((runtime rows).after (later ++ acts)).accepted ∧
      (((runtime rows).after (later ++ acts)).stage c).holdsConnection = false := by
    induction later with
    | nil => exact ⟨lt, h⟩
    | cons act later ih =>
      obtain ⟨lt', returned⟩ := ih possible.1
      exact ⟨lt'.trans_le ServerState.accepted_next,
        ServerState.returned_next (orderly_of_possible possible.1) possible.2 lt' returned⟩
  exact (Stage.over_of_not_holdsConnection returned.2).2

/-- **Jobs and permits are conserved**, whatever happens.  At most one execution has a closure.  The
submission permit is free exactly where no selection is alive or being dropped.  The permits of
connections that are free and those that are held are eight, and a connection that has returned its
permit has a handler that has returned and a closure that neither runs nor will.  The registry has
at most eight jobs, and without aborts no job is refused.  When a drain has returned no closure runs
and every permit is free. -/
theorem permits_conserved (possible : (runtime rows).Possible acts) :
    let s := (runtime rows).after acts
    (∀ c d, s.Executes c → s.Executes d → c = d) ∧
      (s.submission = none ↔ (∀ n, s.refers n = false) ∧ s.releasing = none) ∧
      s.connections + s.holders.card = connectionsMax ∧
      (∀ c < s.accepted, (s.stage c).holdsConnection = false → (s.stage c).handled = false ∧
        ∀ later, (runtime rows).Possible (later ++ acts) →
          (((runtime rows).after (later ++ acts)).stage c).closure = none) ∧
      s.registry.length ≤ connectionsMax ∧
      ((∀ c, Act.move c .abort ∉ acts) → ∀ c, ¬s.Enabled (.move c .refuse)) ∧
      (s.serving = .drained → (∀ c, (s.stage c).closure = none) ∧
        s.connections = connectionsMax ∧ s.submission = none) := by
  intro s
  have orderly : s.Orderly := orderly_of_possible possible
  have permit : s.Permit := permit_of_possible possible
  have conserved : s.Conserved := conserved_of_possible possible
  have registered : s.Registered := registered_of_possible possible
  refine ⟨fun c d hc hd => (sole_of_possible possible).unique permit orderly hc hd, ⟨?_, ?_⟩,
    conserved, fun c lt returned => ⟨(Stage.over_of_not_holdsConnection returned).1,
      fun later hlater => closure_of_returned hlater lt returned⟩, registered.length_le, ?_, ?_⟩
  · intro free
    refine ⟨fun n => Bool.eq_false_iff.mpr fun hn => ?_, permit.idle free⟩
    cases free.symm.trans (permit.owned n hn).1
  · rintro ⟨dead, kept⟩
    cases hsub : s.submission with
    | none => rfl
    | some n =>
      rcases permit.used n hsub with hn | dropping
      · cases (dead n).symm.trans hn
      · exact absurd kept dropping
  · rintro unaborted c ⟨⟨kind, hs⟩, full⟩
    have room := ServerState.retained_lt orderly registered conserved
      (supervised_of_possible possible unaborted) hs
    exact absurd full (Nat.not_le_of_lt room)
  · intro hserving
    exact ⟨fun c => (ServerState.over_of_drained registered hserving c).2.1,
      ServerState.permits_of_drained orderly permit conserved registered
        (releasing_of_possible possible) hserving⟩

end

/-- A read whose supervisor is aborted, and a drain that waits for its closure. -/
def drainedRun : List Act := [
  .drained, .awaitJob, .move 0 (.dropField (.closure 0)), .move 0 (.dropField (.closure 0)),
  .move 0 (.dropField (.closure 0)), .move 0 .finishBody, .work 0 .finishRead, .drain, .stop,
  .move 0 .leave, .move 0 (.answer .expired), .move 0 .abort, .move 0 .start, .move 0 .register,
  .move 0 .read, .accept]

theorem possible_drainedRun : (runtime fun _ => none).Possible drainedRun := by
  refine ⟨⟨⟨⟨⟨⟨⟨⟨⟨⟨⟨⟨⟨⟨⟨⟨trivial, ?_⟩, ?_⟩, ?_⟩, ?_⟩, ?_⟩, ?_⟩, ?_⟩, ?_⟩, ?_⟩, ?_⟩, ?_⟩, ?_⟩, ?_⟩,
    ?_⟩, ?_⟩, ?_⟩
  · exact ⟨⟨rfl, nofun⟩, rfl, by decide⟩
  · exact ⟨⟨rfl, nofun⟩, rfl⟩
  · exact ⟨⟨.read, rfl⟩, by decide⟩
  · exact ⟨⟨rfl, nofun⟩, .waiting, .read, rfl⟩
  · exact ⟨⟨rfl, nofun⟩, .waiting, .read, _, rfl, .inr (.inl ⟨.started, rfl⟩)⟩
  · exact ⟨⟨rfl, nofun⟩, .read, _, rfl, trivial⟩
  · exact ⟨⟨rfl, nofun⟩, .inl ⟨.read, _, rfl⟩⟩
  · exact ⟨⟨rfl, nofun⟩, rfl⟩
  · refine ⟨⟨rfl, nofun⟩, rfl, fun c hc => ?_⟩
    obtain rfl : c = 0 := Nat.lt_one_iff.mp hc
    rfl
  · exact ⟨rfl, nofun, nofun⟩
  · exact ⟨.read, rfl, nofun, nofun⟩
  · exact ⟨nofun, .returned, .read, _, rfl, rfl⟩
  · exact ⟨nofun, .returned, .read, _, rfl, rfl⟩
  · exact ⟨nofun, .returned, .read, _, rfl, rfl⟩
  · exact ⟨⟨rfl, nofun⟩, 0, [], rfl, rfl⟩
  · exact ⟨⟨rfl, nofun⟩, rfl⟩

/-- At the end of that run every permit is free. -/
theorem permits_of_drainedRun :
    ((runtime fun _ => none).after drainedRun).connections = connectionsMax ∧
      ((runtime fun _ => none).after drainedRun).submission = none :=
  ((permits_conserved possible_drainedRun).2.2.2.2.2.2 rfl).2

end Runtime
end Daemon
end Kapsel
