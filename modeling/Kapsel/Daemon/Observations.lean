import Kapsel.Daemon.Selections
import Kapsel.Relational.Recent

/-!
# What the process says of an identity

`observation` looks at the published selection and, when that is gone, at a queue of conditions that
executions have ended with.  Selections are published under one lock, the queue is cleared and
written under another, and a probe may keep a selection alive that has ended.  What is said is about
the newest selection of the identity all the same.

* `Observes` is what a closure is told, `lastPublished` the newest selection of an identity.
* `Settled`: a condition is retained only for an identity none of whose selections can still end.
* `recorded_of_mem_stopped`: **what is retained for an identity is the result of its newest
  selection.**
* `Gone`: where a closure has found nothing, nothing is alive.
-/

namespace Kapsel

open Grammar Authority Interaction

namespace Daemon
namespace Runtime

open Gateway Application

/-! ## What is told -/

/-- What `observation` tells the closure of a connection about an identity, once it has upgraded the
published selection. -/
def ServerState.Observes (s : ServerState) (c : ℕ) (id : Text) (observation : ExecutionObservation) :
    Prop :=
  (∃ n, s.lock = .holding c id n ∧ observation = s.selectionObservation n id) ∨
    s.lock = .missing c id ∧ observation = stoppedObservation s.stopped id

section
variable {stopped : List (Text × ExecutionObservation)} {id : Text}
  {result : Except ServiceError ServiceStop} {condition : ExecutionCondition}

theorem mem_of_stoppedObservation (h : stoppedObservation stopped id ≠ .unknown) :
    (id, stoppedObservation stopped id) ∈ stopped := by
  unfold stoppedObservation at h ⊢
  cases hf : stopped.find? fun entry => entry.1 = id with
  | none =>
    rw [hf] at h
    exact absurd rfl h
  | some entry =>
    have key : entry.1 = id := by simpa using List.find?_some hf
    have mem := List.mem_of_find?_eq_some hf
    subst key
    exact mem

/-- No result is that the execution goes on. -/
theorem observation_ne_active : ServiceStop.observation result ≠ .active := by
  unfold ServiceStop.observation
  split <;> nofun

end

/-! ## The newest selection -/

/-- No result is recorded yet. -/
def Job.unrecorded : Job → Bool
  | spawned => true
  | running .started _ => true
  | _ => false

namespace Stage

/-- The connection has submitted or read. -/
def submitted : Stage → Bool
  | absent => false
  | receiving => false
  | _ => true

/-- No result is recorded yet. -/
def unrecorded : Stage → Bool
  | publishing => true
  | registering _ => true
  | serving _ _ job => job.unrecorded
  | _ => false

end Stage

/-- The connection that published the newest selection of an identity. -/
def lastPublished (rows : Text → Option OperationState) (id : Text) : List Act → Option ℕ
  | [] => none
  | .move c .publish :: acts =>
      if ((runtime rows).after acts).id c = id then some c else lastPublished rows id acts
  | _ :: acts => lastPublished rows id acts

namespace ServerState

variable {s s' : ServerState} {c n : ℕ} {old stage : Stage} {move : Move} {work : Work} {act : Act}
  {upgraded : Option ℕ}

theorem submitted_of_passage (p : Passage upgraded move old stage) : stage.submitted = true := by
  cases p <;> rfl

/-- The connection has a selection that is cleared for and can still end with a result. -/
def Unstopped (stage : Stage) : Prop := stage.kind = some .execute ∧ stage.unrecorded = true

theorem selecting_of_passage {id : Text} (p : Passage upgraded (.submit id) old stage) :
    stage = .selecting := by
  cases p
  rfl

theorem unstopped_of_passage (p : Passage upgraded move old stage) (hm : move ≠ .clear)
    (h : Unstopped stage) : Unstopped old := by
  obtain ⟨hk, hr⟩ := h
  cases p with
  | clear => exact absurd rfl hm
  | publish => exact ⟨rfl, rfl⟩
  | pin => cases hk
  | read => cases hk
  | register kind => exact ⟨hk, rfl⟩
  | start handler kind => exact ⟨hk, rfl⟩
  | answer wait kind job => exact ⟨hk, hr⟩
  | leave kind job => exact ⟨hk, hr⟩
  | abortRunning handler kind body => exact ⟨hk, by cases body <;> exact hr⟩
  | dropField handler kind job thread field hf =>
    rcases job with _ | _ | _ | ⟨_ | _ | _, _⟩ | ⟨_ | _ | _ | _, _⟩ | _
    all_goals first
      | (cases hf; done)
      | cases hr
  | _ => cases hr

theorem refers_of_unstopped (h : Unstopped stage) : stage.refers c c = true := by
  obtain ⟨hk, hr⟩ := h
  refine Stage.refers_iff.mpr ⟨by rw [Stage.selection, hk]; rfl, .inl ?_⟩
  rcases stage with _ | _ | _ | _ | _ | _ | _ | _ | ⟨handler, kind, job⟩ | _
  case serving =>
    rcases job with _ | ⟨_ | _, _⟩ | _ | _ | _ | _
    all_goals first
      | rfl
      | cases hr
  all_goals first
    | rfl
    | cases hr

/-! ## What changes the queue and the identities -/

theorem id_moved (hm : ∀ id, move ≠ .submit id) : (s.moved c move).id c = s.id c := by
  cases hs : move.selects with
  | false => exact (still_moved hs).id
  | true =>
    cases move with
    | submit id => exact absurd rfl (hm id)
    | acquire => simp [ServerState.id, moved, turn, setRunning]
    | contend => exact Still.turn.id
    | clear => exact Still.turn.id
    | publish => exact Still.turn.id
    | pin => exact Still.turn.id
    | _ => cases hs

theorem stopped_moved (hm : move ≠ .clear) : (s.moved c move).stopped = s.stopped := by
  cases hs : move.selects with
  | false => exact (still_moved hs).stopped
  | true =>
    cases move with
    | clear => exact absurd rfl hm
    | submit id => rfl
    | acquire => rfl
    | contend => rfl
    | publish => rfl
    | pin => rfl
    | _ => cases hs

theorem selected_moved (hm : move ≠ .publish) : (s.moved c move).selected = s.selected := by
  cases hs : move.selects with
  | false => exact (still_moved hs).selected
  | true =>
    cases move with
    | publish => exact absurd rfl hm
    | submit id => rfl
    | acquire => rfl
    | contend => rfl
    | clear => rfl
    | pin => rfl
    | _ => cases hs

theorem stopped_compare {found : Bool} : (s.compare c found).stopped = s.stopped := by
  unfold compare
  split
  · rfl
  · rfl

theorem stopped_worked (hw : ∀ result, work ≠ .recordStop result) :
    (s.worked c work).stopped = s.stopped := by
  cases work with
  | recordStop result => exact absurd rfl (hw result)
  | report =>
    simp only [worked]
    split <;> rfl
  | poisoned =>
    simp only [worked]
    split <;> rfl
  | decide =>
    simp only [worked]
    split <;> rfl
  | unpin => exact stopped_settle
  | upgrade =>
    simp only [worked]
    split <;> rfl
  | inspect =>
    simp only [worked]
    split
    · exact stopped_compare
    · rfl
  | letGo => exact stopped_settle
  | miss => exact stopped_compare
  | _ => rfl

/-- The queue changes when a handler clears an identity and when an execution records its
result. -/
theorem stopped_next (s : ServerState) (act : Act) : (s.next act).stopped = s.stopped ∨
    (∃ c, act = .move c .clear ∧
      (s.next act).stopped = Relational.forget s.stopped (s.id c)) ∨
    ∃ c result, act = .work c (.recordStop result) ∧ (s.next act).stopped =
      Relational.record 32 s.stopped (s.id c) (ServiceStop.observation result) := by
  cases act with
  | accept => exact .inl rfl
  | stop => exact .inl rfl
  | drain => exact .inl rfl
  | awaitJob =>
    refine .inl ?_
    simp only [next]
    split <;> rfl
  | drained => exact .inl rfl
  | release thread => exact .inl rfl
  | move c move =>
    by_cases hm : move = .clear
    · subst hm
      exact .inr (.inl ⟨c, rfl, rfl⟩)
    · exact .inl (stopped_moved hm)
  | work c work =>
    by_cases hw : ∃ result, work = .recordStop result
    · obtain ⟨result, rfl⟩ := hw
      exact .inr (.inr ⟨c, result, rfl, rfl⟩)
    · exact .inl (stopped_worked fun result hr => hw ⟨result, hr⟩)

/-- Nothing is added to the queue but the result of an execution. -/
theorem mem_stopped_next {entry : Text × ExecutionObservation}
    (h : entry ∈ (s.next act).stopped) : entry ∈ s.stopped ∨
      ∃ c result, act = .work c (.recordStop result) ∧
        entry = (s.id c, ServiceStop.observation result) := by
  rcases s.stopped_next act with same | ⟨c, -, cleared⟩ | ⟨c, result, hact, recorded⟩
  · exact .inl (same ▸ h)
  · rw [cleared] at h
    exact .inl (Relational.mem_forget.mp h).1
  · rw [recorded] at h
    rcases Relational.mem_record h with rfl | ⟨old, -⟩
    · exact .inr ⟨c, result, hact, rfl⟩
    · exact .inl old

/-- A condition is retained only for an identity none of whose selections can still end. -/
def Settled (s : ServerState) : Prop :=
  ∀ entry ∈ s.stopped, ∀ n, s.id n = entry.1 → ¬Unstopped (s.stage n)

theorem unstopped_of_worked (orderly : s.Orderly) (can : s.CanWork c work)
    (h : Unstopped ((s.worked c work).stage c)) : Unstopped (s.stage c) := by
  obtain ⟨kind, body, hc, -⟩ := (orderly.each c).closure_of_canWork can
  obtain ⟨handler, supervised, body', hs, hs', hb⟩ := (s.worked_worked c work).serving_stage hc
  rw [hs'] at h
  obtain ⟨hk, hr⟩ := h
  rw [hs]
  refine ⟨hk, ?_⟩
  cases body' with
  | started =>
    rw [hb rfl]
    rfl
  | _ => cases hr

/-- While an execution can end, no other one can. -/
theorem Permit.eq_of_unstopped (permit : s.Permit) (orderly : s.Orderly)
    (hc : s.At c .execute .started) (hn : Unstopped (s.stage n)) : n = c := by
  obtain ⟨handler, supervised, hs⟩ := Stage.closure_eq_some.mp hc.1
  have mine : (s.stage c).refers c c = true := by
    rw [hs]
    exact Stage.refers_iff.mpr ⟨rfl, .inl rfl⟩
  have taken := (permit.owned c (refers_of_stage orderly mine)).1
  have taken' := (permit.owned n (refers_of_stage orderly (refers_of_unstopped hn))).1
  exact Option.some_inj.mp (taken'.symm.trans taken)

theorem Settled.moved (h : s.Settled) (can : s.CanMove c move) : (s.moved c move).Settled := by
  intro entry hentry n hid hun
  by_cases hn : n = c
  · subst hn
    have passage := passage_moved can
    by_cases hm : move = .clear
    · subst hm
      have ne : entry.1 ≠ s.id n := (Relational.mem_forget.mp hentry).2
      have same : (s.moved n .clear).id n = s.id n := id_moved fun _ => nofun
      rw [same] at hid
      exact ne hid.symm
    · rw [stopped_moved hm] at hentry
      refine h entry hentry n ?_ (unstopped_of_passage passage hm hun)
      rw [← hid]
      refine (id_moved fun id hsub => ?_).symm
      subst hsub
      rw [selecting_of_passage passage] at hun
      cases hun.1
  · have same : (s.moved c move).connection n = s.connection n := (s.framed_moved c move).others n hn
    rw [ServerState.stage, same] at hun
    rw [ServerState.id, same] at hid
    refine h entry ?_ n hid hun
    by_cases hm : move = .clear
    · subst hm
      exact (Relational.mem_forget.mp hentry).1
    · rwa [stopped_moved hm] at hentry

theorem Settled.worked (h : s.Settled) (permit : s.Permit) (orderly : s.Orderly)
    (can : s.CanWork c work) : (s.worked c work).Settled := by
  intro entry hentry n hid hun
  have worked := s.worked_worked c work
  have unstopped : Unstopped (s.stage n) := by
    by_cases hn : n = c
    · subst hn
      exact unstopped_of_worked orderly can hun
    · rwa [ServerState.stage, worked.others n hn] at hun
  have id_eq : (s.worked c work).id n = s.id n := by
    by_cases hn : n = c
    · rw [hn, worked.id]
    · rw [ServerState.id, worked.others n hn]
      rfl
  by_cases hw : ∃ result, work = .recordStop result
  · obtain ⟨result, rfl⟩ := hw
    have hn : n = c := permit.eq_of_unstopped orderly can unstopped
    subst hn
    obtain ⟨handler, supervised, hs⟩ := Stage.closure_eq_some.mp can.1
    have recorded : (s.worked n (.recordStop result)).stage n =
        .serving handler .execute (.running (.recorded result) supervised) := by
      show (s.setBody n (.recorded result)).stage n = _
      rw [setBody, stage_setStage_self, hs]
      rfl
    rw [recorded] at hun
    cases hun.2
  · rw [stopped_worked fun result hr => hw ⟨result, hr⟩] at hentry
    exact h entry hentry n (id_eq.symm.trans hid) unstopped

theorem Settled.next (h : s.Settled) (permit : s.Permit) (orderly : s.Orderly)
    (enabled : s.Enabled act) : (s.next act).Settled := by
  cases act with
  | accept =>
    intro entry hentry n hid
    by_cases hn : n = s.accepted
    · subst hn
      have received : (s.next .accept).stage s.accepted = .receiving := by
        simp [ServerState.next, ServerState.stage]
      rw [received]
      rintro ⟨⟨⟩, -⟩
    · have same : (s.next .accept).connection n = s.connection n :=
        connection_setConnection_of_ne hn
      rw [ServerState.stage, same]
      exact h entry hentry n (by rwa [ServerState.id, same] at hid)
  | stop => exact h
  | drain => exact h
  | awaitJob =>
    obtain ⟨-, c, jobs, hserving, -⟩ := enabled
    simp only [ServerState.next, hserving]
    exact h
  | drained => exact h
  | release thread => exact h
  | move c move => exact h.moved enabled
  | work c work => exact h.worked permit orderly enabled

/-! ## Identities stay -/

/-- What a connection has submitted does not change. -/
theorem submitted_next (orderly : s.Orderly) (enabled : s.Enabled act)
    (h : (s.stage n).submitted = true) :
    (s.next act).id n = s.id n ∧ ((s.next act).stage n).submitted = true := by
  have others (same : (s.next act).connection n = s.connection n) :
      (s.next act).id n = s.id n ∧ ((s.next act).stage n).submitted = true :=
    ⟨congrArg Connection.id same, by rwa [ServerState.stage, same]⟩
  cases act with
  | accept =>
    refine others (connection_setConnection_of_ne ?_)
    rintro rfl
    rw [show s.stage s.accepted = .absent from
      congrArg Connection.stage (orderly.fresh s.accepted le_rfl)] at h
    cases h
  | stop => exact others rfl
  | drain => exact others rfl
  | awaitJob =>
    refine others ?_
    simp only [next]
    split <;> rfl
  | drained => exact others rfl
  | release thread => exact others rfl
  | move c move =>
    by_cases hn : n = c
    · subst hn
      have passage := passage_moved enabled
      refine ⟨id_moved fun id hsub => ?_, submitted_of_passage passage⟩
      subst hsub
      rw [show s.stage n = .receiving from enabled.2.1] at h
      cases h
    · exact others ((s.framed_moved c move).others n hn)
  | work c work =>
    have worked := s.worked_worked c work
    by_cases hn : n = c
    · subst hn
      obtain ⟨kind, body, hc, -⟩ := (orderly.each n).closure_of_canWork enabled
      obtain ⟨handler, supervised, body', hs, hs', -⟩ := worked.serving_stage hc
      refine ⟨worked.id, ?_⟩
      rw [next, hs']
      rfl
    · exact others (worked.others n hn)

end ServerState

section
variable {rows : Text → Option OperationState} {acts later earlier : List Act} {act : Act}
  {id : Text} {c n : ℕ}

theorem lastPublished_cons (h : ∀ c, act ≠ .move c .publish) :
    lastPublished rows id (act :: acts) = lastPublished rows id acts := by
  cases act with
  | move c move =>
    cases move with
    | publish => exact absurd rfl (h c)
    | _ => rfl
  | _ => rfl

theorem lastPublished_publish : lastPublished rows id (.move c .publish :: acts) =
    if ((runtime rows).after acts).id c = id then some c else lastPublished rows id acts := rfl

theorem selected_next {s : ServerState} (h : ∀ c, act ≠ .move c .publish) :
    (s.next act).selected = s.selected := by
  cases act with
  | awaitJob =>
    simp only [ServerState.next]
    split <;> rfl
  | move c move => exact ServerState.selected_moved fun hm => h c (by rw [hm])
  | work c work => exact (s.worked_worked c work).selected
  | _ => rfl

/-- The newest selection of an identity is of that identity. -/
theorem id_of_lastPublished (possible : (runtime rows).Possible acts)
    (h : lastPublished rows id acts = some n) :
    ((runtime rows).after acts).id n = id ∧
      (((runtime rows).after acts).stage n).submitted = true := by
  induction acts with
  | nil => cases h
  | cons act acts ih =>
    have kept (hid : ((runtime rows).after acts).id n = id)
        (hs : (((runtime rows).after acts).stage n).submitted = true) :
        ((runtime rows).after (act :: acts)).id n = id ∧
          (((runtime rows).after (act :: acts)).stage n).submitted = true := by
      have next := ServerState.submitted_next (orderly_of_possible possible.1) possible.2 hs
      exact ⟨next.1.trans hid, next.2⟩
    by_cases hp : ∃ c, act = .move c .publish
    · obtain ⟨c, rfl⟩ := hp
      rw [lastPublished_publish] at h
      split at h
      · next hid =>
        cases h
        have hs : ((runtime rows).after acts).stage n = .publishing := possible.2
        exact kept hid (by rw [hs]; rfl)
      · obtain ⟨hid, hs⟩ := ih possible.1 h
        exact kept hid hs
    · rw [lastPublished_cons fun c hc => hp ⟨c, hc⟩] at h
      obtain ⟨hid, hs⟩ := ih possible.1 h
      exact kept hid hs

/-- What is published is the newest selection of its identity. -/
theorem lastPublished_of_selected (possible : (runtime rows).Possible acts)
    (h : ((runtime rows).after acts).selected = some n) :
    lastPublished rows (((runtime rows).after acts).id n) acts = some n := by
  induction acts with
  | nil => cases h
  | cons act acts ih =>
    have stays (hs : (((runtime rows).after acts).stage n).submitted = true) :
        ((runtime rows).after (act :: acts)).id n = ((runtime rows).after acts).id n :=
      (ServerState.submitted_next (orderly_of_possible possible.1) possible.2 hs).1
    by_cases hp : ∃ c, act = .move c .publish
    · obtain ⟨c, rfl⟩ := hp
      cases h
      have hs : ((runtime rows).after acts).stage n = .publishing := possible.2
      rw [stays (by rw [hs]; rfl), lastPublished_publish, if_pos rfl]
    · have notPublish : ∀ c, act ≠ .move c .publish := fun c hc => hp ⟨c, hc⟩
      have newest := ih possible.1 ((selected_next notPublish).symm.trans h)
      rw [lastPublished_cons notPublish, stays (id_of_lastPublished possible.1 newest).2]
      exact newest

theorem settled_initial : (ServerState.initial rows).Settled := by
  intro entry hentry
  cases hentry

theorem settled_of_possible (h : (runtime rows).Possible acts) :
    ((runtime rows).after acts).Settled := by
  induction acts with
  | nil => exact settled_initial
  | cons act acts ih =>
    exact (ih h.1).next (permit_of_possible h.1) (orderly_of_possible h.1) h.2

/-- The selection whose execution goes on is the published one. -/
theorem selected_of_at {s : ServerState} (permit : s.Permit) (orderly : s.Orderly)
    (hc : s.At c .execute .started) : s.selected = some c := by
  obtain ⟨handler, supervised, hs⟩ := Stage.closure_eq_some.mp hc.1
  have mine : (s.stage c).refers c c = true := by
    rw [hs]
    exact Stage.refers_iff.mpr ⟨rfl, .inl rfl⟩
  have taken := (permit.owned c (ServerState.refers_of_stage orderly mine)).1
  rcases permit.pending c taken with selected | hs' | hs'
  · exact selected
  · cases hs.symm.trans hs'
  · cases hs.symm.trans hs'

/-- **What is retained for an identity is the result of its newest selection.** -/
theorem recorded_of_mem_stopped {entry : Text × ExecutionObservation}
    (possible : (runtime rows).Possible acts) (h : entry ∈ ((runtime rows).after acts).stopped) :
    ∃ n result, Act.work n (.recordStop result) ∈ acts ∧
      entry.2 = ServiceStop.observation result ∧ lastPublished rows entry.1 acts = some n := by
  induction acts with
  | nil => cases h
  | cons act acts ih =>
    rcases ServerState.mem_stopped_next h with old | ⟨c, result, rfl, rfl⟩
    · obtain ⟨n, result, hmem, hobs, hlast⟩ := ih possible.1 old
      refine ⟨n, result, List.mem_cons_of_mem act hmem, hobs, ?_⟩
      by_cases hp : ∃ c, act = .move c .publish
      · obtain ⟨c, rfl⟩ := hp
        have hs : ((runtime rows).after acts).stage c = .publishing := possible.2
        have ne : ((runtime rows).after acts).id c ≠ entry.1 := fun hid =>
          settled_of_possible possible.1 entry old c hid (by rw [hs]; exact ⟨rfl, rfl⟩)
        rw [lastPublished_publish, if_neg ne]
        exact hlast
      · rw [lastPublished_cons fun c hc => hp ⟨c, hc⟩]
        exact hlast
    · refine ⟨c, result, List.mem_cons_self, rfl, ?_⟩
      have selected := selected_of_at (permit_of_possible possible.1)
        (orderly_of_possible possible.1) possible.2
      exact lastPublished_of_selected possible.1 selected

/-! ## Nothing is alive where nothing was found -/

theorem settle_of_releasing {s : ServerState} {thread : Thread} (h : s.releasing ≠ none) :
    (s.settle thread).releasing = s.releasing := by
  unfold ServerState.settle
  split
  · rw [if_neg (by simp [h])]
  · rfl

/-- A permit that is being returned is not returned by anything else. -/
theorem releasing_moved {s : ServerState} {move : Move} (h : s.releasing ≠ none) :
    (s.moved c move).releasing = s.releasing := by
  cases move with
  | dropExecution => exact settle_of_releasing h
  | dropWork =>
    simp only [ServerState.moved, ServerState.dropWork]
    split
    · exact settle_of_releasing h
    · exact settle_of_releasing h
  | dropField thread =>
    have gone : (s.goOn c thread ((s.stage c).mapJob Job.dropField)).releasing = s.releasing := by
      cases thread <;> rfl
    simp only [ServerState.moved, ServerState.dropField]
    split
    · exact gone
    · rw [settle_of_releasing (by rwa [gone]), gone]
    · exact gone
  | _ => rfl

theorem releasing_worked {s : ServerState} {work : Work} (h : s.releasing ≠ none) :
    (s.worked c work).releasing = s.releasing := by
  cases work with
  | report =>
    simp only [ServerState.worked]
    split <;> rfl
  | poisoned =>
    simp only [ServerState.worked]
    split <;> rfl
  | decide =>
    simp only [ServerState.worked]
    split <;> rfl
  | unpin => exact settle_of_releasing h
  | upgrade =>
    simp only [ServerState.worked]
    split <;> rfl
  | inspect =>
    simp only [ServerState.worked]
    split
    · exact ServerState.releasing_compare
    · rfl
  | letGo => exact settle_of_releasing h
  | miss => exact ServerState.releasing_compare
  | _ => rfl

/-- Where a closure has found nothing, nothing is alive. -/
def Gone (s : ServerState) : Prop :=
  ∀ c id, s.lock = .missing c id → s.submission = none ∨ s.releasing ≠ none

/-- A closure that finds nothing is at the end of its look. -/
theorem lock_of_missing {s : ServerState} {work : Work} {d : ℕ} (hu : work ≠ .upgrade)
    (enabled : s.CanWork c work) (h : (s.worked c work).lock = .missing d id) :
    s.lock = .missing d id := by
  cases work with
  | upgrade => exact absurd rfl hu
  | report =>
    obtain ⟨result, hc, -⟩ := enabled
    simp only [ServerState.worked, hc] at h
    exact h
  | poisoned =>
    obtain ⟨pin, retained, hc, -⟩ := enabled
    simp only [ServerState.worked, hc] at h
    exact h
  | decide =>
    obtain ⟨pin, retained, current, hc, -⟩ := enabled
    simp only [ServerState.worked, hc] at h
    exact h
  | unpin =>
    simp only [ServerState.worked, ServerState.lock_settle] at h
    exact h
  | look id => cases h
  | inspect =>
    obtain ⟨id, n, hl⟩ := enabled
    simp only [ServerState.worked, hl] at h
    cases h
  | letGo =>
    simp only [ServerState.worked, ServerState.lock_settle] at h
    cases h
  | miss => cases h
  | unlock => cases h
  | _ => exact h

/-- A closure finds nothing only where the published selection is gone. -/
theorem gone_of_upgrade {s : ServerState} (permit : s.Permit) (orderly : s.Orderly)
    (hl : s.lock = .looking c id) (hu : s.upgrade = none) :
    s.submission = none ∨ s.releasing ≠ none := by
  cases hsub : s.submission with
  | none => exact .inl rfl
  | some n =>
    refine .inr ?_
    have unlocked (hs : (s.stage n).locks = true) : False := by
      have locked := (orderly.each n).locks.mp hs
      rw [hl] at locked
      cases locked
    rcases permit.pending n hsub with selected | hs | hs
    · refine (permit.used n hsub).resolve_left fun alive => ?_
      rw [ServerState.upgrade, selected] at hu
      simp [alive] at hu
    · exact (unlocked (by rw [hs]; rfl)).elim
    · exact (unlocked (by rw [hs]; rfl)).elim

theorem Gone.next {s : ServerState} (h : Gone s) (permit : s.Permit) (orderly : s.Orderly)
    (enabled : s.Enabled act) : Gone (s.next act) := by
  intro d id hl
  cases act with
  | accept => exact h d id hl
  | stop => exact h d id hl
  | drain => exact h d id hl
  | awaitJob =>
    obtain ⟨-, e, jobs, hserving, -⟩ := enabled
    simp only [ServerState.next, hserving] at hl ⊢
    exact h d id hl
  | drained => exact h d id hl
  | release thread => exact .inl rfl
  | move c move =>
    have same : s.lock = .missing d id := by
      rcases ServerState.lock_moved (orderly.each c) enabled with same | ⟨-, new | new⟩
      · exact same.symm.trans hl
      · cases new.symm.trans hl
      · cases new.symm.trans hl
    have notAcquire : move ≠ .acquire := by
      rintro rfl
      have locked := (orderly.each c).locks.mp (by rw [enabled.1]; rfl)
      cases locked.symm.trans same
    rcases h d id same with free | dropping
    · exact .inl ((ServerState.submission_moved notAcquire).trans free)
    · exact .inr (by rwa [ServerState.next, releasing_moved dropping])
  | work c work =>
    have submission : (s.next (.work c work)).submission = s.submission :=
      (s.worked_worked c work).submission
    have gone : s.submission = none ∨ s.releasing ≠ none := by
      by_cases hu : work = .upgrade
      · subst hu
        obtain ⟨id', hlook⟩ := enabled
        refine gone_of_upgrade permit orderly hlook ?_
        simp only [ServerState.next, ServerState.worked, hlook] at hl
        cases hup : s.upgrade with
        | none => rfl
        | some n =>
          rw [hup] at hl
          cases hl
      · exact h d id (lock_of_missing hu enabled hl)
    rw [submission]
    refine gone.imp_right fun dropping => ?_
    rwa [ServerState.next, releasing_worked dropping]

theorem gone_of_possible (h : (runtime rows).Possible acts) : Gone ((runtime rows).after acts) := by
  induction acts with
  | nil =>
    intro d id hl
    cases hl
  | cons act acts ih =>
    exact (ih h.1).next (permit_of_possible h.1) (orderly_of_possible h.1) h.2

/-! ## What is observed -/

/-- While a closure has the lock, a selection that is alive is the published one. -/
theorem selected_of_refers {s : ServerState} {d : ℕ} (permit : s.Permit) (orderly : s.Orderly)
    (hl : s.lock.closure = some d) (h : s.refers n = true) : s.selected = some n := by
  have unlocked (hs : (s.stage n).locks = true) : False := by
    rw [(orderly.each n).locks.mp hs] at hl
    cases hl
  rcases permit.pending n (permit.owned n h).1 with selected | hs | hs
  · exact selected
  · exact (unlocked (by rw [hs]; rfl)).elim
  · exact (unlocked (by rw [hs]; rfl)).elim

end

end Runtime
end Daemon
end Kapsel
