import Kapsel.Daemon.Observations

/-!
# Diagnostics track the newest selection

What `observation` says of an identity in any run: an execution is active only while it is, a
condition is the one that the newest selection has ended with, and no old one is seen once there is
a newer selection.  The queue is bounded, and a condition is in it until a newer selection removes
it or 32 executions of other identities have ended.

* `Bounded`: at most 32 conditions, at most one of an identity.
* `mem_stopped_of_acquire`: after a selection only newer results of its identity are seen.
* `behind_of_recordStop`: what has been recorded moves up by the results of others.
* `diagnostics_track_selection`: **all of this, in every run.**
-/

namespace Kapsel

open Grammar Authority Interaction

namespace Daemon
namespace Runtime

open Gateway Application

/-- The execution of another identity records its result. -/
def stopsOther (ids : ℕ → Text) (id : Text) : Act → Bool
  | .work c (.recordStop _) => ids c ≠ id
  | _ => false

namespace ServerState

variable {s s' : ServerState} {c n : ℕ} {act : Act}

/-! ## The bound of the queue -/

/-- At most 32 conditions, and at most one of an identity. -/
structure Bounded (s : ServerState) : Prop where
  length_le : s.stopped.length ≤ 32
  nodup : (s.stopped.map Prod.fst).Nodup

theorem Bounded.next (h : s.Bounded) : (s.next act).Bounded := by
  rcases s.stopped_next act with same | ⟨c, -, cleared⟩ | ⟨c, result, -, recorded⟩
  · exact ⟨same ▸ h.length_le, same ▸ h.nodup⟩
  · refine ⟨?_, ?_⟩
    · rw [cleared]
      exact (List.length_filter_le _ _).trans h.length_le
    · rw [cleared]
      exact Relational.nodup_forget h.nodup
  · refine ⟨?_, ?_⟩
    · rw [recorded]
      exact Relational.length_record_le (by decide) h.length_le
    · rw [recorded]
      exact Relational.nodup_record h.nodup

/-! ## A handler that is about to clear -/

/-- A handler that is about to clear its identity does that next. -/
theorem stage_of_clearing (orderly : s.Orderly) (hs : s.stage n = .clearing)
    (enabled : s.Enabled act) (hact : act ≠ .move n .clear) :
    (s.next act).stage n = .clearing := by
  have others (same : (s.next act).connection n = s.connection n) :
      (s.next act).stage n = .clearing := (congrArg Connection.stage same).trans hs
  cases act with
  | accept =>
    refine others (connection_setConnection_of_ne ?_)
    rintro rfl
    rw [show s.stage s.accepted = .absent from
      congrArg Connection.stage (orderly.fresh s.accepted le_rfl)] at hs
    cases hs
  | stop => exact others rfl
  | drain => exact others rfl
  | awaitJob =>
    refine others ?_
    simp only [next]
    split <;> rfl
  | drained => exact others rfl
  | release thread => exact others rfl
  | move c move =>
    by_cases hn : n = c
    · subst hn
      have passage := passage_moved enabled
      rw [hs] at passage
      generalize (s.moved n move).stage n = stage at passage
      cases passage
      exact absurd rfl hact
    · exact others ((s.framed_moved c move).others n hn)
  | work c work =>
    by_cases hn : n = c
    · subst hn
      obtain ⟨kind, body, hc, -⟩ := (orderly.each n).closure_of_canWork enabled
      rw [hs] at hc
      cases hc
    · exact others ((s.worked_worked c work).others n hn)

/-- The handler of a selection is about to clear its identity, or what is retained for that has
been recorded for executions of the same identity by the given actions. -/
def Newer (s : ServerState) (n : ℕ) (recent : List Act) : Prop :=
  s.stage n = .clearing ∨ (s.stage n).submitted = true ∧
    ∀ observation, (s.id n, observation) ∈ s.stopped → ∃ m result,
      Act.work m (.recordStop result) ∈ recent ∧ (s.stage m).submitted = true ∧ s.id m = s.id n ∧
        observation = ServiceStop.observation result

/-- Who records a result has been submitted. -/
theorem submitted_of_recordStop {result : Except ServiceError ServiceStop}
    (enabled : s.Enabled (.work c (.recordStop result))) : (s.stage c).submitted = true := by
  have running : s.At c .execute .started := enabled
  obtain ⟨handler, supervised, hs⟩ := Stage.closure_eq_some.mp running.1
  rw [hs]
  rfl

theorem Newer.next {recent : List Act} (h : s.Newer n recent) (orderly : s.Orderly)
    (enabled : s.Enabled act) : (s.next act).Newer n (act :: recent) := by
  rcases h with clearing | ⟨submitted, newer⟩
  · by_cases hact : act = .move n .clear
    · subst hact
      obtain ⟨id_eq, submitted⟩ := submitted_next orderly enabled (n := n) (by rw [clearing]; rfl)
      refine .inr ⟨submitted, fun observation hmem => ?_⟩
      rw [id_eq] at hmem
      exact absurd rfl (Relational.mem_forget.mp hmem).2
    · exact .inl (stage_of_clearing orderly clearing enabled hact)
  · obtain ⟨id_eq, submitted'⟩ := submitted_next orderly enabled submitted
    refine .inr ⟨submitted', fun observation hmem => ?_⟩
    rw [id_eq] at hmem
    rcases mem_stopped_next hmem with old | ⟨c, result, hact, heq⟩
    · obtain ⟨m, result, hrecent, hm, same, hobs⟩ := newer observation old
      obtain ⟨id_m, hm'⟩ := submitted_next orderly enabled hm
      exact ⟨m, result, List.mem_cons_of_mem act hrecent, hm',
        id_m.trans (same.trans id_eq.symm), hobs⟩
    · subst hact
      obtain ⟨id_c, hc'⟩ := submitted_next orderly enabled (submitted_of_recordStop enabled)
      obtain ⟨same, hobs⟩ := Prod.mk.inj heq
      exact ⟨c, result, List.mem_cons_self, hc', id_c.trans (same.symm.trans id_eq.symm), hobs⟩

/-- A connection has the same identity from its submission on. -/
def Named (s : ServerState) (ids : ℕ → Text) : Prop :=
  ∀ c, (s.stage c).submitted = true → s.id c = ids c

theorem Named.of_next {ids : ℕ → Text} (h : (s.next act).Named ids) (orderly : s.Orderly)
    (enabled : s.Enabled act) : s.Named ids := by
  intro c hc
  obtain ⟨id_eq, submitted⟩ := submitted_next orderly enabled hc
  exact id_eq.symm.trans (h c submitted)

/-- **What is retained moves up by at most one place**, and only when another execution records
its result. -/
theorem behind_next {ids : ℕ → Text} {id : Text} {observation : ExecutionObservation} {k : ℕ}
    (behind : Relational.Behind (id, observation) k s.stopped) (settled : s.Settled)
    (named : s.Named ids) (enabled : s.Enabled act)
    (kept : ∀ m, act = .move m .clear → ids m ≠ id) (few : k + (if stopsOther ids id act then 1 else 0) < 32) :
    Relational.Behind (id, observation) (k + if stopsOther ids id act then 1 else 0)
      (s.next act).stopped := by
  rcases s.stopped_next act with same | ⟨m, rfl, cleared⟩ | ⟨m, result, rfl, recorded⟩
  · rw [same]
    exact behind.mono (Nat.le_add_right k _)
  · have clearing : s.stage m = .clearing := enabled
    rw [cleared, named m (by rw [clearing]; rfl)]
    exact behind.forget (kept m rfl).symm
  · have running : s.At m .execute .started := enabled
    obtain ⟨handler, supervised, hs⟩ := Stage.closure_eq_some.mp running.1
    have id_eq := named m (submitted_of_recordStop enabled)
    -- an execution of the same identity that can still end leaves nothing retained
    have other : ids m ≠ id := by
      intro hid
      refine settled _ behind.mem m (id_eq.trans hid) ?_
      rw [hs]
      exact ⟨rfl, rfl⟩
    have counts : stopsOther ids id (.work m (.recordStop result)) = true := decide_eq_true other
    rw [if_pos counts] at few ⊢
    rw [recorded, id_eq]
    exact behind.record other.symm few

end ServerState

section
variable {rows : Text → Option OperationState} {acts later earlier : List Act} {n : ℕ}

theorem bounded_of_possible (h : (runtime rows).Possible acts) :
    ((runtime rows).after acts).Bounded := by
  have initial : (ServerState.initial rows).Bounded := ⟨Nat.zero_le 32, List.nodup_nil⟩
  exact h.invariant initial fun _ _ bounded _ => bounded.next

/-- **After a selection only newer results of its identity are seen**: until its handler has cleared
what was retained, no closure has the lock. -/
theorem mem_stopped_of_acquire
    (possible : (runtime rows).Possible (later ++ .move n .acquire :: earlier))
    (looks : ((runtime rows).after (later ++ .move n .acquire :: earlier)).lock.closure ≠ none)
    {observation : ExecutionObservation}
    (h : (((runtime rows).after (later ++ .move n .acquire :: earlier)).id n, observation) ∈
      ((runtime rows).after (later ++ .move n .acquire :: earlier)).stopped) :
    ∃ m result, Act.work m (.recordStop result) ∈ later ∧
      ((runtime rows).after (later ++ .move n .acquire :: earlier)).id m =
        ((runtime rows).after (later ++ .move n .acquire :: earlier)).id n ∧
      observation = ServiceStop.observation result := by
  have newer : ((runtime rows).after (later ++ .move n .acquire :: earlier)).Newer n later := by
    clear looks h
    induction later with
    | nil =>
      have can : ((runtime rows).after earlier).CanMove n .acquire := possible.2
      have passage := ServerState.passage_moved can
      rw [can.1] at passage
      generalize hs : (((runtime rows).after earlier).moved n .acquire).stage n = stage at passage
      cases passage
      exact .inl hs
    | cons act later ih => exact (ih possible.1).next (orderly_of_possible possible.1) possible.2
  rcases newer with clearing | ⟨-, all⟩
  · have locked := ((orderly_of_possible possible).each n).locks.mp (by rw [clearing]; rfl)
    rw [locked] at looks
    exact absurd rfl looks
  · obtain ⟨m, result, hmem, -, same, hobs⟩ := all observation h
    exact ⟨m, result, hmem, same, hobs⟩

theorem named_before {act : Act} {ids : ℕ → Text}
    (named : ((runtime rows).after (act :: acts)).Named ids)
    (orderly : ((runtime rows).after acts).Orderly)
    (enabled : (runtime rows).Enabled ((runtime rows).after acts) act) :
    ((runtime rows).after acts).Named ids :=
  ServerState.Named.of_next named orderly enabled

/-- **What has been recorded moves up by the results of others**, until a newer selection of its
identity clears it. -/
theorem behind_of_recordStop {ids : ℕ → Text} {result : Except ServiceError ServiceStop}
    (possible : (runtime rows).Possible (later ++ .work n (.recordStop result) :: earlier))
    (named : ((runtime rows).after (later ++ .work n (.recordStop result) :: earlier)).Named ids)
    (kept : ∀ m, Act.move m .clear ∈ later → ids m ≠ ids n)
    (few : later.countP (stopsOther ids (ids n)) < 32) :
    Relational.Behind (ids n, ServiceStop.observation result)
      (later.countP (stopsOther ids (ids n)))
      ((runtime rows).after (later ++ .work n (.recordStop result) :: earlier)).stopped := by
  induction later with
  | nil =>
    have before : ((runtime rows).after earlier).Named ids :=
      named_before named (orderly_of_possible possible.1) possible.2
    have running : ((runtime rows).after earlier).Enabled (.work n (.recordStop result)) := possible.2
    have id_eq : ((runtime rows).after earlier).id n = ids n :=
      before n (ServerState.submitted_of_recordStop running)
    rw [← id_eq]
    exact Relational.behind_record_self
  | cons act later ih =>
    have before := named_before named (orderly_of_possible possible.1) possible.2
    rw [List.countP_cons] at few ⊢
    have behind := ih possible.1 before (fun m hm => kept m (List.mem_cons_of_mem act hm))
      (lt_of_le_of_lt (Nat.le_add_right _ _) few)
    exact ServerState.behind_next behind (settled_of_possible possible.1) before possible.2
      (fun m hm => kept m (hm ▸ List.mem_cons_self)) few

/-! ## What is said -/

/-- Only an execution that goes on is active. -/
theorem executes_of_observes {c : ℕ} {id : Text} (possible : (runtime rows).Possible acts)
    (h : ((runtime rows).after acts).Observes c id .active) :
    ∃ n, ((runtime rows).after acts).selected = some n ∧
      ((runtime rows).after acts).refers n = true ∧ ((runtime rows).after acts).id n = id ∧
      ((runtime rows).after acts).Executes n := by
  have permit := permit_of_possible possible
  have orderly := orderly_of_possible possible
  rcases h with ⟨n, hl, hobs⟩ | ⟨-, hobs⟩
  · have alive : ((runtime rows).after acts).refers n = true :=
      ServerState.refers_iff.mpr (.inr (by rw [hl]; rfl))
    unfold ServerState.selectionObservation at hobs
    split at hobs
    · next active =>
      rw [Bool.and_eq_true, decide_eq_true_eq] at active
      exact ⟨n, selected_of_refers permit orderly (by rw [hl]; rfl) alive, alive, active.1,
        (orderly.each n).marked active.2⟩
    · cases hobs
  · have mem : (id, ExecutionObservation.active) ∈ ((runtime rows).after acts).stopped := by
      rw [hobs]
      exact mem_of_stoppedObservation (by rw [← hobs]; nofun)
    obtain ⟨m, result, -, hactive, -⟩ := recorded_of_mem_stopped possible mem
    exact absurd hactive.symm observation_ne_active

/-- A condition is told where nothing is alive, and it is that of the newest selection. -/
theorem stopped_of_observes {c : ℕ} {id : Text} {condition : ExecutionCondition}
    (possible : (runtime rows).Possible acts)
    (h : ((runtime rows).after acts).Observes c id (.stopped condition)) :
    (∀ n, ((runtime rows).after acts).refers n ≠ true) ∧
      ∃ n result, lastPublished rows id acts = some n ∧ ((runtime rows).after acts).id n = id ∧
        Act.work n (.recordStop result) ∈ acts ∧
        ServiceStop.observation result = .stopped condition := by
  have permit := permit_of_possible possible
  rcases h with ⟨n, hl, hobs⟩ | ⟨hl, hobs⟩
  · unfold ServerState.selectionObservation at hobs
    split at hobs <;> cases hobs
  · refine ⟨fun n alive => ?_, ?_⟩
    · obtain ⟨taken, kept⟩ := permit.owned n alive
      rcases gone_of_possible possible c id hl with free | dropping
      · cases free.symm.trans taken
      · exact dropping kept
    · have mem : (id, ExecutionObservation.stopped condition) ∈
          ((runtime rows).after acts).stopped := by
        rw [hobs]
        exact mem_of_stoppedObservation (by rw [← hobs]; nofun)
      obtain ⟨n, result, hmem, hcondition, newest⟩ := recorded_of_mem_stopped possible mem
      exact ⟨n, result, newest, (id_of_lastPublished possible newest).1, hmem, hcondition.symm⟩

/-- **Diagnostics track the newest selection**, whatever happens.  Active is said only of the
published selection while its execution goes on; a condition only where no selection is alive, and
it is what the newest published selection has ended with.  Behind a selection of an identity only
newer results of it are seen.  The queue has at most 32 conditions and one of an identity, and a
condition stays until a newer selection of its identity or 32 stops of others. -/
theorem diagnostics_track_selection (possible : (runtime rows).Possible acts) :
    let s := (runtime rows).after acts
    (∀ c id, s.Observes c id .active →
        ∃ n, s.selected = some n ∧ s.refers n = true ∧ s.id n = id ∧ s.Executes n) ∧
      (∀ c id condition, s.Observes c id (.stopped condition) →
        (∀ n, s.refers n ≠ true) ∧
          ∃ n result, lastPublished rows id acts = some n ∧ s.id n = id ∧
            Act.work n (.recordStop result) ∈ acts ∧
            ServiceStop.observation result = .stopped condition) ∧
      (∀ later n earlier, acts = later ++ .move n .acquire :: earlier → s.lock.closure ≠ none →
        ∀ observation, (s.id n, observation) ∈ s.stopped →
          ∃ m result, Act.work m (.recordStop result) ∈ later ∧ s.id m = s.id n ∧
            observation = ServiceStop.observation result) ∧
      s.stopped.length ≤ 32 ∧ (s.stopped.map Prod.fst).Nodup ∧
      ∀ later n result earlier, acts = later ++ .work n (.recordStop result) :: earlier →
        (∀ m, Act.move m .clear ∈ later → s.id m ≠ s.id n) →
        later.countP (stopsOther s.id (s.id n)) < 32 →
        (s.id n, ServiceStop.observation result) ∈ s.stopped := by
  intro s
  have bounded : s.Bounded := bounded_of_possible possible
  refine ⟨fun c id h => executes_of_observes possible h,
    fun c id condition h => stopped_of_observes possible h, ?_, bounded.length_le, bounded.nodup, ?_⟩
  · rintro later n earlier rfl looks observation hmem
    exact mem_stopped_of_acquire possible looks hmem
  · rintro later n result earlier rfl kept few
    exact (behind_of_recordStop possible (fun _ _ => rfl) kept few).mem

end

/-- A submission that is executed and blocked, and a read that looks for it. -/
def blockedRun : List Act := [
  .work 1 .upgrade, .work 1 (.look (utf8 "a")), .move 1 .start, .move 1 .register, .move 1 .read,
  .accept, .move 0 (.dropField .runtime), .release .runtime, .move 0 (.dropField .runtime),
  .move 0 (.dropField .runtime), .move 0 .finish, .move 0 .finishBody, .work 0 .unmark,
  .work 0 .report, .work 0 (.recordStop (.error .operationFailure)), .move 0 .start,
  .move 0 .register, .move 0 .publish, .move 0 .clear, .move 0 .acquire,
  .move 0 (.submit (utf8 "a")), .accept]

theorem possible_blockedRun : (runtime fun _ => none).Possible blockedRun := by
  refine ⟨⟨⟨⟨⟨⟨⟨⟨⟨⟨⟨⟨⟨⟨⟨⟨⟨⟨⟨⟨⟨⟨trivial, ?_⟩, ?_⟩, ?_⟩, ?_⟩, ?_⟩, ?_⟩, ?_⟩, ?_⟩, ?_⟩, ?_⟩, ?_⟩,
    ?_⟩, ?_⟩, ?_⟩, ?_⟩, ?_⟩, ?_⟩, ?_⟩, ?_⟩, ?_⟩, ?_⟩, ?_⟩
  · exact ⟨⟨rfl, nofun⟩, rfl, by decide⟩
  · exact ⟨⟨rfl, nofun⟩, rfl, rfl⟩
  · exact ⟨rfl, rfl⟩
  · exact rfl
  · exact rfl
  · exact ⟨⟨.execute, rfl⟩, by decide⟩
  · exact ⟨⟨rfl, nofun⟩, .waiting, .execute, rfl⟩
  · exact ⟨rfl, nofun, nofun⟩
  · exact ⟨.error .operationFailure, rfl, nofun, nofun⟩
  · exact ⟨rfl, nofun, nofun⟩
  · exact ⟨.execute, rfl, nofun, nofun⟩
  · exact ⟨⟨rfl, nofun⟩, .waiting, .execute, rfl⟩
  · exact ⟨nofun, .waiting, .execute, _, rfl, rfl⟩
  · exact ⟨nofun, .waiting, .execute, _, rfl, rfl⟩
  · exact rfl
  · exact ⟨nofun, .waiting, .execute, _, rfl, rfl⟩
  · exact ⟨⟨rfl, nofun⟩, rfl, by decide⟩
  · exact ⟨⟨rfl, nofun⟩, rfl⟩
  · exact ⟨⟨.read, rfl⟩, by decide⟩
  · exact ⟨⟨rfl, nofun⟩, .waiting, .read, rfl⟩
  · exact ⟨rfl, .inl ⟨rfl, nofun, nofun⟩⟩
  · exact ⟨utf8 "a", rfl⟩

/-- In that run nothing is alive when the read is told the condition. -/
theorem diagnostics_of_blockedRun :
    ¬∃ n, ((runtime fun _ => none).after blockedRun).refers n = true := by
  have told : ((runtime fun _ => none).after blockedRun).Observes 1 (utf8 "a")
      (.stopped .operationBlocked) := .inr ⟨rfl, by decide⟩
  rintro ⟨n, alive⟩
  exact ((diagnostics_track_selection possible_blockedRun).2.1 1 (utf8 "a") _ told).1 n alive

end Runtime
end Daemon
end Kapsel
