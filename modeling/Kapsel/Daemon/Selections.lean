import Kapsel.Daemon.Turns

/-!
# The submission permit

The permit is taken exactly as long as a selection is alive: somebody has a reference to it, or the
last one that had is about to return its permit.  So at most one selection is alive, and it is the
published one or about to be published.

* `Permit` says so, and `permit_of_possible` that it holds of all that can happen.
* `Sole.unique`: at most one execution has a closure.
-/

namespace Kapsel

open Grammar Authority Interaction

namespace Daemon
namespace Runtime

open Gateway Application

namespace ServerState

variable {s s' : ServerState} {c n : ℕ} {stage old : Stage} {move : Move} {work : Work}
  {thread : Thread}

/-! ## References -/

theorem refers_iff : s.refers n = true ↔
    (∃ c < s.accepted, (s.stage c).refers c n = true) ∨ s.lock.reference = some n := by
  simp [refers]

/-- A connection has at most one selection. -/
theorem eq_of_refers {m : ℕ} (h : stage.refers c n = true) (h' : stage.refers c m = true) :
    n = m := by
  simp only [Stage.refers, Bool.and_eq_true, decide_eq_true_eq] at h h'
  exact Option.some_inj.mp (h.1.symm.trans h'.1)

theorem refers_of_stage (orderly : s.Orderly) (h : (s.stage c).refers c n = true) :
    s.refers n = true := by
  refine refers_iff.mpr (.inl ⟨c, orderly.lt_accepted ?_, h⟩)
  intro ha
  rw [ha] at h
  cases h

/-- What a connection keeps while it goes on, everyone keeps. -/
theorem refers_framed (frame : Framed s s' c)
    (hstage : (s'.stage c).refers c n = true → (s.stage c).refers c n = true)
    (hlock : s'.lock.reference = some n → s.lock.reference = some n) (h : s'.refers n = true) :
    s.refers n = true := by
  rcases refers_iff.mp h with ⟨d, hd, hs⟩ | hl
  · refine refers_iff.mpr (.inl ⟨d, by rwa [← frame.accepted], ?_⟩)
    by_cases hdc : d = c
    · subst hdc
      exact hstage hs
    · rwa [← show s'.stage d = s.stage d from congrArg Connection.stage (frame.others d hdc)]
  · exact refers_iff.mpr (.inr (hlock hl))

theorem Framed.symm (frame : Framed s s' c) : Framed s' s c :=
  ⟨fun n hn => (frame.others n hn).symm, frame.accepted.symm, frame.serving.symm⟩

theorem refers_congr (frame : Framed s s' c)
    (hstage : (s'.stage c).refers c n = (s.stage c).refers c n)
    (hlock : s'.lock.reference = s.lock.reference) : s'.refers n = s.refers n := by
  rw [Bool.eq_iff_iff]
  constructor
  · exact refers_framed frame (by rw [hstage]; exact fun h => h) (by rw [hlock]; exact fun h => h)
  · exact refers_framed frame.symm (by rw [hstage]; exact fun h => h) (by rw [hlock]; exact fun h => h)

@[simp] theorem refers_settle : (s.settle thread).refers n = s.refers n := by
  simp [refers]

/-- What is upgraded is alive. -/
theorem refers_of_upgrade (h : s.upgrade = some n) : s.refers n = true := by
  unfold upgrade at h
  split at h
  · split at h
    · next alive =>
      cases h
      exact alive
    · cases h
  · cases h

theorem reference_upgrade {id : Text} (h : (match s.upgrade with
    | some n => Lock.holding c id n
    | none => Lock.missing c id).reference = some n) : s.upgrade = some n := by
  cases hu : s.upgrade with
  | none =>
    rw [hu] at h
    cases h
  | some m =>
    rw [hu] at h
    exact h

theorem releasing_compare {found : Bool} : (s.compare c found).releasing = s.releasing := by
  unfold compare
  split
  · rfl
  · rfl

/-! ## The permit -/

/-- The selection is published, or its handler is about to publish it. -/
def Pending (s : ServerState) (n : ℕ) : Prop :=
  s.selected = some n ∨ s.stage n = .clearing ∨ s.stage n = .publishing

/-- The permit is with the selection that is alive. -/
structure Permit (s : ServerState) : Prop where
  owned : ∀ n, s.refers n = true → s.submission = some n ∧ s.releasing = none
  used : ∀ n, s.submission = some n → s.refers n = true ∨ s.releasing ≠ none
  idle : s.submission = none → s.releasing = none
  pending : ∀ n, s.submission = some n → s.Pending n

theorem Pending.framed (h : s.Pending n) (frame : Framed s s' c) (hsel : s'.selected = s.selected)
    (hs : s.stage c ≠ .clearing ∧ s.stage c ≠ .publishing) : s'.Pending n := by
  rcases h with hp | hp
  · exact .inl (hsel.trans hp)
  · have hn : n ≠ c := by
      rintro rfl
      rcases hp with hp | hp
      · exact hs.1 hp
      · exact hs.2 hp
    have same : s'.stage n = s.stage n := congrArg Connection.stage (frame.others n hn)
    exact .inr (by rwa [same])

theorem pending_settle : (s.settle thread).Pending n ↔ s.Pending n := by
  simp [Pending]

namespace Permit

theorem congr (h : s.Permit) (hrefs : ∀ n, s'.refers n = s.refers n)
    (hsub : s'.submission = s.submission) (hrel : s'.releasing = s.releasing)
    (hpending : ∀ n, s.submission = some n → s.Pending n → s'.Pending n) : s'.Permit where
  owned n hn := by
    rw [hsub, hrel]
    exact h.owned n (by rwa [← hrefs])
  used n hn := by
    rw [hrefs, hrel]
    exact h.used n (by rwa [← hsub])
  idle hn := by
    rw [hrel]
    exact h.idle (by rwa [← hsub])
  pending n hn := by
    rw [hsub] at hn
    exact hpending n hn (h.pending n hn)

/-- A thread drops a reference, and the selection if that was the last. -/
theorem settle (h : s.Permit) (hrefs : ∀ n, s'.refers n = true → s.refers n = true)
    (hsub : s'.submission = s.submission) (hrel : s'.releasing = s.releasing)
    (hpending : ∀ n, s.submission = some n → s.Pending n → s'.Pending n) :
    (s'.settle thread).Permit where
  owned n hn := by
    rw [refers_settle] at hn
    obtain ⟨taken, kept⟩ := h.owned n (hrefs n hn)
    rw [← hsub] at taken
    rw [← hrel] at kept
    simp [ServerState.settle, taken, hn, kept]
  used n hn := by
    rw [submission_settle] at hn
    rw [refers_settle]
    by_cases hr : s'.refers n = true
    · exact .inl hr
    · refine .inr ?_
      by_cases kept : s'.releasing = none
      · simp [ServerState.settle, hn, hr, kept]
      · simp [ServerState.settle, hn, kept]
  idle hn := by
    rw [submission_settle] at hn
    simp only [ServerState.settle, hn, hrel]
    exact h.idle (by rw [← hsub, hn])
  pending n hn := by
    rw [submission_settle, hsub] at hn
    exact pending_settle.mpr (hpending n hn (h.pending n hn))

/-- The connection goes on with the selection that it has. -/
theorem framed (h : s.Permit) (frame : Framed s s' c)
    (hstage : ∀ n, (s'.stage c).refers c n = (s.stage c).refers c n)
    (hlock : s'.lock.reference = s.lock.reference) (hsub : s'.submission = s.submission)
    (hrel : s'.releasing = s.releasing) (hsel : s'.selected = s.selected)
    (hs : s.stage c ≠ .clearing ∧ s.stage c ≠ .publishing) : s'.Permit :=
  h.congr (fun n => refers_congr frame (hstage n) hlock) hsub hrel
    fun _ _ hp => hp.framed frame hsel hs

/-- The connection drops its selection. -/
theorem framed_settle (h : s.Permit) (frame : Framed s s' c)
    (hstage : ∀ n, (s'.stage c).refers c n = true → (s.stage c).refers c n = true)
    (hlock : s'.lock.reference = s.lock.reference) (hsub : s'.submission = s.submission)
    (hrel : s'.releasing = s.releasing) (hsel : s'.selected = s.selected)
    (hs : s.stage c ≠ .clearing ∧ s.stage c ≠ .publishing) : (s'.settle thread).Permit :=
  h.settle (fun n => refers_framed frame (hstage n) (by rw [hlock]; exact fun h => h)) hsub hrel
    fun _ _ hp => hp.framed frame hsel hs

/-- The connection goes on in its turn with the selection that it has. -/
theorem turn (h : s.Permit) (stage : Stage) (hs : s.stage c = old)
    (hstage : ∀ n, stage.refers c n = old.refers c n)
    (hold : old ≠ .clearing ∧ old ≠ .publishing) : (s.turn c stage).Permit := by
  subst hs
  refine h.framed (c := c) ⟨fun n hn => connection_setConnection_of_ne hn, rfl, rfl⟩ ?_ rfl rfl rfl
    rfl hold
  simpa using hstage

/-- The connection goes on outside of its turn with the selection that it has. -/
theorem setStage (h : s.Permit) (stage : Stage) (hs : s.stage c = old)
    (hstage : ∀ n, stage.refers c n = old.refers c n)
    (hold : old ≠ .clearing ∧ old ≠ .publishing) : (s.setStage c stage).Permit := by
  subst hs
  refine h.framed (c := c) ⟨fun n hn => connection_setConnection_of_ne hn, rfl, rfl⟩ ?_ rfl rfl rfl
    rfl hold
  simpa using hstage

/-- Only references, the permit and what is published count. -/
theorem same (h : s.Permit) (hconn : s'.connection = s.connection) (hacc : s'.accepted = s.accepted)
    (hlock : s'.lock.reference = s.lock.reference) (hsub : s'.submission = s.submission)
    (hrel : s'.releasing = s.releasing) (hsel : s'.selected = s.selected) : s'.Permit := by
  have hstage : s'.stage = s.stage := by
    funext n
    exact congrArg (fun connection => (connection n).stage) hconn
  refine h.congr (fun n => ?_) hsub hrel fun _ _ hp => ?_
  · simp [refers, hstage, hacc, hlock]
  · simpa [Pending, hstage, hsel] using hp

/-- A connection that has the lock as its handler gives nobody a reference. -/
theorem reference_of_locks (orderly : s.Orderly) (hs : (s.stage c).locks = true) :
    s.lock.reference = none := by
  rw [(orderly.each c).locks.mp hs]
  rfl

/-- Nobody has the permit, and a connection takes it. -/
theorem acquire (h : s.Permit) (orderly : s.Orderly) (hs : s.stage c = .selecting)
    (free : s.submission = none) : (s.moved c .acquire).Permit := by
  have none_refers (n : ℕ) : s.refers n ≠ true := by
    intro hn
    have taken := (h.owned n hn).1
    rw [free] at taken
    cases taken
  have stage_self : (s.moved c .acquire).stage c = .clearing := by
    simp [ServerState.moved, ServerState.turn, ServerState.stage]
  have frame : Framed s (s.moved c .acquire) c := s.framed_moved c .acquire
  have refers_eq {n : ℕ} (hn : (s.moved c .acquire).refers n = true) : n = c := by
    rcases refers_iff.mp hn with ⟨d, hd, hr⟩ | hl
    · by_cases hdc : d = c
      · rw [hdc, stage_self] at hr
        exact eq_of_refers hr (Stage.refers_iff.mpr ⟨rfl, .inl rfl⟩)
      · have same : (s.moved c .acquire).stage d = s.stage d :=
          congrArg Connection.stage (frame.others d hdc)
        rw [same] at hr
        have old : s.refers n = true := refers_iff.mpr (.inl ⟨d, hd, hr⟩)
        exact absurd old (none_refers n)
    · have old : s.refers n = true := refers_iff.mpr (.inr hl)
      exact absurd old (none_refers n)
  have mine : (s.moved c .acquire).refers c = true := by
    have lt : c < s.accepted := orderly.lt_accepted (by rw [hs]; rintro ⟨⟩)
    refine refers_iff.mpr (.inl ⟨c, lt, ?_⟩)
    rw [stage_self]
    exact Stage.refers_iff.mpr ⟨rfl, .inl rfl⟩
  refine ⟨fun n hn => ?_, fun n hn => .inl ?_, (by rintro ⟨⟩), fun n hn => .inr (.inl ?_)⟩
  · rw [refers_eq hn]
    exact ⟨rfl, h.idle free⟩
  · rw [← Option.some_inj.mp hn]
    exact mine
  · rw [← Option.some_inj.mp hn]
    exact stage_self

theorem dropField {handler : Handler} {kind : Kind} {job : Job} (h : s.Permit)
    (hs : s.stage c = .serving handler kind job) (ht : job.dropper c = some thread) :
    (s.dropField c thread).Permit := by
  have frame : Framed s (s.goOn c thread ((s.stage c).mapJob Job.dropField)) c := .goOn
  have stage_self : (s.goOn c thread ((s.stage c).mapJob Job.dropField)).stage c =
      .serving handler kind job.dropField := by
    rw [hs]
    cases thread with
    | runtime => exact stage_turn_self
    | closure d => exact stage_setStage_self
  have lock_self : (s.goOn c thread ((s.stage c).mapJob Job.dropField)).lock = s.lock := by
    cases thread <;> rfl
  have submission_self : (s.goOn c thread ((s.stage c).mapJob Job.dropField)).submission =
      s.submission := by
    cases thread <;> rfl
  have releasing_self : (s.goOn c thread ((s.stage c).mapJob Job.dropField)).releasing =
      s.releasing := by
    cases thread <;> rfl
  have selected_self : (s.goOn c thread ((s.stage c).mapJob Job.dropField)).selected =
      s.selected := by
    cases thread <;> rfl
  have hold : s.stage c ≠ .clearing ∧ s.stage c ≠ .publishing := by
    rw [hs]
    exact ⟨nofun, nofun⟩
  have field : (s.stage c).job.bind Job.field = job.field := by
    rw [hs]
    rfl
  have dropped (hf : job.field ≠ some .execution) :
      (s.goOn c thread ((s.stage c).mapJob Job.dropField)).Permit := by
    refine h.framed frame (fun n => ?_) (by rw [lock_self]) submission_self releasing_self
      selected_self hold
    rw [stage_self, hs]
    exact Stage.refers_dropField hf
  unfold ServerState.dropField
  rw [field]
  split
  · next hf => exact (dropped (by rw [hf]; nofun)).same rfl rfl rfl rfl rfl rfl
  · next hf =>
    refine h.framed_settle frame (fun n => ?_) (by rw [lock_self]) submission_self releasing_self
      selected_self hold
    rw [stage_self, hs]
    exact Stage.refers_dropField_mono
  · next hf => exact dropped hf

theorem moved (h : s.Permit) (orderly : s.Orderly) (can : s.CanMove c move) :
    (s.moved c move).Permit := by
  cases move with
  | dismiss =>
    obtain ⟨-, hs⟩ := can
    exact h.turn _ hs (fun _ => rfl) ⟨by rintro ⟨⟩, by rintro ⟨⟩⟩
  | read =>
    obtain ⟨-, hs⟩ := can
    exact h.turn _ hs (fun _ => rfl) ⟨by rintro ⟨⟩, by rintro ⟨⟩⟩
  | submit id =>
    obtain ⟨-, hs, hl⟩ := can
    refine h.framed (s.framed_moved c _) (fun n => ?_) (by rw [hl]; rfl) rfl rfl rfl ?_
    · simp [ServerState.moved, ServerState.stage, ServerState.turn, ServerState.setStage,
        show (s.connection c).stage = .receiving from hs]
      rfl
    · rw [hs]
      exact ⟨by rintro ⟨⟩, by rintro ⟨⟩⟩
  | acquire => exact h.acquire orderly can.1 can.2
  | contend =>
    obtain ⟨hs, -⟩ := can
    exact h.turn _ hs (fun _ => rfl) ⟨by rintro ⟨⟩, by rintro ⟨⟩⟩
  | clear =>
    have hs : s.stage c = .clearing := can
    have frame := s.framed_moved c .clear
    have stage_self : (s.moved c .clear).stage c = .publishing := by
      simp [ServerState.moved, ServerState.stage]
    refine h.congr (fun n => refers_congr frame ?_ rfl) rfl rfl fun n _ hp => ?_
    · rw [stage_self, hs]
      rfl
    · by_cases hn : n = c
      · rw [hn]
        exact .inr (.inr stage_self)
      · have same : (s.moved c .clear).stage n = s.stage n :=
          congrArg Connection.stage (frame.others n hn)
        rw [Pending, same]
        exact hp
  | publish =>
    have hs : s.stage c = .publishing := can
    have frame := s.framed_moved c .publish
    have stage_self : (s.moved c .publish).stage c = .registering .execute := by
      simp [ServerState.moved, ServerState.stage]
    refine h.congr (fun n => refers_congr frame ?_ ?_) rfl rfl fun n hn _ => ?_
    · rw [stage_self, hs]
      rfl
    · rw [reference_of_locks orderly (by rw [hs]; rfl)]
      rfl
    · have mine : (s.stage c).refers c c = true := by
        rw [hs]
        exact Stage.refers_iff.mpr ⟨rfl, .inl rfl⟩
      have taken := (h.owned c (refers_of_stage orderly mine)).1
      exact .inl (taken.symm.trans hn)
  | pin =>
    have hs : s.stage c = .pinning := can
    have frame := s.framed_moved c .pin
    have stage_self : (s.moved c .pin).stage c = .registering (.probe s.upgrade) := by
      simp [ServerState.moved, ServerState.stage]
    have hold : (s.stage c) ≠ .clearing ∧ (s.stage c) ≠ .publishing := by
      rw [hs]
      exact ⟨by rintro ⟨⟩, by rintro ⟨⟩⟩
    refine h.congr (fun n => ?_) rfl rfl fun n _ hp => hp.framed frame rfl hold
    rw [Bool.eq_iff_iff]
    constructor
    · intro hn
      rcases refers_iff.mp hn with ⟨d, hd, hr⟩ | hl
      · by_cases hdc : d = c
        · rw [hdc, stage_self] at hr
          exact refers_of_upgrade (Stage.refers_iff.mp hr).1
        · have same : (s.moved c .pin).stage d = s.stage d :=
            congrArg Connection.stage (frame.others d hdc)
          rw [same] at hr
          exact refers_iff.mpr (.inl ⟨d, hd, hr⟩)
      · cases hl
    · refine refers_framed frame.symm ?_ ?_
      · rw [hs]
        rintro ⟨⟩
      · rw [reference_of_locks orderly (by rw [hs]; rfl)]
        rintro ⟨⟩
  | register =>
    obtain ⟨⟨kind, hs⟩, -⟩ := can
    rw [ServerState.moved, hs]
    have registered := h.turn (.serving .waiting kind .spawned) hs (fun _ => rfl)
      ⟨by rintro ⟨⟩, by rintro ⟨⟩⟩
    exact registered.same rfl rfl rfl rfl rfl rfl
  | refuse =>
    obtain ⟨⟨kind, hs⟩, -⟩ := can
    rw [ServerState.moved, hs]
    have refused := h.turn (.refused kind true true) hs (fun _ => rfl) ⟨by rintro ⟨⟩, by rintro ⟨⟩⟩
    exact refused.same rfl rfl rfl rfl rfl rfl
  | dropExecution =>
    obtain ⟨-, kind, work, hs⟩ := can
    have frame : Framed s (s.setStage c (s.stage c).dropExecution) c :=
      ⟨fun n hn => connection_setConnection_of_ne hn, rfl, rfl⟩
    refine h.framed_settle frame (fun n => ?_) rfl rfl rfl rfl ?_
    · rw [stage_setStage_self, hs]
      exact Stage.refers_mono rfl (fun _ => rfl) fun hw => hw
    · rw [hs]
      exact ⟨by rintro ⟨⟩, by rintro ⟨⟩⟩
  | dropWork =>
    have dropped (hk : (s.stage c).dropWork.kind = (s.stage c).kind)
        (he : (s.stage c).dropWork.holdsExecution = (s.stage c).holdsExecution)
        (hw : (s.stage c).holdsWork = true)
        (hold : s.stage c ≠ .clearing ∧ s.stage c ≠ .publishing) :
        (s.moved c .dropWork).Permit := by
      have mono {n : ℕ} : (s.stage c).dropWork.refers c n = true → (s.stage c).refers c n = true :=
        Stage.refers_mono hk (by rw [he]; exact fun h => h) fun _ => hw
      simp only [ServerState.moved, ServerState.dropWork]
      split
      · refine h.framed_settle (c := c) ⟨fun n hn => ?_, rfl, rfl⟩ (fun n => ?_) rfl rfl rfl rfl hold
        · simp [ServerState.setRunning, ServerState.setStage, connection_setConnection_of_ne hn]
        · rw [stage_setStage_self]
          exact mono
      · refine h.framed_settle (c := c) ⟨fun n hn => connection_setConnection_of_ne hn, rfl, rfl⟩
          (fun n => ?_) rfl rfl rfl rfl hold
        rw [stage_setStage_self]
        exact mono
    rcases can with ⟨-, ⟨kind, execution, hs⟩ | ⟨handler, kind, field, hs⟩⟩
    · exact dropped (by rw [hs]; rfl) (by rw [hs]; rfl) (by rw [hs]; rfl)
        (by rw [hs]; exact ⟨by rintro ⟨⟩, by rintro ⟨⟩⟩)
    · exact dropped (by rw [hs]; rfl) (by rw [hs]; rfl) (by rw [hs]; rfl)
        (by rw [hs]; exact ⟨by rintro ⟨⟩, by rintro ⟨⟩⟩)
  | fail =>
    obtain ⟨-, kind, hs⟩ := can
    exact h.turn _ hs (fun n => by cases kind <;> simp [Stage.refers, Stage.selection, Stage.kind,
      Stage.holdsExecution, Stage.captures, Stage.holdsWork]) ⟨by rintro ⟨⟩, by rintro ⟨⟩⟩
  | answer wait =>
    obtain ⟨-, kind, job, hs, -⟩ := can
    rw [ServerState.moved, hs]
    exact h.setStage _ hs (fun _ => rfl) ⟨by rintro ⟨⟩, by rintro ⟨⟩⟩
  | leave =>
    obtain ⟨-, ⟨kind, job, hs⟩ | hs⟩ := can
    · have left := h.setStage (.serving .returned kind job) hs (fun _ => rfl)
        ⟨by rintro ⟨⟩, by rintro ⟨⟩⟩
      rw [ServerState.moved, hs]
      exact left.same rfl rfl rfl rfl rfl rfl
    · have left := h.setStage (.dismissed true) hs (fun _ => rfl) ⟨by rintro ⟨⟩, by rintro ⟨⟩⟩
      rw [ServerState.moved, hs]
      exact left.same rfl rfl rfl rfl rfl rfl
  | start =>
    obtain ⟨-, handler, kind, hs⟩ := can
    rw [ServerState.moved, hs]
    exact h.setStage _ hs (fun _ => rfl) ⟨by rintro ⟨⟩, by rintro ⟨⟩⟩
  | finishBody =>
    obtain ⟨kind, hc, -⟩ := can
    obtain ⟨handler, supervised, hs⟩ := Stage.closure_eq_some.mp hc
    rw [ServerState.moved, hs]
    cases supervised with
    | true => exact h.setStage _ hs (fun _ => rfl) ⟨by rintro ⟨⟩, by rintro ⟨⟩⟩
    | false => exact h.setStage _ hs (fun _ => rfl) ⟨by rintro ⟨⟩, by rintro ⟨⟩⟩
  | finish =>
    obtain ⟨-, handler, kind, hs⟩ := can
    rw [ServerState.moved, hs]
    exact h.turn _ hs (fun _ => rfl) ⟨by rintro ⟨⟩, by rintro ⟨⟩⟩
  | abort =>
    obtain ⟨-, handler, kind, job, hs, hj⟩ := can
    rw [ServerState.moved, hs]
    rcases hj with rfl | ⟨body, rfl⟩ | rfl
    · exact h.turn _ hs (fun _ => rfl) ⟨by rintro ⟨⟩, by rintro ⟨⟩⟩
    · exact h.turn _ hs (fun _ => rfl) ⟨by rintro ⟨⟩, by rintro ⟨⟩⟩
    · exact h.turn _ hs (fun _ => rfl) ⟨by rintro ⟨⟩, by rintro ⟨⟩⟩
  | discard =>
    obtain ⟨-, handler, kind, hs⟩ := can
    rw [ServerState.moved, hs]
    exact h.turn _ hs (fun _ => rfl) ⟨by rintro ⟨⟩, by rintro ⟨⟩⟩
  | dropField thread =>
    obtain ⟨-, handler, kind, job, hs, ht⟩ := can
    exact h.dropField hs ht

theorem worked (h : s.Permit) (orderly : s.Orderly) (can : s.CanWork c work) :
    (s.worked c work).Permit := by
  have worked := s.worked_worked c work
  obtain ⟨kind, body, hc, -⟩ := (orderly.each c).closure_of_canWork can
  obtain ⟨handler, supervised, body', hs, hs', -⟩ := worked.serving_stage hc
  have hold : s.stage c ≠ .clearing ∧ s.stage c ≠ .publishing := by
    rw [hs]
    exact ⟨by rintro ⟨⟩, by rintro ⟨⟩⟩
  have kept (n : ℕ) : ((s.worked c work).stage c).refers c n = (s.stage c).refers c n := by
    rw [hs, hs']
    rfl
  have same (hlock : (s.worked c work).lock.reference = s.lock.reference)
      (hrel : (s.worked c work).releasing = s.releasing) : (s.worked c work).Permit :=
    h.framed worked.toFramed kept hlock worked.submission hrel worked.selected hold
  cases work with
  | report =>
    obtain ⟨result, hb, -⟩ := can
    exact same (by simp only [ServerState.worked, hb]; rfl) (by simp only [ServerState.worked, hb]; rfl)
  | poisoned =>
    obtain ⟨pin, retained, hb, -⟩ := can
    exact same (by simp only [ServerState.worked, hb]; rfl) (by simp only [ServerState.worked, hb]; rfl)
  | decide =>
    obtain ⟨pin, retained, current, hb, -⟩ := can
    exact same (by simp only [ServerState.worked, hb]; rfl) (by simp only [ServerState.worked, hb]; rfl)
  | unpin =>
    have frame : Framed s (s.setBody c .ended) c := (Worked.setBody .ended (by rintro ⟨⟩)).toFramed
    refine h.framed_settle frame (fun n => ?_) rfl rfl rfl rfl hold
    have kept := kept n
    simp only [ServerState.worked, stage_settle] at kept
    rw [kept]
    exact fun h => h
  | look id => exact same (by rw [can.1]; rfl) rfl
  | upgrade =>
    obtain ⟨id, hl⟩ := can
    have frame := worked.toFramed
    refine h.congr (fun n => ?_) worked.submission ?_ fun n _ hp => hp.framed frame worked.selected hold
    · rw [Bool.eq_iff_iff]
      constructor
      · intro hn
        rcases refers_iff.mp hn with ⟨d, hd, hr⟩ | hn
        · refine refers_iff.mpr (.inl ⟨d, by rwa [← frame.accepted], ?_⟩)
          simp only [ServerState.worked, hl] at hr
          exact hr
        · simp only [ServerState.worked, hl] at hn
          exact refers_of_upgrade (reference_upgrade hn)
      · refine refers_framed frame.symm (by rw [kept]; exact fun h => h) ?_
        rw [hl]
        rintro ⟨⟩
    · simp only [ServerState.worked, hl]
  | inspect =>
    obtain ⟨id, n, hl⟩ := can
    refine same (by simp only [ServerState.worked, hl]; rfl) ?_
    simp only [ServerState.worked, hl]
    exact releasing_compare
  | letGo =>
    obtain ⟨n, hl⟩ := can
    have frame : Framed s { s with lock := .unlocking c } c := Worked.refl.besides.toFramed
    refine h.settle (fun n => refers_framed frame (fun h => h) (by rintro ⟨⟩)) rfl rfl fun _ _ hp => hp
  | miss =>
    obtain ⟨id, hl⟩ := can
    exact same (by rw [hl]; rfl) releasing_compare
  | unlock => exact same (by rw [can.2]; rfl) rfl
  | _ => exact same rfl rfl

/-- A connection that is accepted has no selection. -/
theorem accept (h : s.Permit) (orderly : s.Orderly) : (s.next .accept).Permit := by
  have absent : s.stage s.accepted = .absent :=
    congrArg Connection.stage (orderly.fresh s.accepted le_rfl)
  have stage_self : (s.next .accept).stage s.accepted = .receiving := by
    simp [ServerState.next, ServerState.stage]
  have others {n : ℕ} (hn : n ≠ s.accepted) : (s.next .accept).stage n = s.stage n :=
    congrArg Connection.stage (connection_setConnection_of_ne hn)
  refine h.congr (fun n => ?_) rfl rfl fun n _ hp => ?_
  · rw [Bool.eq_iff_iff, refers_iff, refers_iff]
    refine or_congr ⟨?_, ?_⟩ Iff.rfl
    · rintro ⟨d, hd, hr⟩
      have hd : d < s.accepted + 1 := hd
      have ne : d ≠ s.accepted := by
        rintro rfl
        rw [stage_self] at hr
        cases hr
      exact ⟨d, by omega, by rwa [← others ne]⟩
    · rintro ⟨d, hd, hr⟩
      exact ⟨d, Nat.lt_succ_of_lt hd, by rwa [others (by omega)]⟩
  · rcases hp with hp | hp
    · exact .inl hp
    · have ne : n ≠ s.accepted := by
        rintro rfl
        rw [absent] at hp
        rcases hp with hp | hp <;> cases hp
      exact .inr (by rwa [others ne])

/-- A thread returns the permit of the selection that it drops. -/
theorem release (h : s.Permit) (hr : s.releasing = some thread) :
    (s.next (.release thread)).Permit := by
  have dead (n : ℕ) : s.refers n ≠ true := by
    intro hn
    have kept := (h.owned n hn).2
    rw [hr] at kept
    cases kept
  exact ⟨fun n hn => absurd hn (dead n), nofun, fun _ => rfl, nofun⟩

theorem next {act : Act} (h : s.Permit) (orderly : s.Orderly) (enabled : s.Enabled act) :
    (s.next act).Permit := by
  cases act with
  | accept => exact h.accept orderly
  | stop => exact h.same rfl rfl rfl rfl rfl rfl
  | drain => exact h.same rfl rfl rfl rfl rfl rfl
  | awaitJob =>
    obtain ⟨-, c, jobs, hserving, -⟩ := enabled
    simp only [ServerState.next, hserving]
    exact h.same rfl rfl rfl rfl rfl rfl
  | drained => exact h.same rfl rfl rfl rfl rfl rfl
  | release thread => exact h.release enabled
  | move c move => exact h.moved orderly enabled
  | work c work => exact h.worked orderly enabled

end Permit

/-! ## Executions -/

/-- There is the closure of an execution, or its handler is about to make it. -/
def Executes (s : ServerState) (c : ℕ) : Prop :=
  (s.stage c).kind = some .execute ∧ (s.stage c).holdsWork = true

/-- A closure that has lost its lease before it ran is dropped in the same turn. -/
theorem busy_of_holdsWork (hw : stage.holdsWork = true) (he : stage.holdsExecution ≠ true) :
    stage.busy = true := by
  rcases stage with _ | _ | _ | _ | _ | _ | _ | _ | ⟨handler, kind, job⟩ | _
  case serving =>
    rcases job with _ | _ | _ | _ | _ | _
    case discarded => rfl
    all_goals first
      | exact absurd rfl he
      | cases hw
  all_goals first
    | rfl
    | cases hw

/-- Only a handler that takes the permit makes an execution. -/
theorem executes_of_passage {upgraded : Option ℕ} (p : Passage upgraded move old stage)
    (hm : move ≠ .acquire) (hk : stage.kind = some .execute) (hw : stage.holdsWork = true) :
    old.kind = some .execute ∧ old.holdsWork = true := by
  cases p with
  | acquire => exact absurd rfl hm
  | dropField handler kind job thread field hf =>
    rw [Stage.holdsWork_dropField] at hw
    exact ⟨hk, hw⟩
  | _ => first
    | exact ⟨hk, hw⟩
    | exact ⟨hk, rfl⟩
    | cases hk

/-- The work of a closure is over once it has ended. -/
theorem executes_of_worked (orderly : s.Orderly) (can : s.CanWork c work)
    (hk : ((s.worked c work).stage c).kind = some .execute) : s.Executes c := by
  obtain ⟨kind, body, hc, hb⟩ := (orderly.each c).closure_of_canWork can
  obtain ⟨handler, supervised, body', hs, hs', -⟩ := (s.worked_worked c work).serving_stage hc
  rw [hs'] at hk
  refine ⟨by rw [hs]; exact hk, ?_⟩
  rw [hs]
  cases body with
  | ended => exact absurd rfl hb
  | _ => rfl

/-- At most one selection has an execution, and nothing has the permit but that. -/
def Sole (s : ServerState) : Prop :=
  ∀ c, s.Executes c → s.submission = some c ∨ s.submission = none

/-- An execution that has its lease has the permit, and one that has not is dropped in this turn. -/
theorem Permit.busy_of_executes (h : s.Permit) (orderly : s.Orderly) (hx : s.Executes c)
    (hsub : s.submission ≠ some c) : s.busy = some c := by
  refine (orderly.each c).busy.mp (busy_of_holdsWork hx.2 fun he => hsub ?_)
  have refers : (s.stage c).refers c c = true :=
    Stage.refers_iff.mpr ⟨by rw [Stage.selection, hx.1]; rfl, .inl he⟩
  exact (h.owned c (refers_of_stage orderly refers)).1

theorem submission_moved (hm : move ≠ .acquire) : (s.moved c move).submission = s.submission := by
  cases hs : move.selects with
  | false => exact (still_moved hs).submission
  | true =>
    cases move with
    | acquire => exact absurd rfl hm
    | submit id => rfl
    | contend => rfl
    | clear => rfl
    | publish => rfl
    | pin => rfl
    | _ => cases hs

theorem Executes.congr (h : s'.Executes n) (hs : s'.stage n = s.stage n) : s.Executes n := by
  rwa [Executes, ← hs]

theorem Sole.moved (h : s.Sole) (permit : s.Permit) (orderly : s.Orderly)
    (can : s.CanMove c move) : (s.moved c move).Sole := by
  intro n hx
  have others (hn : n ≠ c) : s.Executes n :=
    hx.congr (congrArg Connection.stage ((s.framed_moved c move).others n hn))
  by_cases hm : move = .acquire
  · subst hm
    by_cases hn : n = c
    · exact .inl (congrArg some hn.symm)
    · have busy := permit.busy_of_executes orderly (others hn) (by rw [can.2]; nofun)
      have mine : s.busy = some c := (orderly.each c).busy.mp (by rw [can.1]; rfl)
      exact absurd (Option.some_inj.mp (busy.symm.trans mine)) hn
  · rw [submission_moved hm]
    refine h n ?_
    by_cases hn : n = c
    · subst hn
      exact executes_of_passage (passage_moved can) hm hx.1 hx.2
    · exact others hn

theorem Sole.next {act : Act} (h : s.Sole) (permit : s.Permit) (orderly : s.Orderly)
    (enabled : s.Enabled act) : (s.next act).Sole := by
  cases act with
  | accept =>
    intro n hx
    by_cases hn : n = s.accepted
    · subst hn
      have received : (s.next .accept).stage s.accepted = .receiving := by
        simp [ServerState.next, ServerState.stage]
      rw [Executes, received] at hx
      cases hx.1
    · exact h n (hx.congr (congrArg Connection.stage (connection_setConnection_of_ne hn)))
  | stop => exact h
  | drain => exact h
  | awaitJob =>
    obtain ⟨-, c, jobs, hserving, -⟩ := enabled
    simp only [ServerState.next, hserving]
    exact h
  | drained => exact h
  | release thread => exact fun _ _ => .inr rfl
  | move c move => exact h.moved permit orderly enabled
  | work c work =>
    intro n hx
    have worked := s.worked_worked c work
    rw [show (s.next (.work c work)).submission = s.submission from worked.submission]
    refine h n ?_
    by_cases hn : n = c
    · subst hn
      exact executes_of_worked orderly enabled hx.1
    · exact hx.congr (congrArg Connection.stage (worked.others n hn))

/-- **At most one execution has a closure.** -/
theorem Sole.unique {d : ℕ} (h : s.Sole) (permit : s.Permit) (orderly : s.Orderly)
    (hc : s.Executes c) (hd : s.Executes d) : c = d := by
  rcases h c hc with taken | free
  · rcases h d hd with taken' | free'
    · exact Option.some_inj.mp (taken.symm.trans taken')
    · cases taken.symm.trans free'
  · have busy := permit.busy_of_executes orderly hc (by rw [free]; nofun)
    have busy' := permit.busy_of_executes orderly hd (by rw [free]; nofun)
    exact Option.some_inj.mp (busy.symm.trans busy')

end ServerState

variable {rows : Text → Option OperationState} {acts : List Act}

theorem permit_initial : (ServerState.initial rows).Permit where
  owned n hn := by cases hn
  used n hn := by cases hn
  idle _ := rfl
  pending n hn := by cases hn

theorem sole_initial : (ServerState.initial rows).Sole :=
  fun _ _ => .inr rfl

/-- **The permit is with the selection that is alive**, whatever happens. -/
theorem permit_of_possible (h : (runtime rows).Possible acts) :
    ((runtime rows).after acts).Permit := by
  induction acts with
  | nil => exact permit_initial
  | cons act acts ih => exact (ih h.1).next (orderly_of_possible h.1) h.2

theorem sole_of_possible (h : (runtime rows).Possible acts) : ((runtime rows).after acts).Sole := by
  induction acts with
  | nil => exact sole_initial
  | cons act acts ih =>
    exact (ih h.1).next (permit_of_possible h.1) (orderly_of_possible h.1) h.2

end Runtime
end Daemon
end Kapsel
