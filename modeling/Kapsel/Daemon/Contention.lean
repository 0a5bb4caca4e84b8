import Kapsel.Daemon.Observations

/-!
# When a submission is told that the worker is busy

A submission that finds the permit taken pins the published selection, and its closure looks at the
journal and then at the published selection again.  It answers `BUSY` only where the pinned
selection and the current one are about other operations.  The pin keeps the permit from before the
look at the journal until the decision.  So meanwhile no selection of the operation is made, and
none can have ended unseen.

* `Wait.admission` is what `admit_submission` answers.
* `exists_pin`: a probe that has its closure has kept its pin from when it took it.
* `decision_of_channel`: what a probe is answered is what its closure has decided.
* `busy_sound`: **`BUSY` is said only where nothing of the operation was retained or alive.**
-/

namespace Kapsel

open Grammar Authority Interaction

namespace Daemon
namespace Runtime

open Gateway Application

/-! ## What is answered -/

/-- The end of `admit_submission`: the wait for the channel becomes an answer.  No submission waits
for a page. -/
def Wait.admission : Wait → Option SubmissionAdmission
  | .received (.admission decision) => some decision
  | .received .page => none
  | .lost => some (.error .operationFailure)
  | .expired => some .indeterminate

/-- The answer is `ADMITTED`, `INDETERMINATE` or an error. -/
def Hedged : SubmissionAdmission → Prop
  | .decided (.admitted _) => True
  | .decided _ => False
  | .indeterminate => True
  | .error _ => True

/-- A probe says that the worker is busy, or denies nothing. -/
theorem hedged_or_busy (retained : Except ServiceError (Option OperationState))
    (pinned current : Option Bool) : Hedged (contendedAdmission retained pinned current) ∨
      contendedAdmission retained pinned current = .decided .busy := by
  unfold contendedAdmission
  split
  case h_6 => exact .inr rfl
  all_goals exact .inl trivial

/-! ## How a probe goes on -/

/-- What the closure of a probe has read, while it needs that. -/
def Body.retained : Body → Option (Except ServiceError (Option OperationState))
  | probed retained => some retained
  | compared retained _ => some retained
  | _ => none

namespace Stage

/-- What the closure of a probe has read, while it needs that. -/
def retained (stage : Stage) : Option (Except ServiceError (Option OperationState)) :=
  stage.closure.bind fun closure => closure.2.retained

/-- The handler has chosen what to do and has left the lock. -/
def chosen : Stage → Bool
  | registering _ => true
  | refused _ _ _ => true
  | serving _ _ _ => true
  | dismissed _ => true
  | _ => false

/-- The closure has sent what it had to send, or never will. -/
def told (stage : Stage) : Bool := stage.job.any Job.senderGone

end Stage

namespace ServerState

variable {s : ServerState} {c : ℕ} {old stage : Stage} {move : Move} {work : Work} {act : Act}
  {upgraded pin : Option ℕ} {retained : Except ServiceError (Option OperationState)}

/-- The job of a probe has its closure, with the pin. -/
def Contends (s : ServerState) (c : ℕ) (pin : Option ℕ) : Prop :=
  (s.stage c).kind = some (.probe pin) ∧ (s.stage c).holdsWork = true

/-- Only a handler that pins makes a probe. -/
theorem contends_of_passage (p : Passage upgraded move old stage)
    (hk : stage.kind = some (.probe pin)) (hw : stage.holdsWork = true) :
    (old.kind = some (.probe pin) ∧ old.holdsWork = true) ∨ move = .pin ∧ upgraded = pin := by
  cases p with
  | pin =>
    cases hk
    exact .inr ⟨rfl, rfl⟩
  | dropField handler kind job thread field hf =>
    rw [Stage.holdsWork_dropField] at hw
    exact .inl ⟨hk, hw⟩
  | _ => first
    | exact .inl ⟨hk, hw⟩
    | exact .inl ⟨hk, rfl⟩
    | cases hk

theorem retained_of_passage (p : Passage upgraded move old stage)
    (h : stage.retained = some retained) : old.retained = some retained := by
  cases p with
  | answer wait kind job => cases job <;> exact h
  | leave kind job => cases job <;> exact h
  | abortRunning handler kind body => exact h
  | dropField handler kind job thread field hf =>
    rcases job with _ | _ | _ | ⟨_ | _ | _, _⟩ | ⟨_ | _ | _ | _, _⟩ | _
    all_goals first
      | (cases hf; done)
      | cases h
  | _ => cases h

theorem chosen_of_passage (p : Passage upgraded move old stage) (h : old.chosen = true) :
    stage.chosen = true := by
  cases p <;> first
    | rfl
    | cases h

theorem told_of_passage (p : Passage upgraded move old stage) (h : old.told = true) :
    stage.told = true := by
  cases p with
  | answer wait kind job => exact h
  | leave kind job => exact h
  | abortRunning handler kind body => exact h
  | dropField handler kind job thread field hf =>
    rcases job with _ | _ | _ | ⟨_ | _ | _, _⟩ | ⟨_ | _ | _ | _, _⟩ | _
    all_goals exact h
  | _ => first
    | rfl
    | cases h

section
variable {found : Option OperationState} {kind : Kind} {body body' : Body}

/-- What a probe keeps is what it found when it looked, and once it is told that is gone. -/
theorem retained_of_progress (p : Progress found work kind body body')
    (h : body'.retained = some retained) : work ≠ .decide ∧
      (body.retained = some retained ∨ ∃ fault, work = .probe fault ∧
        (match fault with
          | some error => .error error
          | none => .ok found) = retained) := by
  cases p with
  | probe pin fault => exact ⟨nofun, .inr ⟨fault, rfl, Option.some_inj.mp h⟩⟩
  | decide pin retained current => cases h
  | _ => exact ⟨nofun, .inl h⟩

theorem told_of_progress {handler : Handler} {supervised : Bool}
    (p : Progress found work kind body body')
    (h : (Stage.serving handler kind (.running body supervised)).told = true) :
    (Stage.serving handler kind (.running body' supervised)).told = true := by
  cases p <;> first
    | exact h
    | rfl

end

theorem contends_of_next (orderly : s.Orderly) (enabled : s.Enabled act)
    (h : (s.next act).Contends c pin) :
    s.Contends c pin ∨ act = .move c .pin ∧ s.upgrade = pin := by
  rcases s.connection_next act c with same | ⟨rfl, rfl⟩ | ⟨move, rfl⟩ | ⟨work, rfl⟩
  · rw [Contends, stage, same] at h
    exact .inl h
  · rw [Contends, stage, connection_accept] at h
    cases h.1
  · rcases contends_of_passage (passage_moved enabled) h.1 h.2 with old | ⟨rfl, hpin⟩
    · exact .inl old
    · exact .inr ⟨rfl, hpin⟩
  · obtain ⟨handler, supervised, kind, body, body', hb, hs, hs', -⟩ :=
      (orderly.each c).progress_worked enabled
    have kind_eq := h.1
    rw [next, hs'] at kind_eq
    refine .inl ⟨by rw [hs]; exact kind_eq, ?_⟩
    rw [hs]
    cases body with
    | ended => exact absurd rfl hb
    | _ => rfl

/-- A probe has read what was in the journal when it looked. -/
theorem retained_of_next (orderly : s.Orderly) (enabled : s.Enabled act)
    (h : ((s.next act).stage c).retained = some retained) :
    (s.stage c).retained = some retained ∨ ∃ fault, act = .work c (.probe fault) ∧
      (match fault with
        | some error => .error error
        | none => .ok (s.rows (s.id c))) = retained := by
  rcases s.connection_next act c with same | ⟨rfl, rfl⟩ | ⟨move, rfl⟩ | ⟨work, rfl⟩
  · rw [stage, same] at h
    exact .inl h
  · rw [stage, connection_accept] at h
    cases h
  · exact .inl (retained_of_passage (passage_moved enabled) h)
  · obtain ⟨handler, supervised, kind, body, body', -, hs, hs', p⟩ :=
      (orderly.each c).progress_worked enabled
    rw [next, hs'] at h
    rcases (retained_of_progress p h).2 with old | ⟨fault, rfl, read⟩
    · rw [hs]
      exact .inl old
    · exact .inr ⟨fault, rfl, read⟩

theorem chosen_next (orderly : s.Orderly) (enabled : s.Enabled act)
    (h : (s.stage c).chosen = true) : ((s.next act).stage c).chosen = true := by
  rcases s.connection_next act c with same | ⟨rfl, rfl⟩ | ⟨move, rfl⟩ | ⟨work, rfl⟩
  · rwa [stage, same]
  · rw [stage, orderly.fresh s.accepted le_rfl] at h
    cases h
  · exact chosen_of_passage (passage_moved enabled) h
  · obtain ⟨handler, supervised, kind, body, body', -, -, hs', -⟩ :=
      (orderly.each c).progress_worked enabled
    rw [next, hs']
    rfl

theorem told_next (orderly : s.Orderly) (enabled : s.Enabled act) (h : (s.stage c).told = true) :
    ((s.next act).stage c).told = true := by
  rcases s.connection_next act c with same | ⟨rfl, rfl⟩ | ⟨move, rfl⟩ | ⟨work, rfl⟩
  · rwa [stage, same]
  · rw [stage, orderly.fresh s.accepted le_rfl] at h
    cases h
  · exact told_of_passage (passage_moved enabled) h
  · obtain ⟨handler, supervised, kind, body, body', -, hs, hs', p⟩ :=
      (orderly.each c).progress_worked enabled
    rw [hs] at h
    rw [next, hs']
    exact told_of_progress p h

theorem selected_of_upgrade {n : ℕ} (h : s.upgrade = some n) : s.selected = some n := by
  unfold upgrade at h
  split at h
  · next m hm =>
    split at h
    · exact hm.trans h
    · cases h
  · cases h

/-! ## The channel -/

theorem channel_moved : ((s.moved c move).connection c).channel = (s.connection c).channel := by
  cases move with
  | acquire => simp [moved, setRunning]
  | submit id => simp [moved]
  | dropExecution => simp [moved]
  | dropWork =>
    simp only [moved, dropWork, connection_settle, connection_setStage_self]
    split
    · simp [setRunning]
    · rfl
  | dropField thread =>
    have gone (stage : Stage) : ((s.goOn c thread stage).connection c).channel =
        (s.connection c).channel := by
      cases thread with
      | runtime => simp [goOn]
      | closure d => simp [goOn]
    simp only [moved, dropField]
    split
    · exact gone _
    · rw [connection_settle]
      exact gone _
    · exact gone _
  | _ => simp [moved]

/-- Only its decision goes through the channel of a probe. -/
theorem channel_of_work {reply : Reply} (can : s.CanWork c work)
    (hk : (s.stage c).kind = some (.probe pin))
    (h : ((s.worked c work).connection c).channel = some reply) :
    (s.connection c).channel = some reply ∨ ∃ retained current, work = .decide ∧
      s.At c (.probe pin) (.compared retained current) ∧
      reply = .admission (contendedAdmission retained (s.pinnedMatches c) current) := by
  have other {kind : Kind} {body : Body} (hc : (s.stage c).closure = some (kind, body)) :
      kind = .probe pin := by
    obtain ⟨handler, supervised, hs⟩ := Stage.closure_eq_some.mp hc
    rw [hs] at hk
    exact Option.some_inj.mp hk
  have compared (found : Bool) : ((s.compare c found).connection c).channel =
      (s.connection c).channel := by
    unfold compare
    split
    · simp [setBody]
    · rfl
  cases work with
  | acknowledge decision => cases other can.1.1
  | report =>
    obtain ⟨result, hc, -⟩ := can
    cases other hc
  | finishRead => cases other can.1
  | decide =>
    obtain ⟨pin', retained, current, hAt⟩ := can
    cases other hAt.1
    refine .inr ⟨retained, current, rfl, hAt, ?_⟩
    simp only [worked, hAt.1, setBody, connection_setStage_self, send, connection_setConnection_self]
      at h
    exact (Option.some_inj.mp h).symm
  | poisoned =>
    obtain ⟨pin', retained, hc, -⟩ := can
    simp only [worked, hc] at h
    exact .inl (by simpa [setBody] using h)
  | upgrade =>
    obtain ⟨id, hl⟩ := can
    simp only [worked, hl] at h
    exact .inl h
  | inspect =>
    obtain ⟨id, n, hl⟩ := can
    simp only [worked, hl] at h
    exact .inl ((compared _).symm.trans h)
  | miss => exact .inl ((compared _).symm.trans h)
  | _ => exact .inl (by simpa [worked, setBody, setRunning] using h)

/-! ## What is excluded -/

/-- No selection of the identity is alive or executes, and none can be made: the permit is with a
selection of another identity. -/
structure Excludes (s : ServerState) (id : Text) : Prop where
  owned : ∃ n, s.submission = some n ∧ s.id n ≠ id
  refers : ∀ n, s.refers n = true → s.id n ≠ id
  executes : ∀ n, s.Executes n → s.id n ≠ id

/-- A probe keeps its pin. -/
theorem refers_of_contends {n : ℕ} (orderly : s.Orderly) (h : s.Contends c (some n)) :
    s.refers n = true := by
  refine refers_of_stage orderly (c := c) (Stage.refers_iff.mpr ⟨?_, .inr ?_⟩)
  · rw [Stage.selection, h.1]
    rfl
  · rw [Stage.captures, h.1, h.2]
    rfl

/-- **A pin excludes the others.** -/
theorem Excludes.of_contends {n : ℕ} {id : Text} (permit : s.Permit) (sole : s.Sole)
    (orderly : s.Orderly) (h : s.Contends c (some n)) (ne : s.id n ≠ id) : s.Excludes id := by
  have taken := (permit.owned n (refers_of_contends orderly h)).1
  refine ⟨⟨n, taken, ne⟩, fun m hm => ?_, fun m hm => ?_⟩
  · have taken' := (permit.owned m hm).1
    cases taken.symm.trans taken'
    exact ne
  · rcases sole m hm with taken' | free
    · cases taken.symm.trans taken'
      exact ne
    · cases taken.symm.trans free

/-- No execution of the identity admits it. -/
theorem Excludes.not_insert {n : ℕ} {id : Text} {phase : OperationState} (h : s.Excludes id)
    (enabled : s.Enabled (.work n (.insert phase))) : s.id n ≠ id := by
  obtain ⟨handler, supervised, hs⟩ := Stage.closure_eq_some.mp enabled.1
  refine h.executes n ⟨?_, ?_⟩
  · rw [hs]
    rfl
  · rw [hs]
    rfl

end ServerState

/-! ## The window of a submission -/

section
variable {rows : Text → Option OperationState} {acts later earlier moment : List Act} {c n : ℕ}
  {pin : Option ℕ} {current : Option Bool} {reply : Reply}
  {retained : Except ServiceError (Option OperationState)}

/-- **A probe that has its closure has kept its pin** from when it took it. -/
theorem exists_pin (possible : (runtime rows).Possible acts)
    (h : ((runtime rows).after acts).Contends c pin) :
    ∃ window before, acts = window ++ .move c .pin :: before ∧
      ((runtime rows).after before).upgrade = pin ∧
      ∀ later earlier, window = later ++ earlier →
        ((runtime rows).after (earlier ++ .move c .pin :: before)).Contends c pin := by
  induction acts with
  | nil => cases h.1
  | cons act acts ih =>
    rcases ServerState.contends_of_next (orderly_of_possible possible.1) possible.2 h with
      old | ⟨rfl, hpin⟩
    · obtain ⟨window, before, rfl, hpin, all⟩ := ih possible.1 old
      refine ⟨act :: window, before, rfl, hpin, fun later earlier hsplit => ?_⟩
      cases later with
      | nil =>
        obtain rfl : earlier = act :: window := hsplit.symm
        exact h
      | cons a later => exact all later earlier (List.cons.inj hsplit).2
    · refine ⟨[], acts, rfl, hpin, fun later earlier hsplit => ?_⟩
      obtain ⟨rfl, rfl⟩ := List.append_eq_nil_iff.mp hsplit.symm
      exact h

/-- A connection submits once, and pins at most once. -/
theorem pin_not_mem (possible : (runtime rows).Possible (later ++ .move c .pin :: earlier)) :
    Act.move c .pin ∉ later := by
  refine possible.not_mem_later (P := fun s => s.Orderly ∧ (s.stage c).chosen = true) ?_
    (fun s a h enabled => ⟨h.1.next enabled, ServerState.chosen_next h.1 enabled h.2⟩)
    fun s h can => ?_
  · refine ⟨orderly_of_possible possible.of_append, ?_⟩
    have pinned : ((runtime rows).after (.move c .pin :: earlier)).stage c = .registering _ :=
      ServerState.stage_turn_self (s := (runtime rows).after earlier)
    rw [pinned]
    rfl
  · have hs : s.stage c = .pinning := can
    have chosen := h.2
    rw [hs] at chosen
    cases chosen

theorem pin_not_mem_earlier (possible : (runtime rows).Possible (later ++ .move c .pin :: earlier)) :
    Act.move c .pin ∉ earlier := by
  intro hmem
  obtain ⟨between, before, rfl⟩ := List.append_of_mem hmem
  have again : (runtime rows).Possible
      ((later ++ .move c .pin :: between) ++ .move c .pin :: before) := by
    simpa using possible
  exact pin_not_mem again (by simp)

/-- Behind its decision the closure of a probe has nothing to do but to end. -/
theorem told_of_decide (possible : (runtime rows).Possible (later ++ .work c .decide :: earlier)) :
    (((runtime rows).after (later ++ .work c .decide :: earlier)).stage c).told = true := by
  induction later with
  | nil =>
    have can : ((runtime rows).after earlier).CanWork c .decide := possible.2
    obtain ⟨handler, supervised, kind, body, body', -, -, hs', p⟩ :=
      ((orderly_of_possible possible.1).each c).progress_worked can
    cases p
    exact congrArg Stage.told hs'
  | cons act later ih =>
    exact ServerState.told_next (orderly_of_possible possible.1) possible.2 (ih possible.1)

theorem decide_not_mem_of_probe {fault : Option ServiceError}
    (possible : (runtime rows).Possible (.work c (.probe fault) :: (later ++ earlier))) :
    Act.work c .decide ∉ later := by
  intro hmem
  obtain ⟨behind, ahead, rfl⟩ := List.append_of_mem hmem
  have decided : (runtime rows).Possible (behind ++ .work c .decide :: (ahead ++ earlier)) := by
    simpa using possible.1
  have told := told_of_decide decided
  obtain ⟨pin, hc, -⟩ := possible.2
  obtain ⟨handler, supervised, hs⟩ := Stage.closure_eq_some.mp hc
  rw [List.append_assoc, List.cons_append] at hs
  rw [hs] at told
  cases told

/-- What a connection has submitted does not change. -/
theorem id_of_submitted (possible : (runtime rows).Possible (later ++ earlier))
    (submitted : (((runtime rows).after earlier).stage n).submitted = true) :
    ((runtime rows).after (later ++ earlier)).id n = ((runtime rows).after earlier).id n ∧
      (((runtime rows).after (later ++ earlier)).stage n).submitted = true := by
  induction later with
  | nil => exact ⟨rfl, submitted⟩
  | cons act later ih =>
    obtain ⟨id_eq, submitted'⟩ := ih possible.1
    obtain ⟨id_eq', submitted''⟩ :=
      ServerState.submitted_next (orderly_of_possible possible.1) possible.2 submitted'
    exact ⟨id_eq'.trans id_eq, submitted''⟩

/-- What a probe has read was in the journal at a moment behind its pin. -/
theorem exists_probe (possible : (runtime rows).Possible (later ++ .move c .pin :: earlier))
    (h : (((runtime rows).after (later ++ .move c .pin :: earlier)).stage c).retained = some retained) :
    ∃ newer fault older, later = newer ++ .work c (.probe fault) :: older ∧
      (match fault with
        | some error => .error error
        | none => .ok (((runtime rows).after (older ++ .move c .pin :: earlier)).rows
            (((runtime rows).after (older ++ .move c .pin :: earlier)).id c))) = retained := by
  induction later with
  | nil =>
    have pinned : ((runtime rows).after (.move c .pin :: earlier)).stage c = .registering _ :=
      ServerState.stage_turn_self (s := (runtime rows).after earlier)
    rw [List.nil_append, pinned] at h
    cases h
  | cons act later ih =>
    rcases ServerState.retained_of_next (orderly_of_possible possible.1) possible.2 h with
      old | ⟨fault, rfl, read⟩
    · obtain ⟨newer, fault, older, rfl, read⟩ := ih possible.1 old
      exact ⟨act :: newer, fault, older, rfl, read⟩
    · exact ⟨[], fault, later, rfl, read⟩

/-- **What a probe is told is what its closure has decided.** -/
theorem decision_of_channel (possible : (runtime rows).Possible acts)
    (h : (((runtime rows).after acts).connection c).channel = some reply) :
    ∃ handler kind job, ((runtime rows).after acts).stage c = .serving handler kind job ∧
      ∀ pin, kind = .probe pin → ∃ newer older retained current,
        acts = newer ++ .work c .decide :: older ∧
        ((runtime rows).after older).At c (.probe pin) (.compared retained current) ∧
        reply = .admission (contendedAdmission retained
          (((runtime rows).after older).pinnedMatches c) current) := by
  induction acts with
  | nil => cases h
  | cons act acts ih =>
    have orderly := orderly_of_possible possible.1
    rcases ServerState.connection_next ((runtime rows).after acts) act c with
      same | ⟨rfl, rfl⟩ | ⟨move, rfl⟩ | ⟨work, rfl⟩
    · have before : (((runtime rows).after acts).connection c).channel = some reply := by
        rwa [System.after_cons, show (runtime rows).next = ServerState.next from rfl, same] at h
      obtain ⟨handler, kind, job, hs, decided⟩ := ih possible.1 before
      refine ⟨handler, kind, job, (congrArg Connection.stage same).trans hs, fun pin hk => ?_⟩
      obtain ⟨newer, older, retained, current, rfl, told⟩ := decided pin hk
      exact ⟨act :: newer, older, retained, current, rfl, told⟩
    · rw [System.after_cons, show (runtime rows).next = ServerState.next from rfl,
        ServerState.connection_accept] at h
      cases h
    · have before := ServerState.channel_moved.symm.trans h
      obtain ⟨handler, kind, job, hs, decided⟩ := ih possible.1 before
      have passage := ServerState.passage_moved possible.2
      rw [hs] at passage
      obtain ⟨handler', job', hs'⟩ := ServerState.serving_of_passage passage
      refine ⟨handler', kind, job', hs', fun pin hk => ?_⟩
      obtain ⟨newer, older, retained, current, rfl, told⟩ := decided pin hk
      exact ⟨_ :: newer, older, retained, current, rfl, told⟩
    · obtain ⟨handler, supervised, kind, body, body', -, hs, hs', -⟩ :=
        (orderly.each c).progress_worked possible.2
      refine ⟨handler, kind, _, hs', fun pin hk => ?_⟩
      subst hk
      rcases ServerState.channel_of_work possible.2 (by rw [hs]; rfl) h with
        before | ⟨retained, current, rfl, told⟩
      · obtain ⟨handler', kind', job', hs'', decided⟩ := ih possible.1 before
        obtain ⟨rfl, rfl, rfl⟩ : handler = handler' ∧ .probe pin = kind' ∧ _ = job' := by
          simpa using hs.symm.trans hs''
        obtain ⟨newer, older, retained, current, rfl, told⟩ := decided pin rfl
        exact ⟨_ :: newer, older, retained, current, rfl, told⟩
      · exact ⟨[], acts, retained, current, rfl, told⟩

/-- A moment of a run that is behind the pin of a submission and not behind its decision. -/
def Undecided (acts : List Act) (c : ℕ) (moment : List Act) : Prop :=
  ∃ later window before, acts = later ++ moment ∧ moment = window ++ .move c .pin :: before ∧
    Act.work c .decide ∉ window

theorem Undecided.of_cons {act : Act} (h : Undecided acts c (act :: moment))
    (hact : act ≠ .move c .pin) : Undecided acts c moment := by
  obtain ⟨later, window, before, hacts, hsplit, hwindow⟩ := h
  cases window with
  | nil => exact absurd (List.cons.inj hsplit).1 hact
  | cons a window =>
    obtain ⟨rfl, rfl⟩ := List.cons.inj hsplit
    exact ⟨later ++ [act], window, before, by simpa using hacts, rfl,
      fun hmem => hwindow (List.mem_cons_of_mem act hmem)⟩

/-- A moment before the decision is one of those that a probe has kept its pin through. -/
theorem Undecided.split {newer window before : List Act}
    (possible : (runtime rows).Possible (newer ++ .work c .decide :: (window ++ .move c .pin :: before)))
    (h : Undecided (newer ++ .work c .decide :: (window ++ .move c .pin :: before)) c moment) :
    ∃ later earlier, window = later ++ earlier ∧ moment = earlier ++ .move c .pin :: before := by
  obtain ⟨newer', window', before', hacts, rfl, hwindow⟩ := h
  have hacts' : (newer ++ .work c .decide :: window) ++ .move c .pin :: before =
      (newer' ++ window') ++ .move c .pin :: before' := by
    simpa using hacts
  have possible' : (runtime rows).Possible
      ((newer ++ .work c .decide :: window) ++ .move c .pin :: before) := by
    simpa using possible
  obtain ⟨hwindows, -, rfl⟩ := (List.append_cons_inj_of_notMem (pin_not_mem possible')
    (pin_not_mem_earlier possible')).mp hacts'
  rcases List.append_eq_append_iff.mp hwindows with ⟨between, rfl, hdecide⟩ | ⟨between, rfl, rfl⟩
  · cases between with
    | nil =>
      rw [List.nil_append] at hdecide
      exact absurd (hdecide ▸ List.mem_cons_self) hwindow
    | cons a between =>
      obtain ⟨rfl, rfl⟩ := List.cons.inj hdecide
      exact ⟨between, window', rfl, rfl⟩
  · exact absurd (by simp) hwindow

/-- **A probe that finds another selection pinned has excluded its operation since.** -/
theorem excludes_of_compared (possible : (runtime rows).Possible acts)
    (hAt : ((runtime rows).after acts).At c (.probe pin) (.compared retained current))
    (other : ((runtime rows).after acts).pinnedMatches c = some false) :
    ∃ n window before, pin = some n ∧ acts = window ++ .move c .pin :: before ∧
      (((runtime rows).after acts).stage n).submitted = true ∧
      ((runtime rows).after acts).id n ≠ ((runtime rows).after acts).id c ∧
      ∀ later earlier, window = later ++ earlier →
        ((runtime rows).after (earlier ++ .move c .pin :: before)).id c =
            ((runtime rows).after acts).id c ∧
          ((runtime rows).after (earlier ++ .move c .pin :: before)).Excludes
            (((runtime rows).after acts).id c) := by
  obtain ⟨handler, supervised, hs⟩ := Stage.closure_eq_some.mp hAt.1
  have contends : ((runtime rows).after acts).Contends c pin := by
    refine ⟨?_, ?_⟩
    · rw [hs]
      rfl
    · rw [hs]
      rfl
  obtain ⟨window, before, rfl, hpin, all⟩ := exists_pin possible contends
  obtain ⟨n, rfl, ne⟩ : ∃ n, pin = some n ∧
      ((runtime rows).after (window ++ .move c .pin :: before)).id n ≠
        ((runtime rows).after (window ++ .move c .pin :: before)).id c := by
    rw [ServerState.pinnedMatches, hs] at other
    obtain ⟨n, hn, hid⟩ := Option.map_eq_some_iff.mp other
    exact ⟨n, hn, of_decide_eq_false hid⟩
  have at_pin : (runtime rows).Possible (.move c .pin :: before) := possible.of_append
  have selected : ((runtime rows).after before).selected = some n :=
    ServerState.selected_of_upgrade hpin
  have named : (((runtime rows).after before).stage n).submitted = true :=
    (id_of_lastPublished at_pin.1 (lastPublished_of_selected at_pin.1 selected)).2
  have mine : (((runtime rows).after before).stage c).submitted = true := by
    rw [show ((runtime rows).after before).stage c = .pinning from at_pin.2]
    rfl
  -- the identities are those that they were at the pin
  have same {m : ℕ} (hm : (((runtime rows).after before).stage m).submitted = true)
      {later earlier : List Act} (hsplit : window = later ++ earlier) :
      ((runtime rows).after (earlier ++ .move c .pin :: before)).id m =
        ((runtime rows).after (window ++ .move c .pin :: before)).id m := by
    have start := (id_of_submitted (show (runtime rows).Possible ([.move c .pin] ++ before) from at_pin) hm).2
    have moment : (runtime rows).Possible (earlier ++ .move c .pin :: before) := by
      rw [hsplit, List.append_assoc] at possible
      exact possible.of_append
    exact (id_of_submitted moment start).1.trans (id_of_submitted possible start).1.symm
  have start := (id_of_submitted (show (runtime rows).Possible ([.move c .pin] ++ before) from at_pin) named).2
  refine ⟨n, window, before, rfl, rfl, (id_of_submitted possible start).2, ne,
    fun later earlier hsplit => ⟨same mine hsplit, ?_⟩⟩
  have moment : (runtime rows).Possible (earlier ++ .move c .pin :: before) := by
    rw [hsplit, List.append_assoc] at possible
    exact possible.of_append
  refine .of_contends (permit_of_possible moment) (sole_of_possible moment)
    (orderly_of_possible moment) (all later earlier hsplit) ?_
  rw [same named hsplit]
  exact ne

/-- What the answer to a submission that has probed comes from. -/
theorem decided_of_answer {wait : Wait} (possible : (runtime rows).Possible (.move c (.answer wait) :: acts))
    (probes : (((runtime rows).after acts).stage c).kind = some (.probe pin)) :
    ∃ answer, wait.admission = some answer ∧ (Hedged answer ∨ answer = .decided .busy ∧
      ∃ newer older current, acts = newer ++ .work c .decide :: older ∧
        ((runtime rows).after older).At c (.probe pin) (.compared (.ok none) current) ∧
        ((runtime rows).after older).pinnedMatches c = some false) := by
  obtain ⟨possible, -, kind, job, hs, hwait⟩ := possible
  rw [hs] at probes
  obtain rfl : kind = .probe pin := Option.some_inj.mp probes
  cases wait with
  | lost => exact ⟨_, rfl, .inl trivial⟩
  | expired => exact ⟨_, rfl, .inl trivial⟩
  | received reply =>
    obtain ⟨handler', kind', job', hs', decided⟩ := decision_of_channel possible hwait
    obtain rfl : .probe pin = kind' :=
      Option.some_inj.mp (congrArg Stage.kind (hs.symm.trans hs'))
    obtain ⟨newer, older, retained, current, rfl, hAt, rfl⟩ := decided pin rfl
    refine ⟨_, rfl, ?_⟩
    rcases hedged_or_busy retained (((runtime rows).after older).pinnedMatches c) current with
      hedged | busy
    · exact .inl hedged
    · obtain ⟨rfl, other, -⟩ := contendedAdmission_eq_busy busy
      exact .inr ⟨busy, newer, older, current, rfl, hAt, other⟩

/-- **`BUSY` is sound.**  A submission that finds the permit taken is answered `BUSY` only where its
operation had no row when its closure looked at the journal, and where from its pin to its decision
the permit was with another selection: none of the operation was alive, executed or admitted it.
Where the pin has failed, or a selection of the operation was pinned or alive before the decision,
the answer is `ADMITTED`, `INDETERMINATE` or an error; and it is `INDETERMINATE` where the deadline
has expired. -/
theorem busy_sound {wait : Wait} (possible : (runtime rows).Possible (.move c (.answer wait) :: acts))
    (probes : (((runtime rows).after acts).stage c).kind = some (.probe pin)) :
    let s := (runtime rows).after acts
    ∃ answer, wait.admission = some answer ∧ (wait = .expired → answer = .indeterminate) ∧
      (Hedged answer ∨ answer = .decided .busy) ∧
      (answer = .decided .busy →
        (∃ n, pin = some n ∧ s.id n ≠ s.id c) ∧
        (∃ later moment, acts = later ++ .work c (.probe none) :: moment ∧
          Undecided acts c moment ∧ ((runtime rows).after moment).rows (s.id c) = none) ∧
        (∀ moment, Undecided acts c moment → ((runtime rows).after moment).Excludes (s.id c)) ∧
        ∀ n phase moment, Undecided acts c (.work n (.insert phase) :: moment) →
          ((runtime rows).after moment).id n ≠ s.id c) ∧
      ((pin = none ∨ (∃ n, pin = some n ∧ s.id n = s.id c) ∨
          ∃ moment n, Undecided acts c moment ∧ ((runtime rows).after moment).refers n = true ∧
            ((runtime rows).after moment).id n = s.id c) → Hedged answer) := by
  intro s
  obtain ⟨answer, hanswer, cases_answer⟩ := decided_of_answer possible probes
  have expired (hw : wait = .expired) : answer = .indeterminate := by
    subst hw
    exact (Option.some_inj.mp hanswer).symm
  refine ⟨answer, hanswer, expired, cases_answer.imp_right And.left, ?_⟩
  rcases cases_answer with hedged | ⟨rfl, newer, older, current, rfl, hAt, other⟩
  · refine ⟨?_, fun _ => hedged⟩
    rintro rfl
    exact hedged.elim
  have before : (runtime rows).Possible older := possible.1.of_append.1
  obtain ⟨n, window, first, rfl, rfl, named, ne, all⟩ := excludes_of_compared before hAt other
  obtain ⟨handler, supervised, hs⟩ := Stage.closure_eq_some.mp hAt.1
  -- from the decision to the answer the identities stay
  have later_id {m : ℕ} (hm : (((runtime rows).after (window ++ .move c .pin :: first)).stage m).submitted =
      true) : s.id m = ((runtime rows).after (window ++ .move c .pin :: first)).id m := by
    have behind : (runtime rows).Possible ((newer ++ [.work c .decide]) ++
        (window ++ .move c .pin :: first)) := by
      simpa using possible.1
    have same := (id_of_submitted behind hm).1
    simpa using same
  have id_c : s.id c = ((runtime rows).after (window ++ .move c .pin :: first)).id c :=
    later_id (by rw [hs]; rfl)
  have excluded (moment : List Act)
      (h : Undecided (newer ++ .work c .decide :: (window ++ .move c .pin :: first)) c moment) :
      ((runtime rows).after moment).Excludes (s.id c) := by
    obtain ⟨later, earlier, hsplit, rfl⟩ := h.split possible.1
    rw [id_c]
    exact (all later earlier hsplit).2
  have different : s.id n ≠ s.id c := by
    rw [id_c, later_id named]
    exact ne
  refine ⟨fun _ => ⟨⟨n, rfl, different⟩, ?_, excluded, ?_⟩, ?_⟩
  · have read : (((runtime rows).after (window ++ .move c .pin :: first)).stage c).retained =
        some (.ok none) := by
      rw [Stage.retained, hAt.1]
      rfl
    obtain ⟨later, fault, earlier, rfl, found⟩ := exists_probe before read
    have probing : (runtime rows).Possible
        (.work c (.probe fault) :: (earlier ++ .move c .pin :: first)) := by
      rw [List.append_assoc] at before
      exact before.of_append
    have undecided : Act.work c .decide ∉ earlier := decide_not_mem_of_probe probing
    cases fault with
    | some error => cases found
    | none =>
      refine ⟨newer ++ .work c .decide :: later, earlier ++ .move c .pin :: first, by simp,
        ⟨newer ++ .work c .decide :: (later ++ [.work c (.probe none)]), earlier, first, by simp, rfl,
          undecided⟩, ?_⟩
      have same := (all (later ++ [.work c (.probe none)]) earlier (by simp)).1
      rw [id_c, ← same]
      exact Except.ok.inj found
  · intro m phase moment h
    have undecided := h.of_cons nofun
    obtain ⟨later, -, -, hacts, -⟩ := h
    have inserts : (runtime rows).Possible (later ++ .work m (.insert phase) :: moment) :=
      hacts ▸ possible.1
    have enabled : ((runtime rows).after moment).Enabled (.work m (.insert phase)) :=
      inserts.enabled
    exact (excluded moment undecided).not_insert enabled
  · rintro (none | ⟨m, hm, same⟩ | ⟨moment, m, h, alive, same⟩)
    · cases none
    · cases hm
      exact absurd same different
    · exact absurd same ((excluded moment h).refers m alive)

end

/-- A submission that is executed, and one of another operation that contends with it. -/
def contendedRun : List Act := [
  .move 1 (.answer (.received (.admission (.decided .busy)))), .work 1 .decide, .work 1 .unlock,
  .work 1 .letGo, .work 1 .inspect, .work 1 .upgrade, .work 1 (.look (utf8 "b")),
  .work 1 (.probe none), .move 1 .start, .move 1 .register, .move 1 .pin, .move 1 .contend,
  .move 1 (.submit (utf8 "b")), .accept, .move 0 .start, .move 0 .register, .move 0 .publish,
  .move 0 .clear, .move 0 .acquire, .move 0 (.submit (utf8 "a")), .accept]

theorem possible_contendedRun : (runtime fun _ => none).Possible contendedRun := by
  refine ⟨⟨⟨⟨⟨⟨⟨⟨⟨⟨⟨⟨⟨⟨⟨⟨⟨⟨⟨⟨⟨trivial, ?_⟩, ?_⟩, ?_⟩, ?_⟩, ?_⟩, ?_⟩, ?_⟩, ?_⟩, ?_⟩, ?_⟩, ?_⟩, ?_⟩,
    ?_⟩, ?_⟩, ?_⟩, ?_⟩, ?_⟩, ?_⟩, ?_⟩, ?_⟩, ?_⟩
  · exact ⟨⟨rfl, nofun⟩, rfl, by decide⟩
  · exact ⟨⟨rfl, nofun⟩, rfl, rfl⟩
  · exact ⟨rfl, rfl⟩
  · exact rfl
  · exact rfl
  · exact ⟨⟨.execute, rfl⟩, by decide⟩
  · exact ⟨⟨rfl, nofun⟩, .waiting, .execute, rfl⟩
  · exact ⟨⟨rfl, nofun⟩, rfl, by decide⟩
  · exact ⟨⟨rfl, nofun⟩, rfl, rfl⟩
  · exact ⟨rfl, nofun⟩
  · exact rfl
  · exact ⟨⟨.probe (some 0), rfl⟩, by decide⟩
  · exact ⟨⟨rfl, nofun⟩, .waiting, .probe (some 0), rfl⟩
  · exact ⟨some 0, rfl, nofun, nofun⟩
  · exact ⟨rfl, .inr ⟨⟨some 0, .ok none, rfl, nofun, nofun⟩, rfl⟩⟩
  · exact ⟨utf8 "b", rfl⟩
  · exact ⟨utf8 "b", 0, rfl⟩
  · exact ⟨0, rfl⟩
  · exact ⟨nofun, rfl⟩
  · exact ⟨some 0, .ok none, some false, rfl, nofun, nofun⟩
  · exact ⟨⟨rfl, nofun⟩, .probe (some 0), _, rfl, rfl⟩

/-- In that run the pinned selection has the permit when the probe decides. -/
theorem excludes_of_contendedRun :
    ((runtime fun _ => none).after (contendedRun.drop 2)).Excludes (utf8 "b") := by
  have answered : (runtime fun _ => none).Possible
      (.move 1 (.answer (.received (.admission (.decided .busy)))) :: contendedRun.tail) :=
    possible_contendedRun
  obtain ⟨answer, hanswer, -, -, busy, -⟩ := busy_sound answered rfl
  obtain rfl := Option.some_inj.mp hanswer
  refine (busy rfl).2.2.1 (contendedRun.drop 2) ?_
  exact ⟨[.work 1 .decide], [.work 1 .unlock, .work 1 .letGo, .work 1 .inspect, .work 1 .upgrade,
    .work 1 (.look (utf8 "b")), .work 1 (.probe none), .move 1 .start, .move 1 .register],
    contendedRun.drop 11, rfl, rfl, by simp⟩

end Runtime
end Daemon
end Kapsel
