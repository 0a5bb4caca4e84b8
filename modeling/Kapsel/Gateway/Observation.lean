import Kapsel.Gateway.Adapter

/-!
# The observation pass under its clock

`observe_until_terminal` of `src/gateway/kubernetes/adapter.rs` with every reading of the clock.
A turn of the loop reads the clock for its deadline check, again for the deadline of its read, and
again behind the read; the read itself starts between the last two.  The API server and the clock
are outside, so a pass is a function of its turns.

The check and the start are two moments.  A read that starts at or after the pass deadline has
passed a check before it, and contributes nothing.

* `observeUntilTerminal_observation`: without the clock readings the pass is the loop over
  readings that were late or not.
* `observation_contract`: **what a pass reads and what it returns.**
* `late_start`: a read that starts at the deadline.
-/

namespace Kapsel
namespace Gateway
namespace Observation

/-- One turn of the loop: the clock of the deadline check, the clock that the read deadline is
computed from, the start of the read, what it returned, and the clock behind it. -/
structure Turn where
  checked : ℕ
  armed : ℕ
  started : ℕ
  response : ApiResponse
  answered : ℕ
  deriving DecidableEq

/-- A monotone clock. -/
structure Ticks (turns : ℕ → Turn) : Prop where
  checked_le_armed : ∀ k, (turns k).checked ≤ (turns k).armed
  armed_le_started : ∀ k, (turns k).armed ≤ (turns k).started
  started_le_answered : ∀ k, (turns k).started ≤ (turns k).answered
  answered_le_checked : ∀ k, (turns k).answered ≤ (turns (k + 1)).checked

/-- A read that was performed. -/
structure Read where
  started : ℕ
  readDeadline : ℕ
  response : ApiResponse
  deriving DecidableEq

/-- The reads of a pass in order, and what it returned. -/
structure Pass where
  reads : List Read
  observation : ReceiverObservation
  deriving DecidableEq

section
variable (request : SetDeploymentImageRequest) (outcome : ApplyOutcome)
  (deadline providerRequestTimeout : ℕ)

/-- The read of a turn, within the time that is left of the pass. -/
def Turn.read (turn : Turn) : Read where
  started := turn.started
  readDeadline := min deadline (turn.armed + providerRequestTimeout)
  response := turn.response

/-- The turns that are left, the first of them at `turns 0`.  The last turn breaks whatever it
observed. -/
def remainingTurns : ℕ → (ℕ → Turn) → ReceiverObservation → Pass
  | 0, _, latestObservation => ⟨[], latestObservation⟩
  | left + 1, turns, _ =>
      let turn := turns 0
      if deadline ≤ turn.checked then ⟨[], .unknown⟩
      else
        let read := turn.read deadline providerRequestTimeout
        if deadline ≤ turn.answered then ⟨[read], .unknown⟩
        else
          let latestObservation := observationOf request turn.response
          if latestObservation.observationIsComplete request outcome || left = 0 then
            ⟨[read], latestObservation⟩
          else
            let pass := remainingTurns left (fun k => turns (k + 1)) latestObservation
            ⟨read :: pass.reads, pass.observation⟩

/-- `observe_until_terminal`. -/
def observeUntilTerminal (observationAttempts : ℕ) (turns : ℕ → Turn) : Pass :=
  remainingTurns request outcome deadline providerRequestTimeout observationAttempts turns .unknown

/-- `observe`: the outer timer may drop the loop after any number of its reads. -/
def observe (observationAttempts : ℕ) (turns : ℕ → Turn) (timedOut : Option ℕ) : Pass :=
  let pass := observeUntilTerminal request outcome deadline providerRequestTimeout
    observationAttempts turns
  match timedOut with
  | none => pass
  | some k => ⟨pass.reads.take k, .unknown⟩

end

/-! ## One turn -/

section
variable {request : SetDeploymentImageRequest} {outcome : ApplyOutcome}
  {deadline providerRequestTimeout : ℕ}

/-- What a turn does: it stops before its read, behind a read that came too late, or behind a read
that is conclusive or the last one; or it goes on, behind a read in time that is neither. -/
theorem remainingTurns_succ (request : SetDeploymentImageRequest) (left : ℕ) (turns : ℕ → Turn)
    (latest : ReceiverObservation) :
    let pass := remainingTurns request outcome deadline providerRequestTimeout (left + 1) turns latest
    let read := (turns 0).read deadline providerRequestTimeout
    let observation := observationOf request (turns 0).response
    let rest := remainingTurns request outcome deadline providerRequestTimeout left
      (fun k => turns (k + 1)) observation
    (deadline ≤ (turns 0).checked ∧ pass = ⟨[], .unknown⟩) ∨
      (¬ deadline ≤ (turns 0).checked ∧
        ((deadline ≤ (turns 0).answered ∧ pass = ⟨[read], .unknown⟩) ∨
          (¬ deadline ≤ (turns 0).answered ∧
            (((observation.observationIsComplete request outcome = true ∨ left = 0) ∧
                pass = ⟨[read], observation⟩) ∨
              (observation.observationIsComplete request outcome = false ∧ left ≠ 0 ∧
                pass = ⟨read :: rest.reads, rest.observation⟩))))) := by
  intro pass read observation rest
  by_cases hchecked : deadline ≤ (turns 0).checked
  · exact Or.inl ⟨hchecked, if_pos hchecked⟩
  refine Or.inr ⟨hchecked, ?_⟩
  have hpass : pass = if deadline ≤ (turns 0).answered then ⟨[read], .unknown⟩
      else if observation.observationIsComplete request outcome || left = 0 then
        ⟨[read], observation⟩
      else ⟨read :: rest.reads, rest.observation⟩ := if_neg hchecked
  by_cases hanswered : deadline ≤ (turns 0).answered
  · exact Or.inl ⟨hanswered, hpass.trans (if_pos hanswered)⟩
  refine Or.inr ⟨hanswered, ?_⟩
  rw [if_neg hanswered] at hpass
  cases hcomplete : observation.observationIsComplete request outcome with
  | true =>
    rw [hcomplete, Bool.true_or, if_pos rfl] at hpass
    exact Or.inl ⟨Or.inl rfl, hpass⟩
  | false =>
    rw [hcomplete, Bool.false_or] at hpass
    by_cases hleft : left = 0
    · exact Or.inl ⟨Or.inr hleft, hpass.trans (if_pos (decide_eq_true hleft))⟩
    · refine Or.inr ⟨rfl, hleft, hpass.trans (if_neg ?_)⟩
      rw [decide_eq_false hleft]
      exact Bool.false_ne_true

/-! ## The loop without its clock -/

/-- A turn by whether the deadline had passed. -/
def Turn.reading (deadline : ℕ) (turn : Turn) : Reading where
  late := deadline ≤ turn.checked
  response := turn.response
  lateAfter := deadline ≤ turn.answered

theorem Turn.late_iff {turn : Turn} :
    (turn.reading deadline).late = true ↔ deadline ≤ turn.checked := decide_eq_true_iff

theorem Turn.lateAfter_iff {turn : Turn} :
    (turn.reading deadline).lateAfter = true ↔ deadline ≤ turn.answered := decide_eq_true_iff

theorem remainingTurns_observation (left : ℕ) (turns : ℕ → Turn) (latest : ReceiverObservation) :
    (remainingTurns request outcome deadline providerRequestTimeout left turns latest).observation =
      Gateway.observeUntilTerminal request outcome latest
        ((List.range left).map fun k => (turns k).reading deadline) := by
  induction left generalizing turns latest with
  | zero => rfl
  | succ left ih =>
    rw [List.range_succ_eq_map, List.map_cons, List.map_map]
    unfold Gateway.observeUntilTerminal
    rcases remainingTurns_succ request left turns latest with
      ⟨hchecked, hpass⟩ | ⟨hchecked, ⟨hanswered, hpass⟩ | ⟨hanswered, h⟩⟩
    · rw [hpass, if_pos (Turn.late_iff.mpr hchecked)]
    · rw [hpass, if_neg (mt Turn.late_iff.mp hchecked), if_pos (Turn.lateAfter_iff.mpr hanswered)]
    · rw [if_neg (mt Turn.late_iff.mp hchecked), if_neg (mt Turn.lateAfter_iff.mp hanswered)]
      rcases h with ⟨hcomplete | rfl, hpass⟩ | ⟨hincomplete, hleft, hpass⟩
      · rw [hpass]
        exact (if_pos hcomplete).symm
      · rw [hpass]
        exact (ite_self _).symm
      · have hnot : ¬ (observationOf request (turns 0).response).observationIsComplete request
            outcome = true := by
          rw [hincomplete]
          exact Bool.false_ne_true
        rw [hpass, ih]
        exact (if_neg hnot).symm

/-- **The pass returns what the loop over its readings returns.** -/
theorem observeUntilTerminal_observation (observationAttempts : ℕ) (turns : ℕ → Turn) :
    (observeUntilTerminal request outcome deadline providerRequestTimeout observationAttempts
      turns).observation =
      Gateway.observeUntilTerminal request outcome .unknown
        ((List.range observationAttempts).map fun k => (turns k).reading deadline) :=
  remainingTurns_observation observationAttempts turns .unknown

/-- **With the outer timer** the pass returns what `observe` returns. -/
theorem observe_observation (turns : ℕ → Turn) (timedOut : Option ℕ) :
    (observe request outcome deadline providerRequestTimeout observationAttemptsMax turns
      timedOut).observation =
      Gateway.observe request outcome timedOut.isSome
        ((List.range observationAttemptsMax).map fun k => (turns k).reading deadline) := by
  have hlength : ((List.range observationAttemptsMax).map fun k =>
      (turns k).reading deadline).length = observationAttemptsMax := by
    rw [List.length_map, List.length_range]
  cases timedOut with
  | none =>
    show (observeUntilTerminal request outcome deadline providerRequestTimeout
      observationAttemptsMax turns).observation = Gateway.observeUntilTerminal _ _ _ (_ : List _)
    rw [observeUntilTerminal_observation, List.take_of_length_le hlength.le]
  | some k => rfl

/-! ## What a pass reads and returns -/

/-- What holds of the reads of a pass and of what it returned. -/
structure Contract (request : SetDeploymentImageRequest) (outcome : ApplyOutcome)
    (deadline providerRequestTimeout attempts : ℕ) (turns : ℕ → Turn) (pass : Pass) : Prop where
  /-- No more reads than attempts. -/
  length_le : pass.reads.length ≤ attempts
  /-- Every read follows a check in time, and its own deadline is no later than the pass. -/
  checked : ∀ k read, pass.reads[k]? = some read →
    read = (turns k).read deadline providerRequestTimeout ∧ (turns k).checked < deadline ∧
      read.readDeadline ≤ deadline
  /-- A read that ended at or after the deadline leaves nothing known. -/
  late : ∀ k, k < pass.reads.length → deadline ≤ (turns k).answered → pass.observation = .unknown
  /-- Only the last read may be conclusive. -/
  inconclusive : ∀ read ∈ pass.reads.dropLast,
    (observationOf request read.response).observationIsComplete request outcome = false
  /-- What is returned is nothing known, or the facts of the last read. -/
  returned : pass.observation = .unknown ∨
    ∃ read, pass.reads.getLast? = some read ∧ pass.observation = observationOf request read.response

namespace Contract

variable {turns : ℕ → Turn} {attempts : ℕ} {pass : Pass}

/-- A pass without a read. -/
theorem of_nil :
    Contract request outcome deadline providerRequestTimeout attempts turns ⟨[], .unknown⟩ where
  length_le := Nat.zero_le _
  checked k read h := by cases h
  late _ _ _ := rfl
  inconclusive read h := by cases h
  returned := Or.inl rfl

/-- A pass of one read. -/
theorem of_single (hchecked : ¬ deadline ≤ (turns 0).checked) {observation : ReceiverObservation}
    (hlate : deadline ≤ (turns 0).answered → observation = .unknown)
    (hreturned : observation = .unknown ∨ observation = observationOf request (turns 0).response) :
    Contract request outcome deadline providerRequestTimeout (attempts + 1) turns
      ⟨[(turns 0).read deadline providerRequestTimeout], observation⟩ where
  length_le := Nat.le_add_left 1 attempts
  checked k read h := by
    cases k with
    | zero =>
      obtain rfl := Option.some.inj h
      exact ⟨rfl, Nat.lt_of_not_le hchecked, Nat.min_le_left _ _⟩
    | succ k => cases h
  late k hk := by
    obtain rfl := Nat.lt_one_iff.mp hk
    exact hlate
  inconclusive read h := by cases h
  returned := by
    rcases hreturned with hunknown | hread
    · exact Or.inl hunknown
    · exact Or.inr ⟨_, rfl, hread⟩

/-- A read in time that is not conclusive, and the rest of the pass. -/
theorem cons (hchecked : ¬ deadline ≤ (turns 0).checked)
    (hanswered : ¬ deadline ≤ (turns 0).answered)
    (hincomplete : (observationOf request (turns 0).response).observationIsComplete request
      outcome = false)
    (h : Contract request outcome deadline providerRequestTimeout attempts
      (fun k => turns (k + 1)) pass) :
    Contract request outcome deadline providerRequestTimeout (attempts + 1) turns
      ⟨(turns 0).read deadline providerRequestTimeout :: pass.reads, pass.observation⟩ where
  length_le := Nat.succ_le_succ h.length_le
  checked k read hread := by
    cases k with
    | zero =>
      obtain rfl := Option.some.inj hread
      exact ⟨rfl, Nat.lt_of_not_le hchecked, Nat.min_le_left _ _⟩
    | succ k => exact h.checked k read hread
  late k hk := by
    cases k with
    | zero => exact fun hlate => absurd hlate hanswered
    | succ k => exact h.late k (Nat.lt_of_succ_lt_succ hk)
  inconclusive read hread := by
    cases hreads : pass.reads with
    | nil =>
      rw [hreads] at hread
      cases hread
    | cons next reads =>
      rw [hreads, List.dropLast_cons_of_ne_nil (List.cons_ne_nil next reads)] at hread
      rcases List.mem_cons.mp hread with rfl | hread
      · exact hincomplete
      · exact h.inconclusive read (by rwa [hreads])
  returned := by
    rcases h.returned with hunknown | ⟨read, hlast, hreturned⟩
    · exact Or.inl hunknown
    · refine Or.inr ⟨read, ?_, hreturned⟩
      rw [List.getLast?_cons, hlast]
      rfl

end Contract

/-- **The turns that are left keep the contract**, as long as one is left or nothing is known. -/
theorem contract_remainingTurns (left : ℕ) (turns : ℕ → Turn) (latest : ReceiverObservation)
    (h : left = 0 → latest = .unknown) :
    Contract request outcome deadline providerRequestTimeout left turns
      (remainingTurns request outcome deadline providerRequestTimeout left turns latest) := by
  induction left generalizing turns latest with
  | zero =>
    rw [h rfl]
    exact Contract.of_nil
  | succ left ih =>
    rcases remainingTurns_succ request left turns latest with
      ⟨hchecked, hpass⟩ | ⟨hchecked, ⟨hanswered, hpass⟩ | ⟨hanswered, h⟩⟩
    · rw [hpass]
      exact Contract.of_nil
    · rw [hpass]
      exact Contract.of_single hchecked (fun _ => rfl) (Or.inl rfl)
    · rcases h with ⟨-, hpass⟩ | ⟨hincomplete, hleft, hpass⟩
      · rw [hpass]
        exact Contract.of_single hchecked (fun hlate => absurd hlate hanswered) (Or.inr rfl)
      · rw [hpass]
        exact Contract.cons hchecked hanswered hincomplete
          (ih _ _ fun hzero => absurd hzero hleft)

/-- Nothing known is not conclusive. -/
theorem observationResult_unknown (operationId immutableImageDigest : Text) :
    ReceiverObservation.unknown.observationResult operationId immutableImageDigest outcome =
      .unknown := by
  have hexceeded : ReceiverObservation.unknown.progressDeadlineExceeded = false := rfl
  have hcounts : ReceiverObservation.unknown.replicaCountsEstablishAvailability = false := rfl
  rw [ReceiverObservation.observationResult, hexceeded, hcounts, Bool.and_false, Bool.false_and,
    Bool.and_false]
  rfl

/-- The clock never stands after the start of a read and before its end. -/
theorem Ticks.started_lt {turns : ℕ → Turn} (h : Ticks turns) {k : ℕ}
    (hstarted : deadline ≤ (turns k).started) : deadline ≤ (turns k).answered :=
  hstarted.trans (h.started_le_answered k)

/-- **The contract of observation.**  A pass performs at most as many reads as it has attempts,
each behind a deadline check in time and under a deadline of its own within the pass; a read that
starts or ends at or after the pass deadline leaves nothing known.  The pass ends with its first
conclusive read, returns nothing known or the facts of its last read, and so is conclusive only
where that read alone is.  The outer timer leaves nothing known or changes nothing. -/
theorem observation_contract {turns : ℕ → Turn} (h : Ticks turns)
    (request : SetDeploymentImageRequest) (outcome : ApplyOutcome)
    (deadline providerRequestTimeout observationAttempts : ℕ) :
    let pass := observeUntilTerminal request outcome deadline providerRequestTimeout
      observationAttempts turns
    Contract request outcome deadline providerRequestTimeout observationAttempts turns pass ∧
      (∀ read ∈ pass.reads, deadline ≤ read.started → pass.observation = .unknown) ∧
      (∀ result, result ≠ .unknown →
        pass.observation.observationResult request.operationId request.immutableImageDigest outcome =
          result →
        ∃ read, pass.reads.getLast? = some read ∧
          pass.observation = observationOf request read.response ∧
          (observationOf request read.response).observationResult request.operationId
            request.immutableImageDigest outcome = result) ∧
      ∀ timedOut,
        (observe request outcome deadline providerRequestTimeout observationAttempts turns
          timedOut).observation = .unknown ∨
        observe request outcome deadline providerRequestTimeout observationAttempts turns timedOut =
          pass := by
  intro pass
  have hcontract : Contract request outcome deadline providerRequestTimeout observationAttempts
      turns pass := contract_remainingTurns observationAttempts turns .unknown fun _ => rfl
  refine ⟨hcontract, ?_, ?_, ?_⟩
  · intro read hread hstarted
    obtain ⟨k, hk, hget⟩ := List.mem_iff_getElem.mp hread
    obtain ⟨rfl, -, -⟩ := hcontract.checked k read (List.getElem?_eq_some_iff.mpr ⟨hk, hget⟩)
    exact hcontract.late k hk (h.started_lt hstarted)
  · intro result hresult hclassified
    rcases hcontract.returned with hunknown | ⟨read, hlast, hreturned⟩
    · rw [hunknown, observationResult_unknown] at hclassified
      exact absurd hclassified.symm hresult
    · rw [hreturned] at hclassified
      exact ⟨read, hlast, hreturned, hclassified⟩
  · intro timedOut
    cases timedOut with
    | none => exact Or.inr rfl
    | some k => exact Or.inl rfl

end

/-! ## Concrete passes -/

/-- A request to roll out one image. -/
def rollout : SetDeploymentImageRequest :=
  ⟨utf8 "rollout", utf8 "default", utf8 "web", utf8 "app", utf8 "image"⟩

/-- The applied patch. -/
def applied : ApplyOutcome := ⟨true, some 2, some (utf8 "uid"), some (utf8 "7")⟩

/-- The Deployment once it is rolled out. -/
def rolledOut : Deployment where
  metadata := ⟨some (utf8 "uid"), some (utf8 "8"), some 2,
    some [( operationAnnotation, utf8 "rollout")]⟩
  spec := some ⟨some 1, some [⟨utf8 "app", some (utf8 "image")⟩]⟩
  status := some ⟨some 2, some 1, some 1, none,
    some [⟨utf8 "Available", utf8 "True", none⟩]⟩

/-- A read that times out, then reads that find the rollout done. -/
def steadyTurns (k : ℕ) : Turn :=
  ⟨11 * k, 11 * k, 11 * k, if k = 0 then .timedOut else .found rolledOut, 11 * k + 10⟩

/-- A clock that reaches the deadline 10 between the check and the read. -/
def lateTurns : ℕ → Turn
  | 0 => ⟨9, 10, 10, .timedOut, 10⟩
  | _ + 1 => ⟨10, 10, 10, .timedOut, 10⟩

example : (observeUntilTerminal rollout applied 180 10 180 steadyTurns).reads.length = 2 := by
  decide

theorem observation_contract_steady :
    Contract rollout applied 180 10 180 steadyTurns
      (observeUntilTerminal rollout applied 180 10 180 steadyTurns) := by
  have hticks : Ticks steadyTurns :=
    ⟨fun _ => le_rfl, fun _ => le_rfl, fun k => Nat.le_add_right _ 10,
      fun k => by simp only [steadyTurns]; omega⟩
  exact (observation_contract hticks rollout applied 180 10 180).1

/-- **A read may start at the deadline**: the check before it still passed. -/
theorem late_start :
    Ticks lateTurns ∧
      ∃ read ∈ (observeUntilTerminal rollout applied 10 10 180 lateTurns).reads,
        10 ≤ read.started := by
  refine ⟨⟨?_, ?_, ?_, ?_⟩, ⟨10, 10, .timedOut⟩, by decide, le_rfl⟩
  all_goals
    intro k
    cases k with
    | zero => decide
    | succ k => exact le_rfl

end Observation
end Gateway
end Kapsel
