import Kapsel.Gateway.Acknowledgement

/-!
# The reconcile loop ends

The loop has no counter.  It reads the journal, does one thing, and starts over when told that the
operation advanced.  A step that reported progress without making any would spin with the lease in
hand, so each report is held against the journal here.

A turn that continues has read the row in one state and has then seen it in a later one: another
read showed it, or a write of the turn was confirmed (`advanced_reconcileTurn`).  In a run these
sightings are in order, for rows only move forward, whoever moves them (`Execution.rank_le`).  Five
ranks leave room for four turns that continue, and the fifth is the last
(`Execution.turns_le_four`).
-/

namespace Kapsel

open Grammar Fallible Authority Interaction Interaction.Program Relation

namespace Gateway

open Journal

variable {C : Crypto}

/-! ## Sightings -/

/-- How far along its lifecycle an operation is. -/
def OperationState.rank : OperationState → ℕ
  | .requested => 0
  | .authorized => 1
  | .applyStarted => 2
  | .receiverObserved => 3
  | .notAttempted => 4
  | .finalized => 4

theorem OperationState.rank_le_four (state : OperationState) : state.rank ≤ 4 := by
  cases state <;> decide

/-- The exchange shows the row of the request in the state: it was read, or written and
confirmed. -/
inductive Sighting (a : AuthorizedRequest C) : Exchange (Call C) Answer → OperationState → Prop
  | read {db : Database} {loaded : LoadedOperation} :
      authorizedRecordOn C db a = .ok (some loaded) → Sighting a (readOf db) loaded.state
  | wrote {x : Transition C} {state : OperationState} : (Approval.kubernetes a).Updates x →
      x.replacement.next.value .state = .text state.asSql → Sighting a (confirmed x) state

/-- Since `past`, the row was seen in a state of at least this rank. -/
def Reaches (a : AuthorizedRequest C) (n : ℕ) (past past' : Past C) : Prop :=
  ∃ own, past' = own ++ past ∧ ∃ x ∈ own, ∃ state, Sighting a x state ∧ n ≤ state.rank

/-- Any question is permitted: what follows is about the answers. -/
def Unrestricted (_ : Past C) (_ : Call C) : Prop := True

section
variable {a : AuthorizedRequest C} {n n' : ℕ} {past past' past'' : Past C}

theorem Reaches.mono (h : Reaches a n past past') (hn : n' ≤ n) : Reaches a n' past past' := by
  obtain ⟨own, hpast, x, hx, state, hsighting, hrank⟩ := h
  exact ⟨own, hpast, x, hx, state, hsighting, hn.trans hrank⟩

theorem Reaches.since (h : Reaches a n past' past'') (hpast : past <:+ past') :
    Reaches a n past past'' := by
  obtain ⟨own, rfl, x, hx, hstate⟩ := h
  obtain ⟨first, rfl⟩ := hpast
  exact ⟨own ++ first, (List.append_assoc ..).symm, x, List.mem_append_left _ hx, hstate⟩

theorem Reaches.suffix (h : Reaches a n past past') : past <:+ past' := by
  obtain ⟨own, rfl, -⟩ := h
  exact List.suffix_append _ _

/-! ## Writes -/

/-- A confirmed write shows the state that it wrote. -/
theorem reaches_replace {x : Transition C} (state : OperationState)
    (hupdates : (Approval.kubernetes a).Updates x)
    (hstate : x.replacement.next.value .state = .text state.asSql) (hn : n ≤ state.rank) :
    Ensures Unrestricted past (Storage.replace x) fun past' _ => Reaches a n past past' := by
  refine ensures_ask trivial fun answer => ensures_check fun u hu => ?_
  subst hu
  exact ⟨[confirmed x], rfl, _, List.mem_singleton_self _, state, .wrote hupdates hstate, hn⟩

/-- **A writer that replaces the row it has just read again** shows the state that it wrote. -/
theorem reaches_update {loaded : LoadedOperation} {id : Text} {x : Record .kubernetes → Transition C}
    {next : Record .kubernetes → Record .kubernetes} (state : OperationState)
    (hid : id = a.request.operationId)
    (hx : ∀ expected, (x expected).replacement = ⟨.kubernetes, some expected, next expected⟩)
    (hkeeps : ∀ expected, (next expected).value .operationId = expected.value .operationId)
    (hstate : ∀ expected, (next expected).value .state = .text state.asSql) (hn : n ≤ state.rank) :
    Ensures Unrestricted past (do
      let expected ← Storage.boundRecord id loaded
      Storage.replace (x expected)) fun past' _ => Reaches a n past past' := by
  refine (acting_boundRecord (fun _ => trivial) id loaded).bind fun past₁ record h₁ => ?_
  obtain ⟨hpast, db, hstored⟩ := h₁
  rw [hid] at hstored
  have hwritten : (x record).replacement.next.value .state = .text state.asSql := by
    rw [hx record]
    exact hstate record
  exact (reaches_replace state (updates_of_stored (hx record) hstored (hkeeps record)) hwritten hn).mono
    fun _ _ h₂ => h₂.since hpast

/-! ## Submission -/

theorem reaches_markAuthorized (operation : RequestedOperation) :
    Ensures Unrestricted past (Storage.markAuthorized operation a)
      fun past' _ => Reaches a 1 past past' := by
  refine ensures_checked fun _ hsame => ?_
  refine (acting_existingSubmission (fun _ => trivial) a).bind fun past₁ state h₁ => ?_
  obtain ⟨db, loaded, rfl, -, -⟩ := h₁
  refine ensures_checked fun _ _ => ?_
  have hrequest : operation.request.request = a.request :=
    of_decide_eq_true (require_eq_ok.mp hsame)
  exact (reaches_update (x := fun expected => .markAuthorized expected a) .authorized
    (by rw [hrequest]) (fun _ => rfl) (fun _ => rfl) (fun _ => rfl) (Nat.le_refl 1)).mono
    fun _ _ h₂ => h₂.since (List.suffix_cons _ _)

theorem reaches_markRequestedAuthorized :
    Ensures Unrestricted past (markRequestedAuthorized a) fun past' _ => Reaches a 1 past past' := by
  refine (ensures_operation (fun _ => trivial) _).bind fun past₁ loaded h₁ => ?_
  split
  · exact (reaches_markAuthorized _).mono fun _ _ h₂ => h₂.since h₁.1
  · exact ensures_throw _
  · exact ensures_throw _

/-- **Submission leaves the row authorized at least**: it marks it so, or has seen that it is
further along. -/
theorem reaches_submitBound :
    Ensures Unrestricted past (submitBound a) fun past' _ => Reaches a 1 past past' := by
  refine (acting_existingSubmission (fun _ => trivial) a).bind fun past₁ existing h₁ => ?_
  obtain ⟨db, loaded, rfl, hloaded, rfl⟩ := h₁
  have hpast : past <:+ readOf db :: past := List.suffix_cons _ _
  split
  · exact reaches_markRequestedAuthorized.bind fun _ _ h₂ => ensures_pure (h₂.since hpast)
  · rename_i existing hrequested hexisting
    obtain ⟨operation, rfl, rfl⟩ := Option.map_eq_some_iff.mp hexisting
    have hrank : 1 ≤ operation.state.rank := by
      cases hstate : operation.state with
      | requested => exact absurd hstate (by simpa using hrequested)
      | _ => decide
    exact ensures_pure ⟨[readOf db], rfl, _, List.mem_singleton_self _, _, .read hloaded, hrank⟩
  · have hinsert : Ensures Unrestricted (readOf db :: past) (Storage.insertRequested a)
        fun past' _ => readOf db :: past <:+ past' ∧ True :=
      (ensures_of_forall fun _ _ _ => trivial).suffix
    refine hinsert.bind fun past₂ _ h₂ => ?_
    exact reaches_markRequestedAuthorized.bind fun _ _ h₃ =>
      ensures_pure (h₃.since (hpast.trans h₂.1))

theorem reaches_submitAuthorized {authorities : List AuthorizationTrust}
    {request : SetDeploymentImageRequest} {signedGrant : Bytes}
    (hbind : bindAuthorization C authorities request signedGrant = .ok a) :
    Ensures Unrestricted past (submitAuthorized (C := C) authorities request signedGrant)
      fun past' _ => Reaches a 1 past past' := by
  obtain ⟨verified, hverified, hbind⟩ := bind_eq_ok.mp hbind
  obtain ⟨validated, hvalidated, hbind⟩ := bind_eq_ok.mp hbind
  refine ensures_checked fun validated' hvalidated' => ?_
  obtain rfl := Except.ok.inj (hvalidated.symm.trans hvalidated')
  refine ensures_checked fun verified' hverified' => ?_
  obtain rfl := Except.ok.inj (hverified.symm.trans hverified')
  refine ensures_checked fun a' ha' => ?_
  obtain rfl := Except.ok.inj (hbind.symm.trans ha')
  exact reaches_submitBound

/-! ## One pass over the operation -/

section
variable {operation : AuthorizedOperation} {started : ApplyStartedOperation}

/-- A preflight that finds no target has ended the operation. -/
theorem reaches_preflightTarget (hrequest : operation.request.request = a.request) :
    Ensures Unrestricted past (preflightTarget a operation)
      fun past' found => past <:+ past' ∧ (found = none → Reaches a 4 past past') := by
  refine ensures_ask trivial fun targetRead => ?_
  refine (ensures_requireAuthorized fun _ => trivial).bind fun past₁ _ h₁ => ?_
  have hpast : past <:+ past₁ := (List.suffix_cons _ _).trans h₁.1
  split
  · exact ensures_throw _
  · rename_i rejection
    have hmark : Ensures Unrestricted past₁ (Storage.markNotAttempted (C := C) operation rejection)
        fun past' _ => Reaches a 4 past₁ past' :=
      reaches_update (x := fun expected => .markNotAttempted expected operation rejection)
        .notAttempted (by rw [hrequest]) (fun _ => rfl) (fun _ => rfl) (fun _ => rfl)
        (Nat.le_refl 4)
    refine hmark.bind fun past₂ _ h₂ => ensures_pure ⟨hpast.trans h₂.suffix, fun _ => ?_⟩
    exact h₂.since hpast
  · exact ensures_checked fun _ _ => ensures_pure ⟨hpast, fun h => nomatch h⟩

/-- An attempt that does not begin has ended the operation. -/
theorem reaches_beginAttempt {observed : ValidatedTargetIdentity}
    (hrequest : operation.request.request = a.request) :
    Ensures Unrestricted past (Storage.beginAttempt (C := C) operation observed)
      fun past' made => past <:+ past' ∧ (made = none → Reaches a 4 past past') ∧
        ∀ permission ∈ made, permission.request = a.request := by
  have hstart : ∀ {past₁ : Past C} (target : ValidatedTargetIdentity), past <:+ past₁ →
      Ensures Unrestricted past₁ (Storage.startAttempt (C := C) operation target)
        fun past' made => past <:+ past' ∧ (made = none → Reaches a 4 past past') ∧
          ∀ permission ∈ made, permission.request = a.request := by
    intro past₁ target hpast
    have hmark : Ensures Unrestricted past₁ (Storage.markApplyStarted (C := C) operation target)
        fun past' _ => past₁ <:+ past' ∧ True := (ensures_of_forall fun _ _ _ => trivial).suffix
    refine hmark.bind fun past₂ _ h₂ => ensures_ask trivial fun _ => ensures_pure
      ⟨(hpast.trans h₂.1).trans (List.suffix_cons _ _), fun h => (nomatch h), fun permission hmade => ?_⟩
    obtain rfl := Option.some.inj hmade
    exact hrequest
  refine (acting_boundRecord (fun _ => trivial) _ _).bind fun past₁ _ h₁ => ?_
  split
  · split
    · have hmark : Ensures Unrestricted past₁
          (Storage.markStaleApproval (C := C) operation observed)
          fun past' _ => Reaches a 4 past₁ past' :=
        reaches_update (x := fun expected => .markStaleApproval expected operation observed)
          .notAttempted (by rw [hrequest]) (fun _ => rfl) (fun _ => rfl) (fun _ => rfl)
          (Nat.le_refl 4)
      refine hmark.bind fun past₂ _ h₂ => ensures_pure ⟨h₁.1.trans h₂.suffix, fun _ => ?_, ?_⟩
      · exact h₂.since h₁.1
      · exact fun _ hnone => nomatch hnone
    · exact ensures_checked fun target _ => hstart target h₁.1
  · exact hstart observed h₁.1

theorem reaches_freshAttempt (hrequest : operation.request.request = a.request) :
    Ensures Unrestricted past (freshAttempt a operation)
      fun past' attempted => past <:+ past' ∧ (attempted = none → Reaches a 4 past past') ∧
        ∀ started ∈ attempted, started.request = a.request := by
  refine (reaches_preflightTarget hrequest).bind fun past₁ found h₁ => ?_
  cases found with
  | none => exact ensures_pure ⟨h₁.1, fun _ => h₁.2 rfl, fun _ hnone => nomatch hnone⟩
  | some target =>
    refine (reaches_beginAttempt hrequest).bind fun past₂ made h₂ => ?_
    have hpast := h₁.1.trans h₂.1
    cases made with
    | none =>
      exact ensures_pure ⟨hpast, fun _ => (h₂.2.1 rfl).since h₁.1, fun _ hnone => nomatch hnone⟩
    | some permission =>
      have hdispatch : Ensures Unrestricted past₂ (dispatch a permission)
          fun past' started => past₂ <:+ past' ∧ Found a past' (.applyStarted started) :=
        (acting_dispatch (h₂.2.2 permission rfl)).relax fun _ _ _ => trivial
      refine hdispatch.bind fun past₃ started h₃ => ensures_pure ⟨hpast.trans h₃.1,
        fun h => (nomatch h), fun started' hstarted => ?_⟩
      obtain rfl := Option.some.inj hstarted
      exact h₃.2.request

/-- Freezing shows the row observed. -/
theorem reaches_observeAndFreeze (hrequest : started.request = a.request) :
    Ensures Unrestricted past (observeAndFreeze a started)
      fun past' _ => Reaches a 3 past past' := by
  refine ensures_ask trivial fun answer => ensures_checked fun observation _ => ?_
  refine (ensures_requireAuthorized fun _ => trivial).bind fun past₁ _ h₁ => ?_
  have hpast : past <:+ past₁ := (List.suffix_cons _ _).trans h₁.1
  have hfreeze : Ensures Unrestricted past₁
      (Storage.freezeObservation (C := C) started observation)
      fun past' _ => Reaches a 3 past₁ past' :=
    ensures_checked fun _ _ =>
      reaches_update (x := fun expected => .freezeObservation expected started observation)
        .receiverObserved (by rw [hrequest]) (fun _ => rfl) (fun _ => rfl) (fun _ => rfl)
        (Nat.le_refl 3)
  exact hfreeze.bind fun past₂ _ h₂ => ensures_pure (h₂.since hpast)

/-- **A pass that reports progress** has frozen the observation or ended the operation. -/
theorem reaches_runLockedOperationOnce :
    Ensures Unrestricted past (runLockedOperationOnce a)
      fun past' advanced => advanced.isSome = true → Reaches a 3 past past' := by
  refine (ensures_authorizedOperation_read (fun _ => trivial) a).bind fun past₁ loaded h₁ => ?_
  obtain ⟨db, rfl, hloaded⟩ := h₁
  have hpast : past <:+ readOf db :: past := List.suffix_cons _ _
  split
  · have hrequest := request_of_authorizedRecordOn hloaded
    refine (reaches_freshAttempt hrequest).bind fun past₂ attempted h₂ => ?_
    cases attempted with
    | none =>
      exact ensures_pure fun _ => ((h₂.2.1 rfl).mono (Nat.le_succ 3)).since hpast
    | some started =>
      exact (reaches_observeAndFreeze (h₂.2.2 started rfl)).bind fun past₃ _ h₃ =>
        ensures_pure fun _ => h₃.since (hpast.trans h₂.1)
  · have hrequest := request_of_authorizedRecordOn hloaded
    exact (reaches_observeAndFreeze hrequest).bind fun past₂ _ h₂ =>
      ensures_pure fun _ => h₂.since hpast
  · exact ensures_pure fun h => nomatch h

end

/-- A committed receipt shows the row finalized. -/
theorem reaches_finalizeReceipt {operation : ReceiverObservedOperation}
    {settings : ReceiptSettings} (hrequest : operation.applyStarted.request = a.request) :
    Ensures Unrestricted past (finalizeReceipt (C := C) operation settings)
      fun past' _ => Reaches a 4 past past' := by
  refine ensures_checked fun receipt _ => ?_
  have hcommit : Ensures Unrestricted past (Storage.commitReceipt (C := C) operation receipt)
      fun past' _ => Reaches a 4 past past' := by
    refine ensures_checked fun _ _ => ?_
    refine (acting_boundRecord (fun _ => trivial) _ _).bind fun past₁ record h₁ => ?_
    obtain ⟨hpast, db, hstored⟩ := h₁
    have hid := value_operationId_of_stored hstored
    rw [show operation.operationId = a.request.operationId from
      congrArg ValidatedRequest.operationId hrequest] at hid
    have hupdates : (Approval.kubernetes a).Updates (.commitReceipt record operation receipt) :=
      ⟨rfl, rfl, hid⟩
    refine ensures_checked fun _ _ => ?_
    exact (reaches_replace .finalized hupdates rfl (Nat.le_refl 4)).mono
      fun _ _ h₂ => h₂.since hpast
  exact hcommit.bind fun _ _ h₁ => ensures_pure h₁

/-! ## One turn of the loop -/

/-- The turn began by reading the row, and has since seen it further along. -/
def Advanced (a : AuthorizedRequest C) (past past' : Past C) : Prop :=
  ∃ db loaded, authorizedRecordOn C db a = .ok (some loaded) ∧
    Reaches a (loaded.state.rank + 1) (readOf db :: past) past'

section
variable {authorities : List AuthorizationTrust} {request : SetDeploymentImageRequest}
  {signedGrant : Bytes} {adapter : Bool} {settings : Option ReceiptSettings}

/-- **A turn that continues has advanced.** -/
theorem advanced_reconcileTurn
    (hbind : bindAuthorization C authorities request signedGrant = .ok a) :
    Ensures Unrestricted past (reconcileTurn authorities request signedGrant adapter settings a)
      fun past' result => result = .inl true → Advanced a past past' := by
  refine (ensures_mapErr (ensures_authorizedOperation_read (fun _ => trivial) a)).bind
    fun past₁ loaded h₁ => ?_
  obtain ⟨db, rfl, hloaded⟩ := h₁
  cases loaded with
  | none => exact ensures_pure fun h => nomatch h
  | some operation =>
    have hrun : operation.state.rank + 1 ≤ 3 → Ensures Unrestricted (readOf db :: past)
        (if adapter then do
            let advanced ← mapErr .advancement (runLockedOperationOnce a)
            return .inl advanced.isSome
          else throw (.blocked .receiverUnavailable) :
          Action C ReconciliationError (Bool ⊕ Option LoadedOperation))
        fun past' result => result = .inl true → Advanced a past past' := by
      intro hrank
      split
      · refine (ensures_mapErr reaches_runLockedOperationOnce).bind fun past₂ advanced h₂ => ?_
        refine ensures_pure fun hresult => ⟨db, operation, hloaded, ?_⟩
        exact (h₂ (Sum.inl.inj hresult)).mono hrank
      · exact ensures_throw _
    cases operation with
    | requested operation =>
      refine (ensures_mapErr (reaches_submitAuthorized hbind)).bind fun past₂ _ h₂ => ?_
      exact ensures_pure fun _ => ⟨db, _, hloaded, h₂⟩
    | authorized operation => exact hrun (Nat.le_succ 2)
    | applyStarted operation => exact hrun (Nat.le_refl 3)
    | receiverObserved operation =>
      cases settings with
      | none => exact ensures_throw _
      | some settings =>
        have hrequest := request_of_authorizedRecordOn hloaded
        refine (ensures_mapErr (reaches_finalizeReceipt hrequest)).bind fun past₂ _ h₂ => ?_
        exact ensures_pure fun _ => ⟨db, _, hloaded, h₂⟩
    | notAttempted operation => exact ensures_pure fun h => nomatch h
    | finalized operation => exact ensures_pure fun h => nomatch h

end

end

/-! ## Sightings in a run -/

/-- The row of the identity is in the state. -/
def InState (db : Database) (id : Text) (state : OperationState) : Prop :=
  ∃ r, stored db .kubernetes id = some r ∧ r.value .state = .text state.asSql

theorem rank_le_of_next {p p' : Phase} (h : p.Next p') : p.state.rank ≤ p'.state.rank := by
  cases h <;> simp [Phase.state, OperationState.rank]

theorem rank_le_of_reach {a : AuthorizedRequest C} {p : Phase} {r' : Record .kubernetes}
    (h : ReflTransGen (RowNext C .kubernetes) (phaseRecord a p) r') :
    ∃ p', r' = phaseRecord a p' ∧ p.state.rank ≤ p'.state.rank := by
  induction h with
  | refl => exact ⟨p, rfl, Nat.le_refl _⟩
  | tail _ hstep ih =>
    obtain ⟨p₁, hp₁, hrank⟩ := ih
    cases hstep with
    | @kubernetes a' p₂ p₃ hnext =>
      obtain rfl := eq_of_phaseRecord_eq hp₁
      have hsame : p₂.state = p₁.state := asSql_injective
        (Value.text.inj (congrArg (fun r => Record.value r .state) hp₁))
      have hstep := rank_le_of_next hnext
      rw [hsame] at hstep
      exact ⟨p₃, rfl, hrank.trans hstep⟩

/-- **Rows move forward.** -/
theorem InState.rank_le {db db' : Database} {id : Text} {state state' : OperationState}
    (h : InState db id state) (hlawful : Lawful C db) (hevolves : Evolves C db db')
    (h' : InState db' id state') : state.rank ≤ state'.rank := by
  obtain ⟨r, hr, hstate⟩ := h
  obtain ⟨r', hr', hstate'⟩ := h'
  obtain ⟨a, p, rfl, rfl, -⟩ := hlawful.phase hr
  obtain ⟨r₁, hr₁, hreach⟩ := hevolves _ _ _ hr
  obtain rfl := Option.some.inj (hr'.symm.trans hr₁)
  obtain ⟨p', rfl, hrank⟩ := rank_le_of_reach hreach
  obtain rfl : p.state = state := asSql_injective (Value.text.inj hstate)
  obtain rfl : p'.state = state' := asSql_injective (Value.text.inj hstate')
  exact hrank

section
variable (e : Execution C) {s : ℕ} {a : AuthorizedRequest C} {m m' : Event C}
  {x y : Exchange (Call C) Answer} {state state' : OperationState}
  {later middle earlier : List (Event C)} {newer older : Past C}

theorem Execution.lawful_after (hm : m ∈ e.moments) : Lawful C m.after.db := by
  obtain ⟨_, _, -, hconforms⟩ := e.exists_conforms hm
  exact (sound_of_conforms hconforms).lawful

/-- What a sighting showed was so. -/
theorem Execution.inState_of_sighting (hm : m ∈ e.moments) (hdeed : m.deed = .act x)
    (h : Sighting a x state) : InState m.after.db a.request.operationId state := by
  cases h with
  | @read db loaded hloaded =>
    have hreacts := e.reacts_of_mem hm hdeed
    obtain rfl := e.sound.reads m hm db hdeed
    obtain ⟨r, hr, hdecode, -⟩ := authorizedRecordOn_eq_ok hloaded
    rw [hreacts.1]
    exact ⟨r, hr, state_of_decode hdecode⟩
  | @wrote x state hupdates hstate =>
    obtain ⟨hcommit, -⟩ := commit_of_confirmed (e.reacts_of_mem hm hdeed) rfl
    obtain ⟨t, id, before, after, hcommits, hmoves⟩ := e.moves hm ⟨⟨_, hdeed⟩, hcommit⟩
    have hid := hupdates.operationId
    have htable := hupdates.table
    rw [replacement_of_moves hmoves] at hid hstate htable
    obtain rfl : t = .kubernetes := htable
    obtain rfl : id = a.request.operationId :=
      Value.text.inj (hcommits.operationId.symm.trans hid)
    exact ⟨after, hcommits.after, hstate⟩

/-- **Sightings are in order.** -/
theorem Execution.rank_le (hhistory : history s e.moments = newer ++ y :: older)
    (hy : Sighting a y state') (hx : Sighting a x state) (hmem : x ∈ older) :
    state.rank ≤ state'.rank := by
  obtain ⟨later, m', earlier, hsplit, -, hdeed', rfl⟩ := exists_moment_of_history hhistory
  obtain ⟨m, hm, -, hdeed⟩ := mem_history.mp hmem
  have hm' : m' ∈ e.moments := hsplit ▸ List.mem_append_right _ List.mem_cons_self
  have hmoments : m ∈ e.moments :=
    hsplit ▸ List.mem_append_right _ (List.mem_cons_of_mem _ hm)
  have hevolves : Evolves C m.after.db m'.after.db :=
    (e.evolves_of_mem hsplit hm).trans (e.sound.past m' hm').2.1
  exact (e.inState_of_sighting hmoments hdeed hx).rank_le (e.lawful_after hmoments) hevolves
    (e.inState_of_sighting hm' hdeed' hy)

/-! ## The turns of a session -/

section
variable (authorities : List AuthorizationTrust) (request : SetDeploymentImageRequest)
  (signedGrant : Bytes) (adapter : Bool) (settings : Option ReceiptSettings)
  (a : AuthorizedRequest C)

/-- So many turns one after the other that all continue, with their exchanges, newest first. -/
inductive Turns : ℕ → Past C → Prop
  | none : Turns 0 []
  | next {k : ℕ} {turn own : Past C} :
      Returns (reconcileTurn authorities request signedGrant adapter settings a).run turn
        (.ok (.inl true)) → Turns k own → Turns (k + 1) (own ++ turn)

/-- The loop ran for so many turns, the last of which did not continue, and returned this. -/
inductive Iterates : ℕ → Past C → Except ReconciliationError (Option LoadedOperation) → Prop
  | ends {turn : Past C} {result : Option LoadedOperation} :
      Returns (reconcileTurn authorities request signedGrant adapter settings a).run turn
        (.ok (.inr result)) → Iterates 1 turn (.ok result)
  | fails {turn : Past C} {error : ReconciliationError} :
      Returns (reconcileTurn authorities request signedGrant adapter settings a).run turn
        (.error error) → Iterates 1 turn (.error error)
  | stalls {turn rest : Past C} {result : Except ReconciliationError (Option LoadedOperation)} :
      Returns (reconcileTurn authorities request signedGrant adapter settings a).run turn
        (.ok (.inl false)) →
      Returns (do
          let authorized ← check ((bindAuthorization C authorities request signedGrant).mapError
            .advancement)
          mapErr .advancement (Storage.authorizedOperation authorized) :
          Action C ReconciliationError (Option LoadedOperation)).run rest result →
      Iterates 1 (rest ++ turn) result
  | continues {k : ℕ} {turn own : Past C}
      {result : Except ReconciliationError (Option LoadedOperation)} :
      Returns (reconcileTurn authorities request signedGrant adapter settings a).run turn
        (.ok (.inl true)) → Iterates k own result → Iterates (k + 1) (own ++ turn) result

end

/-- The turn first read the row in one state, and at a later exchange of the turn the row was in a
state strictly further along. -/
def MovesForward (e : Execution C) (s : ℕ) (id : Text) (turn start : Past C) : Prop :=
  ∃ newer m' middle m older state state', e.moments = newer ++ m' :: (middle ++ m :: older) ∧
    m.session = s ∧ m'.session = s ∧ history s older = start ∧
    history s (m' :: (middle ++ m :: older)) <:+ turn ++ start ∧
    InState m.before.db id state ∧ InState m'.after.db id state' ∧ state.rank < state'.rank

/-- The session has seen the row in a state of at least this rank. -/
def SeenAt (a : AuthorizedRequest C) (n : ℕ) (past : Past C) : Prop :=
  n = 0 ∨ ∃ x ∈ past, ∃ state, Sighting a x state ∧ n ≤ state.rank

section
variable {authorities : List AuthorizationTrust} {request : SetDeploymentImageRequest}
  {signedGrant : Bytes} {adapter : Bool} {settings : Option ReceiptSettings}
  {turn own start later' : Past C} {k n : ℕ}

/-- The exchanges of a turn that continues: the first is a read of the row, and a later one shows
it further along. -/
theorem sightings_of_turn
    (hbind : bindAuthorization C authorities request signedGrant = .ok a)
    (hturn : Returns (reconcileTurn authorities request signedGrant adapter settings a).run turn
      (.ok (.inl true))) :
    ∃ db loaded last between y state, turn = last ++ y :: (between ++ [readOf db]) ∧
      authorizedRecordOn C db a = .ok (some loaded) ∧ Sighting a y state ∧
      loaded.state.rank < state.rank := by
  obtain ⟨db, loaded, hloaded, own, rfl, y, hy, state, hsighting, hrank⟩ :=
    (advanced_reconcileTurn hbind).returns hturn rfl
  obtain ⟨last, between, rfl⟩ := List.append_of_mem hy
  exact ⟨db, loaded, last, between, y, state, by simp, hloaded, hsighting, hrank⟩

/-- **A turn that continues has moved the row.** -/
theorem Execution.movesForward
    (hbind : bindAuthorization C authorities request signedGrant = .ok a)
    (hhistory : history s e.moments = later' ++ turn ++ start)
    (hturn : Returns (reconcileTurn authorities request signedGrant adapter settings a).run turn
      (.ok (.inl true))) :
    MovesForward e s a.request.operationId turn start := by
  obtain ⟨db, loaded, last, between, y, state', rfl, hloaded, hsighting, hrank⟩ :=
    sightings_of_turn hbind hturn
  have hlast : history s e.moments = (later' ++ last) ++ y :: (between ++ readOf db :: start) := by
    rw [hhistory]
    simp
  obtain ⟨newer, m', earlier, hsplit, hs', hdeed', hearlier⟩ := exists_moment_of_history hlast
  obtain ⟨middle, m, older, rfl, hs, hdeed, holder⟩ := exists_moment_of_history hearlier
  have hm' : m' ∈ e.moments := hsplit ▸ List.mem_append_right _ List.mem_cons_self
  have hm : m ∈ e.moments := hsplit ▸ List.mem_append_right _
    (List.mem_cons_of_mem _ (List.mem_append_right _ List.mem_cons_self))
  refine ⟨newer, m', middle, m, older, loaded.state, state', hsplit, hs, hs', holder, ?_, ?_,
    e.inState_of_sighting hm' hdeed' hsighting, hrank⟩
  · obtain ⟨t, deed, w, w'⟩ := m'
    obtain rfl : t = s := hs'
    obtain rfl : deed = .act y := hdeed'
    rw [history_act_self, hearlier]
    exact ⟨last, by simp⟩
  · have hreads := e.reacts_of_mem hm hdeed
    have hshown := e.inState_of_sighting hm hdeed (Sighting.read hloaded)
    rw [hreads.1] at hshown
    exact hshown

/-- One more turn, one rank more. -/
theorem Execution.seenAt_turn
    (hbind : bindAuthorization C authorities request signedGrant = .ok a)
    (hhistory : history s e.moments = later' ++ turn ++ start)
    (hturn : Returns (reconcileTurn authorities request signedGrant adapter settings a).run turn
      (.ok (.inl true))) (hseen : SeenAt a n start) : SeenAt a (n + 1) (turn ++ start) := by
  obtain ⟨db, loaded, last, between, y, state, rfl, hloaded, hsighting, hrank⟩ :=
    sightings_of_turn hbind hturn
  have hread : history s e.moments =
      (later' ++ (last ++ y :: between)) ++ readOf db :: start := by
    rw [hhistory]
    simp
  have hfirst : n ≤ loaded.state.rank := by
    rcases hseen with rfl | ⟨x, hx, state, hstate, hn⟩
    · exact Nat.zero_le _
    · exact hn.trans (e.rank_le hread (Sighting.read hloaded) hstate hx)
  refine .inr ⟨y, by simp, state, hsighting, ?_⟩
  omega

/-- So many turns, so many ranks. -/
theorem Execution.seenAt_turns
    (hbind : bindAuthorization C authorities request signedGrant = .ok a)
    (hturns : Turns authorities request signedGrant adapter settings a k own)
    (hhistory : history s e.moments = later' ++ own ++ start) (hseen : SeenAt a n start) :
    SeenAt a (n + k) (own ++ start) := by
  induction hturns generalizing n start with
  | none => exact hseen
  | @next k turn own hturn _ ih =>
    have hfirst : history s e.moments = (later' ++ own) ++ turn ++ start := by
      rw [hhistory]
      simp
    have hrest : history s e.moments = later' ++ own ++ (turn ++ start) := by
      rw [hhistory]
      simp
    have hone := e.seenAt_turn hbind hfirst hturn hseen
    have hall := ih hrest hone
    rw [← List.append_assoc, show n + 1 + k = n + (k + 1) by omega] at hall
    exact hall

/-- **At most four turns continue**, whatever the storage, the adapter and the other sessions
do. -/
theorem Execution.turns_le_four
    (hbind : bindAuthorization C authorities request signedGrant = .ok a)
    (hturns : Turns authorities request signedGrant adapter settings a k own)
    (hhistory : history s e.moments = later' ++ own ++ start) : k ≤ 4 := by
  rcases e.seenAt_turns hbind hturns hhistory (.inl rfl) with hzero | ⟨x, -, state, -, hrank⟩
  · omega
  · have hmost := state.rank_le_four
    omega

/-! ## The loop -/

/-- A number of turns of the loop: it has come to an end before, or every turn continued. -/
theorem returns_reconcileLoop {result : Except ReconciliationError (Option LoadedOperation)}
    (h : Returns (reconcileLoop authorities request signedGrant adapter settings a n).run own
      result) :
    (∃ k ≤ n, Iterates authorities request signedGrant adapter settings a k own result) ∨
      Turns authorities request signedGrant adapter settings a n own := by
  induction n generalizing own with
  | zero =>
    cases h
    exact .inr .none
  | succ n ih =>
    rcases returns_bindExcept.mp h with ⟨turn, rest, step, rfl, hturn, hrest⟩ | ⟨error, hturn, rfl⟩
    · rcases step with (_ | _) | result
      · exact .inl ⟨1, by omega, .stalls hturn hrest⟩
      · rcases ih hrest with ⟨k, hk, hiterates⟩ | hturns
        · exact .inl ⟨k + 1, by omega, .continues hturn hiterates⟩
        · exact .inr (.next hturn hturns)
      · cases hrest
        exact .inl ⟨1, by omega, .ends hturn⟩
    · exact .inl ⟨1, by omega, .fails hturn⟩

theorem Iterates.returns {result : Except ReconciliationError (Option LoadedOperation)}
    (h : Iterates authorities request signedGrant adapter settings a k own result) (hk : k ≤ n) :
    Returns (reconcileLoop authorities request signedGrant adapter settings a n).run own result := by
  induction h generalizing n with
  | ends hturn =>
    obtain ⟨n, rfl⟩ := Nat.exists_eq_add_of_le' hk
    exact returns_bindExcept.mpr (.inl ⟨_, [], _, rfl, hturn, .done _⟩)
  | fails hturn =>
    obtain ⟨n, rfl⟩ := Nat.exists_eq_add_of_le' hk
    exact returns_bindExcept.mpr (.inr ⟨_, hturn, rfl⟩)
  | stalls hturn hrest =>
    obtain ⟨n, rfl⟩ := Nat.exists_eq_add_of_le' hk
    exact returns_bindExcept.mpr (.inl ⟨_, _, _, rfl, hturn, hrest⟩)
  | continues hturn _ ih =>
    obtain ⟨m, rfl⟩ : ∃ m, n = m + 1 := ⟨n - 1, by omega⟩
    exact returns_bindExcept.mpr (.inl ⟨_, _, _, rfl, hturn, ih (by omega)⟩)

/-- The turns before the last one. -/
theorem Iterates.exists_turns {result : Except ReconciliationError (Option LoadedOperation)}
    (h : Iterates authorities request signedGrant adapter settings a k own result) :
    ∃ n last turns, k = n + 1 ∧ own = last ++ turns ∧
      Turns authorities request signedGrant adapter settings a n turns := by
  induction h with
  | ends => exact ⟨0, _, [], rfl, (List.append_nil _).symm, .none⟩
  | fails => exact ⟨0, _, [], rfl, (List.append_nil _).symm, .none⟩
  | stalls => exact ⟨0, _, [], rfl, (List.append_nil _).symm, .none⟩
  | continues hturn _ ih =>
    obtain ⟨n, last, turns, rfl, rfl, hturns⟩ := ih
    exact ⟨n + 1, last, _, rfl, List.append_assoc .., .next hturn hturns⟩

/-- **The loop ends within five turns**: an unrolling of five turns or more never runs out of
turns. -/
theorem Execution.returns_reconcileLoop_iff
    {result : Except ReconciliationError (Option LoadedOperation)}
    (hbind : bindAuthorization C authorities request signedGrant = .ok a) (hn : 5 ≤ n)
    (hhistory : history s e.moments = later' ++ own ++ start) :
    Returns (reconcileLoop authorities request signedGrant adapter settings a n).run own result ↔
      ∃ k ≤ 5, Iterates authorities request signedGrant adapter settings a k own result := by
  constructor
  · intro h
    rcases returns_reconcileLoop h with ⟨k, -, hiterates⟩ | hturns
    · obtain ⟨m, last, turns, rfl, rfl, hturns⟩ := hiterates.exists_turns
      have hsplit : history s e.moments = (later' ++ last) ++ turns ++ start := by
        rw [hhistory]
        simp
      have hmost := e.turns_le_four hbind hturns hsplit
      exact ⟨m + 1, by omega, hiterates⟩
    · have hmost := e.turns_le_four hbind hturns hhistory
      omega
  · rintro ⟨k, hk, hiterates⟩
    exact hiterates.returns (hk.trans hn)

end

end

end Gateway
end Kapsel
