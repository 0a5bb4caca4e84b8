import Kapsel.Gateway.Acting
import Kapsel.Journal.Errors

/-!
# When a session answers its caller

`admit_and_reconcile` and `admit_and_reconcile_git` read the row once without the lease, try to
take the lease, read again with the lease held, insert, and only then go on.  On the way they
tell the caller what became of the admission, and the caller turns `Busy` and `Full` into a
definite refusal.

`Answers` is what a session knows when it answers.  `Passing` is the protocol of the whole pass:
the lease is asked for once, after reads only; an answer is given as `Answers` permits; and all
the rest is `Acting` with the lease held and nothing declined.  `Kapsel.Gateway.Serving` says for
which approval the program of an entry keeps to it.
-/

namespace Kapsel

open Grammar Fallible Authority Interaction Interaction.Program

namespace Gateway

open Journal Application

variable {C : Crypto}

/-! ## Answers -/

/-- The caller was told. -/
def acknowledged (decision : AdmissionDecision) : Exchange (Call C) Answer :=
  ⟨.acknowledge decision, ()⟩

/-- The lease was somebody else's. -/
def contended : Exchange (Call C) Answer := ⟨.tryLockWorker, .ok false⟩

/-- A write was refused, or reported so. -/
def refused (x : Transition C) (error : GatewayError) : Exchange (Call C) Answer :=
  ⟨.replace x, .error error⟩

/-- Nothing but reads and questions for the lease. -/
def Calm (past : Past C) : Prop := ∀ x ∈ past, isRead x = true ∨ x.call = .tryLockWorker

/-- The caller was told that nothing was admitted. -/
def Declined (past : Past C) : Prop := acknowledged .busy ∈ past ∨ acknowledged .full ∈ past

/-- What a session knows when it answers. -/
def Answers (p : Approval C) (past : Past C) : AdmissionDecision → Prop
  | .admitted state =>
      (Calm past ∧ ∃ db, readOf db ∈ past ∧ p.Finds db state) ∨
        ∃ rest, past = confirmed p.admission :: rest ∧ Calm rest ∧ state = p.admittedState
  | .busy => ∃ reads, past = contended :: reads ∧ p.Misses reads
  | .full => ∃ rest, past = refused p.admission .journalFull :: rest ∧ Calm rest

/-- What a session asks in a pass for the approval. -/
def Passing (p : Approval C) (past : Past C) : Call C → Prop
  | .read => True
  | .tryLockWorker => Calm past
  | .acknowledge decision => Answers p past decision
  | .replace x => p.Writes past x ∧ ¬ Declined past
  | c => Acting p past c ∧ Held past ∧ ¬ Declined past

section
variable {past : Past C} {p : Approval C}

theorem passing_read (p : Approval C) (past : Past C) : Passing p past .read := trivial

theorem calm_nil : Calm ([] : Past C) := fun _ h => absurd h List.not_mem_nil

theorem Calm.read (h : Calm past) (db : Database) : Calm (readOf db :: past) := by
  intro x hx
  rcases List.mem_cons.mp hx with rfl | hx
  · exact .inl rfl
  · exact h x hx

theorem Calm.lock (h : Calm past) (answer : Except GatewayError Bool) :
    Calm (⟨.tryLockWorker, answer⟩ :: past) := by
  intro x hx
  rcases List.mem_cons.mp hx with rfl | hx
  · exact .inr rfl
  · exact h x hx

/-- Nothing was written and nothing was answered. -/
theorem Calm.quiet (h : Calm past) {x : Exchange (Call C) Answer} (hx : x ∈ past) :
    (∀ y, x.call ≠ .replace y) ∧ ∀ decision, x.call ≠ .acknowledge decision := by
  obtain ⟨call, answer⟩ := x
  rcases h _ hx with hread | hlock
  · cases call with
    | read => exact ⟨fun _ h => (nomatch h), fun _ h => (nomatch h)⟩
    | _ => cases hread
  · obtain rfl : call = .tryLockWorker := hlock
    exact ⟨fun _ h => (nomatch h), fun _ h => (nomatch h)⟩

theorem Calm.not_declined (h : Calm past) : ¬ Declined past := by
  rintro (hbusy | hfull)
  · exact (h.quiet hbusy).2 _ rfl
  · exact (h.quiet hfull).2 _ rfl

theorem not_declined_cons {x : Exchange (Call C) Answer} (h : ¬ Declined past)
    (hx : ∀ decision, x ≠ acknowledged decision ∨ ∃ state, decision = .admitted state) :
    ¬ Declined (x :: past) := by
  rintro (hbusy | hfull)
  · rcases List.mem_cons.mp hbusy with rfl | hbusy
    · rcases hx .busy with hne | ⟨_, hstate⟩
      · exact hne rfl
      · cases hstate
    · exact h (.inl hbusy)
  · rcases List.mem_cons.mp hfull with rfl | hfull
    · rcases hx .full with hne | ⟨_, hstate⟩
      · exact hne rfl
      · cases hstate
    · exact h (.inr hfull)

/-- The reads of a miss are reads. -/
theorem Approval.Misses.calm {reads : Past C} (h : p.Misses reads) :
    ∀ x ∈ reads, isRead x = true := by
  cases p with
  | kubernetes a =>
    obtain ⟨db, rfl, -⟩ := h
    intro x hx
    obtain rfl := List.mem_singleton.mp hx
    rfl
  | git b =>
    obtain ⟨db, db', rfl, -⟩ := h
    intro x hx
    rcases List.mem_cons.mp hx with rfl | hx
    · rfl
    · obtain rfl := List.mem_singleton.mp hx
      rfl

/-! ## Acting under the lease -/

/-- **A session that acts under the lease passes.** -/
theorem passing_of_acting {ε α : Type} {q : Action C ε α} {post : Past C → α → Prop}
    (h : Ensures (Acting p) past q post) (hheld : Held past) (hgoing : ¬ Declined past) :
    Ensures (Passing p) past q post := by
  have hkeep : ∀ past' c (answer : Answer c), Acting p past' c →
      (Held past' ∧ ¬ Declined past') →
      (Held (⟨c, answer⟩ :: past') ∧ ¬ Declined (⟨c, answer⟩ :: past')) := by
    intro past' c answer hacting hpast'
    refine ⟨hpast'.1.mono (List.suffix_cons _ _), not_declined_cons hpast'.2 fun decision => .inl ?_⟩
    intro heq
    obtain rfl : c = .acknowledge decision := congrArg Exchange.call heq
    exact hacting
  refine (Meets.relax (Meets.keeps h hkeep ⟨hheld, hgoing⟩) fun past' c hc => ?_).mono
    fun past' r hr a ha => hr.1 a ha
  obtain ⟨hacting, hheld', hgoing'⟩ := hc
  cases c with
  | read => trivial
  | replace x => exact ⟨hacting, hgoing'⟩
  | tryLockWorker => exact hacting.elim
  | acknowledge decision => exact hacting.elim
  | _ => exact ⟨hacting, hheld', hgoing'⟩

/-! ## The admission under the lease

`Settles` looks at the one error that an admission is answered with: a value satisfies `post`,
and the program fails with `JournalFull` only where `full` holds. -/

/-- Every question is permitted; a value satisfies `post`, and a full journal `full`. -/
def Settles {α : Type} (permits : Past C → Call C → Prop) (past : Past C)
    (q : Action C GatewayError α) (post : Past C → α → Prop) (full : Past C → Prop) : Prop :=
  q.run.Meets permits past fun past' r =>
    (∀ a, r = .ok a → post past' a) ∧ (r = .error .journalFull → full past')

section
variable {α β : Type} {permits : Past C → Call C → Prop} {q : Action C GatewayError α}
  {post : Past C → α → Prop} {full : Past C → Prop}

theorem Settles.bind {f : α → Action C GatewayError β} {after : Past C → β → Prop}
    (h : Settles permits past q post full)
    (hf : ∀ past' a, post past' a → Settles permits past' (f a) after full) :
    Settles permits past (q >>= f) after full := by
  refine (meets_bindExcept q f).mpr (Meets.mono h fun past' r hr => ?_)
  cases r with
  | ok a => exact hf past' a (hr.1 a rfl)
  | error error =>
    refine ⟨fun b hb => (nomatch hb), fun hfull => hr.2 ?_⟩
    exact congrArg Except.error (Except.error.inj hfull)

theorem Settles.ensures (h : Settles permits past q post full) : Ensures permits past q post :=
  Meets.mono h fun _ _ hr => hr.1

/-- The error of the admission is looked at. -/
theorem Settles.lift (h : Settles permits past q post full) :
    Ensures permits past (ExceptT.lift q.run : Action C ReconciliationError _)
      fun past' r => (∀ a, r = .ok a → post past' a) ∧ (r = .error .journalFull → full past') := by
  refine (meets_bind q.run _).mpr (Meets.mono h fun past' r hr b hb => ?_)
  obtain rfl := Except.ok.inj hb
  exact hr

theorem settles_pure {a : α} (h : post past a) :
    Settles permits past (pure a : Action C GatewayError α) post full := by
  refine ⟨fun b hb => ?_, fun hfull => (nomatch hfull)⟩
  obtain rfl := Except.ok.inj hb
  exact h

theorem settles_check {result : Except GatewayError α} (hnever : NeverFull result)
    (h : ∀ a, result = .ok a → post past a) :
    Settles permits past (check result) post full :=
  ⟨h, fun hfull => absurd hfull hnever⟩

/-- A result that is there, then the rest. -/
theorem settles_checked {result : Except GatewayError β} {f : β → Action C GatewayError α}
    (hnever : NeverFull result)
    (h : ∀ b, result = .ok b → Settles permits past (f b) post full) :
    Settles permits past (check result >>= f) post full := by
  cases result with
  | ok b => exact h b rfl
  | error error =>
    refine ⟨fun a ha => (nomatch ha), fun hfull => absurd ?_ hnever⟩
    exact congrArg Except.error (Except.error.inj hfull)

theorem settles_snapshot (hread : permits past .read) :
    Settles permits past (Storage.snapshot : Action C GatewayError Database)
      (fun past' db => past' = readOf db :: past) full := by
  refine ⟨hread, fun answer => ?_⟩
  have hshape : ∀ answer : Except SqliteError Database,
      (∀ db, answer.mapError GatewayError.database = .ok db →
        (⟨.read, answer⟩ :: past : Past C) = readOf db :: past) ∧
      (answer.mapError GatewayError.database = .error .journalFull → full (⟨.read, answer⟩ :: past)) := by
    intro answer
    cases answer with
    | ok db =>
      refine ⟨fun db' hdb => ?_, fun hfull => (nomatch hfull)⟩
      obtain rfl := Except.ok.inj hdb
      rfl
    | error error => exact ⟨fun db hdb => (nomatch hdb), fun hfull => (nomatch hfull)⟩
  exact hshape answer

theorem settles_replace {x : Transition C} (hx : permits past (.replace x))
    (hfull : full (refused x .journalFull :: past)) :
    Settles permits past (Storage.replace x) (fun past' _ => past' = confirmed x :: past)
      full := by
  refine ⟨hx, fun answer => ?_⟩
  have hshape : ∀ answer : Except GatewayError Unit,
      (∀ u, answer = .ok u → (⟨.replace x, answer⟩ :: past : Past C) = confirmed x :: past) ∧
      (answer = .error .journalFull → full (⟨.replace x, answer⟩ :: past)) := by
    intro answer
    cases answer with
    | ok u => exact ⟨fun _ _ => rfl, fun h => (nomatch h)⟩
    | error error =>
      refine ⟨fun u hu => (nomatch hu), fun h => ?_⟩
      obtain rfl := Except.error.inj h
      exact hfull
  exact hshape answer

end

/-- What the admission of an approval settles. -/
def Admitted (p : Approval C) (past : Past C) (state : OperationState) : Prop :=
  Answers p past (.admitted state) ∧ Held past ∧ ¬ Declined past

theorem admitted_of_found (hcalm : Calm past) (hheld : Held past) {db : Database}
    {state : OperationState} (hread : readOf db ∈ past) (hfinds : p.Finds db state) :
    Admitted p past state :=
  ⟨.inl ⟨hcalm, db, hread, hfinds⟩, hheld, hcalm.not_declined⟩

/-- The insertion that admits the approval, after reads that found nothing. -/
theorem settles_admission {reads rest : Past C} (hmisses : p.Misses reads)
    (hcalm : Calm (reads ++ rest)) (hheld : Held (reads ++ rest)) :
    Settles (Passing p) (reads ++ rest) (Storage.replace p.admission)
      (fun past' _ => Admitted p past' p.admittedState) fun past' => Answers p past' .full := by
  have hwrites : Passing p (reads ++ rest) (.replace p.admission) :=
    ⟨.inl ⟨rfl, reads, rest, rfl, hmisses⟩, hcalm.not_declined⟩
  refine Meets.mono (settles_replace hwrites ⟨_, rfl, hcalm⟩) fun past' r hr => ⟨?_, hr.2⟩
  intro u hu
  obtain rfl := hr.1 u hu
  refine ⟨.inr ⟨_, rfl, hcalm, rfl⟩, hheld.mono (List.suffix_cons _ _), ?_⟩
  exact not_declined_cons hcalm.not_declined fun _ => .inl fun h => nomatch h

/-! ## Looking for the row -/

/-- What a look for the row of the approval found, with the reads that it made. -/
def Looks (p : Approval C) (past past' : Past C) : Option OperationState → Prop
  | some state => ∃ db, past' = readOf db :: past ∧ p.Finds db state
  | none => ∃ reads, past' = reads ++ past ∧ p.Misses reads

section
variable {permits : Past C → Call C → Prop} {full : Past C → Prop}

/-- The read of `authorized_operation`. -/
theorem settles_authorizedOperation {a : AuthorizedRequest C} (hread : ∀ past, permits past .read) :
    Settles permits past (Storage.authorizedOperation a)
      (fun past' loaded => Looks (.kubernetes a) past past' (loaded.map (·.state))) full := by
  refine (settles_snapshot (hread past)).bind fun past₁ db h₁ =>
    settles_check (neverFull_authorizedRecordOn db a) fun loaded hloaded => ?_
  subst h₁
  cases loaded with
  | some operation => exact ⟨db, rfl, operation, hloaded, rfl⟩
  | none => exact ⟨[readOf db], rfl, db, rfl, hloaded⟩

/-- The reads of `git_operation`. -/
theorem settles_gitOperation {b : GitBinding C} (hread : ∀ past, permits past .read) :
    Settles permits past (Storage.gitOperation b)
      (fun past' found => Looks (.git b) past past' (found.map (·.state))) full := by
  have hrecord : Settles permits past (Storage.gitRecord b)
      (fun past' found => found.elim
        (∃ reads, past' = reads ++ past ∧ (Approval.git b).Misses reads)
        fun record => ∃ db, past' = readOf db :: past ∧
          stored db .git b.authorization.operationId = some record) full := by
    refine (settles_snapshot (hread past)).bind fun past₁ db h₁ => ?_
    subst h₁
    refine settles_checked (neverFull_readTable db _ .git) fun record hrecord => ?_
    cases record with
    | some record => exact settles_pure ⟨db, rfl, readTable_eq_ok hrecord⟩
    | none =>
      refine (settles_snapshot (hread _)).bind fun past₂ db' h₂ => ?_
      subst h₂
      refine settles_checked (neverFull_readTable db' _ .kubernetes) fun other hother => ?_
      refine settles_checked (neverFull_conflict _) fun _ hnone => settles_pure ?_
      obtain rfl : other = none := Option.isNone_iff_eq_none.mp (require_eq_ok.mp hnone)
      exact ⟨[readOf db', readOf db], rfl, db, db', rfl, hrecord, hother⟩
  refine hrecord.bind fun past₁ record h₁ => ?_
  cases record with
  | none => exact settles_pure h₁
  | some record =>
    obtain ⟨db, hpast, hstored⟩ := h₁
    exact settles_checked (neverFull_decodeRecord record b) fun phase hphase =>
      settles_pure ⟨db, hpast, record, phase, hstored, hphase, rfl⟩


end

/-- A look of a calm session leaves it calm. -/
theorem Looks.calm {past' : Past C} {found : Option OperationState} (h : Looks p past past' found)
    (hcalm : Calm past) : Calm past' := by
  cases found with
  | some state =>
    obtain ⟨db, rfl, -⟩ := h
    exact hcalm.read db
  | none =>
    obtain ⟨reads, rfl, hmisses⟩ := h
    intro x hx
    rcases List.mem_append.mp hx with hx | hx
    · exact .inl (hmisses.calm x hx)
    · exact hcalm x hx

theorem Looks.suffix {past' : Past C} {found : Option OperationState}
    (h : Looks p past past' found) : past <:+ past' := by
  cases found with
  | some state =>
    obtain ⟨db, rfl, -⟩ := h
    exact List.suffix_cons _ _
  | none =>
    obtain ⟨reads, rfl, -⟩ := h
    exact List.suffix_append _ _

theorem admitted_of_looks {past' : Past C} {state : OperationState}
    (h : Looks p past past' (some state)) (hcalm : Calm past) (hheld : Held past) :
    Admitted p past' state := by
  have hcalm' := h.calm hcalm
  have hheld' := hheld.mono h.suffix
  obtain ⟨db, rfl, hfinds⟩ := h
  exact admitted_of_found hcalm' hheld' List.mem_cons_self hfinds

theorem settles_admission_of_looks {past' : Past C} (h : Looks p past past' none)
    (hcalm : Calm past) (hheld : Held past) :
    Settles (Passing p) past' (Storage.replace p.admission)
      (fun past'' _ => Admitted p past'' p.admittedState) fun past'' => Answers p past'' .full := by
  have hcalm' := h.calm hcalm
  have hheld' := hheld.mono h.suffix
  obtain ⟨reads, rfl, hmisses⟩ := h
  exact settles_admission hmisses hcalm' hheld'

theorem settles_admitRequested {a : AuthorizedRequest C} (hcalm : Calm past) (hheld : Held past) :
    Settles (Passing (.kubernetes a)) past (admitRequested a) (Admitted (.kubernetes a))
      fun past' => Answers (.kubernetes a) past' .full := by
  have hexisting : Settles (Passing (.kubernetes a)) past (Storage.existingSubmission a)
      (fun past' state => Looks (.kubernetes a) past past' state)
      fun past' => Answers (.kubernetes a) past' .full :=
    (settles_authorizedOperation (passing_read _)).bind fun _ _ h => settles_pure h
  refine hexisting.bind fun past₁ existing h₁ => ?_
  cases existing with
  | some state => exact settles_pure (admitted_of_looks h₁ hcalm hheld)
  | none =>
    exact (settles_admission_of_looks h₁ hcalm hheld).bind fun _ _ h₂ => settles_pure h₂

theorem settles_insertGit {b : GitBinding C} (hcalm : Calm past) (hheld : Held past) :
    Settles (Passing (.git b)) past (do return (← Storage.insertGit b).state)
      (Admitted (.git b)) fun past' => Answers (.git b) past' .full := by
  have hinsert : Settles (Passing (.git b)) past (Storage.insertGit b)
      (fun past' phase => Admitted (.git b) past' phase.state)
      fun past' => Answers (.git b) past' .full := by
    refine (settles_gitOperation (passing_read _)).bind fun past₁ existing h₁ => ?_
    cases existing with
    | some phase => exact settles_pure (admitted_of_looks h₁ hcalm hheld)
    | none =>
      exact (settles_admission_of_looks h₁ hcalm hheld).bind fun _ _ h₂ => settles_pure h₂
  exact hinsert.bind fun _ _ h => settles_pure h

/-! ## The whole pass -/

/-- **Admission under a lease that is asked for once.** -/
theorem passing_admitServiceOperation {existing : Option OperationState}
    {admission : Action C GatewayError OperationState} (hlooks : Looks p [] past existing)
    (hadmission : ∀ past', Calm past' → Held past' →
      Settles (Passing p) past' admission (Admitted p) fun past'' => Answers p past'' .full) :
    Ensures (Passing p) past (admitServiceOperation existing admission)
      fun past' admitted => admitted.isSome → Held past' ∧ ¬ Declined past' := by
  have hcalm := hlooks.calm calm_nil
  have hknown : ∀ state, existing = some state → Answers p past (.admitted state) := by
    rintro state rfl
    obtain ⟨db, rfl, hfinds⟩ := hlooks
    exact .inl ⟨hcalm, db, List.mem_cons_self, hfinds⟩
  unfold admitServiceOperation
  split
  · rename_i hended
    have hanswers : Passing p past (.acknowledge (.admitted (existing.getD .finalized))) := by
      rcases hended with rfl | rfl
      · exact hknown _ rfl
      · exact hknown _ rfl
    exact ensures_ask hanswers fun _ => ensures_pure fun h => nomatch h
  · refine ensures_ask hcalm fun locked => ?_
    cases locked with
    | error error => exact ensures_throw _
    | ok got =>
      cases got with
      | false =>
        refine ensures_ask ?_ fun _ => ensures_throw _
        cases existing with
        | some state =>
          obtain ⟨db, rfl, hfinds⟩ := hlooks
          exact .inl ⟨hcalm.lock _, db, List.mem_cons_of_mem _ List.mem_cons_self, hfinds⟩
        | none =>
          obtain ⟨reads, rfl, hmisses⟩ := hlooks
          rw [List.append_nil]
          exact ⟨reads, rfl, hmisses⟩
      | true =>
        have hheld : Held (⟨Call.tryLockWorker, Except.ok true⟩ :: past : Past C) :=
          List.mem_cons_self
        refine (hadmission _ (hcalm.lock _) hheld).lift.bind fun past₁ result h₁ => ?_
        split
        · rename_i state
          obtain ⟨hanswers, hheld₁, hgoing⟩ := h₁.1 state rfl
          refine ensures_ask hanswers fun _ => ensures_pure fun _ => ?_
          refine ⟨hheld₁.mono (List.suffix_cons _ _), not_declined_cons hgoing fun decision => ?_⟩
          by_cases hdecision : decision = .admitted state
          · exact .inr ⟨state, hdecision⟩
          · exact .inl fun heq => hdecision (by
              obtain rfl := Call.acknowledge.inj (congrArg Exchange.call heq)
              rfl)
        · exact ensures_ask (h₁.2 rfl) fun _ => ensures_pure fun h => nomatch h
        · exact ensures_throw _

/-- **`admit_and_reconcile` passes for the request that its grant authorizes.** -/
theorem passing_admitAndReconcile {authorities : List AuthorizationTrust}
    {request : SetDeploymentImageRequest} {signedGrant : Bytes} {adapter : Bool}
    {settings : Option ReceiptSettings} {turns : ℕ} {a : AuthorizedRequest C}
    (hbind : bindAuthorization C authorities request signedGrant = .ok a) :
    Ensures (Passing (.kubernetes a)) [] (admitAndReconcile (C := C) authorities request
      signedGrant adapter settings turns) fun _ _ => True := by
  refine ensures_checked fun a' ha' => ?_
  obtain rfl := Except.ok.inj (hbind.symm.trans (mapError_eq_ok.mp ha'))
  have hlook : Settles (Passing (.kubernetes a)) [] (Storage.authorizedOperation a)
      (fun past' loaded => Looks (.kubernetes a) [] past' (loaded.map (·.state))) fun _ => True :=
    settles_authorizedOperation (passing_read _)
  refine (ensures_mapErr hlook.ensures).bind fun past₁ existing h₁ => ?_
  refine (passing_admitServiceOperation h₁ fun _ => settles_admitRequested).bind
    fun past₂ admitted h₂ => ?_
  cases admitted with
  | none => exact ensures_pure trivial
  | some state =>
    obtain ⟨hheld, hgoing⟩ := h₂ rfl
    exact (passing_of_acting (acting_reconcileLocked hbind) hheld hgoing).bind
      fun _ _ _ => ensures_pure trivial

/-- **`admit_and_reconcile_git` passes for the binding of its grant.** -/
theorem passing_admitAndReconcileGit {authorities : List AuthorizationTrust} {id : Text}
    {grant : Bytes} {configuration : Option GitReceiver} {signing : Option ReceiptSettings}
    {b : GitBinding C} (hverify : GitBinding.verify C grant authorities = .ok b) :
    Ensures (Passing (.git b)) [] (admitAndReconcileGit (C := C) authorities id grant
      configuration signing) fun _ _ => True := by
  refine ensures_checked fun b' hb' => ensures_checked fun _ _ => ?_
  obtain rfl := Except.ok.inj (hverify.symm.trans (mapError_eq_ok.mp hb'))
  have hlook : Settles (Passing (.git b)) [] (Storage.gitOperation b)
      (fun past' found => Looks (.git b) [] past' (found.map (·.state))) fun _ => True :=
    settles_gitOperation (passing_read _)
  refine (ensures_mapErr hlook.ensures).bind fun past₁ existing h₁ => ?_
  refine (passing_admitServiceOperation h₁ fun _ => settles_insertGit).bind
    fun past₂ admitted h₂ => ?_
  cases admitted with
  | none => exact ensures_pure trivial
  | some state =>
    obtain ⟨hheld, hgoing⟩ := h₂ rfl
    refine passing_of_acting ?_ hheld hgoing
    refine acting_openNeededReceiver.bind fun past₃ receiver _ => ?_
    refine (ensures_mapErr acting_advance).bind fun past₄ phase _ => ?_
    split
    · exact ensures_throw _
    · exact ensures_pure trivial

end

end Gateway
end Kapsel
