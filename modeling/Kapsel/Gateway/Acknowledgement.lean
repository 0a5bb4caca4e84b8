import Kapsel.Gateway.Serving
import Kapsel.Gateway.WriteOnce
import Kapsel.Gateway.Healthy

/-!
# What an acknowledgement is worth

The caller of `admit_and_reconcile` is told once what became of the admission, and it passes the
answer on: `Busy` and `Full` become a definite refusal.  So an answer must be true of the journal
and not only of what the session happened to read.

`PassesFor` is the protocol of a pass over the whole past of a session, and the first half of
this module reads off it: there is at most one answer, and a session that declined never wrote
and never spoke to a receiver.  The second half puts the pass into a run.  The row that an
`Admitted` is about is still there, since no commit ever removes one, and an insertion that was
not confirmed is never followed by an answer.
-/

namespace Kapsel

open Grammar Fallible Authority Interaction Interaction.Program

namespace Gateway

open Journal Application

variable {C : Crypto}

/-! ## The past of a pass -/

/-- The whole past is that of a pass for the approval. -/
def PassesFor (p : Approval C) (past : Past C) : Prop :=
  ∀ x older, x :: older <:+ past → Passing p older x.call

/-- The exchange is an answer to the caller. -/
def isAcknowledgement (x : Exchange (Call C) Answer) : Bool :=
  match x.call with
  | .acknowledge _ => true
  | _ => false

/-- A question for an adapter or a receiver. -/
def Call.isReceiver : Call C → Bool
  | .identify _ => true
  | .apply _ => true
  | .observe _ _ => true
  | .openReceiver _ => true
  | .prepare _ _ => true
  | .send _ => true
  | .observeRef _ => true
  | _ => false

section
variable {past : Past C} {p : Approval C} {x : Exchange (Call C) Answer}

theorem PassesFor.head (h : PassesFor p (x :: past)) : Passing p past x.call :=
  h x past (List.suffix_refl _)

theorem PassesFor.of_suffix {past' : Past C} (h : PassesFor p past') (hpast : past <:+ past') :
    PassesFor p past := fun x older hx => h x older (hx.trans hpast)

theorem PassesFor.tail (h : PassesFor p (x :: past)) : PassesFor p past :=
  h.of_suffix (List.suffix_cons _ _)

theorem Calm.not_acknowledged (h : Calm past) (hx : x ∈ past) : isAcknowledgement x = false := by
  obtain ⟨call, answer⟩ := x
  cases call with
  | acknowledge decision => exact absurd rfl ((h.quiet hx).2 decision)
  | _ => rfl

theorem calm_of_reads (h : ∀ x ∈ past, isRead x = true) : Calm past := fun x hx => .inl (h x hx)

/-- Nothing was answered before an answer. -/
theorem Answers.fresh {decision : AdmissionDecision} (h : Answers p past decision) (hx : x ∈ past) :
    isAcknowledgement x = false := by
  cases decision with
  | admitted state =>
    rcases h with ⟨hcalm, -⟩ | ⟨rest, rfl, hcalm, -⟩
    · exact hcalm.not_acknowledged hx
    · rcases List.mem_cons.mp hx with rfl | hx
      · rfl
      · exact hcalm.not_acknowledged hx
  | busy =>
    obtain ⟨reads, rfl, hmisses⟩ := h
    exact ((calm_of_reads hmisses.calm).lock _).not_acknowledged hx
  | full =>
    obtain ⟨rest, rfl, hcalm⟩ := h
    rcases List.mem_cons.mp hx with rfl | hx
    · rfl
    · exact hcalm.not_acknowledged hx

/-- **There is at most one answer.** -/
theorem PassesFor.count_le (h : PassesFor p past) : past.countP isAcknowledgement ≤ 1 := by
  induction past with
  | nil => exact Nat.zero_le _
  | cons x past ih =>
    rw [List.countP_cons]
    split
    · rename_i hanswer
      have hnone : past.countP isAcknowledgement = 0 := by
        obtain ⟨call, answer⟩ := x
        cases call with
        | acknowledge decision =>
          rw [List.countP_eq_zero]
          intro y hy
          rw [Answers.fresh h.head hy]
          exact Bool.false_ne_true
        | _ => cases hanswer
      omega
    · exact ih h.tail

/-- What a session that declined may have asked. -/
def Idle (p : Approval C) (x : Exchange (Call C) Answer) : Prop :=
  isRead x = true ∨ x.call = .tryLockWorker ∨ isAcknowledgement x = true ∨
    x = refused p.admission .journalFull

theorem Calm.idle (h : Calm past) (hx : x ∈ past) : Idle p x := by
  rcases h x hx with hread | hlock
  · exact .inl hread
  · exact .inr (.inl hlock)

/-- **A session that declined has asked nothing but reads, the lease, and an insertion that a
full journal refused.** -/
theorem PassesFor.idle (h : PassesFor p past) (hdeclined : Declined past) (hx : x ∈ past) :
    Idle p x := by
  induction past generalizing x with
  | nil => exact absurd hx List.not_mem_nil
  | cons y past ih =>
    by_cases hbefore : Declined past
    · rcases List.mem_cons.mp hx with rfl | hx
      · have hhead := h.head
        obtain ⟨call, answer⟩ := x
        cases call with
        | read => exact .inl rfl
        | tryLockWorker => exact .inr (.inl rfl)
        | acknowledge decision => exact .inr (.inr (.inl rfl))
        | replace z => exact absurd hbefore hhead.2
        | _ => exact absurd hbefore hhead.2.2
      · exact ih h.tail hbefore hx
    · -- the newest exchange is the refusal itself
      have hhead : y = acknowledged .busy ∨ y = acknowledged .full := by
        rcases hdeclined with hbusy | hfull
        · rcases List.mem_cons.mp hbusy with heq | hbusy
          · exact .inl heq.symm
          · exact absurd (.inl hbusy) hbefore
        · rcases List.mem_cons.mp hfull with heq | hfull
          · exact .inr heq.symm
          · exact absurd (.inr hfull) hbefore
      rcases List.mem_cons.mp hx with rfl | hmem
      · rcases hhead with rfl | rfl
        · exact .inr (.inr (.inl rfl))
        · exact .inr (.inr (.inl rfl))
      · clear hx
        rcases hhead with rfl | rfl
        · obtain ⟨reads, rfl, hmisses⟩ := h.head
          exact ((calm_of_reads hmisses.calm).lock _).idle hmem
        · obtain ⟨rest, rfl, hcalm⟩ := h.head
          rcases List.mem_cons.mp hmem with rfl | hrest
          · exact .inr (.inr (.inr rfl))
          · exact hcalm.idle hrest

/-- **No answer follows an insertion that failed for another reason than a full journal.** -/
theorem Answers.not_refused {decision : AdmissionDecision} {x : Transition C}
    {error : GatewayError} (h : Answers p past decision) (herror : error ≠ .journalFull) :
    refused x error ∉ past := by
  intro hx
  have hquiet : ∀ {rest : Past C}, Calm rest → refused x error ∉ rest :=
    fun hcalm hmem => (hcalm.quiet hmem).1 x rfl
  cases decision with
  | admitted state =>
    rcases h with ⟨hcalm, -⟩ | ⟨rest, rfl, hcalm, -⟩
    · exact hquiet hcalm hx
    · rcases List.mem_cons.mp hx with heq | hx
      · cases heq
      · exact hquiet hcalm hx
  | busy =>
    obtain ⟨reads, rfl, hmisses⟩ := h
    exact hquiet ((calm_of_reads hmisses.calm).lock _) hx
  | full =>
    obtain ⟨rest, rfl, hcalm⟩ := h
    rcases List.mem_cons.mp hx with heq | hx
    · unfold refused at heq
      cases heq
      exact herror rfl
    · exact hquiet hcalm hx

end

/-! ## The row of an answer -/

/-- The row of the identity has this grant. -/
def RetainsGrant (db : Database) (t : Table) (id : Text) (grant : Bytes) : Prop :=
  ∃ r, stored db t id = some r ∧ r.value .signedAuthorizationGrant = .blob grant

/-- The row of the identity has this grant and is in this state. -/
def RetainsIn (db : Database) (t : Table) (id : Text) (grant : Bytes) (state : OperationState) :
    Prop :=
  ∃ r, stored db t id = some r ∧ r.value .signedAuthorizationGrant = .blob grant ∧
    r.value .state = .text state.asSql

section
variable {db db' : Database} {p : Approval C} {state : OperationState}

theorem RetainsIn.grant {t : Table} {id : Text} {grant : Bytes}
    (h : RetainsIn db t id grant state) : RetainsGrant db t id grant := by
  obtain ⟨r, hr, hgrant, -⟩ := h
  exact ⟨r, hr, hgrant⟩

/-- A retained grant stays. -/
theorem RetainsGrant.evolves {t : Table} {id : Text} {grant : Bytes}
    (h : RetainsGrant db t id grant) (hevolves : Evolves C db db') :
    RetainsGrant db' t id grant := by
  obtain ⟨r, hr, hgrant⟩ := h
  obtain ⟨r', hr', hgrows, -⟩ := grows_of_evolves hevolves hr
  refine ⟨r', hr', ?_⟩
  have hcolumn : Column.signedAuthorizationGrant ∉ t.rewritable := by
    cases t <;> decide
  rcases hgrows _ hcolumn with hnull | hsame
  · rw [hgrant] at hnull
    cases hnull
  · rw [hsame, hgrant]

/-- What a read found is in the row. -/
theorem Approval.Finds.retains (h : p.Finds db state) (hlawful : Lawful C db) :
    RetainsIn db p.table p.operationId p.grant state := by
  cases p with
  | kubernetes a =>
    obtain ⟨loaded, hloaded, rfl⟩ := h
    obtain ⟨r, hr, hdecode, hgrant⟩ := authorizedRecordOn_eq_ok hloaded
    refine ⟨r, hr, hgrant, ?_⟩
    obtain ⟨a', phase, -, rfl, hvalid⟩ := hlawful.phase hr
    rw [state_of_decode_phase hdecode]
    rfl
  | git b =>
    obtain ⟨r, phase, hr, hdecode, rfl⟩ := h
    refine ⟨r, hr, grant_of_decodeRecord hdecode, ?_⟩
    obtain ⟨b', phase', -, rfl, hvalid⟩ := hlawful.gitPhase hr
    obtain ⟨rfl, rfl⟩ := phase_of_decodeRecord hvalid hdecode
    rfl

/-- The reads of a miss found no row. -/
def ReadsNothing (t : Table) (id : Text) (reads : Past C) : Prop :=
  match t with
  | .kubernetes => ∃ db, reads = [readOf db] ∧ stored db .kubernetes id = none ∧
      stored db .git id = none
  | .git => ∃ db db', reads = [readOf db', readOf db] ∧ stored db .git id = none ∧
      stored db' .kubernetes id = none

theorem Approval.Misses.readsNothing {reads : Past C} (h : p.Misses reads) :
    ReadsNothing p.table p.operationId reads := by
  cases p with
  | kubernetes a =>
    obtain ⟨db, rfl, hnone⟩ := h
    obtain ⟨hkubernetes, hgit⟩ := stored_of_authorizedRecordOn_none hnone
    exact ⟨db, rfl, hkubernetes, hgit⟩
  | git b =>
    obtain ⟨db, db', rfl, hgit, hkubernetes⟩ := h
    exact ⟨db, db', rfl, readTable_eq_ok hgit, readTable_eq_ok hkubernetes⟩

/-- One of the reads of a miss found the table of the approval without the row. -/
theorem Approval.Misses.exists_read {reads : Past C} (h : p.Misses reads) :
    ∃ newer db older, reads = newer ++ readOf db :: older ∧
      stored db p.table p.operationId = none := by
  have hnothing := h.readsNothing
  cases p with
  | kubernetes a =>
    obtain ⟨db, rfl, hnone, -⟩ := hnothing
    exact ⟨[], db, [], rfl, hnone⟩
  | git b =>
    obtain ⟨db, db', rfl, hnone, -⟩ := hnothing
    exact ⟨[readOf db'], db, [], rfl, hnone⟩

end

/-! ## Calls that admit -/

/-- The table, the identity and the grant of a call that admits. -/
def Command.admits : Command → Option (Table × Text × Bytes)
  | .admitAndReconcile request signedGrant _ _ _ =>
      some (.kubernetes, request.operationId, signedGrant)
  | .admitAndReconcileGit id grant _ _ => some (.git, id, grant)
  | _ => none

section
variable {e : Execution C} {s : ℕ} {entry : Entry} {t : Table} {id : Text} {grant : Bytes}

/-- The exchanges of a session are those that its entry permits. -/
theorem Execution.serving_of_history (hstart : Started s entry e.moments)
    {x : Exchange (Call C) Answer} {older : Past C} (h : x :: older <:+ history s e.moments) :
    serving entry older x.call := by
  obtain ⟨newer, hsplit⟩ := h
  exact e.serves.allowed_of_history hstart hsplit.symm

/-- The past of a session whose approval is decided by its entry. -/
theorem passesFor_of_serving {past : Past C} {p : Approval C}
    (hserving : ∀ x older, x :: older <:+ past → serving entry older x.call)
    (honly : ∀ start q, Serves (C := C) entry start q → start = [] ∧ q = p) :
    PassesFor p past := by
  intro x older hx
  rcases hserving x older hx with hread | ⟨hlock, hcalm⟩ | ⟨q, own, start, rfl, hserves, hpassing⟩
  · rw [hread]
    exact passing_read p older
  · rw [hlock]
    exact hcalm
  · obtain ⟨rfl, rfl⟩ := honly start q hserves
    rw [List.append_nil]
    exact hpassing

theorem calm_of_serving {past : Past C}
    (hserving : ∀ x older, x :: older <:+ past → serving entry older x.call)
    (hnone : ∀ start q, ¬ Serves (C := C) entry start q) : Calm past := by
  intro x hx
  obtain ⟨newer, older, rfl⟩ := List.append_of_mem hx
  rcases hserving x older (List.suffix_append _ _) with hread | ⟨hlock, -⟩ |
    ⟨q, own, start, -, hserves, -⟩
  · obtain ⟨call, answer⟩ := x
    obtain rfl : call = .read := hread
    exact .inl rfl
  · exact .inr hlock
  · exact absurd hserves (hnone start q)

/-- **A call that admits passes for the approval of its grant**, or does nothing at all when the
grant makes none. -/
theorem Execution.passes_of_admits (hstart : Started s entry e.moments)
    (hadmits : entry.command.admits = some (t, id, grant)) :
    (∃ p : Approval C, p.table = t ∧ p.operationId = id ∧ p.grant = grant ∧
      PassesFor p (history s e.moments)) ∨ Calm (history s e.moments) := by
  have hserving : ∀ x older, x :: older <:+ history s e.moments → serving entry older x.call :=
    fun _ _ hx => Execution.serving_of_history hstart hx
  by_cases hsome : ∃ start p, Serves (C := C) entry start p
  · left
    obtain ⟨start, p, hserves⟩ := hsome
    unfold Command.admits at hadmits
    split at hadmits
    · rename_i request signedGrant adapter settings turns hcommand
      cases hadmits
      unfold Serves at hserves
      rw [hcommand] at hserves
      obtain ⟨-, happroves⟩ := hserves
      obtain ⟨htable, hid, hgrant⟩ := happroves.facts
      refine ⟨p, htable, hid, hgrant, passesFor_of_serving hserving fun start' q hq => ?_⟩
      unfold Serves at hq
      rw [hcommand] at hq
      exact ⟨hq.1, happroves.unique hq.2⟩
    · rename_i id' grant' configuration signing hcommand
      cases hadmits
      unfold Serves at hserves
      rw [hcommand] at hserves
      obtain ⟨-, happroves, hid⟩ := hserves
      obtain ⟨htable, hgrant⟩ := happroves.facts
      refine ⟨p, htable, hid, hgrant, passesFor_of_serving hserving fun start' q hq => ?_⟩
      unfold Serves at hq
      rw [hcommand] at hq
      exact ⟨hq.1, happroves.unique hq.2.1⟩
    · cases hadmits
  · right
    refine calm_of_serving hserving fun start q hq => hsome ⟨start, q, hq⟩

end

/-! ## Answers in a run -/

section
variable {e : Execution C} {s : ℕ} {p : Approval C} {later earlier : List (Event C)} {m : Event C}

/-- How the world took an exchange of a run. -/
theorem Execution.reacts_of_mem (e : Execution C) (hm : m ∈ e.moments) {c : Call C}
    {answer : Answer c} (hdeed : m.deed = .act ⟨c, answer⟩) :
    reacts m.before m.session c answer m.after := by
  obtain ⟨_, _, -, hconforms⟩ := e.exists_conforms hm
  obtain ⟨_, -, -, hreacts⟩ := hconforms.exchange hdeed
  exact hreacts

/-- A read of the session, with its moment. -/
theorem Execution.exists_read (e : Execution C) (hsplit : e.moments = later ++ earlier)
    {db : Database} (hread : readOf db ∈ history s earlier) :
    ∃ m ∈ earlier, m.session = s ∧ m.before.db = db ∧ m.after.db = db ∧ Lawful C db := by
  obtain ⟨m, hm, hs, hdeed⟩ := mem_history.mp hread
  have hmem : m ∈ e.moments := hsplit ▸ List.mem_append_right later hm
  obtain rfl := e.sound.reads m hmem db hdeed
  have hreacts := e.reacts_of_mem hmem hdeed
  exact ⟨m, hm, hs, rfl, congrArg World.db hreacts.1, (e.sound.past m hmem).1⟩

/-- What was exchanged last by the session at a moment of the run. -/
theorem passesFor_of_split (hpasses : PassesFor p (history s e.moments))
    (hsplit : e.moments = later ++ m :: earlier) (hs : m.session = s)
    {x : Exchange (Call C) Answer} (hdeed : m.deed = .act x) :
    PassesFor p (x :: history s earlier) := by
  have hsuffix : history s (m :: earlier) <:+ history s e.moments := by
    rw [hsplit]
    exact history_suffix later
  obtain ⟨t, deed, w, w'⟩ := m
  obtain rfl : t = s := hs
  obtain rfl : deed = .act x := hdeed
  rw [history_act_self] at hsuffix
  exact hpasses.of_suffix hsuffix

/-- The rows of an earlier moment, at a later one. -/
theorem Execution.evolves_of_mem (e : Execution C) (hsplit : e.moments = later ++ m :: earlier)
    {m' : Event C} (hm' : m' ∈ earlier) : Evolves C m'.after.db m.before.db := by
  obtain ⟨middle, first, rfl⟩ := List.append_of_mem hm'
  exact (e.evolves_between hsplit).2.1

/-- A confirmed admission put the row of the approval into the journal. -/
theorem Execution.retains_of_confirmed (e : Execution C) (hm : m ∈ e.moments)
    (hdeed : m.deed = .act (confirmed p.admission)) :
    RetainsIn m.after.db p.table p.operationId p.grant p.admittedState := by
  have hreacts := e.reacts_of_mem hm hdeed
  obtain ⟨hcommit, -⟩ := commit_of_confirmed hreacts rfl
  obtain ⟨t, id, before, after, hcommits, hmoves⟩ := e.moves hm ⟨⟨_, hdeed⟩, hcommit⟩
  cases p with
  | kubernetes a =>
    cases hmoves with
    | insertRequested =>
      obtain rfl := id_of_phaseRecord hcommits
      exact ⟨_, hcommits.after, rfl, rfl⟩
    | advance hadvances _ => cases hadvances
    | gitAdvance hadvances _ => cases hadvances
  | git b =>
    cases hmoves with
    | insertGit =>
      obtain rfl := id_of_gitRecord hcommits
      exact ⟨_, hcommits.after, rfl, rfl⟩
    | advance hadvances _ => cases hadvances
    | gitAdvance hadvances _ => cases hadvances

/-- **An admission that is answered with a state**: the row was in that state at a moment of the
session, and has been retained since. -/
theorem Execution.admitted_of_answers (e : Execution C)
    (hsplit : e.moments = later ++ m :: earlier) {state : OperationState}
    (hanswers : Answers p (history s earlier) (.admitted state)) :
    RetainsGrant m.before.db p.table p.operationId p.grant ∧
      ∃ m' ∈ earlier, m'.session = s ∧
        RetainsIn m'.after.db p.table p.operationId p.grant state := by
  have hretained : ∃ m' ∈ earlier, m'.session = s ∧
      RetainsIn m'.after.db p.table p.operationId p.grant state := by
    rcases hanswers with ⟨-, db, hread, hfinds⟩ | ⟨rest, hpast, -, rfl⟩
    · have hsplit' : e.moments = (later ++ [m]) ++ earlier := by
        rw [hsplit, List.append_assoc]
        rfl
      obtain ⟨m', hm', hs', -, hafter, hlawful⟩ := e.exists_read hsplit' hread
      exact ⟨m', hm', hs', hafter ▸ hfinds.retains hlawful⟩
    · have hconfirmed : history s earlier = [] ++ confirmed p.admission :: rest := hpast
      obtain ⟨later', m', earlier', rfl, hs', hdeed', -⟩ := exists_moment_of_history hconfirmed
      refine ⟨m', List.mem_append_right _ List.mem_cons_self, hs', ?_⟩
      refine e.retains_of_confirmed ?_ hdeed'
      rw [hsplit]
      exact List.mem_append_right _ (List.mem_cons_of_mem _
        (List.mem_append_right _ List.mem_cons_self))
  obtain ⟨m', hm', hs', hin⟩ := hretained
  exact ⟨hin.grant.evolves (e.evolves_of_mem hsplit hm'), m', hm', hs', hin⟩

/-- **A session that declined wrote nothing.** -/
theorem Execution.unchanged_of_declined (e : Execution C)
    (hpasses : PassesFor p (history s e.moments)) (hdeclined : Declined (history s e.moments))
    (hm : m ∈ e.moments) (hs : m.session = s) : m.after.db = m.before.db := by
  by_contra hne
  obtain ⟨x, ⟨answer, hdeed⟩, -⟩ := e.commits_of_ne hm hne
  have hmem : (⟨.replace x, answer⟩ : Exchange (Call C) Answer) ∈ history s e.moments :=
    mem_history.mpr ⟨m, hm, hs, hdeed⟩
  rcases hpasses.idle hdeclined hmem with hread | hlock | hanswer | hrefused
  · cases hread
  · cases hlock
  · cases hanswer
  · unfold refused at hrefused
    cases hrefused
    have hreacts := e.reacts_of_mem hm hdeed
    obtain ⟨hsame, -⟩ := refused_of_error hreacts rfl (by
      rintro ⟨cause, hcause⟩
      cases hcause)
    exact hne (congrArg World.db hsame)

/-- **No insertion is asked for after an answer of admission**: the row is still there, and the
session would have read it. -/
theorem Execution.no_insertion_after_admitted (e : Execution C)
    (hpasses : PassesFor p (history s e.moments)) {x : Exchange (Call C) Answer}
    {reads rest : Past C} (hx : x :: (reads ++ rest) <:+ history s e.moments)
    (hmisses : p.Misses reads) {state : OperationState} :
    acknowledged (.admitted state) ∉ rest := by
  intro hmem
  obtain ⟨newest, hnewest⟩ := hx
  obtain ⟨newer, db, older, rfl, hnone⟩ := hmisses.exists_read
  obtain ⟨n₁, n₂, rfl⟩ := List.append_of_mem hmem
  -- the read comes after the answer
  have hread : history s e.moments = (newest ++ x :: newer) ++
      readOf db :: (older ++ (n₁ ++ acknowledged (.admitted state) :: n₂)) := by
    rw [← hnewest]
    simp
  obtain ⟨later, m, earlier, hsplit, rfl, hdeed, hpast⟩ := exists_moment_of_history hread
  have hanswer : history m.session earlier =
      (older ++ n₁) ++ acknowledged (.admitted state) :: n₂ := by
    rw [hpast]
    simp
  obtain ⟨later', m', earlier', rfl, hs', hdeed', rfl⟩ := exists_moment_of_history hanswer
  have hsplit' : e.moments = (later ++ m :: later') ++ m' :: earlier' := by
    rw [hsplit]
    simp
  have hanswers := (passesFor_of_split hpasses hsplit' hs' hdeed').head
  obtain ⟨hretains, -⟩ := e.admitted_of_answers hsplit' hanswers
  have hm' : m' ∈ e.moments := by
    rw [hsplit']
    exact List.mem_append_right _ List.mem_cons_self
  have hm : m ∈ e.moments := by
    rw [hsplit]
    exact List.mem_append_right _ List.mem_cons_self
  have hevolves := (e.sound.past m' hm').2.1.trans
    (e.evolves_of_mem hsplit (List.mem_append_right _ List.mem_cons_self))
  obtain ⟨r, hr, -⟩ := hretains.evolves hevolves
  rw [← e.sound.reads m hm db hdeed, hnone] at hr
  cases hr

/-- **An insertion that failed, and not for a full journal, is never answered.** -/
theorem Execution.not_acknowledged_of_refused (e : Execution C)
    (hpasses : PassesFor p (history s e.moments)) {x : Transition C} {error : GatewayError}
    (hx : refused x error ∈ history s e.moments) (hinsert : x.replacement.expected.isNone = true)
    (herror : error ≠ .journalFull) (decision : AdmissionDecision) :
    acknowledged decision ∉ history s e.moments := by
  intro hanswer
  obtain ⟨newer, older, hsplit⟩ := List.append_of_mem hx
  have hsuffix : refused x error :: older <:+ history s e.moments := hsplit ▸ List.suffix_append _ _
  rw [hsplit] at hanswer
  rcases List.mem_append.mp hanswer with hnewer | hrest
  · -- the answer would have come after the failure
    obtain ⟨n₁, n₂, rfl⟩ := List.append_of_mem hnewer
    have hanswered : acknowledged decision :: (n₂ ++ refused x error :: older) <:+
        history s e.moments := by
      rw [hsplit, List.append_assoc]
      exact List.suffix_append _ _
    have hanswers : Answers p (n₂ ++ refused x error :: older) decision :=
      hpasses _ _ hanswered
    exact hanswers.not_refused herror (List.mem_append_right _ List.mem_cons_self)
  · rcases List.mem_cons.mp hrest with heq | holder
    · cases heq
    · obtain ⟨hwrites, hgoing⟩ := hpasses _ _ hsuffix
      cases decision with
      | busy => exact hgoing (.inl holder)
      | full => exact hgoing (.inr holder)
      | admitted state =>
        rcases hwrites with ⟨-, reads, rest, rfl, hmisses⟩ | ⟨hupdates, -⟩
        · have hrest : acknowledged (.admitted state) ∈ rest := by
            rcases List.mem_append.mp holder with hread | hrest
            · cases hmisses.calm _ hread
            · exact hrest
          exact e.no_insertion_after_admitted hpasses hsuffix hmisses hrest
        · have hexpected := hupdates.expected
          rw [Option.isNone_iff_eq_none.mp hinsert] at hexpected
          cases hexpected

end

/-! ## The main theorem -/

/-- What the answers of a call are worth. -/
structure SoundlyAnswered (e : Execution C) (s : ℕ) (t : Table) (id : Text) (grant : Bytes) :
    Prop where
  /-- The caller is answered at most once. -/
  once : (history s e.moments).countP isAcknowledgement ≤ 1
  /-- `Admitted(state)`: the row is in the journal with the grant of the call, and was in that
  state at a moment of the call. -/
  admitted : ∀ later m earlier state, e.moments = later ++ m :: earlier → m.session = s →
    m.deed = .act (acknowledged (.admitted state)) →
    RetainsGrant m.before.db t id grant ∧
      ∃ m' ∈ earlier, m'.session = s ∧ RetainsIn m'.after.db t id grant state
  /-- `Busy` and `Full`: the call never writes and never speaks to a receiver. -/
  declined : Declined (history s e.moments) →
    (∀ m ∈ e.moments, m.session = s → m.after.db = m.before.db) ∧
      ∀ x ∈ history s e.moments, x.call.isReceiver = false
  /-- `Busy`: all that the call did before is to look for the row without finding one, and to ask
  for the lease in vain. -/
  busy : ∀ newer older, history s e.moments = newer ++ acknowledged .busy :: older →
    ∃ reads, older = contended :: reads ∧ ReadsNothing t id reads
  /-- An insertion that was answered with an error, other than that of a full journal, which
  no commit is reported with: the caller is not answered at all. -/
  uncertain : ∀ x error, refused x error ∈ history s e.moments →
    x.replacement.expected.isNone = true → error ≠ .journalFull →
    ∀ decision, acknowledged decision ∉ history s e.moments

theorem Idle.not_receiver {p : Approval C} {x : Exchange (Call C) Answer} (h : Idle p x) :
    x.call.isReceiver = false := by
  obtain ⟨call, answer⟩ := x
  rcases h with hread | hlock | hanswer | hrefused
  · cases call with
    | read => rfl
    | _ => cases hread
  · obtain rfl : call = .tryLockWorker := hlock
    rfl
  · cases call with
    | acknowledge decision => rfl
    | _ => cases hanswer
  · obtain rfl : call = .replace p.admission := congrArg Exchange.call hrefused
    rfl

theorem soundlyAnswered_of_passes {e : Execution C} {s : ℕ} {p : Approval C}
    (hpasses : PassesFor p (history s e.moments)) :
    SoundlyAnswered e s p.table p.operationId p.grant where
  once := hpasses.count_le
  admitted later m earlier state hsplit hs hdeed :=
    e.admitted_of_answers hsplit (passesFor_of_split hpasses hsplit hs hdeed).head
  declined hdeclined := ⟨fun _ hm hs => e.unchanged_of_declined hpasses hdeclined hm hs,
    fun _ hx => (hpasses.idle hdeclined hx).not_receiver⟩
  busy newer older hsplit := by
    have hanswers : Answers p older .busy :=
      hpasses (acknowledged .busy) older (hsplit ▸ List.suffix_append newer _)
    obtain ⟨reads, hpast, hmisses⟩ := hanswers
    exact ⟨reads, hpast, hmisses.readsNothing⟩
  uncertain _ _ hx hinsert herror decision :=
    e.not_acknowledged_of_refused hpasses hx hinsert herror decision

/-- A session that only read has answered nobody. -/
theorem soundlyAnswered_of_calm {e : Execution C} {s : ℕ} (hcalm : Calm (history s e.moments))
    (t : Table) (id : Text) (grant : Bytes) : SoundlyAnswered e s t id grant := by
  have hnone : ∀ decision, acknowledged decision ∉ history s e.moments :=
    fun decision hmem => (hcalm.quiet hmem).2 decision rfl
  refine ⟨?_, ?_, ?_, ?_, ?_⟩
  · have hzero : (history s e.moments).countP isAcknowledgement = 0 := by
      rw [List.countP_eq_zero]
      intro x hx
      rw [hcalm.not_acknowledged hx]
      exact Bool.false_ne_true
    omega
  · intro later m earlier state hsplit hs hdeed
    have hm : m ∈ e.moments := by
      rw [hsplit]
      exact List.mem_append_right _ List.mem_cons_self
    exact absurd (mem_history.mpr ⟨m, hm, hs, hdeed⟩) (hnone _)
  · rintro (hbusy | hfull)
    · exact absurd hbusy (hnone _)
    · exact absurd hfull (hnone _)
  · intro newer older hsplit
    refine absurd ?_ (hnone .busy)
    rw [hsplit]
    exact List.mem_append_right _ List.mem_cons_self
  · exact fun _ _ _ _ _ decision => hnone decision

/-- **What a caller is told of its admission is true.**  For every run of any number of handles,
whatever the storage, the adapters and the receivers do, and every session of it that calls
`admit_and_reconcile` or `admit_and_reconcile_git`. -/
theorem admission_soundly_acknowledged (e : Execution C) (s : ℕ) (entry : Entry) (t : Table)
    (id : Text) (grant : Bytes) (hstart : Started s entry e.moments)
    (hadmits : entry.command.admits = some (t, id, grant)) :
    SoundlyAnswered e s t id grant := by
  rcases Execution.passes_of_admits hstart hadmits with ⟨p, rfl, rfl, rfl, hpasses⟩ | hcalm
  · exact soundlyAnswered_of_passes hpasses
  · exact soundlyAnswered_of_calm hcalm t id grant

/-- The caller of the known operation was answered, once. -/
theorem known_admission_acknowledged :
    (history 0 Known.attempted.moments).countP isAcknowledgement = 1 ∧
      SoundlyAnswered Known.attempted 0 .kubernetes Known.request.operationId Known.grant :=
  ⟨by decide +kernel, admission_soundly_acknowledged Known.attempted 0
    ⟨Known.authorities, .admitAndReconcile Known.request Known.grant true none 4⟩ _ _ _
    (Execution.started_after _) rfl⟩

end Gateway
end Kapsel
