import Kapsel.Gateway.History

/-!
# At most one dispatch

An attempt is started by one confirmed commit, which takes the row out of its authorized
state for good.  So for one identity there is at most one such commit in a whole run
(`attempts_le_one`).  A permission follows its commit at once, and the dispatch follows its
permission at once; the counting rule of interleavings turns this into at most one
permission and at most one dispatch, whatever the sessions and their crashes.

The two tables are treated together: the table of a dispatch says whether it is a call of
the Kubernetes adapter or a send to the Git receiver.
-/

namespace Kapsel

open Grammar Fallible Authority Interaction Interaction.Program Relation

namespace Gateway

open Journal

variable {C : Crypto}

/-! ## Kinds of exchanges -/

/-- A confirmed attempt on the row of an identity. -/
def startsAttempt (t : Table) (id : Text) (x : Exchange (Call C) Answer) : Bool :=
  match x with
  | ⟨.replace (.markApplyStarted _ operation _), answer⟩ =>
      t = .kubernetes && operation.request.request.operationId = id && Except.isOk answer
  | ⟨.replace (.beginGitAttempt _ b), answer⟩ =>
      t = .git && b.authorization.operationId = id && Except.isOk answer
  | _ => false

/-- A dispatch permission for an identity is made. -/
def makesPermission (t : Table) (id : Text) (x : Exchange (Call C) Answer) : Bool :=
  match x.call with
  | .grantPermission permission => t = .kubernetes && permission.request.operationId = id
  | .grantGitPermission permission =>
      t = .git && permission.prepared.authorization.operationId = id
  | _ => false

/-- The adapter is called, or the receiver is sent to, for an identity. -/
def dispatches (t : Table) (id : Text) (x : Exchange (Call C) Answer) : Bool :=
  match x.call with
  | .apply permission => t = .kubernetes && permission.request.operationId = id
  | .send permission => t = .git && permission.prepared.authorization.operationId = id
  | _ => false

/-- The states past `authorized`. -/
def begunStates : List Value :=
  [.text (utf8 "apply_started"), .text (utf8 "receiver_observed"), .text (utf8 "finalized"),
    .text (utf8 "not_attempted")]

/-- The row is past `authorized`. -/
def begun (state : Value) : Bool := begunStates.contains state

/-! ## A row that has begun -/

theorem begun_of_rowNext {t : Table} {r r' : Record t} (h : RowNext C t r r')
    (hr : begun (r.value .state) = true) : begun (r'.value .state) = true := by
  cases h with
  | kubernetes a hnext => cases hnext <;> first | rfl | exact absurd hr Bool.false_ne_true
  | git b hnext => cases hnext <;> rfl

theorem begun_of_evolves {db db' : Database} {t : Table} {id : Text} {r : Record t}
    (h : Evolves C db db') (hr : stored db t id = some r)
    (hbegun : begun (r.value .state) = true) :
    ∃ r', stored db' t id = some r' ∧ begun (r'.value .state) = true := by
  obtain ⟨r', hr', hnext⟩ := h t id r hr
  refine ⟨r', hr', ?_⟩
  clear hr hr'
  induction hnext with
  | refl => exact hbegun
  | tail _ hstep ih => exact begun_of_rowNext hstep ih

section
variable {moments : List (Event C)} {w w' : World} {s : ℕ} {entry : Entry} {t : Table} {id : Text}

/-- A confirmed attempt found a row that had not begun, and left one that has. -/
theorem row_of_startsAttempt (h : Sound moments w) (hactive : active s moments = some entry)
    {c : Call C} {answer : Answer c} (hallowed : allowed entry (history s moments) c)
    (hreacts : reacts w s c answer w') (hstarts : startsAttempt t id ⟨c, answer⟩ = true) :
    ∃ r r', stored w.db t id = some r ∧ begun (r.value .state) = false ∧
      stored w'.db t id = some r' ∧ begun (r'.value .state) = true := by
  cases c with
  | replace x =>
    obtain ⟨hguarded, hlicensed⟩ := hallowed
    have hanswer : ∀ {answer : Except GatewayError Unit}, Except.isOk answer = true →
        answer = .ok () := by
      intro answer hok
      cases answer with
      | ok u => rfl
      | error e => cases hok
    cases x with
    | markApplyStarted expected operation target =>
      simp only [startsAttempt, Bool.and_eq_true, decide_eq_true_eq] at hstarts
      obtain ⟨⟨rfl, rfl⟩, hok⟩ := hstarts
      obtain ⟨hcommit, -⟩ := commit_of_confirmed hreacts (hanswer hok)
      obtain ⟨t', id', before, after, hcommits, hmoves⟩ :=
        h.moves hactive hguarded hlicensed hcommit
      cases hmoves with
      | advance hadvances _ =>
        cases hadvances
        obtain rfl := id_of_phaseRecord hcommits
        exact ⟨_, _, hcommits.before, rfl, hcommits.after, rfl⟩
      | gitAdvance hadvances _ => cases hadvances
    | beginGitAttempt original b =>
      simp only [startsAttempt, Bool.and_eq_true, decide_eq_true_eq] at hstarts
      obtain ⟨⟨rfl, rfl⟩, hok⟩ := hstarts
      obtain ⟨hcommit, -⟩ := commit_of_confirmed hreacts (hanswer hok)
      obtain ⟨t', id', before, after, hcommits, hmoves⟩ :=
        h.moves hactive hguarded hlicensed hcommit
      cases hmoves with
      | advance hadvances _ => cases hadvances
      | gitAdvance hadvances _ =>
        cases hadvances
        obtain rfl := id_of_gitRecord hcommits
        exact ⟨_, _, hcommits.before, rfl, hcommits.after, rfl⟩
    | _ => cases hstarts
  | _ => cases hstarts

/-! ## Counting -/

/-- **At most one attempt**: once there was one, the row has begun. -/
theorem attempts_le_one (h : Conforms (environment C) allowed moments w) (t : Table) (id : Text) :
    occurrences (startsAttempt t id) moments ≤ 1 ∧
      (0 < occurrences (startsAttempt t id) moments →
        ∃ r, stored w.db t id = some r ∧ begun (r.value .state) = true) := by
  induction h with
  | initial => exact ⟨Nat.zero_le _, fun h => absurd h (Nat.lt_irrefl 0)⟩
  | start _ _ _ _ ih => exact ih
  | stop _ _ _ hleaves ih =>
    obtain rfl := hleaves
    exact ih
  | @act moments w s entry c answer w' hconforms hactive hallowed hreacts ih =>
    have hsound := sound_of_conforms hconforms
    have hevolves := (hsound.act hactive hallowed hreacts).evolves List.mem_cons_self
    rw [occurrences_act]
    by_cases hstarts : startsAttempt t id ⟨c, answer⟩ = true
    · obtain ⟨r, r', hr, hnot, hr', hbegun⟩ :=
        row_of_startsAttempt hsound hactive hallowed hreacts hstarts
      have hzero : occurrences (startsAttempt t id) moments = 0 := by
        refine Nat.eq_zero_of_not_pos fun hpos => ?_
        obtain ⟨r'', hr'', hbegun''⟩ := ih.2 hpos
        obtain rfl := Option.some.inj (hr.symm.trans hr'')
        rw [hnot] at hbegun''
        cases hbegun''
      rw [hzero, if_pos hstarts]
      exact ⟨le_rfl, fun _ => ⟨r', hr', hbegun⟩⟩
    · rw [if_neg hstarts]
      refine ⟨ih.1, fun hpos => ?_⟩
      obtain ⟨r, hr, hbegun⟩ := ih.2 hpos
      exact begun_of_evolves hevolves hr hbegun

/-- A permission follows its attempt. -/
theorem permission_follows_attempt {past : Past C} {c : Call C} {answer : Answer c}
    (hallowed : allowed entry past c) (hmakes : makesPermission t id ⟨c, answer⟩ = true) :
    ∃ y, latest isRead past = some y ∧ startsAttempt t id y = true := by
  cases c with
  | grantPermission permission =>
    obtain ⟨expected, operation, a, hlast, hrequest, -⟩ := hallowed
    refine ⟨_, hlast, ?_⟩
    simp only [makesPermission, hrequest, Bool.and_eq_true, decide_eq_true_eq] at hmakes
    simp only [startsAttempt, confirmed, Bool.and_eq_true, decide_eq_true_eq]
    exact ⟨hmakes, rfl⟩
  | grantGitPermission permission =>
    obtain ⟨original, b, hlast, hauthorization⟩ := hallowed
    refine ⟨_, hlast, ?_⟩
    simp only [makesPermission, hauthorization, Bool.and_eq_true, decide_eq_true_eq] at hmakes
    simp only [startsAttempt, confirmed, Bool.and_eq_true, decide_eq_true_eq]
    exact ⟨hmakes, rfl⟩
  | _ => cases hmakes

/-- A dispatch follows its permission. -/
theorem dispatch_follows_permission {past : Past C} {c : Call C} {answer : Answer c}
    (hallowed : allowed entry past c) (hdispatches : dispatches t id ⟨c, answer⟩ = true) :
    ∃ y, latest isRead past = some y ∧ makesPermission t id y = true := by
  cases c with
  | apply permission => exact ⟨_, hallowed, hdispatches⟩
  | send permission => exact ⟨_, hallowed, hdispatches⟩
  | _ => cases hdispatches

theorem not_makesPermission_of_startsAttempt (x : Exchange (Call C) Answer)
    (h : startsAttempt t id x = true) : makesPermission t id x = false := by
  obtain ⟨call, answer⟩ := x
  cases call with
  | replace x => rfl
  | _ => cases h

theorem not_dispatches_of_makesPermission (x : Exchange (Call C) Answer)
    (h : makesPermission t id x = true) : dispatches t id x = false := by
  obtain ⟨call, answer⟩ := x
  cases call with
  | grantPermission permission => rfl
  | grantGitPermission permission => rfl
  | _ => cases h

theorem not_isRead_of_makesPermission (x : Exchange (Call C) Answer)
    (h : makesPermission t id x = true) : isRead x = false := by
  obtain ⟨call, answer⟩ := x
  cases call with
  | read => cases h
  | _ => rfl

theorem not_isRead_of_dispatches (x : Exchange (Call C) Answer)
    (h : dispatches t id x = true) : isRead x = false := by
  obtain ⟨call, answer⟩ := x
  cases call with
  | read => cases h
  | _ => rfl

/-- **At most one permission.** -/
theorem permissions_le_one (h : Conforms (environment C) allowed moments w) (t : Table)
    (id : Text) : occurrences (makesPermission t id) moments ≤ 1 := by
  have hone := (attempts_le_one h t id).1
  have hrule := Conforms.occurrences_le (fun _ _ _ _ => permission_follows_attempt)
    not_makesPermission_of_startsAttempt not_isRead_of_makesPermission h hone
  exact hrule.1.trans hone

/-- **At most one dispatch.** -/
theorem dispatches_le_one (h : Conforms (environment C) allowed moments w) (t : Table)
    (id : Text) : occurrences (dispatches t id) moments ≤ 1 := by
  have hone := permissions_le_one h t id
  have hrule := Conforms.occurrences_le (fun _ _ _ _ => dispatch_follows_permission)
    not_dispatches_of_makesPermission not_isRead_of_dispatches h hone
  exact hrule.1.trans hone

/-! ## Sessions and passes that start from a row that has begun -/

/-- A session that starts from a row that has begun never attempts it. -/
theorem idle_of_begun {later earlier : List (Event C)} {w₀ : World} {r : Record t}
    (h : Conforms (environment C) allowed (later ++ ⟨s, .start entry, w₀, w₀⟩ :: earlier) w)
    (hr : stored w₀.db t id = some r) (hbegun : begun (r.value .state) = true) :
    ∀ x ∈ history s (later ++ ⟨s, .start entry, w₀, w₀⟩ :: earlier),
      startsAttempt t id x = false ∧ makesPermission t id x = false ∧
        dispatches t id x = false := by
  induction later generalizing w with
  | nil =>
    cases h with
    | start _ _ _ hfresh =>
      rw [List.nil_append, history_start, history_eq_nil_of_fresh hfresh]
      exact fun x hx => absurd hx List.not_mem_nil
  | cons m later ih =>
    have htail := ih h.tail.1
    obtain ⟨s', deed, w₁, w₂⟩ := m
    cases deed with
    | start _ => exact htail
    | stop => exact htail
    | act x =>
      by_cases hs : s' = s
      · subst hs
        obtain ⟨entry', hactive, hallowed, hreacts⟩ := h.exchange rfl
        rw [List.cons_append, history_act_self]
        refine List.forall_mem_cons.mpr ⟨?_, htail⟩
        have hnone : ∀ {P : Exchange (Call C) Answer → Bool},
            (∀ y ∈ history s' (later ++ ⟨s', .start entry, w₀, w₀⟩ :: earlier), P y = false) →
            ¬ ∃ y, latest isRead (history s' (later ++ ⟨s', .start entry, w₀, w₀⟩ :: earlier)) =
              some y ∧ P y = true := by
          rintro P hP ⟨y, hy, hPy⟩
          rw [hP y (mem_of_latest hy)] at hPy
          cases hPy
        refine ⟨?_, ?_, ?_⟩
        · -- an attempt would have found the row authorized
          rw [Bool.eq_false_iff]
          intro hstarts
          have hsound := sound_of_conforms h.tail.1
          obtain ⟨r₁, _, hr₁, hnot, -, -⟩ :=
            row_of_startsAttempt hsound hactive hallowed hreacts hstarts
          have hevolves := hsound.evolves
            (List.mem_append_right later (List.mem_cons_self (l := earlier)))
          obtain ⟨r₂, hr₂, hbegun₂⟩ := begun_of_evolves hevolves hr hbegun
          obtain rfl := Option.some.inj (hr₁.symm.trans hr₂)
          rw [hnot] at hbegun₂
          cases hbegun₂
        · rw [Bool.eq_false_iff]
          exact fun hmakes => hnone (fun y hy => (htail y hy).1)
            (permission_follows_attempt hallowed hmakes)
        · rw [Bool.eq_false_iff]
          exact fun hdispatches => hnone (fun y hy => (htail y hy).2.1)
            (dispatch_follows_permission hallowed hdispatches)
      · rw [List.cons_append, history_act_of_ne hs]
        exact htail

end

/-- The adapter is called only in a pass whose first read showed the row authorized. -/
def AppliesOnlyFresh (a : AuthorizedRequest C) (start past : Past C) (c : Call C) : Prop :=
  ∀ permission, c = .apply permission → ∃ middle db operation, past = middle ++ readOf db :: start ∧
    authorizedRecordOn C db a = .ok (some (.authorized operation))

/-- The receiver is prepared for, or sent to, only in a pass whose first read showed the row
authorized. -/
def SendsOnlyFresh (b : GitBinding C) (start past : Past C) (c : Call C) : Prop :=
  ((∃ receiver authorization, c = .prepare receiver authorization) ∨ ∃ permission,
    c = .send permission) → ∃ middle db record, past = middle ++ readOf db :: start ∧
      stored db .git b.authorization.operationId = some record ∧
      decodeRecord record b = .ok .authorized

section
variable {start past : Past C} {a : AuthorizedRequest C} {b : GitBinding C}

theorem ensures_observeAndFreeze_only {attempted : ApplyStartedOperation} :
    Ensures (AppliesOnlyFresh a start) past (observeAndFreeze a attempted) fun _ _ => True := by
  have hread : ∀ past, AppliesOnlyFresh a start past .read := fun _ _ hc => nomatch hc
  refine ensures_ask (fun _ hc => nomatch hc) fun _ => ensures_checked fun observation _ => ?_
  refine (ensures_requireAuthorized hread).bind fun past₁ _ _ => ?_
  refine Ensures.seq ?_ fun _ _ => ensures_pure trivial
  refine ensures_checked fun _ _ => (ensures_boundRecord hread _ _).bind fun _ _ _ => ?_
  exact ensures_ask (fun _ hc => nomatch hc) fun _ => ensures_check fun _ _ => trivial

/-- **A pass of `run_locked_operation_once`** calls the adapter only if it started from an
authorized row. -/
theorem ensures_runLockedOperationOnce_only (a : AuthorizedRequest C) (start : Past C) :
    Ensures (AppliesOnlyFresh a start) start (runLockedOperationOnce a) fun _ _ => True := by
  have hread : ∀ past, AppliesOnlyFresh a start past .read := fun _ _ hc => nomatch hc
  refine (ensures_authorizedOperation_read hread a).bind fun past₁ loaded h₁ => ?_
  obtain ⟨db, rfl, hloaded⟩ := h₁
  split
  · rename_i operation
    refine ensures_of_forall fun past' hpast c permission _ => ?_
    obtain ⟨middle, rfl⟩ := hpast
    exact ⟨middle, db, operation, rfl, hloaded⟩
  · exact ensures_observeAndFreeze_only.bind fun _ _ _ => ensures_pure trivial
  · exact ensures_pure trivial

theorem not_fresh_git {c : Call C} (hprepare : ∀ receiver authorization,
    c ≠ .prepare receiver authorization) (hsend : ∀ permission, c ≠ .send permission) :
    SendsOnlyFresh b start past c := by
  rintro (⟨receiver, authorization, hc⟩ | ⟨permission, hc⟩)
  · exact absurd hc (hprepare receiver authorization)
  · exact absurd hc (hsend permission)

theorem sendsOnlyFresh_read (past : Past C) : SendsOnlyFresh b start past .read :=
  not_fresh_git (fun _ _ h => nomatch h) fun _ h => nomatch h

theorem sendsOnlyFresh_replace (x : Transition C) (past : Past C) :
    SendsOnlyFresh b start past (.replace x) :=
  not_fresh_git (fun _ _ h => nomatch h) fun _ h => nomatch h

theorem ensures_advanceAttempted_only {receiver : Option GitReceiver} (phase : GitPhase) :
    Ensures (SendsOnlyFresh b start) past (advanceAttempted b receiver phase) fun _ _ => True := by
  cases phase with
  | attempted acknowledgement =>
    cases receiver with
    | none => exact ensures_throw _
    | some receiver =>
      refine ensures_ask (not_fresh_git (fun _ _ h => nomatch h) fun _ h => nomatch h) fun seen => ?_
      refine Ensures.seq ?_ fun _ _ => (ensures_requireGitPhase sendsOnlyFresh_read).mono
        fun _ _ _ => trivial
      refine (ensures_gitWrite sendsOnlyFresh_read).bind fun past₁ found _ => ?_
      obtain ⟨original, phase⟩ := found
      cases phase with
      | attempted retained =>
        exact ensures_checked fun _ _ => ensures_ask (sendsOnlyFresh_replace _ _) fun _ =>
          ensures_check fun _ _ => trivial
      | _ => exact ensures_throw _
  | _ => exact ensures_pure trivial

theorem ensures_advanceObserved_only {signing : Option ReceiptSettings} (phase : GitPhase) :
    Ensures (SendsOnlyFresh b start) past (advanceObserved b signing phase) fun _ _ => True := by
  cases phase with
  | observed acknowledgement seen =>
    cases signing with
    | none => exact ensures_pure trivial
    | some settings =>
      refine ensures_checked fun bytes _ => ?_
      refine Ensures.seq ?_ fun _ _ => (ensures_requireGitPhase sendsOnlyFresh_read).mono
        fun _ _ _ => trivial
      refine (ensures_gitWrite sendsOnlyFresh_read).bind fun past₁ found _ => ?_
      obtain ⟨original, phase⟩ := found
      cases phase with
      | observed acknowledgement seen =>
        exact ensures_checked fun _ _ => ensures_checked fun _ _ =>
          ensures_ask (sendsOnlyFresh_replace _ _) fun _ => ensures_check fun _ _ => trivial
      | _ => exact ensures_throw _
  | _ => exact ensures_pure trivial

/-- **A pass of `advance`** prepares and sends only if it started from an authorized row. -/
theorem ensures_advance_only (b : GitBinding C) (receiver : Option GitReceiver)
    (signing : Option ReceiptSettings) (start : Past C) :
    Ensures (SendsOnlyFresh b start) start (advance b receiver signing) fun _ _ => True := by
  refine (ensures_requireGitPhase sendsOnlyFresh_read).bind fun past₁ phase h₁ => ?_
  obtain ⟨-, db, record, rfl, hstored, hdecode⟩ := h₁
  refine ensures_checked fun _ _ => ?_
  by_cases hphase : phase = .authorized
  · subst hphase
    refine ensures_of_forall fun past' hpast c _ => ?_
    obtain ⟨middle, rfl⟩ := hpast
    exact ⟨middle, db, record, rfl, hstored, hdecode⟩
  · rw [advanceAuthorized, if_neg hphase]
    exact (ensures_pure trivial).seq fun past₂ phase₂ =>
      (ensures_advanceAttempted_only phase₂).seq fun past₃ phase₃ =>
        ensures_advanceObserved_only phase₃

end

/-! ## The dispatch theorems -/

section
variable {m : Event C}

/-- At a call of the adapter the row is attempted. -/
theorem row_of_apply (e : Execution C) (hm : m ∈ e.moments) {permission : DispatchPermission}
    {answer : Answer (.apply permission : Call C)}
    (hdeed : m.deed = .act ⟨.apply permission, answer⟩) :
    ∃ a : AuthorizedRequest C, permission.request = a.request ∧
      stored m.before.db .kubernetes a.request.operationId =
        some (phaseRecord a (.attempted permission.target none)) := by
  obtain ⟨earlier, -, -, hconforms⟩ := e.exists_conforms hm
  obtain ⟨entry, hactive, hallowed, -⟩ := hconforms.exchange hdeed
  have hsound := sound_of_conforms hconforms.tail.1
  obtain ⟨a, hrequest, hpending⟩ :=
    hsound.pending m.session entry hactive (granted permission) hallowed
  exact ⟨a, hrequest, hpending.row⟩

/-- At a send the row is attempted. -/
theorem row_of_send (e : Execution C) (hm : m ∈ e.moments) {permission : GitDispatchPermission}
    {answer : Answer (.send permission : Call C)}
    (hdeed : m.deed = .act ⟨.send permission, answer⟩) :
    ∃ b : GitBinding C, permission.prepared.authorization = b.authorization ∧
      stored m.before.db .git b.authorization.operationId =
        some (gitRecord b (.attempted none)) := by
  obtain ⟨earlier, -, -, hconforms⟩ := e.exists_conforms hm
  obtain ⟨entry, hactive, hallowed, -⟩ := hconforms.exchange hdeed
  have hsound := sound_of_conforms hconforms.tail.1
  obtain ⟨b, hauthorization, hpending⟩ :=
    hsound.pending m.session entry hactive (gitGranted permission) hallowed
  exact ⟨b, hauthorization, hpending.row⟩

/-- A session that starts from a row that has begun never dispatches for it. -/
theorem not_dispatches_of_begun (e : Execution C) {later earlier : List (Event C)} {s : ℕ}
    {entry : Entry} {w : World} (hsplit : e.moments = later ++ ⟨s, .start entry, w, w⟩ :: earlier)
    {t : Table} {id : Text} {r : Record t} (hr : stored w.db t id = some r)
    (hbegun : begun (r.value .state) = true) (hm : m ∈ later) (hs : m.session = s) :
    m.isOf (dispatches t id) = false := by
  have hconforms := e.conforms
  rw [hsplit] at hconforms
  cases hdeed : m.deed with
  | act x =>
    have hx := mem_history.mpr ⟨m, List.mem_append_left (⟨s, .start entry, w, w⟩ :: earlier) hm, hs,
      hdeed⟩
    rw [Moment.isOf, hdeed]
    exact (idle_of_begun hconforms hr hbegun x hx).2.2
  | start _ => rw [Moment.isOf, hdeed]
  | stop => rw [Moment.isOf, hdeed]

end

/-- **At most one Kubernetes dispatch.**  For every identity, over every run of any number of
handles: at most one permission is made and the adapter is called at most once; at that call
the row is in apply_started with `apply_attempted` set; a session that starts from a row in
apply_started, receiver_observed, finalized or not_attempted never calls the adapter for it;
and neither does any pass whose own first read did not show the row authorized. -/
theorem kubernetes_dispatched_at_most_once (e : Execution C) (id : Text) :
    occurrences (makesPermission .kubernetes id) e.moments ≤ 1 ∧
    occurrences (dispatches .kubernetes id) e.moments ≤ 1 ∧
    (∀ m ∈ e.moments, ∀ permission answer, m.deed = .act ⟨.apply permission, answer⟩ →
      ∃ r, stored m.before.db .kubernetes permission.request.operationId = some r ∧
        r.value .state = .text (utf8 "apply_started") ∧ r.value .applyAttempted = .integer 1) ∧
    (∀ later earlier s entry w, e.moments = later ++ ⟨s, .start entry, w, w⟩ :: earlier →
      ∀ r, stored w.db .kubernetes id = some r → r.value .state ∈ begunStates →
        ∀ m ∈ later, m.session = s → m.isOf (dispatches .kubernetes id) = false) ∧
    ∀ (a : AuthorizedRequest C) (start : Past C),
      (runLockedOperationOnce a).run.Meets (AppliesOnlyFresh a start) start fun _ _ => True := by
  refine ⟨permissions_le_one e.conforms _ id, dispatches_le_one e.conforms _ id, ?_, ?_, ?_⟩
  · intro m hm permission answer hdeed
    obtain ⟨a, hrequest, hrow⟩ := row_of_apply e hm hdeed
    rw [hrequest]
    exact ⟨_, hrow, rfl, rfl⟩
  · intro later earlier s entry w hsplit r hr hbegun m hm hs
    exact not_dispatches_of_begun e hsplit hr (List.contains_iff_mem.mpr hbegun) hm hs
  · intro a start
    exact Meets.mono (ensures_runLockedOperationOnce_only a start) fun _ _ _ => trivial

/-- **At most one Git send.**  For every identity, over every run: at most one permission is
made and the receiver is sent to at most once; at that send the row is in apply_started; a
session that starts from a row in apply_started, receiver_observed, finalized or
not_attempted never sends for it; and a pass of `advance` whose own first read did not show
the row authorized neither prepares nor sends. -/
theorem git_sent_at_most_once (e : Execution C) (id : Text) :
    occurrences (makesPermission .git id) e.moments ≤ 1 ∧
    occurrences (dispatches .git id) e.moments ≤ 1 ∧
    (∀ m ∈ e.moments, ∀ permission answer, m.deed = .act ⟨.send permission, answer⟩ →
      ∃ r, stored m.before.db .git permission.prepared.authorization.operationId = some r ∧
        r.value .state = .text (utf8 "apply_started")) ∧
    (∀ later earlier s entry w, e.moments = later ++ ⟨s, .start entry, w, w⟩ :: earlier →
      ∀ r, stored w.db .git id = some r → r.value .state ∈ begunStates →
        ∀ m ∈ later, m.session = s → m.isOf (dispatches .git id) = false) ∧
    ∀ (b : GitBinding C) (receiver : Option GitReceiver) (signing : Option ReceiptSettings)
      (start : Past C),
      (advance b receiver signing).run.Meets (SendsOnlyFresh b start) start fun _ _ => True := by
  refine ⟨permissions_le_one e.conforms _ id, dispatches_le_one e.conforms _ id, ?_, ?_, ?_⟩
  · intro m hm permission answer hdeed
    obtain ⟨b, hauthorization, hrow⟩ := row_of_send e hm hdeed
    rw [hauthorization]
    exact ⟨_, hrow, rfl⟩
  · intro later earlier s entry w hsplit r hr hbegun m hm hs
    exact not_dispatches_of_begun e hsplit hr (List.contains_iff_mem.mpr hbegun) hm hs
  · intro b receiver signing start
    exact Meets.mono (ensures_advance_only b receiver signing start) fun _ _ _ => trivial

end Gateway
end Kapsel
