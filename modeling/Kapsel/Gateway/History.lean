import Kapsel.Gateway.Sessions
import Kapsel.Gateway.World

/-!
# The invariant of all interleavings

`Sound moments w` is what holds after the moments of any run.  The database is lawful and
has evolved from what it was at every earlier moment; a read showed the database of its
moment; a live session that was granted the lease is its holder; and a live session whose
newest act is a confirmed attempt, or the permission or the call that follow it, still
finds its row attempted and without a response.

The last part is where the lease is needed.  Only the writers that a lease holder may use
touch an attempted row, so nobody but the session itself can have moved it on.

`Sound.moves` is the step lemma: a write that the protocol permits and that commits takes
a row along an edge.  `sound_of_conforms` is the run lemma, by induction on the moments.
-/

namespace Kapsel

open Grammar Fallible Authority Interaction Interaction.Program Relation

namespace Gateway

open Journal

variable {C : Crypto}

/-! ## Attempts in progress -/

/-- The session holds the lease, and the row is attempted and without a response. -/
structure AttemptPending (w : World) (s : ℕ) (a : AuthorizedRequest C)
    (target : ValidatedTargetIdentity) : Prop where
  holder : w.holder = some s
  row : stored w.db .kubernetes a.request.operationId =
    some (phaseRecord a (.attempted target none))

/-- The session holds the lease, and the Git row is attempted and without an acknowledgement. -/
structure GitAttemptPending (w : World) (s : ℕ) (b : GitBinding C) : Prop where
  holder : w.holder = some s
  row : stored w.db .git b.authorization.operationId = some (gitRecord b (.attempted none))

/-- What the newest act of a live session says of the world. -/
def Pending (w : World) (s : ℕ) (y : Exchange (Call C) Answer) : Prop :=
  match y with
  | ⟨.replace (.markApplyStarted _ operation target), answer⟩ => answer = Except.ok () →
      ∃ a : AuthorizedRequest C, operation.request.request = a.request ∧
        AttemptPending w s a target
  | ⟨.grantPermission permission, _⟩ => ∃ a : AuthorizedRequest C,
      permission.request = a.request ∧ AttemptPending w s a permission.target
  | ⟨.apply permission, _⟩ => ∃ a : AuthorizedRequest C,
      permission.request = a.request ∧ AttemptPending w s a permission.target
  | ⟨.replace (.beginGitAttempt _ b), answer⟩ => answer = Except.ok () → GitAttemptPending w s b
  | ⟨.grantGitPermission permission, _⟩ => ∃ b : GitBinding C,
      permission.prepared.authorization = b.authorization ∧ GitAttemptPending w s b
  | ⟨.send permission, _⟩ => ∃ b : GitBinding C,
      permission.prepared.authorization = b.authorization ∧ GitAttemptPending w s b
  | _ => True

/-- What holds after the moments of a run. -/
structure Sound (moments : List (Event C)) (w : World) : Prop where
  lawful : Lawful C w.db
  past : ∀ m ∈ moments, Lawful C m.before.db ∧ Evolves C m.before.db m.after.db ∧
    Evolves C m.after.db w.db
  reads : ∀ m ∈ moments, ∀ db, m.deed = .act (readOf db) → db = m.before.db
  lease : ∀ s entry, active s moments = some entry → Held (history s moments) →
    w.holder = some s
  pending : ∀ s entry, active s moments = some entry →
    ∀ y, lastAct (history s moments) = some y → Pending w s y

section
variable {moments : List (Event C)} {w : World} {s : ℕ} {entry : Entry}
  {a : AuthorizedRequest C} {x : Transition C}

theorem Sound.evolves (h : Sound moments w) {m : Event C} (hm : m ∈ moments) :
    Evolves C m.before.db w.db := (h.past m hm).2.1.trans (h.past m hm).2.2

/-- **An authenticated read** showed the row of the request as it was then. -/
theorem Sound.shows (h : Sound moments w) {loaded : LoadedOperation}
    (hshows : Shows (history s moments) a loaded) :
    ∃ db p, Evolves C db w.db ∧
      stored db .kubernetes a.request.operationId = some (phaseRecord a p) ∧ p.Valid a ∧
      decode C (phaseRecord a p) = .ok loaded := by
  obtain ⟨db, hread, hauthorized⟩ := hshows
  obtain ⟨m, hm, -, hdeed⟩ := mem_history.mp hread
  obtain rfl := h.reads m hm db hdeed
  obtain ⟨hlawful, -, -⟩ := h.past m hm
  obtain ⟨r, hstored, hdecode, hgrant⟩ := authorizedRecordOn_eq_ok hauthorized
  obtain ⟨a', p, -, rfl, hvalid⟩ := hlawful.phase hstored
  obtain rfl := eq_of_grant_value hgrant
  exact ⟨m.before.db, p, h.evolves hm, hstored, hvalid, hdecode⟩

/-- The row that an authenticated read showed is still that of the request. -/
theorem Sound.stored_of_shows (h : Sound moments w) {loaded : LoadedOperation}
    (hshows : Shows (history s moments) a loaded) :
    ∃ p, stored w.db .kubernetes a.request.operationId = some (phaseRecord a p) := by
  obtain ⟨db, p, hevolves, hstored, -, -⟩ := h.shows hshows
  obtain ⟨r', hr', hnext⟩ := hevolves _ _ _ hstored
  obtain ⟨p', rfl⟩ := eq_phaseRecord_of_next hnext
  exact ⟨p', hr'⟩

/-- A row is authorized for the request it was inserted for. -/
theorem Sound.markAuthorized_same (h : Sound moments w) {p : Phase} {a' : AuthorizedRequest C}
    (hstored : stored w.db .kubernetes a.request.operationId = some (phaseRecord a p))
    (hvalid : p.Valid a)
    (hguarded : (Transition.markAuthorized (phaseRecord a p) a').Guarded)
    (hlicensed : Licensed (history s moments) (.markAuthorized (phaseRecord a p) a')) :
    a' = a := by
  obtain ⟨operation, hdecode, hrequest⟩ := hguarded
  obtain ⟨loaded, hshows⟩ := hlicensed
  obtain ⟨rfl, rfl⟩ := phase_of_requested hvalid hdecode
  obtain ⟨p', hstored'⟩ := h.stored_of_shows hshows
  have hsame : a.request = a'.request := hrequest
  rw [← hsame, hstored] at hstored'
  exact (eq_of_phaseRecord_eq (Option.some.inj hstored')).symm

/-- A response is recorded once: whoever records one has just been answered, and finds its
row without a response. -/
theorem Sound.response_eq_none (h : Sound moments w) (hactive : active s moments = some entry)
    {p : Phase} {started : ApplyStartedOperation} {outcome : ApplyOutcome}
    (hstored : stored w.db .kubernetes a.request.operationId = some (phaseRecord a p))
    (hvalid : p.Valid a)
    (hguarded : (Transition.recordApplyOutcome (C := C) (phaseRecord a p) started outcome).Guarded)
    (hlicensed : Licensed (history s moments)
      (.recordApplyOutcome (phaseRecord a p) started outcome)) : p.response = none := by
  obtain ⟨-, permission, a', operation, hlast, hpermission, hauthorized, hstarted⟩ := hlicensed
  obtain ⟨target, response, rfl, rfl⟩ := phase_of_applyStarted hvalid hguarded.1
  -- both reads were of the row of `a'`, so `a'` and the permission have the request of `a`
  obtain ⟨_, p₁, -, -, hvalid₁, hdecode₁⟩ := h.shows hauthorized
  obtain ⟨-, rfl⟩ := phase_of_authorized hvalid₁ hdecode₁
  obtain ⟨_, p₂, -, -, hvalid₂, hdecode₂⟩ := h.shows hstarted
  obtain ⟨target₂, response₂, -, hsame⟩ := phase_of_applyStarted hvalid₂ hdecode₂
  have hrequest : a.request = a'.request :=
    congrArg (fun o : ApplyStartedOperation => o.authorized.request.request) hsame
  obtain ⟨a'', hrequest'', hpending⟩ := h.pending s entry hactive _ hlast
  have hrow := hpending.row
  have hid : a''.request = a.request := (hrequest''.symm.trans hpermission.symm).trans hrequest.symm
  rw [hid, hstored] at hrow
  obtain rfl := eq_of_phaseRecord_eq (Option.some.inj hrow)
  have hcolumn := congrArg (fun r => Record.value r .applyAccepted) (Option.some.inj hrow)
  cases response with
  | none => rfl
  | some response => cases hcolumn

/-- **The step lemma**: a permitted write that commits takes a row along an edge. -/
theorem Sound.moves (h : Sound moments w) (hactive : active s moments = some entry)
    (hguarded : x.Guarded) (hlicensed : Licensed (history s moments) x) {db' : Database}
    (hcommit : Commit x w.db db') :
    ∃ t id before after, Commits w.db db' (t := t) id before after ∧ Moves x t before after := by
  obtain ⟨id, hcommits⟩ := replaceSqlite_eq_ok hcommit
  generalize hx : x.replacement = replacement at hcommits
  obtain ⟨t, expected, next⟩ := replacement
  refine ⟨t, id, expected, next, hcommits, ?_⟩
  have hbefore := hcommits.before
  cases t with
  | kubernetes =>
    cases expected with
    | none =>
      cases x with
      | insertRequested a =>
        cases hx
        rw [requestedRecord_phase]
        exact .insertRequested a
      | _ => cases hx
    | some r =>
      obtain ⟨a, p, rfl, rfl, hvalid⟩ := h.lawful.phase hbefore
      obtain ⟨p', hadvances, hvalid', rfl⟩ := advances_of_guarded hguarded hvalid hx
        (fun expected a' hmark => by
          subst hmark
          cases hx
          exact h.markAuthorized_same hbefore hvalid hguarded hlicensed)
        (fun expected operation outcome hrecord => by
          subst hrecord
          cases hx
          exact h.response_eq_none hactive hbefore hvalid hguarded hlicensed)
      exact .advance hadvances hvalid'
  | git =>
    cases expected with
    | none =>
      cases x with
      | insertGit b =>
        cases hx
        rw [gitAuthorizedRecord_phase]
        exact .insertGit b
      | _ => cases hx
    | some r =>
      obtain ⟨b, p, -, rfl, hvalid⟩ := h.lawful.gitPhase hbefore
      obtain ⟨p', hadvances, hvalid', rfl⟩ := gitAdvances_of_guarded hguarded hvalid hx
      exact .gitAdvance hadvances hvalid'

/-! ## Nobody else touches an attempted row -/

theorem held_of_advances {past : Past C} {p p' : Phase} (h : Advances x a p p')
    (hlicensed : Licensed past x) : p = .requested ∨ Held past := by
  cases h with
  | markAuthorized => exact .inl rfl
  | markNotAttempted => exact .inr hlicensed.1
  | markStaleApproval => exact .inr hlicensed
  | markApplyStarted => exact .inr hlicensed
  | recordApplyOutcome => exact .inr hlicensed.1
  | freezeObservation => exact .inr hlicensed
  | commitReceipt => exact .inr hlicensed

theorem held_of_gitAdvances {past : Past C} {b : GitBinding C} {p p' : GitPhase}
    (h : GitAdvances x b p p') (hlicensed : Licensed past x) : Held past := by
  cases h with
  | beginGitAttempt => exact hlicensed
  | rejectGit => exact hlicensed
  | recordGitAcknowledgement => exact hlicensed.1
  | freezeGitObservation => exact hlicensed
  | commitGitReceipt => exact hlicensed

theorem AttemptPending.of_moves {past : Past C} {t : ℕ} {target : ValidatedTargetIdentity}
    {w' : World} {table : Table} {id : Text} {before : Option (Record table)}
    {after : Record table} (hpending : AttemptPending w t a target)
    (hcommits : Commits w.db w'.db id before after) (hmoves : Moves x table before after)
    (hholder : w'.holder = w.holder) (hlicensed : Licensed past x)
    (hlease : Held past → w.holder ≠ some t) : AttemptPending w' t a target := by
  refine ⟨hholder.trans hpending.holder, ?_⟩
  rw [stored_of_commits hcommits, hpending.row]
  rintro rfl rfl
  have hbefore := hcommits.before.symm.trans hpending.row
  cases hmoves with
  | insertRequested => cases hbefore
  | advance hadvances _ =>
    rcases held_of_advances hadvances hlicensed with rfl | hheld
    · cases congrArg (fun r => Record.value r .applyAttempted) (Option.some.inj hbefore)
    · exact hlease hheld hpending.holder

theorem GitAttemptPending.of_moves {past : Past C} {t : ℕ} {b : GitBinding C} {w' : World}
    {table : Table} {id : Text} {before : Option (Record table)} {after : Record table}
    (hpending : GitAttemptPending w t b) (hcommits : Commits w.db w'.db id before after)
    (hmoves : Moves x table before after) (hholder : w'.holder = w.holder)
    (hlicensed : Licensed past x) (hlease : Held past → w.holder ≠ some t) :
    GitAttemptPending w' t b := by
  refine ⟨hholder.trans hpending.holder, ?_⟩
  rw [stored_of_commits hcommits, hpending.row]
  rintro rfl rfl
  have hbefore := hcommits.before.symm.trans hpending.row
  cases hmoves with
  | insertGit => cases hbefore
  | gitAdvance hadvances _ =>
    exact hlease (held_of_gitAdvances hadvances hlicensed) hpending.holder

/-- A change of the world that keeps every pending attempt of a session keeps what its newest
act says. -/
theorem Pending.mono {w' : World} {t : ℕ} {y : Exchange (Call C) Answer}
    (h : Pending w t y)
    (hkubernetes : ∀ (a : AuthorizedRequest C) target, AttemptPending w t a target →
      AttemptPending w' t a target)
    (hgit : ∀ b : GitBinding C, GitAttemptPending w t b → GitAttemptPending w' t b) :
    Pending w' t y := by
  obtain ⟨call, answer⟩ := y
  cases call with
  | replace x =>
    cases x with
    | markApplyStarted expected operation target =>
      intro hanswer
      obtain ⟨a, ha, hpending⟩ := h hanswer
      exact ⟨a, ha, hkubernetes a _ hpending⟩
    | beginGitAttempt original b => exact fun hanswer => hgit b (h hanswer)
    | _ => trivial
  | grantPermission permission =>
    obtain ⟨a, ha, hpending⟩ := h
    exact ⟨a, ha, hkubernetes a _ hpending⟩
  | apply permission =>
    obtain ⟨a, ha, hpending⟩ := h
    exact ⟨a, ha, hkubernetes a _ hpending⟩
  | grantGitPermission permission =>
    obtain ⟨b, hb, hpending⟩ := h
    exact ⟨b, hb, hgit b hpending⟩
  | send permission =>
    obtain ⟨b, hb, hpending⟩ := h
    exact ⟨b, hb, hgit b hpending⟩
  | _ => trivial

/-! ## The run lemma -/

/-- What the act of a session says of the world after it. -/
theorem Sound.pending_act (h : Sound moments w) (hactive : active s moments = some entry)
    {c : Call C} {answer : Answer c} {w' : World}
    (hallowed : allowed entry (history s moments) c) (hreacts : reacts w s c answer w') :
    Pending w' s ⟨c, answer⟩ := by
  have hlast := h.pending s entry hactive
  cases c with
  | replace x =>
    obtain ⟨hguarded, hlicensed⟩ := hallowed
    cases x with
    | markApplyStarted expected operation target =>
      intro hanswer
      obtain ⟨hcommit, hholder⟩ := commit_of_confirmed hreacts hanswer
      obtain ⟨t, id, before, after, hcommits, hmoves⟩ :=
        h.moves hactive hguarded hlicensed hcommit
      cases hmoves with
      | advance hadvances _ =>
        cases hadvances
        obtain rfl := id_of_phaseRecord hcommits
        exact ⟨_, rfl, hholder.trans (h.lease s entry hactive hlicensed), hcommits.after⟩
      | gitAdvance hadvances _ => cases hadvances
    | beginGitAttempt original b =>
      intro hanswer
      obtain ⟨hcommit, hholder⟩ := commit_of_confirmed hreacts hanswer
      obtain ⟨t, id, before, after, hcommits, hmoves⟩ :=
        h.moves hactive hguarded hlicensed hcommit
      cases hmoves with
      | advance hadvances _ => cases hadvances
      | gitAdvance hadvances _ =>
        cases hadvances
        obtain rfl := id_of_gitRecord hcommits
        exact ⟨hholder.trans (h.lease s entry hactive hlicensed), hcommits.after⟩
    | _ => trivial
  | grantPermission permission =>
    obtain rfl : w' = w := hreacts
    obtain ⟨expected, operation, a, hstarted, hrequest, -⟩ := hallowed
    obtain ⟨a', ha', hpending⟩ := hlast _ hstarted rfl
    exact ⟨a', hrequest.trans ha', hpending⟩
  | apply permission =>
    obtain rfl : w' = w := hreacts
    exact hlast (granted permission) hallowed
  | grantGitPermission permission =>
    obtain rfl : w' = w := hreacts
    obtain ⟨original, b, hstarted, hauthorization⟩ := hallowed
    exact ⟨b, hauthorization, hlast _ hstarted rfl⟩
  | send permission =>
    obtain rfl : w' = w := hreacts
    exact hlast (gitGranted permission) hallowed
  | _ => trivial

/-- One exchange keeps the invariant. -/
theorem Sound.act (h : Sound moments w) (hactive : active s moments = some entry) {c : Call C}
    {answer : Answer c} {w' : World} (hallowed : allowed entry (history s moments) c)
    (hreacts : reacts w s c answer w') :
    Sound (⟨s, .act ⟨c, answer⟩, w, w'⟩ :: moments) w' := by
  -- the writes: what became of the rows, and of the attempts of the other sessions
  have hdb : Lawful C w'.db ∧ Evolves C w.db w'.db ∧ ∀ t ≠ s,
      (∀ (a : AuthorizedRequest C) target, AttemptPending w t a target →
        AttemptPending w' t a target) ∧
      ∀ b : GitBinding C, GitAttemptPending w t b → GitAttemptPending w' t b := by
    rcases reacts_cases hreacts with rfl | ⟨x, rfl, hcommit, hholder⟩ | ⟨-, hfree, rfl⟩
    · exact ⟨h.lawful, Evolves.refl _, fun t _ => ⟨fun _ _ hp => hp, fun _ hp => hp⟩⟩
    · obtain ⟨hguarded, hlicensed⟩ := hallowed
      obtain ⟨t, id, before, after, hcommits, hmoves⟩ := h.moves hactive hguarded hlicensed hcommit
      refine ⟨h.lawful.moves hcommits hmoves, evolves_of_moves hcommits hmoves, fun t' ht' => ?_⟩
      have hlease : Held (history s moments) → w.holder ≠ some t' := fun hheld hother =>
        ht' (Option.some.inj (hother.symm.trans (h.lease s entry hactive hheld)))
      exact ⟨fun a target hp => hp.of_moves hcommits hmoves hholder hlicensed hlease,
        fun b hp => hp.of_moves hcommits hmoves hholder hlicensed hlease⟩
    · refine ⟨h.lawful, Evolves.refl _, fun t _ => ⟨fun a target hp => ?_, fun b hp => ?_⟩⟩
      · cases hfree.symm.trans hp.holder
      · cases hfree.symm.trans hp.holder
  obtain ⟨hlawful, hevolves, hothers⟩ := hdb
  refine ⟨hlawful, ?_, ?_, ?_, ?_⟩
  · intro m hm
    rcases List.mem_cons.mp hm with rfl | hm
    · exact ⟨h.lawful, hevolves, Evolves.refl _⟩
    · exact ⟨(h.past m hm).1, (h.past m hm).2.1, (h.past m hm).2.2.trans hevolves⟩
  · intro m hm db hdeed
    rcases List.mem_cons.mp hm with rfl | hm
    · cases hdeed
      exact hreacts.2 db rfl
    · exact h.reads m hm db hdeed
  · intro t entry' hactive' hheld
    rw [active_act] at hactive'
    by_cases hts : s = t
    · subst hts
      rw [history_act_self] at hheld
      rcases List.mem_cons.mp hheld with hleased | hheld
      · exact holder_of_leased hreacts hleased.symm
      · exact holder_of_reacts hreacts (h.lease s entry' hactive' hheld)
    · rw [history_act_of_ne hts] at hheld
      exact holder_of_reacts hreacts (h.lease t entry' hactive' hheld)
  · intro t entry' hactive' y hy
    rw [active_act] at hactive'
    by_cases hts : s = t
    · subst hts
      rw [history_act_self] at hy
      cases hread : isRead (⟨c, answer⟩ : Exchange (Call C) Answer) with
      | false =>
        obtain rfl := Option.some.inj ((latest_cons_of_not_silent hread).symm.trans hy)
        exact h.pending_act hactive hallowed hreacts
      | true =>
        rw [lastAct, latest_cons_of_silent hread] at hy
        cases c with
        | read =>
          obtain rfl : w' = w := hreacts.1
          exact h.pending s entry' hactive' y hy
        | _ => cases hread
    · rw [history_act_of_ne hts] at hy
      obtain ⟨hkubernetes, hgit⟩ := hothers t (Ne.symm hts)
      exact (h.pending t entry' hactive' y hy).mono hkubernetes hgit

theorem Sound.start (h : Sound moments w) (hfresh : ∀ m ∈ moments, m.session ≠ s) :
    Sound (⟨s, .start entry, w, w⟩ :: moments) w := by
  have hnil := history_eq_nil_of_fresh hfresh
  refine ⟨h.lawful, ?_, ?_, ?_, ?_⟩
  · intro m hm
    rcases List.mem_cons.mp hm with rfl | hm
    · exact ⟨h.lawful, Evolves.refl _, Evolves.refl _⟩
    · exact h.past m hm
  · intro m hm db hdeed
    rcases List.mem_cons.mp hm with rfl | hm
    · cases hdeed
    · exact h.reads m hm db hdeed
  · intro t entry' hactive hheld
    rw [history_start] at hheld
    by_cases hts : s = t
    · subst hts
      rw [hnil] at hheld
      cases hheld
    · rw [active_of_ne hts] at hactive
      exact h.lease t entry' hactive hheld
  · intro t entry' hactive y hy
    rw [history_start] at hy
    by_cases hts : s = t
    · subst hts
      rw [hnil] at hy
      cases hy
    · rw [active_of_ne hts] at hactive
      exact h.pending t entry' hactive y hy

/-- A session that is gone takes only its own lease with it. -/
theorem Sound.stop (h : Sound moments w) {w' : World} (hleaves : leaves w s w') :
    Sound (⟨s, .stop, w, w'⟩ :: moments) w' := by
  obtain rfl := hleaves
  have hkeep : ∀ {t : ℕ}, s ≠ t → w.holder = some t →
      (if w.holder = some s then none else w.holder) = some t := by
    intro t hts hholder
    rw [if_neg, hholder]
    rw [hholder]
    exact fun hsame => hts (Option.some.inj hsame).symm
  refine ⟨h.lawful, ?_, ?_, ?_, ?_⟩
  · intro m hm
    rcases List.mem_cons.mp hm with rfl | hm
    · exact ⟨h.lawful, Evolves.refl _, Evolves.refl _⟩
    · exact h.past m hm
  · intro m hm db hdeed
    rcases List.mem_cons.mp hm with rfl | hm
    · cases hdeed
    · exact h.reads m hm db hdeed
  · intro t entry' hactive hheld
    rw [history_stop] at hheld
    by_cases hts : s = t
    · subst hts
      cases active_stop_self.symm.trans hactive
    · rw [active_of_ne hts] at hactive
      exact hkeep hts (h.lease t entry' hactive hheld)
  · intro t entry' hactive y hy
    rw [history_stop] at hy
    by_cases hts : s = t
    · subst hts
      cases active_stop_self.symm.trans hactive
    · rw [active_of_ne hts] at hactive
      refine (h.pending t entry' hactive y hy).mono (fun a target hp => ⟨?_, hp.row⟩)
        fun b hp => ⟨?_, hp.row⟩
      · exact hkeep hts hp.holder
      · exact hkeep hts hp.holder

end

/-- **The run lemma**: the invariant holds after every interleaving that keeps to the
protocol. -/
theorem sound_of_conforms {moments : List (Event C)} {w : World}
    (h : Conforms (environment C) allowed moments w) : Sound moments w := by
  induction h with
  | initial =>
    exact ⟨lawful_empty, fun _ hm => absurd hm List.not_mem_nil,
      fun _ hm => absurd hm List.not_mem_nil, fun _ _ hactive => (nomatch hactive),
      fun _ _ hactive => (nomatch hactive)⟩
  | start s entry _ hfresh ih => exact ih.start hfresh
  | act s _ hactive hallowed hreacts ih => exact ih.act hactive hallowed hreacts
  | stop s _ _ hleaves ih => exact ih.stop hleaves

/-- A run of any number of sessions of any number of handles on one journal, empty at first,
with whatever the storage, the adapters and the receivers did. -/
structure Execution (C : Crypto) where
  moments : List (Event C)
  world : World
  run : ∃ live, Run (environment C) (Entry.program C) moments world live

theorem Execution.conforms (e : Execution C) :
    Conforms (environment C) allowed e.moments e.world := by
  obtain ⟨live, hrun⟩ := e.run
  exact (hrun.conforms program_meets).1

theorem Execution.sound (e : Execution C) : Sound e.moments e.world :=
  sound_of_conforms e.conforms

/-- A moment of a run, with the moments before it. -/
theorem Execution.exists_conforms (e : Execution C) {m : Event C} (hm : m ∈ e.moments) :
    ∃ earlier later, e.moments = later ++ m :: earlier ∧
      Conforms (environment C) allowed (m :: earlier) m.after := by
  obtain ⟨later, earlier, hsplit⟩ := List.append_of_mem hm
  refine ⟨earlier, later, hsplit, ?_⟩
  have hconforms := e.conforms
  rw [hsplit] at hconforms
  exact hconforms.of_append

end Gateway
end Kapsel
