import Kapsel.Gateway.Acknowledgement
import Kapsel.Journal.Capacity

/-!
# The journal is never over its capacity

The bounds are checked at one place, inside the transaction of an insertion.  Everything else
that a run does must therefore leave them alone: an update keeps the number of identities, and it
never makes a finished row unfinished, because no edge of a lifecycle leads back.

`weight_of_rowNext` is what one edge does to the count, `counts_of_moves` what one commit does,
and `within_of_conforms` is the bound over every interleaving, by induction on the moments.
-/

namespace Kapsel

open Grammar Fallible Authority Interaction Interaction.Program

namespace Gateway

open Journal Application

variable {C : Crypto}

/-! ## One commit -/

/-- One for a row in a terminal state. -/
def terminalWeight (row : Column → Value) : ℕ := if terminalStates.contains (row .state) then 1 else 0

section
variable {t : Table} {db db' : Database} {x : Transition C}

/-- **No edge makes a finished row unfinished**: the row is counted as long as it has not reached a
terminal state, and no longer. -/
theorem weight_of_rowNext {r r' : Record t} (h : RowNext C t r r') :
    unfinishedWeight r'.value + terminalWeight r'.value = unfinishedWeight r.value := by
  cases h with
  | kubernetes a hnext => cases hnext <;> rfl
  | git b hnext => cases hnext <;> rfl

/-- A row is admitted unfinished. -/
theorem weight_of_insertion {after : Record t} (h : Moves x t none after) :
    unfinishedWeight after.value = 1 := by
  cases h with
  | insertRequested a => rfl
  | insertGit b => rfl

/-- **What one commit does to the two counts.** -/
theorem counts_of_moves {before : Option (Record t)} {after : Record t}
    (hmoves : Moves x t before after) (hcommit : Commit x db db') :
    match before with
    | none => HasRoom db ∧ counts db' = ((counts db).1 + 1, (counts db).2 + 1)
    | some _ => (counts db').1 = (counts db).1 ∧
        (counts db').2 + terminalWeight after.value = (counts db).2 := by
  have hreplace : replaceSqlite db before after = .ok db' := by
    unfold Commit at hcommit
    rw [replacement_of_moves hmoves] at hcommit
    exact hcommit
  cases before with
  | none =>
    obtain ⟨hroom, hretained, hunfinished⟩ := counts_of_insert hreplace
    rw [weight_of_insertion hmoves] at hunfinished
    exact ⟨hroom, Prod.ext hretained hunfinished⟩
  | some r =>
    obtain ⟨hretained, hunfinished⟩ := counts_of_update hreplace
    have hweight := weight_of_rowNext (hmoves.rowNext r rfl)
    refine ⟨hretained, ?_⟩
    omega

end

/-! ## Every run -/

/-- The counts are within their bounds. -/
def WithinCapacity (db : Database) : Prop := (counts db).1 ≤ 504 ∧ (counts db).2 ≤ 32

theorem requireRetainedBounds_eq_ok {db : Database} :
    requireRetainedBounds db = .ok () ↔ WithinCapacity db := by
  rw [requireRetainedBounds, require_eq_ok, Bool.and_eq_true, decide_eq_true_eq, decide_eq_true_eq]
  rfl

/-- **The bounds hold after every interleaving.** -/
theorem within_of_conforms {moments : List (Event C)} {w : World}
    (h : Conforms (environment C) allowed moments w) : WithinCapacity w.db := by
  induction h with
  | initial => exact ⟨Nat.zero_le _, Nat.zero_le _⟩
  | start _ _ _ _ ih => exact ih
  | stop _ _ _ hleaves ih =>
    obtain rfl := hleaves
    exact ih
  | @act moments w s entry c a w' hconforms hactive hallowed hreacts ih =>
    rcases reacts_cases hreacts with rfl | ⟨x, rfl, hcommit, -⟩ | ⟨-, -, rfl⟩
    · exact ih
    · obtain ⟨t, id, before, after, -, hmoves⟩ :=
        (sound_of_conforms hconforms).moves hactive hallowed.1 hallowed.2 hcommit
      have hcounts := counts_of_moves hmoves hcommit
      cases before with
      | none =>
        obtain ⟨hroom, hnew⟩ := hcounts
        obtain ⟨hretained, hunfinished⟩ := hroom
        unfold WithinCapacity
        rw [hnew]
        exact ⟨hretained, hunfinished⟩
      | some r =>
        obtain ⟨hretained, hunfinished⟩ := hcounts
        unfold WithinCapacity at ih ⊢
        omega
    · exact ih

/-! ## Admissions -/

section
variable {e : Execution C} {m : Event C}

/-- **A full journal refuses a fresh identity and stays as it was.** -/
theorem Execution.refused_of_full (e : Execution C) (hm : m ∈ e.moments) {x : Transition C}
    {answer : Except GatewayError Unit} (hdeed : m.deed = .act ⟨.replace x, answer⟩)
    (hinsert : x.replacement.expected.isNone = true) {id : Text}
    (hid : x.replacement.next.value .operationId = .text id)
    (hfresh : ∀ t, stored m.before.db t id = none) (hroom : ¬ HasRoom m.before.db) :
    replaceSqlite m.before.db x.replacement.expected x.replacement.next = .error .journalFull ∧
      m.after.db = m.before.db ∧
      (answer = .error .journalFull ∨ ∃ cause, answer = .error (.database cause)) := by
  have hfull : replaceSqlite m.before.db x.replacement.expected x.replacement.next =
      .error .journalFull := by
    rw [Option.isNone_iff_eq_none.mp hinsert]
    exact replaceSqlite_full hid (hfresh _) (hfresh _) hroom
  refine ⟨hfull, ?_⟩
  rcases e.reacts_of_mem hm hdeed with ⟨hcommit, -, -⟩ | ⟨hsame, error, herror, hrefused⟩
  · cases hfull.symm.trans hcommit
  · refine ⟨congrArg World.db hsame, ?_⟩
    rcases hrefused with ⟨cause, rfl⟩ | hown
    · exact .inr ⟨cause, herror⟩
    · obtain rfl := Except.error.inj (hfull.symm.trans hown)
      exact .inl herror

/-- The insertion of an approval is one of its own identity. -/
theorem Approval.admission_operationId (p : Approval C) :
    p.admission.replacement.next.value .operationId = .text p.operationId := by
  cases p with
  | kubernetes a => rfl
  | git b => rfl

/-- **Who is told that the journal is full named an identity that was in neither table.** -/
theorem Execution.absent_of_full (e : Execution C) {s : ℕ} {entry : Entry} {m₀ : Event C}
    (hm₀ : m₀ ∈ e.moments) (hs : m₀.session = s) (hstart : m₀.deed = .start entry) {id : Text}
    (hid : entry.command.identity = some id)
    (hfull : acknowledged .full ∈ history s e.moments) (t : Table) :
    stored m₀.before.db t id = none := by
  obtain ⟨newer, older, hhistory⟩ := List.append_of_mem hfull
  have hserving := Execution.serving_of_history ⟨m₀, hm₀, hs, hstart⟩
    (hhistory ▸ List.suffix_append newer (acknowledged .full :: older))
  rcases hserving with hread | ⟨hlock, -⟩ | ⟨p, own, start, rfl, hserves, hanswers⟩
  · cases hread
  · cases hlock
  · obtain ⟨rest, rfl, -⟩ := hanswers
    -- the insertion that the journal refused, and the moment of it
    have hrefused : history s e.moments = (newer ++ [acknowledged .full]) ++
        refused p.admission .journalFull :: (rest ++ start) := by
      rw [hhistory]
      simp
    obtain ⟨later, m, earlier, hsplit, hsession, hdeed, -⟩ := exists_moment_of_history hrefused
    have hm : m ∈ e.moments := by
      rw [hsplit]
      exact List.mem_append_right _ List.mem_cons_self
    have hbefore : m₀ ∈ earlier := by
      have hconforms := e.conforms
      rw [hsplit] at hconforms hm₀
      exact hconforms.start_mem hm₀ hstart (hsession.trans hs.symm) hdeed
    obtain ⟨-, herror⟩ := refused_of_error (e.reacts_of_mem hm hdeed) rfl (by
      rintro ⟨cause, hcause⟩
      cases hcause)
    obtain ⟨-, hnone, hother, -⟩ := absent_of_journalFull p.admission_operationId herror
    rw [hserves.operationId hid] at hnone hother
    -- a row that was there at the start would still be there
    have hevolves := (e.sound.past m₀ hm₀).2.1.trans (e.evolves_of_mem hsplit hbefore)
    cases hrow : stored m₀.before.db t id with
    | none => rfl
    | some r =>
      obtain ⟨r', hr', -⟩ := hevolves t id r hrow
      have habsent : stored m.before.db t id = none := by
        by_cases ht : t = p.admission.replacement.table
        · rw [ht]
          exact hnone
        · obtain rfl : t = p.admission.replacement.table.other := by
            revert ht
            generalize p.admission.replacement.table = t'
            cases t <;> cases t' <;> decide
          exact hother
      rw [habsent] at hr'
      cases hr'

end

/-! ## The main theorem -/

/-- **The capacity invariant.**  In every run: the journal retains at most 504 identities and at
most 32 unfinished ones, so that opening never rejects it for its counts; a commit that is not an
admission keeps the number of identities and takes exactly one from the unfinished ones when it
enters a terminal state, and none otherwise; an admission commits only while there is room, and
one without room for a fresh identity is refused and changes nothing; and no session that names
an identity which has a row is told that the journal is full. -/
theorem capacity_invariant (e : Execution C) :
    ((counts e.world.db).1 ≤ 504 ∧ (counts e.world.db).2 ≤ 32 ∧
      requireRetainedBounds e.world.db = .ok ()) ∧
    (∀ m ∈ e.moments, ∀ x, CommitsAt m x → x.replacement.expected.isSome = true →
      (counts m.after.db).1 = (counts m.before.db).1 ∧
        (x.replacement.next.value .state ∈ terminalStates →
          (counts m.after.db).2 + 1 = (counts m.before.db).2) ∧
        (x.replacement.next.value .state ∉ terminalStates →
          (counts m.after.db).2 = (counts m.before.db).2)) ∧
    (∀ m ∈ e.moments, ∀ x, CommitsAt m x → x.replacement.expected.isNone = true →
      HasRoom m.before.db) ∧
    (∀ m ∈ e.moments, ∀ x answer id, m.deed = .act ⟨.replace x, answer⟩ →
      x.replacement.expected.isNone = true →
      x.replacement.next.value .operationId = .text id →
      (∀ t, stored m.before.db t id = none) → ¬ HasRoom m.before.db →
      replaceSqlite m.before.db x.replacement.expected x.replacement.next = .error .journalFull ∧
        m.after.db = m.before.db ∧
        (answer = Except.error GatewayError.journalFull ∨
          ∃ cause, answer = Except.error (GatewayError.database cause))) ∧
    (∀ m ∈ e.moments, ∀ entry id t r, m.deed = .start entry →
      entry.command.identity = some id → stored m.before.db t id = some r →
      acknowledged .full ∉ history m.session e.moments) := by
  refine ⟨?_, ?_, ?_, ?_, ?_⟩
  · have hwithin := within_of_conforms e.conforms
    exact ⟨hwithin.1, hwithin.2, requireRetainedBounds_eq_ok.mpr hwithin⟩
  · intro m hm x hcommits hupdate
    obtain ⟨t, id, before, after, -, hmoves⟩ := e.moves hm hcommits
    have hcounts := counts_of_moves hmoves hcommits.2
    have hreplacement := replacement_of_moves hmoves
    rw [hreplacement] at hupdate ⊢
    cases before with
    | none => cases hupdate
    | some r =>
      obtain ⟨hretained, hunfinished⟩ := hcounts
      refine ⟨hretained, fun hterminal => ?_, fun hterminal => ?_⟩
      · rw [terminalWeight, if_pos (List.contains_iff_mem.mpr hterminal)] at hunfinished
        exact hunfinished
      · rw [terminalWeight, if_neg (fun h => hterminal (List.contains_iff_mem.mp h))] at hunfinished
        exact hunfinished
  · intro m hm x hcommits hinsert
    obtain ⟨t, id, before, after, -, hmoves⟩ := e.moves hm hcommits
    have hcounts := counts_of_moves hmoves hcommits.2
    rw [replacement_of_moves hmoves] at hinsert
    cases before with
    | none => exact hcounts.1
    | some r => cases hinsert
  · intro m hm x answer id hdeed hinsert hid hfresh hroom
    exact e.refused_of_full hm hdeed hinsert hid hfresh hroom
  · intro m hm entry id t r hstart hid hrow hfull
    have habsent := e.absent_of_full hm rfl hstart hid hfull t
    rw [hrow] at habsent
    cases habsent

end Gateway
end Kapsel
