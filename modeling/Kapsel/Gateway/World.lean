import Kapsel.Gateway.Advances
import Kapsel.Interaction.Interleaving

/-!
# The journal that the sessions share

The world is the database and the holder of the worker lease.  A read is answered with the
database as it is, or fails.  A write commits and is confirmed, or commits and is reported
as a storage error, or does not happen: the storage failed, or the transaction itself found
that it must not write.  The lease is granted when nobody holds it, and a session
that is gone does not hold it any more.  Everything else --- the adapter, the receiver, the
caller --- answers what it likes.

`Lawful` says that every row is the row of a valid phase of the request its grant
authorizes.  `Evolves` says what can have become of the rows: none is lost, each is still
that of the same grant, and its phase went along the edges of the lifecycle.  The last
section derives both from one commit.
-/

namespace Kapsel

open Grammar Fallible Authority Interaction Interaction.Program Relation

namespace Gateway

open Journal

variable {C : Crypto}

/-! ## The environment -/

/-- The shared world. -/
structure World where
  db : Database
  holder : Option ℕ

/-- The write commits. -/
def Commit (x : Transition C) (db db' : Database) : Prop :=
  replaceSqlite db x.replacement.expected x.replacement.next = .ok db'

/-- A storage error: the one kind of error that a commit may be reported with. -/
def StorageError (error : GatewayError) : Prop := ∃ cause, error = .database cause

/-- The write is refused: the transaction does not begin or does not end, or it finds the
error itself. -/
def Refused (x : Transition C) (db : Database) (error : GatewayError) : Prop :=
  StorageError error ∨
    replaceSqlite db x.replacement.expected x.replacement.next = .error error

/-- How the world reacts to a question of session `s`. -/
def reacts (w : World) (s : ℕ) : (c : Call C) → Answer c → World → Prop
  | .read, answer, w' => w' = w ∧ ∀ db, answer = Except.ok db → db = w.db
  | .replace x, answer, w' =>
      (Commit x w.db w'.db ∧ w'.holder = w.holder ∧
        ∀ error, answer = Except.error error → StorageError error) ∨
      (w' = w ∧ ∃ error, answer = Except.error error ∧ Refused x w.db error)
  | .tryLockWorker, answer, w' =>
      (answer = Except.ok true ∧ w.holder = none ∧ w' = ⟨w.db, some s⟩) ∨
        (answer ≠ Except.ok true ∧ w' = w)
  | _, _, w' => w' = w

/-- How the world reacts to a session that is gone. -/
def leaves (w : World) (s : ℕ) (w' : World) : Prop :=
  w' = ⟨w.db, if w.holder = some s then none else w.holder⟩

/-- The environment of any number of sessions on one journal, which is empty at first. -/
def environment (C : Crypto) : Environment (Call C) Answer World where
  initial := ⟨Database.empty, none⟩
  reacts := reacts
  leaves := leaves

/-- A moment of a run. -/
abbrev Event (C : Crypto) : Type := Moment (Call C) Answer Entry World

section
variable {w w' : World} {s : ℕ}

/-- **What one exchange can do to the world.** -/
theorem reacts_cases {c : Call C} {answer : Answer c} (h : reacts w s c answer w') :
    w' = w ∨ (∃ x, c = .replace x ∧ Commit x w.db w'.db ∧ w'.holder = w.holder) ∨
      ((⟨c, answer⟩ : Exchange (Call C) Answer) = leased ∧ w.holder = none ∧
        w' = ⟨w.db, some s⟩) := by
  cases c with
  | read => exact .inl h.1
  | replace x =>
    rcases h with ⟨hcommit, hholder, -⟩ | h
    · exact .inr (.inl ⟨x, rfl, hcommit, hholder⟩)
    · exact .inl h.1
  | tryLockWorker =>
    rcases h with ⟨rfl, hfree, hw⟩ | h
    · exact .inr (.inr ⟨rfl, hfree, hw⟩)
    · exact .inl h.2
  | _ => exact .inl h

/-- Who was granted the lease is its holder. -/
theorem holder_of_leased {c : Call C} {answer : Answer c} (h : reacts w s c answer w')
    (hleased : (⟨c, answer⟩ : Exchange (Call C) Answer) = leased) : w'.holder = some s := by
  unfold leased at hleased
  cases hleased
  rcases h with ⟨-, -, rfl⟩ | h
  · rfl
  · exact absurd rfl h.1

/-- An exchange takes the lease from nobody. -/
theorem holder_of_reacts {c : Call C} {answer : Answer c} {t : ℕ} (h : reacts w s c answer w')
    (hholder : w.holder = some t) : w'.holder = some t := by
  rcases reacts_cases h with rfl | ⟨x, -, -, hsame⟩ | ⟨-, hfree, -⟩
  · exact hholder
  · exact hsame.trans hholder
  · cases hfree.symm.trans hholder

theorem commit_of_confirmed {x : Transition C} {answer : Except GatewayError Unit}
    (h : reacts w s (.replace x) answer w') (hanswer : answer = .ok ()) :
    Commit x w.db w'.db ∧ w'.holder = w.holder := by
  rcases h with ⟨hcommit, hholder, -⟩ | ⟨-, error, herror, -⟩
  · exact ⟨hcommit, hholder⟩
  · cases hanswer.symm.trans herror

/-- An error other than one of the storage is the transaction's own, and nothing was
written. -/
theorem refused_of_error {x : Transition C} {answer : Except GatewayError Unit}
    {error : GatewayError} (h : reacts w s (.replace x) answer w') (hanswer : answer = .error error)
    (hstorage : ¬ StorageError error) :
    w' = w ∧ replaceSqlite w.db x.replacement.expected x.replacement.next = .error error := by
  rcases h with ⟨-, -, hreported⟩ | ⟨hsame, error', herror, hrefused⟩
  · exact absurd (hreported error hanswer) hstorage
  · obtain rfl := Except.error.inj (hanswer.symm.trans herror)
    exact ⟨hsame, hrefused.resolve_left hstorage⟩

end

/-! ## Rows -/

/-- The row of a valid phase. -/
inductive LawfulRow (C : Crypto) : (t : Table) → Record t → Prop
  | kubernetes (a : AuthorizedRequest C) (p : Phase) : p.Valid a →
      LawfulRow C .kubernetes (phaseRecord a p)
  | git (b : GitBinding C) (p : GitPhase) : p.Valid b → LawfulRow C .git (gitRecord b p)

/-- One edge of a lifecycle, between two rows of the same grant. -/
inductive RowNext (C : Crypto) : (t : Table) → Record t → Record t → Prop
  | kubernetes (a : AuthorizedRequest C) {p p' : Phase} : p.Next p' →
      RowNext C .kubernetes (phaseRecord a p) (phaseRecord a p')
  | git (b : GitBinding C) {p p' : GitPhase} : p.Next p' →
      RowNext C .git (gitRecord b p) (gitRecord b p')

/-- Every row is the row of a valid phase. -/
def Lawful (C : Crypto) (db : Database) : Prop :=
  ∀ t id r, stored db t id = some r → LawfulRow C t r

/-- What can have become of the rows. -/
def Evolves (C : Crypto) (db db' : Database) : Prop :=
  ∀ t id r, stored db t id = some r →
    ∃ r', stored db' t id = some r' ∧ ReflTransGen (RowNext C t) r r'

theorem lawful_empty : Lawful C Database.empty := by
  intro t id r h
  rw [stored_empty] at h
  cases h

theorem Evolves.refl (db : Database) : Evolves C db db := fun _ _ r h => ⟨r, h, .refl⟩

theorem Evolves.trans {db db' db'' : Database} (h : Evolves C db db') (h' : Evolves C db' db'') :
    Evolves C db db'' := by
  intro t id r hr
  obtain ⟨r', hr', hnext⟩ := h t id r hr
  obtain ⟨r'', hr'', hnext'⟩ := h' t id r' hr'
  exact ⟨r'', hr'', hnext.trans hnext'⟩

theorem Lawful.phase {db : Database} {id : Text} {r : Record .kubernetes} (h : Lawful C db)
    (hr : stored db .kubernetes id = some r) :
    ∃ (a : AuthorizedRequest C) (p : Phase), id = a.request.operationId ∧ r = phaseRecord a p ∧
      p.Valid a := by
  have hid := value_operationId_of_stored hr
  cases h _ _ _ hr with
  | kubernetes a p hvalid => exact ⟨a, p, (Value.text.inj hid).symm, rfl, hvalid⟩

theorem Lawful.gitPhase {db : Database} {id : Text} {r : Record .git} (h : Lawful C db)
    (hr : stored db .git id = some r) :
    ∃ (b : GitBinding C) (p : GitPhase), id = b.authorization.operationId ∧ r = gitRecord b p ∧
      p.Valid b := by
  have hid := value_operationId_of_stored hr
  cases h _ _ _ hr with
  | git b p hvalid => exact ⟨b, p, (Value.text.inj hid).symm, rfl, hvalid⟩

/-- A row stays the row of its grant. -/
theorem eq_phaseRecord_of_next {a : AuthorizedRequest C} {p : Phase} {r' : Record .kubernetes}
    (h : ReflTransGen (RowNext C .kubernetes) (phaseRecord a p) r') :
    ∃ p', r' = phaseRecord a p' := by
  induction h with
  | refl => exact ⟨p, rfl⟩
  | tail _ hstep ih =>
    obtain ⟨p₁, hp₁⟩ := ih
    cases hstep with
    | @kubernetes a' p₂ p₃ hnext =>
      obtain rfl := eq_of_phaseRecord_eq hp₁
      exact ⟨p₃, rfl⟩

/-! ## One commit -/

/-- What a commit does to its row: it inserts one, or takes one along an edge. -/
inductive Moves : Transition C → (t : Table) → Option (Record t) → Record t → Prop
  | insertRequested (a : AuthorizedRequest C) :
      Moves (.insertRequested a) .kubernetes none (phaseRecord a .requested)
  | advance {x a p p'} : Advances x a p p' → p'.Valid a →
      Moves x .kubernetes (some (phaseRecord a p)) (phaseRecord a p')
  | insertGit (b : GitBinding C) : Moves (.insertGit b) .git none (gitRecord b .authorized)
  | gitAdvance {x b p p'} : GitAdvances x b p p' → p'.Valid b →
      Moves x .git (some (gitRecord b p)) (gitRecord b p')

section
variable {db db' : Database} {x : Transition C} {t : Table} {id : Text}
  {before : Option (Record t)} {after : Record t}

theorem Moves.lawfulRow (h : Moves x t before after) : LawfulRow C t after := by
  cases h with
  | insertRequested a => exact .kubernetes a .requested trivial
  | advance _ hvalid => exact .kubernetes _ _ hvalid
  | insertGit b => exact .git b .authorized trivial
  | gitAdvance _ hvalid => exact .git _ _ hvalid

theorem Moves.rowNext (h : Moves x t before after) : ∀ r ∈ before, RowNext C t r after := by
  intro r hr
  cases h with
  | insertRequested a => cases hr
  | advance hadvances _ =>
    obtain rfl := Option.some.inj hr
    exact .kubernetes _ hadvances.next
  | insertGit b => cases hr
  | gitAdvance hadvances _ =>
    obtain rfl := Option.some.inj hr
    exact .git _ hadvances.next

theorem id_of_phaseRecord {before : Option (Record .kubernetes)} {a : AuthorizedRequest C}
    {p : Phase} (h : Commits db db' id before (phaseRecord a p)) : id = a.request.operationId :=
  (Value.text.inj h.operationId).symm

theorem id_of_gitRecord {before : Option (Record .git)} {b : GitBinding C} {p : GitPhase}
    (h : Commits db db' id before (gitRecord b p)) : id = b.authorization.operationId :=
  (Value.text.inj h.operationId).symm

/-- The frame of a commit: every other row is as it was. -/
theorem stored_of_commits (h : Commits db db' id before after) {t' : Table} {id' : Text}
    (hne : t' = t → id' ≠ id) : stored db' t' id' = stored db t' id' := by
  by_cases ht : t' = t
  · subst ht
    exact h.elsewhere id' (hne rfl)
  · obtain rfl : t' = t.other := by
      revert ht
      cases t <;> cases t' <;> decide
    exact stored_congr (congrArg (·.select (.text id')) h.otherTable)

/-- **A commit keeps the law.** -/
theorem Lawful.moves (hlawful : Lawful C db) (h : Commits db db' id before after)
    (hmoves : Moves x t before after) : Lawful C db' := by
  intro t' id' r hr
  by_cases hrow : t' = t ∧ id' = id
  · obtain ⟨rfl, rfl⟩ := hrow
    obtain rfl := Option.some.inj (h.after.symm.trans hr)
    exact hmoves.lawfulRow
  · rw [stored_of_commits h fun ht hid => hrow ⟨ht, hid⟩] at hr
    exact hlawful t' id' r hr

/-- **A commit lets the rows evolve.** -/
theorem evolves_of_moves (h : Commits db db' id before after) (hmoves : Moves x t before after) :
    Evolves C db db' := by
  intro t' id' r hr
  by_cases hrow : t' = t ∧ id' = id
  · obtain ⟨rfl, rfl⟩ := hrow
    have hbefore := h.before.symm.trans hr
    exact ⟨after, h.after, .single (hmoves.rowNext r hbefore)⟩
  · refine ⟨r, ?_, .refl⟩
    rw [stored_of_commits h fun ht hid => hrow ⟨ht, hid⟩, hr]

end

end Gateway
end Kapsel
