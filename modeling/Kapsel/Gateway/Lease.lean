import Kapsel.Gateway.World

/-!
# The worker lease

The lease of a journal is an advisory lock of the operating system on one file.  Every handle opens
that file for itself and keeps it in a slot; `try_lock_worker` moves the file into the lock that it
returns, and dropping the lock moves it back.  The operating system answers one open file
description at a time, and may fail at any call.

* `Leases.Sound`: a lock that is live holds the file of its handle and the system's lock.
* `worker_lease_exclusion`: one lock at a time, its owner, and who may try again.
* `tryLockWorker_reacts` and `dropLock_leaves`: the handles behave as the shared world says that the
  holder of the lease does.
* `closed_slot_refuses`: a lock whose unlocking failed leaves its handle without a file.
-/

namespace Kapsel

namespace Gateway
namespace Lease

/-! ## Files and the operating system -/

/-- `std::fs::File`: an open file description on the lock file. -/
structure File where
  description : ℕ
  deriving DecidableEq

/-- `std::fs::TryLockError`. -/
inductive TryLockError where
  | wouldBlock
  | error
  deriving DecidableEq

/-- `File::try_lock`, where `held` is the description that has the lock: another description is
refused, and the call itself may fail. -/
def File.tryLock (file : File) (held : Option File) (fault : Bool) :
    Except TryLockError (Option File) :=
  if fault then .error .error
  else if held = none ∨ held = some file then .ok (some file)
  else .error .wouldBlock

/-- `File::unlock`, or closing the description: its lock is gone. -/
def File.release (file : File) (held : Option File) : Option File :=
  if held = some file then none else held

/-! ## Handles -/

/-- `WorkerLock`; the slot is named by its handle. -/
structure WorkerLock where
  file : Option File
  slot : ℕ
  deriving DecidableEq

/-- The handles on one journal, the locks they returned and the lock of the system. -/
structure Leases where
  handles : ℕ
  slot : ℕ → Option File
  returned : ℕ
  lock : ℕ → WorkerLock
  held : Option File

namespace Leases

/-- Nothing is open. -/
def initial : Leases := ⟨0, fun _ => none, 0, fun _ => ⟨none, 0⟩, none⟩

/-- A slot is filled or emptied. -/
def putSlot (s : Leases) (handle : ℕ) (file : Option File) : Leases :=
  { s with slot := Function.update s.slot handle file }

/-- `Journal::open`: the lock file is opened once more. -/
def openJournal (s : Leases) : Leases :=
  { s.putSlot s.handles (some ⟨s.handles⟩) with handles := s.handles + 1 }

/-- `Journal::try_lock_worker`: the lock that is returned, or nothing. -/
def tryLockWorker (s : Leases) (handle : ℕ) (fault : Bool) :
    Except GatewayError (Option ℕ) × Leases :=
  match s.slot handle with
  | none => (.ok none, s)
  | some file =>
      let taken := s.putSlot handle none
      match file.tryLock taken.held fault with
      | .ok held =>
          (.ok (some taken.returned), { taken with
            returned := taken.returned + 1
            lock := Function.update taken.lock taken.returned ⟨some file, handle⟩
            held := held })
      | .error .wouldBlock => (.ok none, taken.putSlot handle (some file))
      | .error .error => (.error .workerLock, taken.putSlot handle (some file))

/-- `Drop for WorkerLock`: the file is unlocked and goes back, or it is closed. -/
def dropLock (s : Leases) (lock : ℕ) (unlocks : Bool) : Leases :=
  match (s.lock lock).file with
  | none => s
  | some file =>
      let emptied := { s with
        lock := Function.update s.lock lock ⟨none, (s.lock lock).slot⟩
        held := file.release s.held }
      if unlocks then emptied.putSlot (s.lock lock).slot (some file) else emptied

/-- `Journal::owns_worker`. -/
def ownsWorker (s : Leases) (handle lock : ℕ) : Bool :=
  handle = (s.lock lock).slot && (s.lock lock).file.isSome

end Leases

/-! ## Runs -/

/-- A call on the handles, with what the system makes of it. -/
inductive LeaseCall where
  | openJournal
  | tryLockWorker (handle : ℕ) (fault : Bool)
  | dropLock (lock : ℕ) (unlocks : Bool)
  deriving DecidableEq

/-- One call. -/
def Leases.step (s : Leases) : LeaseCall → Leases
  | .openJournal => s.openJournal
  | .tryLockWorker handle fault => (s.tryLockWorker handle fault).2
  | .dropLock lock unlocks => s.dropLock lock unlocks

/-- The state after some calls, the newest first. -/
def Leases.after : List LeaseCall → Leases
  | [] => initial
  | call :: calls => (after calls).step call

/-- The call returned this lock. -/
def Returns (calls : List LeaseCall) (call : LeaseCall) (handle lock : ℕ) : Prop :=
  ∃ fault, call = .tryLockWorker handle fault ∧
    ((Leases.after calls).tryLockWorker handle fault).1 = .ok (some lock)

/-- The handle produced the lock. -/
def Produced (handle lock : ℕ) : List LeaseCall → Prop
  | [] => False
  | call :: calls => Returns calls call handle lock ∨ Produced handle lock calls

/-- The lock was produced and is not dropped. -/
def Live (lock : ℕ) : List LeaseCall → Prop
  | [] => False
  | call :: calls =>
      (∃ handle, Returns calls call handle lock) ∨
        (Live lock calls ∧ ∀ unlocks, call ≠ .dropLock lock unlocks)

/-- A lock of the handle was dropped and could not be unlocked. -/
def Closed (handle : ℕ) : List LeaseCall → Prop
  | [] => False
  | call :: calls =>
      (∃ lock, call = .dropLock lock false ∧ Live lock calls ∧ Produced handle lock calls) ∨
        Closed handle calls

/-! ## What a call does -/

namespace Leases

variable {s : Leases} {handle lock : ℕ} {fault unlocks : Bool} {file : File}

/-- The file of the handle is in a new lock. -/
def leased (s : Leases) (handle : ℕ) (file : File) : Leases where
  handles := s.handles
  slot := Function.update s.slot handle none
  returned := s.returned + 1
  lock := Function.update s.lock s.returned ⟨some file, handle⟩
  held := some file

/-- Taking the file out and putting it back changes nothing. -/
theorem putSlot_putSlot (h : s.slot handle = some file) :
    (s.putSlot handle none).putSlot handle (some file) = s := by
  unfold putSlot
  rw [Function.update_idem, ← h, Function.update_eq_self]

theorem tryLockWorker_of_none (h : s.slot handle = none) :
    s.tryLockWorker handle fault = (.ok none, s) := by
  unfold tryLockWorker
  rw [h]

theorem tryLockWorker_of_fault (h : s.slot handle = some file) :
    s.tryLockWorker handle true = (.error .workerLock, s) := by
  have htry : file.tryLock (s.putSlot handle none).held true = .error .error := rfl
  unfold tryLockWorker
  rw [h]
  simp only [htry]
  rw [putSlot_putSlot h]

theorem tryLockWorker_of_held (h : s.slot handle = some file)
    (hheld : ¬(s.held = none ∨ s.held = some file)) :
    s.tryLockWorker handle false = (.ok none, s) := by
  have htry : file.tryLock (s.putSlot handle none).held false = .error .wouldBlock := by
    rw [File.tryLock, if_neg Bool.false_ne_true]
    exact if_neg hheld
  unfold tryLockWorker
  rw [h]
  simp only [htry]
  rw [putSlot_putSlot h]

theorem tryLockWorker_of_free (h : s.slot handle = some file)
    (hheld : s.held = none ∨ s.held = some file) :
    s.tryLockWorker handle false = (.ok (some s.returned), s.leased handle file) := by
  have htry : file.tryLock (s.putSlot handle none).held false = .ok (some file) := by
    rw [File.tryLock, if_neg Bool.false_ne_true]
    exact if_pos hheld
  unfold tryLockWorker
  rw [h]
  simp only [htry]
  rfl

/-- **A call returns a lock, or it changes nothing.** -/
theorem tryLockWorker_cases (s : Leases) (handle : ℕ) (fault : Bool) :
    (∃ file, s.slot handle = some file ∧ fault = false ∧ (s.held = none ∨ s.held = some file) ∧
      s.tryLockWorker handle fault = (.ok (some s.returned), s.leased handle file)) ∨
    ∃ answer, s.tryLockWorker handle fault = (answer, s) ∧ ∀ lock, answer ≠ .ok (some lock) := by
  cases hslot : s.slot handle with
  | none => exact .inr ⟨_, tryLockWorker_of_none hslot, fun _ h => (nomatch h)⟩
  | some file =>
    cases fault with
    | true => exact .inr ⟨_, tryLockWorker_of_fault hslot, fun _ h => (nomatch h)⟩
    | false =>
      by_cases hfree : s.held = none ∨ s.held = some file
      · exact .inl ⟨file, rfl, rfl, hfree, tryLockWorker_of_free hslot hfree⟩
      · exact .inr ⟨_, tryLockWorker_of_held hslot hfree, fun _ h => (nomatch h)⟩

/-- The file of the lock is back in its slot, or closed. -/
def returnedFile (s : Leases) (lock : ℕ) (file : File) (unlocks : Bool) : Leases where
  handles := s.handles
  slot := if unlocks then Function.update s.slot (s.lock lock).slot (some file) else s.slot
  returned := s.returned
  lock := Function.update s.lock lock ⟨none, (s.lock lock).slot⟩
  held := file.release s.held

theorem dropLock_of_some (h : (s.lock lock).file = some file) :
    s.dropLock lock unlocks = s.returnedFile lock file unlocks := by
  unfold dropLock
  rw [h]
  cases unlocks <;> rfl

theorem dropLock_of_none (h : (s.lock lock).file = none) : s.dropLock lock unlocks = s := by
  unfold dropLock
  rw [h]

/-! ## The invariant -/

/-- Every file is in its slot, in its lock or closed, and the system's lock is that of the live
lock. -/
structure Sound (s : Leases) : Prop where
  kept : ∀ handle file, s.slot handle = some file → file = ⟨handle⟩ ∧ handle < s.handles
  leased : ∀ lock file, (s.lock lock).file = some file →
    file = ⟨(s.lock lock).slot⟩ ∧ s.held = some file ∧ s.slot (s.lock lock).slot = none ∧
      (s.lock lock).slot < s.handles ∧ lock < s.returned
  unique : ∀ lock lock' file file', (s.lock lock).file = some file →
    (s.lock lock').file = some file' → lock = lock'
  held : ∀ file, s.held = some file → ∃ lock, (s.lock lock).file = some file

theorem sound_initial : Sound initial where
  kept _ _ h := nomatch h
  leased _ _ h := nomatch h
  unique _ _ _ _ h := nomatch h
  held _ h := nomatch h

theorem openJournal_slot_self : s.openJournal.slot s.handles = some ⟨s.handles⟩ := by
  show Function.update s.slot s.handles (some (File.mk s.handles)) s.handles = _
  rw [Function.update_self]

theorem openJournal_slot_of_ne (h : handle ≠ s.handles) :
    s.openJournal.slot handle = s.slot handle := Function.update_of_ne h _ s.slot

theorem Sound.openJournal (h : Sound s) : Sound s.openJournal where
  kept handle file hslot := by
    by_cases hnew : handle = s.handles
    · subst hnew
      rw [openJournal_slot_self] at hslot
      exact ⟨(Option.some.inj hslot).symm, Nat.lt_succ_self _⟩
    · have hold : s.slot handle = some file := (openJournal_slot_of_ne hnew).symm.trans hslot
      obtain ⟨hfile, hlt⟩ := h.kept handle file hold
      exact ⟨hfile, Nat.lt_succ_of_lt hlt⟩
  leased lock file hfile := by
    obtain ⟨hname, hheld, hslot, hlt, hreturned⟩ := h.leased lock file hfile
    refine ⟨hname, hheld, ?_, Nat.lt_succ_of_lt hlt, hreturned⟩
    rw [← hslot]
    exact openJournal_slot_of_ne hlt.ne
  unique := h.unique
  held := h.held

/-- Whose file is in the slot, nobody holds for it. -/
theorem Sound.held_ne (h : Sound s) (hslot : s.slot handle = some file) : s.held ≠ some file := by
  intro hheld
  obtain ⟨lock, hlock⟩ := h.held file hheld
  obtain ⟨hname, -, hempty, -, -⟩ := h.leased lock file hlock
  obtain ⟨hname', -⟩ := h.kept handle file hslot
  rw [hname'] at hname
  rw [← File.mk.inj hname] at hempty
  cases hslot.symm.trans hempty

/-- While no lock is live the system's lock is free. -/
theorem Sound.held_eq_none (h : Sound s) (hfree : ∀ lock, (s.lock lock).file = none) :
    s.held = none := by
  cases hheld : s.held with
  | none => rfl
  | some file =>
    obtain ⟨lock, hlock⟩ := h.held file hheld
    cases (hfree lock).symm.trans hlock

/-- The other way around. -/
theorem Sound.file_eq_none (h : Sound s) (hheld : s.held = none) (lock : ℕ) :
    (s.lock lock).file = none := by
  cases hfile : (s.lock lock).file with
  | none => rfl
  | some file => cases hheld.symm.trans (h.leased lock file hfile).2.1

theorem lock_leased_self : (s.leased handle file).lock s.returned = ⟨some file, handle⟩ := by
  show Function.update s.lock s.returned (WorkerLock.mk (some file) handle) s.returned = _
  rw [Function.update_self]

/-- After a call that found the lease free, only the new lock has a file. -/
theorem Sound.eq_returned_of_leased (h : Sound s) (hheld : s.held = none) {file' : File}
    (hfile : ((s.leased handle file).lock lock).file = some file') : lock = s.returned := by
  by_contra hne
  have hlock : (s.leased handle file).lock lock = s.lock lock := Function.update_of_ne hne _ _
  rw [hlock] at hfile
  cases (h.file_eq_none hheld lock).symm.trans hfile

theorem Sound.leased_of_free (h : Sound s) (hslot : s.slot handle = some file)
    (hheld : s.held = none) : Sound (s.leased handle file) where
  kept handle' file' hslot' := by
    by_cases hsame : handle' = handle
    · subst hsame
      have hempty : (s.leased handle' file).slot handle' = none := Function.update_self _ _ _
      cases hempty.symm.trans hslot'
    · have hold : s.slot handle' = some file' := by
        rw [← hslot']
        exact (Function.update_of_ne hsame _ _).symm
      exact h.kept handle' file' hold
  leased lock file' hfile := by
    obtain ⟨hname, hlt⟩ := h.kept handle file hslot
    obtain rfl := h.eq_returned_of_leased hheld hfile
    rw [lock_leased_self] at hfile ⊢
    obtain rfl := Option.some.inj hfile
    exact ⟨hname, rfl, Function.update_self _ _ _, hlt, Nat.lt_succ_self _⟩
  unique lock lock' file₁ file₂ hfile hfile' := by
    rw [h.eq_returned_of_leased hheld hfile, h.eq_returned_of_leased hheld hfile']
  held file' hheld' := by
    obtain rfl : file = file' := Option.some.inj hheld'
    exact ⟨s.returned, by rw [lock_leased_self]⟩

/-- After a live lock is dropped no lock has a file. -/
theorem Sound.file_returnedFile (h : Sound s) (hfile : (s.lock lock).file = some file)
    (unlocks : Bool) (lock' : ℕ) : ((s.returnedFile lock file unlocks).lock lock').file = none := by
  show (Function.update s.lock lock ⟨none, (s.lock lock).slot⟩ lock').file = none
  by_cases hsame : lock' = lock
  · subst hsame
    rw [Function.update_self]
  · rw [Function.update_of_ne hsame]
    cases hother : (s.lock lock').file with
    | none => rfl
    | some file' => exact absurd (h.unique lock' lock file' file hother hfile) hsame

theorem Sound.returnedFile (h : Sound s) (hfile : (s.lock lock).file = some file)
    (unlocks : Bool) : Sound (s.returnedFile lock file unlocks) := by
  obtain ⟨hname, hheld, hempty, hlt, hreturned⟩ := h.leased lock file hfile
  have hnone := h.file_returnedFile hfile unlocks
  have hfree : (s.returnedFile lock file unlocks).held = none := by
    show file.release s.held = none
    rw [File.release, if_pos hheld]
  refine ⟨?_, fun l f hl => ?_, fun l l' f f' hl => ?_, fun f hf => ?_⟩
  · intro handle file' hslot
    cases unlocks with
    | false => exact h.kept handle file' hslot
    | true =>
      by_cases hsame : handle = (s.lock lock).slot
      · subst hsame
        have hback : (s.returnedFile lock file true).slot (s.lock lock).slot = some file :=
          Function.update_self _ _ _
        rw [← Option.some.inj (hback.symm.trans hslot)]
        exact ⟨hname, hlt⟩
      · have hold : s.slot handle = some file' := by
          rw [← hslot]
          exact (Function.update_of_ne hsame _ _).symm
        exact h.kept handle file' hold
  · cases (hnone l).symm.trans hl
  · cases (hnone l).symm.trans hl
  · cases hfree.symm.trans hf

theorem Sound.step (h : Sound s) (call : LeaseCall) : Sound (s.step call) := by
  cases call with
  | openJournal => exact h.openJournal
  | tryLockWorker handle fault =>
    show Sound (s.tryLockWorker handle fault).2
    rcases tryLockWorker_cases s handle fault with
      ⟨file, hslot, -, hheld, hresult⟩ | ⟨answer, hresult, -⟩
    · rw [hresult]
      exact h.leased_of_free hslot (hheld.resolve_right (h.held_ne hslot))
    · rw [hresult]
      exact h
  | dropLock lock unlocks =>
    show Sound (s.dropLock lock unlocks)
    cases hfile : (s.lock lock).file with
    | none =>
      rw [dropLock_of_none hfile]
      exact h
    | some file =>
      rw [dropLock_of_some hfile]
      exact h.returnedFile hfile unlocks

/-- **The invariant holds in every run.** -/
theorem sound_after (calls : List LeaseCall) : Sound (after calls) := by
  induction calls with
  | nil => exact sound_initial
  | cons call calls ih => exact ih.step call

end Leases

/-! ## Runs in the state -/

section
variable {calls : List LeaseCall} {handle lock : ℕ} {fault unlocks : Bool}

open Leases

theorem returns_of_leased {file : File} (h : (after calls).tryLockWorker handle fault =
    (.ok (some (after calls).returned), (after calls).leased handle file)) {handle' lock' : ℕ} :
    Returns calls (.tryLockWorker handle fault) handle' lock' ↔
      handle' = handle ∧ lock' = (after calls).returned := by
  constructor
  · rintro ⟨fault', hcall, hanswer⟩
    obtain ⟨rfl, rfl⟩ := LeaseCall.tryLockWorker.inj hcall
    rw [h] at hanswer
    exact ⟨rfl, (Option.some.inj (Except.ok.inj hanswer)).symm⟩
  · rintro ⟨rfl, rfl⟩
    exact ⟨fault, rfl, by rw [h]⟩

theorem not_returns {answer : Except GatewayError (Option ℕ)}
    (h : (after calls).tryLockWorker handle fault = (answer, after calls))
    (hanswer : ∀ lock, answer ≠ .ok (some lock)) (handle' lock' : ℕ) :
    ¬Returns calls (.tryLockWorker handle fault) handle' lock' := by
  rintro ⟨fault', hcall, hreturned⟩
  obtain ⟨rfl, rfl⟩ := LeaseCall.tryLockWorker.inj hcall
  rw [h] at hreturned
  exact hanswer lock' hreturned

theorem not_returns_openJournal (handle' lock' : ℕ) :
    ¬Returns calls .openJournal handle' lock' := by
  rintro ⟨_, hcall, -⟩
  cases hcall

theorem not_returns_dropLock (handle' lock' : ℕ) :
    ¬Returns calls (.dropLock lock unlocks) handle' lock' := by
  rintro ⟨_, hcall, -⟩
  cases hcall

/-- Who produced a lock stands in it. -/
theorem produced_iff : Produced handle lock calls ↔
    lock < (after calls).returned ∧ ((after calls).lock lock).slot = handle := by
  induction calls with
  | nil => exact ⟨fun h => h.elim, fun h => absurd h.1 (Nat.not_lt_zero _)⟩
  | cons call calls ih =>
    show Returns calls call handle lock ∨ Produced handle lock calls ↔ _
    rw [ih]
    cases call with
    | openJournal => exact or_iff_right (not_returns_openJournal handle lock)
    | tryLockWorker handle' fault =>
      show _ ↔ lock < ((after calls).tryLockWorker handle' fault).2.returned ∧
        (((after calls).tryLockWorker handle' fault).2.lock lock).slot = handle
      rcases tryLockWorker_cases (after calls) handle' fault with
        ⟨file, -, -, -, hresult⟩ | ⟨answer, hresult, hanswer⟩
      · rw [returns_of_leased hresult, hresult]
        show _ ↔ lock < (after calls).returned + 1 ∧ (Function.update (after calls).lock
          (after calls).returned ⟨some file, handle'⟩ lock).slot = handle
        by_cases hnew : lock = (after calls).returned
        · subst hnew
          rw [Function.update_self]
          simp [eq_comm]
        · rw [Function.update_of_ne hnew]
          simp only [hnew, and_false, false_or]
          exact and_congr_left fun _ => ⟨fun h => by omega, fun h => by omega⟩
      · rw [hresult]
        exact or_iff_right (not_returns hresult hanswer handle lock)
    | dropLock lock' unlocks =>
      refine (or_iff_right (not_returns_dropLock handle lock)).trans ?_
      show _ ↔ lock < ((after calls).dropLock lock' unlocks).returned ∧
        (((after calls).dropLock lock' unlocks).lock lock).slot = handle
      cases hfile : ((after calls).lock lock').file with
      | none => rw [dropLock_of_none hfile]
      | some file =>
        rw [dropLock_of_some hfile]
        show _ ↔ lock < (after calls).returned ∧ (Function.update (after calls).lock lock'
          ⟨none, ((after calls).lock lock').slot⟩ lock).slot = handle
        by_cases hsame : lock = lock'
        · subst hsame
          rw [Function.update_self]
        · rw [Function.update_of_ne hsame]

/-- A lock is live while it has its file. -/
theorem live_iff : Live lock calls ↔ ∃ file, ((after calls).lock lock).file = some file := by
  induction calls with
  | nil => exact ⟨fun h => h.elim, fun ⟨_, h⟩ => (nomatch h)⟩
  | cons call calls ih =>
    show (∃ handle, Returns calls call handle lock) ∨
      (Live lock calls ∧ ∀ unlocks, call ≠ .dropLock lock unlocks) ↔ _
    rw [ih]
    cases call with
    | openJournal =>
      have hnot : ¬∃ handle, Returns calls .openJournal handle lock := fun ⟨handle, h⟩ =>
        not_returns_openJournal handle lock h
      rw [or_iff_right hnot]
      exact and_iff_left fun unlocks h => nomatch h
    | tryLockWorker handle' fault =>
      have hkept : ∀ unlocks, LeaseCall.tryLockWorker handle' fault ≠ .dropLock lock unlocks :=
        fun unlocks h => nomatch h
      rw [and_iff_left hkept]
      show _ ↔ ∃ file, (((after calls).tryLockWorker handle' fault).2.lock lock).file = some file
      rcases tryLockWorker_cases (after calls) handle' fault with
        ⟨file, -, -, -, hresult⟩ | ⟨answer, hresult, hanswer⟩
      · simp only [returns_of_leased hresult, hresult]
        show _ ↔ ∃ f, (Function.update (after calls).lock (after calls).returned
          ⟨some file, handle'⟩ lock).file = some f
        by_cases hnew : lock = (after calls).returned
        · subst hnew
          rw [Function.update_self]
          simp
        · rw [Function.update_of_ne hnew]
          simp [hnew]
      · rw [hresult]
        refine or_iff_right fun ⟨handle, h⟩ => not_returns hresult hanswer handle lock h
    | dropLock lock' unlocks =>
      have hnot : ¬∃ handle, Returns calls (.dropLock lock' unlocks) handle lock :=
        fun ⟨handle, h⟩ => not_returns_dropLock handle lock h
      rw [or_iff_right hnot]
      show _ ↔ ∃ file, (((after calls).dropLock lock' unlocks).lock lock).file = some file
      cases hfile : ((after calls).lock lock').file with
      | none =>
        rw [dropLock_of_none hfile]
        refine and_iff_left_of_imp ?_
        rintro ⟨file, h⟩ unlocks' hcall
        obtain ⟨rfl, -⟩ := LeaseCall.dropLock.inj hcall
        cases hfile.symm.trans h
      | some file =>
        rw [dropLock_of_some hfile]
        show _ ↔ ∃ f, (Function.update (after calls).lock lock'
          ⟨none, ((after calls).lock lock').slot⟩ lock).file = some f
        by_cases hsame : lock = lock'
        · subst hsame
          rw [Function.update_self]
          simp
        · rw [Function.update_of_ne hsame]
          refine and_iff_left fun unlocks' hcall => hsame ?_
          exact (LeaseCall.dropLock.inj hcall).1.symm

/-! ## Slots without a file -/

/-- A live lock of the handle. -/
def Occupied (s : Leases) (handle : ℕ) : Prop :=
  ∃ lock file, (s.lock lock).file = some file ∧ (s.lock lock).slot = handle

theorem occupied_iff : Occupied (after calls) handle ↔
    ∃ lock, Live lock calls ∧ Produced handle lock calls := by
  constructor
  · rintro ⟨lock, file, hfile, hslot⟩
    have hreturned := ((sound_after calls).leased lock file hfile).2.2.2.2
    exact ⟨lock, live_iff.mpr ⟨file, hfile⟩, produced_iff.mpr ⟨hreturned, hslot⟩⟩
  · rintro ⟨lock, hlive, hproduced⟩
    obtain ⟨file, hfile⟩ := live_iff.mp hlive
    exact ⟨lock, file, hfile, (produced_iff.mp hproduced).2⟩

/-- A closed handle has nothing in its slot and no live lock, for good. -/
theorem empty_of_closed (h : Closed handle calls) :
    handle < (after calls).handles ∧ (after calls).slot handle = none ∧
      ¬Occupied (after calls) handle := by
  induction calls with
  | nil => exact h.elim
  | cons call calls ih =>
    have hsound := sound_after calls
    rcases h with ⟨lock, rfl, hlive, hproduced⟩ | hclosed
    · obtain ⟨file, hfile⟩ := live_iff.mp hlive
      obtain ⟨-, -, hempty, hlt, -⟩ := hsound.leased lock file hfile
      obtain rfl := (produced_iff.mp hproduced).2
      have hafter : after (.dropLock lock false :: calls) =
        (after calls).returnedFile lock file false := dropLock_of_some hfile
      rw [hafter]
      refine ⟨hlt, hempty, ?_⟩
      rintro ⟨lock', file', hfile', -⟩
      cases (hsound.file_returnedFile hfile false lock').symm.trans hfile'
    obtain ⟨hlt, hempty, hnot⟩ := ih hclosed
    cases call with
    | openJournal =>
      exact ⟨Nat.lt_succ_of_lt hlt, (openJournal_slot_of_ne hlt.ne).trans hempty, hnot⟩
    | tryLockWorker handle' fault =>
      have hafter : after (.tryLockWorker handle' fault :: calls) =
        ((after calls).tryLockWorker handle' fault).2 := rfl
      rw [hafter]
      rcases tryLockWorker_cases (after calls) handle' fault with
        ⟨file, hslot, -, hheld, hresult⟩ | ⟨answer, hresult, -⟩
      · have hne : handle ≠ handle' := by
          rintro rfl
          cases hempty.symm.trans hslot
        have hfree := hheld.resolve_right (hsound.held_ne hslot)
        rw [hresult]
        refine ⟨hlt, (Function.update_of_ne hne _ _).trans hempty, ?_⟩
        rintro ⟨lock, file', hfile, hlock⟩
        obtain rfl := hsound.eq_returned_of_leased hfree hfile
        rw [lock_leased_self] at hlock
        exact hne hlock.symm
      · rw [hresult]
        exact ⟨hlt, hempty, hnot⟩
    | dropLock lock unlocks =>
      have hafter : after (.dropLock lock unlocks :: calls) = (after calls).dropLock lock unlocks :=
        rfl
      rw [hafter]
      cases hfile : ((after calls).lock lock).file with
      | none =>
        rw [dropLock_of_none hfile]
        exact ⟨hlt, hempty, hnot⟩
      | some file =>
        rw [dropLock_of_some hfile]
        have hne : handle ≠ ((after calls).lock lock).slot := fun h => hnot ⟨lock, file, hfile, h.symm⟩
        refine ⟨hlt, ?_, ?_⟩
        · cases unlocks with
          | false => exact hempty
          | true => exact (Function.update_of_ne hne _ _).trans hempty
        · rintro ⟨lock', file', hfile', -⟩
          cases (hsound.file_returnedFile hfile unlocks lock').symm.trans hfile'

/-- **An open handle without its file** has it in a live lock, or lost it. -/
theorem slot_eq_none (hopen : handle < (after calls).handles)
    (h : (after calls).slot handle = none) :
    Closed handle calls ∨ Occupied (after calls) handle := by
  induction calls with
  | nil => exact absurd hopen (Nat.not_lt_zero _)
  | cons call calls ih =>
    have hsound := sound_after calls
    cases call with
    | openJournal =>
      have hne : handle ≠ (after calls).handles := by
        rintro rfl
        cases openJournal_slot_self.symm.trans h
      have hold : handle < (after calls).handles := lt_of_le_of_ne (Nat.lt_succ_iff.mp hopen) hne
      rcases ih hold ((openJournal_slot_of_ne hne).symm.trans h) with hclosed | hoccupied
      · exact .inl (.inr hclosed)
      · exact .inr hoccupied
    | tryLockWorker handle' fault =>
      have hafter : after (.tryLockWorker handle' fault :: calls) =
        ((after calls).tryLockWorker handle' fault).2 := rfl
      rw [hafter] at hopen h ⊢
      rcases tryLockWorker_cases (after calls) handle' fault with
        ⟨file, hslot, -, hheld, hresult⟩ | ⟨answer, hresult, -⟩
      · rw [hresult] at hopen h ⊢
        by_cases hsame : handle = handle'
        · subst hsame
          exact .inr ⟨(after calls).returned, file, by rw [lock_leased_self],
            by rw [lock_leased_self]⟩
        · have hfree := hsound.file_eq_none (hheld.resolve_right (hsound.held_ne hslot))
          rcases ih hopen ((Function.update_of_ne hsame _ _).symm.trans h) with hclosed | hoccupied
          · exact .inl (.inr hclosed)
          · obtain ⟨lock, file', hfile, -⟩ := hoccupied
            cases (hfree lock).symm.trans hfile
      · rw [hresult] at hopen h ⊢
        rcases ih hopen h with hclosed | hoccupied
        · exact .inl (.inr hclosed)
        · exact .inr hoccupied
    | dropLock lock unlocks =>
      have hafter : after (.dropLock lock unlocks :: calls) = (after calls).dropLock lock unlocks :=
        rfl
      rw [hafter] at hopen h ⊢
      cases hfile : ((after calls).lock lock).file with
      | none =>
        rw [dropLock_of_none hfile] at hopen h ⊢
        rcases ih hopen h with hclosed | hoccupied
        · exact .inl (.inr hclosed)
        · exact .inr hoccupied
      | some file =>
        rw [dropLock_of_some hfile] at hopen h
        have hreturned := (hsound.leased lock file hfile).2.2.2.2
        by_cases hsame : handle = ((after calls).lock lock).slot
        · cases unlocks with
          | false =>
            exact .inl (.inl ⟨lock, rfl, live_iff.mpr ⟨file, hfile⟩,
              produced_iff.mpr ⟨hreturned, hsame.symm⟩⟩)
          | true =>
            subst hsame
            have hback : ((after calls).returnedFile lock file true).slot
              ((after calls).lock lock).slot = some file := Function.update_self _ _ _
            cases hback.symm.trans h
        · have hold : (after calls).slot handle = none := by
            cases unlocks with
            | false => exact h
            | true => exact (Function.update_of_ne hsame _ _).symm.trans h
          rcases ih hopen hold with hclosed | ⟨lock', file', hfile', hslot'⟩
          · exact .inl (.inr hclosed)
          · obtain rfl := hsound.unique lock' lock file' file hfile' hfile
            exact absurd hslot'.symm hsame

/-! ## Exclusion -/

/-- With its file in the slot a handle is refused only by a live lock. -/
theorem tryLockWorker_succeeds_iff (hopen : handle < (after calls).handles)
    (hclosed : ¬Closed handle calls) :
    (∃ lock, ((after calls).tryLockWorker handle false).1 = .ok (some lock)) ↔
      ∀ lock, ¬Live lock calls := by
  have hsound := sound_after calls
  constructor
  · rintro ⟨lock, hanswer⟩ lock' hlive
    obtain ⟨file', hfile'⟩ := live_iff.mp hlive
    rcases tryLockWorker_cases (after calls) handle false with
      ⟨file, hslot, -, hheld, -⟩ | ⟨answer, hresult, hnot⟩
    · have hfree := hheld.resolve_right (hsound.held_ne hslot)
      cases (hsound.file_eq_none hfree lock').symm.trans hfile'
    · rw [hresult] at hanswer
      exact hnot lock hanswer
  · intro hnone
    have hfree : (after calls).held = none := by
      refine hsound.held_eq_none fun lock => ?_
      cases hfile : ((after calls).lock lock).file with
      | none => rfl
      | some file => exact absurd (live_iff.mpr ⟨file, hfile⟩) (hnone lock)
    cases hslot : (after calls).slot handle with
    | none =>
      rcases slot_eq_none hopen hslot with hclosed' | hoccupied
      · exact absurd hclosed' hclosed
      · obtain ⟨lock, hlive, -⟩ := occupied_iff.mp hoccupied
        exact absurd hlive (hnone lock)
    | some file => exact ⟨_, by rw [tryLockWorker_of_free hslot (.inl hfree)]⟩

/-- **One worker at a time.**  After any calls on any number of handles:

* at most one lock is live;
* `owns_worker` holds of a handle and the live lock that it produced;
* a call that returns no lock leaves everything as it was;
* an open handle, none of whose locks failed to unlock, gets the lease exactly if no lock is live,
  and a handle with such a lock is refused for good. -/
theorem worker_lease_exclusion (calls : List LeaseCall) :
    (∀ lock lock', Live lock calls → Live lock' calls → lock = lock') ∧
      (∀ handle lock, (after calls).ownsWorker handle lock = true ↔
        Live lock calls ∧ Produced handle lock calls) ∧
      (∀ handle fault, (∀ lock, ((after calls).tryLockWorker handle fault).1 ≠ .ok (some lock)) →
        ((after calls).tryLockWorker handle fault).2 = after calls) ∧
      (∀ handle, handle < (after calls).handles → ¬Closed handle calls →
        ((∃ lock, ((after calls).tryLockWorker handle false).1 = .ok (some lock)) ↔
          ∀ lock, ¬Live lock calls)) ∧
      ∀ handle fault, Closed handle calls →
        ((after calls).tryLockWorker handle fault).1 = .ok none := by
  have hsound := sound_after calls
  refine ⟨?_, ?_, ?_, fun handle hopen hclosed => tryLockWorker_succeeds_iff hopen hclosed, ?_⟩
  · intro lock lock' h h'
    obtain ⟨file, hfile⟩ := live_iff.mp h
    obtain ⟨file', hfile'⟩ := live_iff.mp h'
    exact hsound.unique lock lock' file file' hfile hfile'
  · intro handle lock
    rw [live_iff, produced_iff, ownsWorker, Bool.and_eq_true, decide_eq_true_iff,
      Option.isSome_iff_exists]
    constructor
    · rintro ⟨rfl, file, hfile⟩
      exact ⟨⟨file, hfile⟩, (hsound.leased lock file hfile).2.2.2.2, rfl⟩
    · rintro ⟨⟨file, hfile⟩, -, rfl⟩
      exact ⟨rfl, file, hfile⟩
  · intro handle fault hrefused
    rcases tryLockWorker_cases (after calls) handle fault with
      ⟨file, -, -, -, hresult⟩ | ⟨answer, hresult, -⟩
    · exact absurd (by rw [hresult]) (hrefused (after calls).returned)
    · rw [hresult]
  · intro handle fault hclosed
    rw [tryLockWorker_of_none (empty_of_closed hclosed).2.1]

/-- Two handles; the first lock of the first handle is not unlocked, that of the second is. -/
def closedRun : List LeaseCall :=
  [.dropLock 1 true, .tryLockWorker 1 false, .dropLock 0 false, .tryLockWorker 0 false,
    .openJournal, .openJournal]

theorem not_live_closedRun (lock : ℕ) : ¬Live lock closedRun := by
  intro hlive
  obtain ⟨file, hfile⟩ := live_iff.mp hlive
  have hfree : (after closedRun).held = none := rfl
  cases ((sound_after closedRun).file_eq_none hfree lock).symm.trans hfile

/-- The second handle gets the lease again after it dropped its lock. -/
theorem second_handle_tries_again :
    ∃ lock, ((after closedRun).tryLockWorker 1 false).1 = .ok (some lock) := by
  obtain ⟨-, -, -, hsucceeds, -⟩ := worker_lease_exclusion closedRun
  have hopen : ¬Closed 1 closedRun := by
    intro hclosed
    have hkept : (after closedRun).slot 1 = some ⟨1⟩ := rfl
    cases hkept.symm.trans (empty_of_closed hclosed).2.1
  exact (hsucceeds 1 (by decide) hopen).mpr not_live_closedRun

/-- The last lock was unlocked and none is live, and the first handle is refused. -/
theorem closed_slot_refuses :
    (∀ lock, ¬Live lock closedRun) ∧ 0 < (after closedRun).handles ∧
      ((after closedRun).tryLockWorker 0 false).1 = .ok none :=
  ⟨not_live_closedRun, by decide, rfl⟩

/-! ## The shared world -/

/-- The handle whose lock is live. -/
def Leases.holder (s : Leases) : Option ℕ := s.held.map File.description

variable {C : Crypto}

/-- **A handle asks for the lease as a session of the world does.** -/
theorem tryLockWorker_reacts (db : Journal.Database) :
    reacts (C := C) ⟨db, (after calls).holder⟩ handle .tryLockWorker
      (((after calls).tryLockWorker handle fault).1.map Option.isSome)
      ⟨db, ((after calls).tryLockWorker handle fault).2.holder⟩ := by
  have hsound := sound_after calls
  rcases tryLockWorker_cases (after calls) handle fault with
    ⟨file, hslot, -, hheld, hresult⟩ | ⟨answer, hresult, hnot⟩
  · have hfree := hheld.resolve_right (hsound.held_ne hslot)
    obtain ⟨rfl, -⟩ := hsound.kept handle file hslot
    rw [hresult]
    refine .inl ⟨rfl, ?_, rfl⟩
    show (after calls).held.map File.description = none
    rw [hfree]
    rfl
  · rw [hresult]
    refine .inr ⟨?_, rfl⟩
    intro hanswer
    match answer, hnot with
    | .ok (some lock), hnot => exact hnot lock rfl
    | .ok none, _ => cases hanswer
    | .error _, _ => cases hanswer

/-- **Dropping a live lock** is leaving, for the handle that produced it. -/
theorem dropLock_leaves (db : Journal.Database) (hlive : Live lock calls)
    (hproduced : Produced handle lock calls) :
    leaves ⟨db, (after calls).holder⟩ handle
      ⟨db, ((after calls).dropLock lock unlocks).holder⟩ := by
  obtain ⟨file, hfile⟩ := live_iff.mp hlive
  obtain ⟨hname, hheld, -⟩ := (sound_after calls).leased lock file hfile
  obtain rfl := (produced_iff.mp hproduced).2
  rw [dropLock_of_some hfile]
  have hholder : (after calls).holder = some ((after calls).lock lock).slot := by
    rw [holder, hheld, hname]
    rfl
  have hgone : ((after calls).returnedFile lock file unlocks).holder = none := by
    show (file.release (after calls).held).map File.description = none
    rw [File.release, if_pos hheld]
    rfl
  unfold leaves
  rw [hholder, hgone, if_pos rfl]

end

end Lease
end Gateway
end Kapsel
