import Kapsel.Interaction.Program
import Mathlib.Logic.Function.Basic

/-!
# Sessions interleaved over one world

Any number of sessions run programs against one shared world.  A session starts
with an entry --- the call that opened it --- and then advances one exchange at a
time; between two of its exchanges every other session may advance.  A session may
stop at any point, finished or not, and the world may react to that: this is both
the normal return and the crash.  A session number is used once, so a handle that
is reopened after a crash is a new session.

## Two descriptions of the same moments

`Run` is the operational one: it carries, for each live session, what is left of
its program.  `Conforms` forgets the programs and keeps only the protocol: every
exchange of a session is one that `allowed` permits after the session's own
earlier exchanges.  `Run.conforms` passes from the first to the second, given one
`Meets` for each entry.  Safety is then a statement about moments only, proved by
induction on `Conforms`, and no proof about interleavings ever unfolds a program.

The moments of a run are listed newest first, like the exchanges of a session.
-/

namespace Kapsel
namespace Interaction

/-- What a session can be seen doing. -/
inductive Deed (Call : Type) (Answer : Call → Type) (Entry : Type) where
  | start : Entry → Deed Call Answer Entry
  | act : Exchange Call Answer → Deed Call Answer Entry
  | stop : Deed Call Answer Entry

/-- One moment of a run: who did what, and the world on both sides of it. -/
structure Moment (Call : Type) (Answer : Call → Type) (Entry World : Type) where
  session : ℕ
  deed : Deed Call Answer Entry
  before : World
  after : World

/-- How the shared world reacts: to a question of a session, with the answer it
gives, and to a session that is gone. -/
structure Environment (Call : Type) (Answer : Call → Type) (World : Type) where
  initial : World
  reacts : World → ℕ → (c : Call) → Answer c → World → Prop
  leaves : World → ℕ → World → Prop

variable {Call : Type} {Answer : Call → Type} {Entry World : Type}

/-! ## What a session has done -/

/-- The exchanges of one session, newest first. -/
def history (s : ℕ) : List (Moment Call Answer Entry World) → List (Exchange Call Answer)
  | [] => []
  | m :: moments =>
      match m.deed with
      | .act x => if m.session = s then x :: history s moments else history s moments
      | .start _ => history s moments
      | .stop => history s moments

/-- The entry of a session that is live: started and not yet stopped. -/
def active (s : ℕ) : List (Moment Call Answer Entry World) → Option Entry
  | [] => none
  | m :: moments =>
      if m.session = s then
        match m.deed with
        | .start entry => some entry
        | .act _ => active s moments
        | .stop => none
      else active s moments

section
variable {s : ℕ} {moments : List (Moment Call Answer Entry World)} {w w' : World}

@[simp] theorem history_nil :
    history s ([] : List (Moment Call Answer Entry World)) = [] := rfl

@[simp] theorem history_start {t : ℕ} {entry : Entry} :
    history s (⟨t, .start entry, w, w'⟩ :: moments) = history s moments := rfl

@[simp] theorem history_stop {t : ℕ} :
    history s (⟨t, .stop, w, w'⟩ :: moments) = history s moments := rfl

theorem history_act {t : ℕ} {x : Exchange Call Answer} :
    history s (⟨t, .act x, w, w'⟩ :: moments) =
      if t = s then x :: history s moments else history s moments := rfl

@[simp] theorem history_act_self {x : Exchange Call Answer} :
    history s (⟨s, .act x, w, w'⟩ :: moments) = x :: history s moments := by
  rw [history_act, if_pos rfl]

theorem history_act_of_ne {t : ℕ} {x : Exchange Call Answer} (h : t ≠ s) :
    history s (⟨t, .act x, w, w'⟩ :: moments) = history s moments := by
  rw [history_act, if_neg h]

@[simp] theorem active_nil :
    active s ([] : List (Moment Call Answer Entry World)) = none := rfl

theorem active_of_ne {m : Moment Call Answer Entry World} (h : m.session ≠ s) :
    active s (m :: moments) = active s moments := if_neg h

@[simp] theorem active_act {t : ℕ} {x : Exchange Call Answer} :
    active s (⟨t, .act x, w, w'⟩ :: moments) = active s moments := by
  by_cases h : t = s
  · exact if_pos h
  · exact if_neg h

@[simp] theorem active_start_self {entry : Entry} :
    active s (⟨s, .start entry, w, w'⟩ :: moments) = some entry := if_pos rfl

@[simp] theorem active_stop_self : active s (⟨s, .stop, w, w'⟩ :: moments) = none := if_pos rfl

/-- An exchange of a session is one of the run's moments. -/
theorem mem_history {x : Exchange Call Answer} :
    x ∈ history s moments ↔ ∃ m ∈ moments, m.session = s ∧ m.deed = .act x := by
  induction moments with
  | nil => simp
  | cons m moments ih =>
    obtain ⟨t, deed, w, w'⟩ := m
    cases deed with
    | start entry => simp [ih]
    | stop => simp [ih]
    | act y =>
      by_cases h : t = s
      · subst h
        simp [ih, eq_comm]
      · simp [history_act_of_ne h, ih, h]

/-- A session without moments has no exchanges. -/
theorem history_eq_nil_of_fresh (h : ∀ m ∈ moments, m.session ≠ s) :
    history s moments = [] := by
  rw [List.eq_nil_iff_forall_not_mem]
  intro x hx
  obtain ⟨m, hm, hs, -⟩ := mem_history.mp hx
  exact h m hm hs

end

/-! ## Runs -/

section
variable (E : Environment Call Answer World) (program : Entry → Program Call Answer Unit)

/-- The runs of any number of sessions.  The last argument is what is left of each
live session's program. -/
inductive Run : List (Moment Call Answer Entry World) → World →
    (ℕ → Option (Entry × Program Call Answer Unit)) → Prop
  | initial : Run [] E.initial fun _ => none
  | start {moments w live} (s : ℕ) (entry : Entry) : Run moments w live →
      (∀ m ∈ moments, m.session ≠ s) →
      Run (⟨s, .start entry, w, w⟩ :: moments) w
        (Function.update live s (some (entry, program entry)))
  | act {moments w live} (s : ℕ) {entry : Entry} {c : Call}
      {k : Answer c → Program Call Answer Unit} {a : Answer c} {w' : World} :
      Run moments w live → live s = some (entry, .ask c k) → E.reacts w s c a w' →
      Run (⟨s, .act ⟨c, a⟩, w, w'⟩ :: moments) w'
        (Function.update live s (some (entry, k a)))
  | stop {moments w live} (s : ℕ) {rest : Entry × Program Call Answer Unit} {w' : World} :
      Run moments w live → live s = some rest → E.leaves w s w' →
      Run (⟨s, .stop, w, w'⟩ :: moments) w' (Function.update live s none)

/-- The moments a protocol permits: every exchange of a live session is allowed
after that session's own exchanges. -/
inductive Conforms (allowed : Entry → List (Exchange Call Answer) → Call → Prop) :
    List (Moment Call Answer Entry World) → World → Prop
  | initial : Conforms allowed [] E.initial
  | start {moments w} (s : ℕ) (entry : Entry) : Conforms allowed moments w →
      (∀ m ∈ moments, m.session ≠ s) →
      Conforms allowed (⟨s, .start entry, w, w⟩ :: moments) w
  | act {moments w} (s : ℕ) {entry : Entry} {c : Call} {a : Answer c} {w' : World} :
      Conforms allowed moments w → active s moments = some entry →
      allowed entry (history s moments) c → E.reacts w s c a w' →
      Conforms allowed (⟨s, .act ⟨c, a⟩, w, w'⟩ :: moments) w'
  | stop {moments w} (s : ℕ) {entry : Entry} {w' : World} : Conforms allowed moments w →
      active s moments = some entry → E.leaves w s w' →
      Conforms allowed (⟨s, .stop, w, w'⟩ :: moments) w'

variable {E program} {allowed : Entry → List (Exchange Call Answer) → Call → Prop}

/-- What is known of a live session: its entry is the one it started with, and the
rest of its program follows the protocol after its own exchanges. -/
def Following (allowed : Entry → List (Exchange Call Answer) → Call → Prop)
    (moments : List (Moment Call Answer Entry World))
    (live : ℕ → Option (Entry × Program Call Answer Unit)) : Prop :=
  ∀ s entry p, live s = some (entry, p) → active s moments = some entry ∧
    p.Meets (allowed entry) (history s moments) fun _ _ => True

/-- **Every run of programs that follow a protocol conforms to it.** -/
theorem Run.conforms
    (hprogram : ∀ entry, (program entry).Meets (allowed entry) [] fun _ _ => True)
    {moments : List (Moment Call Answer Entry World)} {w : World}
    {live : ℕ → Option (Entry × Program Call Answer Unit)}
    (h : Run E program moments w live) :
    Conforms E allowed moments w ∧ Following allowed moments live := by
  induction h with
  | initial => exact ⟨.initial, fun s entry p hp => nomatch hp⟩
  | @start moments w live s entry _ hfresh ih =>
    refine ⟨.start s entry ih.1 hfresh, fun t entry' p hp => ?_⟩
    by_cases hts : t = s
    · subst hts
      rw [Function.update_self] at hp
      obtain ⟨rfl, rfl⟩ := Prod.mk.inj (Option.some.inj hp)
      refine ⟨active_start_self, ?_⟩
      rw [history_start, history_eq_nil_of_fresh hfresh]
      exact hprogram entry
    · rw [Function.update_of_ne hts] at hp
      obtain ⟨hactive, hmeets⟩ := ih.2 t entry' p hp
      exact ⟨(active_of_ne (Ne.symm hts)).trans hactive, hmeets⟩
  | @act moments w live s entry c k a w' _ hlive hreacts ih =>
    obtain ⟨hactive, hmeets⟩ := ih.2 s entry _ hlive
    refine ⟨.act s ih.1 hactive hmeets.1 hreacts, fun t entry' p hp => ?_⟩
    by_cases hts : t = s
    · subst hts
      rw [Function.update_self] at hp
      obtain ⟨rfl, rfl⟩ := Prod.mk.inj (Option.some.inj hp)
      refine ⟨active_act.trans hactive, ?_⟩
      rw [history_act_self]
      exact hmeets.2 a
    · rw [Function.update_of_ne hts] at hp
      obtain ⟨hactive', hmeets'⟩ := ih.2 t entry' p hp
      refine ⟨active_act.trans hactive', ?_⟩
      rw [history_act_of_ne (Ne.symm hts)]
      exact hmeets'
  | @stop moments w live s rest w' _ hlive hleaves ih =>
    obtain ⟨hactive, -⟩ := ih.2 s rest.1 rest.2 hlive
    refine ⟨.stop s ih.1 hactive hleaves, fun t entry' p hp => ?_⟩
    by_cases hts : t = s
    · subst hts
      rw [Function.update_self] at hp
      exact nomatch hp
    · rw [Function.update_of_ne hts] at hp
      obtain ⟨hactive', hmeets'⟩ := ih.2 t entry' p hp
      exact ⟨(active_of_ne (Ne.symm hts)).trans hactive', hmeets'⟩

/-! ## Moments of a conforming run -/

section
variable {moments later : List (Moment Call Answer Entry World)}
  {m : Moment Call Answer Entry World} {w : World}

/-- The moments before the newest one conform too. -/
theorem Conforms.tail (h : Conforms E allowed (m :: moments) w) :
    Conforms E allowed moments m.before ∧ m.after = w := by
  cases h with
  | start _ _ h _ => exact ⟨h, rfl⟩
  | act _ h _ _ _ => exact ⟨h, rfl⟩
  | stop _ h _ _ => exact ⟨h, rfl⟩

/-- A run up to one of its moments conforms. -/
theorem Conforms.of_append (h : Conforms E allowed (later ++ m :: moments) w) :
    Conforms E allowed (m :: moments) m.after := by
  induction later generalizing w with
  | nil =>
    obtain ⟨-, rfl⟩ := h.tail
    exact h
  | cons _ later ih => exact ih h.tail.1

/-- What permitted an exchange, and how the world took it. -/
theorem Conforms.exchange {c : Call} {a : Answer c} (h : Conforms E allowed (m :: moments) w)
    (hm : m.deed = .act ⟨c, a⟩) :
    ∃ entry, active m.session moments = some entry ∧
      allowed entry (history m.session moments) c ∧ E.reacts m.before m.session c a m.after := by
  cases h with
  | start => cases hm
  | act s h hactive hallowed hreacts =>
    cases hm
    exact ⟨_, hactive, hallowed, hreacts⟩
  | stop => cases hm

end

/-! ## One session of a run -/

/-- The session was opened by this entry. -/
def Started (s : ℕ) (entry : Entry) (moments : List (Moment Call Answer Entry World)) : Prop :=
  ∃ m ∈ moments, m.session = s ∧ m.deed = .start entry

section
variable {moments : List (Moment Call Answer Entry World)} {w : World} {s : ℕ} {entry : Entry}

theorem Started.cons (h : Started s entry moments) (m : Moment Call Answer Entry World) :
    Started s entry (m :: moments) := by
  obtain ⟨m', hm', hstart⟩ := h
  exact ⟨m', List.mem_cons_of_mem m hm', hstart⟩

theorem started_of_active (h : active s moments = some entry) : Started s entry moments := by
  induction moments with
  | nil => cases h
  | cons m moments ih =>
    obtain ⟨t, deed, w, w'⟩ := m
    by_cases hts : t = s
    · subst hts
      cases deed with
      | start entry' =>
        obtain rfl := Option.some.inj (active_start_self.symm.trans h)
        exact ⟨_, List.mem_cons_self, rfl, rfl⟩
      | act x => exact (ih (active_act.symm.trans h)).cons _
      | stop => cases active_stop_self.symm.trans h
    · exact (ih ((active_of_ne hts).symm.trans h)).cons _

/-- A session is opened once. -/
theorem Conforms.started_unique (h : Conforms E allowed moments w) {entry' : Entry}
    (hstart : Started s entry moments) (hstart' : Started s entry' moments) : entry = entry' := by
  induction h with
  | initial =>
    obtain ⟨m, hm, -⟩ := hstart
    cases hm
  | @start moments w t entry₀ _ hfresh ih =>
    obtain ⟨m, hm, hs, hdeed⟩ := hstart
    obtain ⟨m', hm', hs', hdeed'⟩ := hstart'
    rcases List.mem_cons.mp hm with rfl | hm
    · rcases List.mem_cons.mp hm' with rfl | hm'
      · exact Deed.start.inj (hdeed.symm.trans hdeed')
      · exact absurd (hs'.trans hs.symm) (hfresh m' hm')
    · rcases List.mem_cons.mp hm' with rfl | hm'
      · exact absurd (hs.trans hs'.symm) (hfresh m hm)
      · exact ih ⟨m, hm, hs, hdeed⟩ ⟨m', hm', hs', hdeed'⟩
  | act _ _ _ _ _ ih =>
    obtain ⟨m, hm, hs, hdeed⟩ := hstart
    obtain ⟨m', hm', hs', hdeed'⟩ := hstart'
    rcases List.mem_cons.mp hm with rfl | hm
    · cases hdeed
    · rcases List.mem_cons.mp hm' with rfl | hm'
      · cases hdeed'
      · exact ih ⟨m, hm, hs, hdeed⟩ ⟨m', hm', hs', hdeed'⟩
  | stop _ _ _ _ ih =>
    obtain ⟨m, hm, hs, hdeed⟩ := hstart
    obtain ⟨m', hm', hs', hdeed'⟩ := hstart'
    rcases List.mem_cons.mp hm with rfl | hm
    · cases hdeed
    · rcases List.mem_cons.mp hm' with rfl | hm'
      · cases hdeed'
      · exact ih ⟨m, hm, hs, hdeed⟩ ⟨m', hm', hs', hdeed'⟩

/-- A session is opened before it does anything. -/
theorem Conforms.start_mem {later earlier : List (Moment Call Answer Entry World)}
    {m m₀ : Moment Call Answer Entry World} {x : Exchange Call Answer}
    (h : Conforms E allowed (later ++ m :: earlier) w) (hm₀ : m₀ ∈ later ++ m :: earlier)
    (hstart : m₀.deed = .start entry) (hsession : m.session = m₀.session)
    (hdeed : m.deed = .act x) : m₀ ∈ earlier := by
  rcases List.mem_append.mp hm₀ with hlater | hrest
  · obtain ⟨newest, middle, rfl⟩ := List.append_of_mem hlater
    rw [List.append_assoc] at h
    have hconforms := h.of_append
    have hm : m ∈ middle ++ m :: earlier := List.mem_append_right _ List.mem_cons_self
    cases hconforms with
    | start _ _ _ hfresh => exact absurd hsession (hfresh m hm)
    | act => cases hstart
    | stop => cases hstart
  · rcases List.mem_cons.mp hrest with rfl | hmem
    · cases hstart.symm.trans hdeed
    · exact hmem

/-- An exchange in the history of a session is a moment of the run, with what the session did
before it. -/
theorem exists_moment_of_history {x : Exchange Call Answer} {newer older : List (Exchange Call Answer)}
    (h : history s moments = newer ++ x :: older) :
    ∃ later m earlier, moments = later ++ m :: earlier ∧ m.session = s ∧ m.deed = .act x ∧
      history s earlier = older := by
  induction moments generalizing newer with
  | nil =>
    cases newer with
    | nil => cases h
    | cons _ _ => cases h
  | cons m moments ih =>
    obtain ⟨t, deed, w, w'⟩ := m
    -- a moment that is not an exchange of the session leaves its history alone
    have hskip : history s moments = newer ++ x :: older → ∃ later m earlier,
        (⟨t, deed, w, w'⟩ :: moments : List (Moment Call Answer Entry World)) =
          later ++ m :: earlier ∧ m.session = s ∧ m.deed = .act x ∧ history s earlier = older := by
      intro hrest
      obtain ⟨later, m, earlier, rfl, hm⟩ := ih hrest
      exact ⟨_ :: later, m, earlier, rfl, hm⟩
    cases deed with
    | start entry => exact hskip h
    | stop => exact hskip h
    | act y =>
      by_cases hts : t = s
      · subst hts
        rw [history_act_self] at h
        cases newer with
        | nil =>
          obtain ⟨rfl, rfl⟩ := List.cons.inj h
          exact ⟨[], _, moments, rfl, rfl, rfl, rfl⟩
        | cons z newer =>
          obtain ⟨-, hrest⟩ := List.cons.inj h
          obtain ⟨later, m, earlier, rfl, hm⟩ := ih hrest
          exact ⟨_ :: later, m, earlier, rfl, hm⟩
      · rw [history_act_of_ne hts] at h
        exact hskip h

/-- What a session had done at an earlier moment it has done. -/
theorem history_suffix (later : List (Moment Call Answer Entry World)) :
    history s moments <:+ history s (later ++ moments) := by
  induction later with
  | nil => exact List.suffix_refl _
  | cons m later ih =>
    obtain ⟨t, deed, w, w'⟩ := m
    cases deed with
    | start entry => exact ih
    | stop => exact ih
    | act x =>
      rw [List.cons_append, history_act]
      split
      · exact ih.trans (List.suffix_cons _ _)
      · exact ih

/-- **Every exchange of a session was permitted after its own earlier exchanges.** -/
theorem Conforms.allowed_of_history (h : Conforms E allowed moments w)
    (hstart : Started s entry moments) {x : Exchange Call Answer}
    {newer older : List (Exchange Call Answer)}
    (hhistory : history s moments = newer ++ x :: older) : allowed entry older x.call := by
  obtain ⟨later, m, earlier, rfl, rfl, hdeed, rfl⟩ := exists_moment_of_history hhistory
  have hpast := h.of_append
  obtain ⟨entry', hactive, hallowed, -⟩ := hpast.exchange hdeed
  have hstart' : Started m.session entry' (later ++ m :: earlier) := by
    obtain ⟨m', hm', hstarted⟩ := started_of_active hactive
    exact ⟨m', List.mem_append_right later (List.mem_cons_of_mem m hm'), hstarted⟩
  rw [h.started_unique hstart hstart']
  exact hallowed

end

/-! ## Running one session to its end -/

/-- What a session leaves behind that runs its program to the end, against an environment
that answers by a function: its moments before the earlier ones, and the world. -/
def replay (respond : World → (c : Call) → Answer c × World) (s : ℕ) :
    Program Call Answer Unit → List (Moment Call Answer Entry World) → World →
      List (Moment Call Answer Entry World) × World
  | .done _, moments, w => (moments, w)
  | .ask c k, moments, w =>
      replay respond s (k (respond w c).1)
        (⟨s, .act ⟨c, (respond w c).1⟩, w, (respond w c).2⟩ :: moments) (respond w c).2

/-- **A session that is run to its end extends the run.** -/
theorem Run.replay {respond : World → (c : Call) → Answer c × World} {s : ℕ}
    (hrespond : ∀ w c, E.reacts w s c (respond w c).1 (respond w c).2) {entry : Entry}
    {p : Program Call Answer Unit} {moments : List (Moment Call Answer Entry World)} {w : World}
    {live : ℕ → Option (Entry × Program Call Answer Unit)} (h : Run E program moments w live)
    (hlive : live s = some (entry, p)) :
    ∃ live', Run E program (Interaction.replay respond s p moments w).1
      (Interaction.replay respond s p moments w).2 live' := by
  induction p generalizing moments w live with
  | done u => exact ⟨live, h⟩
  | ask c k ih =>
    exact ih _ (.act s h hlive (hrespond w c)) (Function.update_self ..)

/-- The same for a session that is lost after so many exchanges. -/
def replayFor (respond : World → (c : Call) → Answer c × World) (s : ℕ) :
    ℕ → Program Call Answer Unit → List (Moment Call Answer Entry World) → World →
      List (Moment Call Answer Entry World) × World
  | n + 1, .ask c k, moments, w =>
      replayFor respond s n (k (respond w c).1)
        (⟨s, .act ⟨c, (respond w c).1⟩, w, (respond w c).2⟩ :: moments) (respond w c).2
  | _, _, moments, w => (moments, w)

/-- **A session that is lost extends the run.** -/
theorem Run.replayFor {respond : World → (c : Call) → Answer c × World} {s : ℕ}
    (hrespond : ∀ w c, E.reacts w s c (respond w c).1 (respond w c).2) {entry : Entry} (n : ℕ)
    {p : Program Call Answer Unit} {moments : List (Moment Call Answer Entry World)} {w : World}
    {live : ℕ → Option (Entry × Program Call Answer Unit)} (h : Run E program moments w live)
    (hlive : live s = some (entry, p)) :
    ∃ live', Run E program (Interaction.replayFor respond s n p moments w).1
      (Interaction.replayFor respond s n p moments w).2 live' := by
  induction n generalizing p moments w live with
  | zero => exact ⟨live, h⟩
  | succ n ih =>
    cases p with
    | done u => exact ⟨live, h⟩
    | ask c k => exact ih (.act s h hlive (hrespond w c)) (Function.update_self ..)

/-- Running a session to its end forgets nothing. -/
theorem mem_replay {respond : World → (c : Call) → Answer c × World} {s : ℕ}
    {p : Program Call Answer Unit} {moments : List (Moment Call Answer Entry World)} {w : World}
    {m : Moment Call Answer Entry World} (hm : m ∈ moments) :
    m ∈ (Interaction.replay respond s p moments w).1 := by
  induction p generalizing moments w with
  | done u => exact hm
  | ask c k ih => exact ih _ (List.mem_cons_of_mem _ hm)

/-- The moments of a session that is run to its end are answered by the function. -/
theorem answer_of_mem_replay {respond : World → (c : Call) → Answer c × World} {s : ℕ}
    {p : Program Call Answer Unit} {moments : List (Moment Call Answer Entry World)} {w : World}
    {m : Moment Call Answer Entry World} {c : Call} {a : Answer c}
    (hm : m ∈ (Interaction.replay respond s p moments w).1) (hdeed : m.deed = .act ⟨c, a⟩) :
    m ∈ moments ∨ a = (respond m.before c).1 := by
  induction p generalizing moments w with
  | done u => exact .inl hm
  | ask c' k ih =>
    rcases ih _ hm with hmem | hanswer
    · rcases List.mem_cons.mp hmem with rfl | hmem
      · cases hdeed
        exact .inr rfl
      · exact .inl hmem
    · exact .inr hanswer

/-! ## Counting exchanges

A kind of exchange `Q` that a session may only ask for when its newest act is of kind `P`
happens no more often than `P` does, provided that `P` happens at most once. -/

/-- The moment is an exchange of this kind. -/
def Moment.isOf (P : Exchange Call Answer → Bool) (m : Moment Call Answer Entry World) : Bool :=
  match m.deed with
  | .act x => P x
  | _ => false

/-- How often an exchange of this kind happened, over all sessions. -/
def occurrences (P : Exchange Call Answer → Bool)
    (moments : List (Moment Call Answer Entry World)) : ℕ := moments.countP (Moment.isOf P)

section
variable {P Q : Exchange Call Answer → Bool} {moments : List (Moment Call Answer Entry World)}
  {s : ℕ} {w w' : World}

theorem occurrences_act {x : Exchange Call Answer} :
    occurrences P (⟨s, .act x, w, w'⟩ :: moments) =
      occurrences P moments + if P x = true then 1 else 0 := List.countP_cons

theorem occurrences_le_cons (m : Moment Call Answer Entry World) :
    occurrences P moments ≤ occurrences P (m :: moments) := by
  unfold occurrences
  rw [List.countP_cons]
  exact Nat.le_add_right _ _

/-- Two sessions that both exchanged something of the kind. -/
theorem two_le_occurrences {t : ℕ} {x y : Exchange Call Answer} (hst : s ≠ t)
    (hx : x ∈ history s moments) (hy : y ∈ history t moments) (hPx : P x = true)
    (hPy : P y = true) : 2 ≤ occurrences P moments := by
  obtain ⟨m, hm, rfl, hdeed⟩ := mem_history.mp hx
  obtain ⟨m', hm', rfl, hdeed'⟩ := mem_history.mp hy
  unfold occurrences
  rw [List.countP_eq_length_filter]
  have hmem : m ∈ moments.filter (Moment.isOf P) := by
    rw [List.mem_filter, Moment.isOf, hdeed]
    exact ⟨hm, hPx⟩
  have hmem' : m' ∈ moments.filter (Moment.isOf P) := by
    rw [List.mem_filter, Moment.isOf, hdeed']
    exact ⟨hm', hPy⟩
  cases hkept : moments.filter (Moment.isOf P) with
  | nil =>
    rw [hkept] at hmem
    cases hmem
  | cons n rest =>
    cases rest with
    | nil =>
      rw [hkept, List.mem_singleton] at hmem hmem'
      exact absurd (congrArg Moment.session (hmem.trans hmem'.symm)) hst
    | cons _ _ => exact Nat.le_add_left 2 _

/-- **The counting rule.** -/
theorem Conforms.occurrences_le {silent : Exchange Call Answer → Bool}
    (hlink : ∀ entry past c a, allowed entry past c → Q ⟨c, a⟩ = true →
      ∃ y, Program.latest silent past = some y ∧ P y = true)
    (hdisjoint : ∀ x, P x = true → Q x = false) (hloud : ∀ x, Q x = true → silent x = false)
    (h : Conforms E allowed moments w) (hone : occurrences P moments ≤ 1) :
    occurrences Q moments ≤ occurrences P moments ∧
      ∀ s y, Program.latest silent (history s moments) = some y → P y = true →
        occurrences Q moments < occurrences P moments := by
  induction h with
  | initial => exact ⟨Nat.le_refl _, fun s y hy => nomatch hy⟩
  | start _ _ _ _ ih => exact ih hone
  | stop _ _ _ _ ih => exact ih hone
  | @act moments w s entry c a w' hconforms hactive hallowed hreacts ih =>
    obtain ⟨hle, hlt⟩ := ih (Nat.le_trans (occurrences_le_cons _) hone)
    rw [occurrences_act, occurrences_act] at *
    cases hQ : Q ⟨c, a⟩ with
    | true =>
      -- the permission is used up: nobody else can have one left
      obtain ⟨y, hy, hPy⟩ := hlink entry _ c a hallowed hQ
      have hP : ¬ P ⟨c, a⟩ = true := fun hP => by
        rw [hdisjoint _ hP] at hQ
        cases hQ
      have hused := hlt s y hy hPy
      rw [if_neg hP] at hone ⊢
      refine ⟨hused, fun t y' hy' hPy' => ?_⟩
      by_cases hst : s = t
      · subst hst
        rw [history_act_self, Program.latest_cons_of_not_silent (hloud _ hQ)] at hy'
        obtain rfl := Option.some.inj hy'
        exact absurd hPy' hP
      · rw [history_act_of_ne hst] at hy'
        have htwo := two_le_occurrences hst (Program.mem_of_latest hy) (Program.mem_of_latest hy')
          hPy hPy'
        omega
    | false =>
      rw [if_neg Bool.false_ne_true, Nat.add_zero]
      by_cases hP : P ⟨c, a⟩ = true
      · rw [if_pos hP]
        exact ⟨Nat.le_succ_of_le hle, fun _ _ _ _ => Nat.lt_succ_of_le hle⟩
      · rw [if_neg hP, Nat.add_zero]
        refine ⟨hle, fun t y' hy' hPy' => ?_⟩
        by_cases hst : s = t
        · subst hst
          rw [history_act_self] at hy'
          cases hsilent : silent ⟨c, a⟩ with
          | true =>
            rw [Program.latest_cons_of_silent hsilent] at hy'
            exact hlt s y' hy' hPy'
          | false =>
            rw [Program.latest_cons_of_not_silent hsilent] at hy'
            obtain rfl := Option.some.inj hy'
            exact absurd hPy' hP
        · rw [history_act_of_ne hst] at hy'
          exact hlt t y' hy' hPy'

end

end

end Interaction
end Kapsel
