import Mathlib.Data.List.Basic

/-!
# Systems of actions

A system has states and actions.  An action is enabled in some states, and what it does there is a
function.  What can happen is a list of actions, the newest first, each of which was enabled when it
was taken.

* `Possible.invariant`: what every enabled action keeps holds of every state that is reached.
* `Possible.kept`: and, from some state on, of every state after it.
* `Possible.of_append`, `Possible.enabled`: the past of what is possible, and each action in it.
* `Possible.not_mem_later`: what is not enabled any more does not happen again.
-/

namespace Kapsel
namespace Interaction

/-- A state that one starts in, and actions with a guard and an effect. -/
structure System (State Act : Type) where
  initial : State
  Enabled : State → Act → Prop
  next : State → Act → State

namespace System

variable {State Act : Type} (S : System State Act)

/-- The state after some actions, the newest first. -/
def after : List Act → State
  | [] => S.initial
  | act :: acts => S.next (after acts) act

/-- Each action was enabled when it was taken. -/
def Possible : List Act → Prop
  | [] => True
  | act :: acts => Possible acts ∧ S.Enabled (S.after acts) act

variable {S} {acts later : List Act} {act : Act}

@[simp] theorem after_nil : S.after [] = S.initial := rfl

@[simp] theorem after_cons : S.after (act :: acts) = S.next (S.after acts) act := rfl

namespace Possible

/-- The past of what is possible. -/
theorem of_append (h : S.Possible (later ++ acts)) : S.Possible acts := by
  induction later with
  | nil => exact h
  | cons act later ih => exact ih h.1

/-- An action that was taken was enabled. -/
theorem enabled (h : S.Possible (later ++ act :: acts)) : S.Enabled (S.after acts) act :=
  h.of_append.2

/-- **What every enabled action keeps is an invariant.** -/
theorem invariant {P : State → Prop} (initial : P S.initial)
    (step : ∀ s act, P s → S.Enabled s act → P (S.next s act)) (h : S.Possible acts) :
    P (S.after acts) := by
  induction acts with
  | nil => exact initial
  | cons act acts ih => exact step (S.after acts) act (ih h.1) h.2

/-- **What the actions of a stretch keep holds after it**, once it holds before. -/
theorem kept {P : State → Prop} (start : P (S.after acts)) (h : S.Possible (later ++ acts))
    (step : ∀ act ∈ later, ∀ s, P s → S.Enabled s act → P (S.next s act)) :
    P (S.after (later ++ acts)) := by
  induction later with
  | nil => exact start
  | cons act later ih =>
    have before : P (S.after (later ++ acts)) :=
      ih h.1 fun a ha => step a (List.mem_cons_of_mem act ha)
    exact step act List.mem_cons_self (S.after (later ++ acts)) before h.2

/-- **What happens at most once**: an action behind which it is not enabled any more. -/
theorem not_mem_later {P : State → Prop} (h : S.Possible (later ++ act :: acts))
    (start : P (S.after (act :: acts))) (step : ∀ s a, P s → S.Enabled s a → P (S.next s a))
    (never : ∀ s, P s → ¬S.Enabled s act) : act ∉ later := by
  intro hmem
  obtain ⟨newer, older, rfl⟩ := List.append_of_mem hmem
  rw [List.append_assoc] at h
  have behind : P (S.after (older ++ act :: acts)) :=
    kept start h.of_append.1 fun a _ s hs => step s a hs
  exact never _ behind h.enabled

end Possible

end System
end Interaction
end Kapsel
