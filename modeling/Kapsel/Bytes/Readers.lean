import Kapsel.Bytes.Framing
import Kapsel.Interaction.Fallible

/-!
# Comparing readers

Two properties of readers of records that hold of a sequence when they hold of its parts.

* `Extends r r'`: whatever `r` reads, `r'` reads alike.  A reader that only refuses less,
  because its limits are larger, extends the stricter one.
* `FailsWith P r`: every error of `r` satisfies `P`, and `Refuses P x` says so of a
  computation that reads nothing.  A caller that tells errors apart knows from it which
  ones cannot come out of a parser.
-/

namespace Kapsel
namespace Framing

open Fallible

variable {ε α β : Type}

/-! ## Readers that refuse less -/

/-- Whatever the first reader reads, the second reads alike. -/
def Extends (r r' : Reader ε α) : Prop := ∀ c p, r c = .ok p → r' c = .ok p

theorem Extends.refl (r : Reader ε α) : Extends r r := fun _ _ h => h

/-- **Readers in sequence extend part by part.** -/
theorem Extends.bind {r r' : Reader ε α} {f f' : α → Reader ε β} (h : Extends r r')
    (hf : ∀ a, Extends (f a) (f' a)) : Extends (r >>= f) (r' >>= f') := by
  intro c p hp
  obtain ⟨⟨a, c₁⟩, hr, hfa⟩ := bind_eq_ok.mp hp
  exact bind_eq_ok.mpr ⟨(a, c₁), h c (a, c₁) hr, hf a c₁ p hfa⟩

/-- The same reader first, then one that extends. -/
theorem Extends.after (r : Reader ε α) {f f' : α → Reader ε β}
    (hf : ∀ a, Extends (f a) (f' a)) : Extends (r >>= f) (r >>= f') :=
  (Extends.refl r).bind hf

/-- A check that refuses less. -/
theorem Extends.lift {x x' : Except ε α} (h : ∀ a, x = .ok a → x' = .ok a) :
    Extends (liftM x : Reader ε α) (liftM x') := by
  intro c p hp
  cases x with
  | error e => exact nomatch hp
  | ok a =>
    rw [h a rfl]
    exact hp

/-! ## The errors of a reader -/

/-- Every error of the computation satisfies `P`. -/
def Refuses (P : ε → Prop) (x : Except ε α) : Prop := ∀ e, x = .error e → P e

/-- Every error of the reader satisfies `P`. -/
def FailsWith (P : ε → Prop) (r : Reader ε α) : Prop := ∀ c, Refuses P (r c)

section
variable {P : ε → Prop}

theorem Refuses.ok (a : α) : Refuses P (.ok a : Except ε α) := by
  intro e h
  exact nomatch h

theorem Refuses.bind {x : Except ε α} {f : α → Except ε β} (h : Refuses P x)
    (hf : ∀ a, Refuses P (f a)) : Refuses P (x >>= f) := by
  intro e he
  rcases bind_eq_error.mp he with hx | ⟨a, -, hfa⟩
  · exact h e hx
  · exact hf a e hfa

theorem Refuses.require {condition : Bool} {error : ε} (h : P error) :
    Refuses P (Fallible.require condition error) := by
  intro e he
  rw [← (require_eq_error.mp he).2]
  exact h

theorem Refuses.mapError {ε' : Type} {x : Except ε' α} {f : ε' → ε} (h : ∀ e, P (f e)) :
    Refuses P (x.mapError f) := by
  intro e he
  cases x with
  | ok a => exact nomatch he
  | error e' =>
    rw [← Except.error.inj he]
    exact h e'

theorem Refuses.start {errors : TakeErrors ε} (h : P errors.header) (input magic : List UInt8) :
    Refuses P (Cursor.start errors input magic) := by
  intro e he
  unfold Cursor.start at he
  split_ifs at he
  cases he
  exact h

theorem FailsWith.pure (a : α) : FailsWith P (pure a : Reader ε α) :=
  fun c => Refuses.ok (a, c)

/-- **A sequence fails as its parts do.** -/
theorem FailsWith.bind {r : Reader ε α} {f : α → Reader ε β} (h : FailsWith P r)
    (hf : ∀ a, FailsWith P (f a)) : FailsWith P (r >>= f) :=
  fun c => Refuses.bind (h c) fun p => hf p.1 p.2

/-- A check fails as it does outside. -/
theorem FailsWith.lift {x : Except ε α} (h : Refuses P x) :
    FailsWith P (liftM x : Reader ε α) := by
  intro c e he
  cases x with
  | error e' => exact h e (congrArg Except.error (Except.error.inj he))
  | ok a => exact nomatch he

/-- Taking a record fails with one of the framing errors. -/
theorem FailsWith.take {errors : TakeErrors ε} (horder : P errors.order)
    (hoverflow : P errors.overflow) (hheader : P errors.header) (tag : UInt8) :
    FailsWith P (fun c => c.take errors tag) := by
  intro c e he
  unfold Cursor.take at he
  simp only at he
  split_ifs at he <;> cases he <;> assumption

/-- Finishing fails with the header error. -/
theorem FailsWith.finish {errors : TakeErrors ε} (hheader : P errors.header) :
    FailsWith P (fun c => (c.finish errors).map fun _ => ((), c) : Reader ε Unit) := by
  intro c e he
  have hfinish : (c.finish errors).map (fun _ => ((), c)) = .error e := he
  unfold Cursor.finish at hfinish
  split_ifs at hfinish
  · cases hfinish
  · cases hfinish
    exact hheader

end

end Framing
end Kapsel
