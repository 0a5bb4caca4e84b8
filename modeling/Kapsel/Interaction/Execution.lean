import Kapsel.Interaction.Program

/-!
# One program and a world that reacts

`Program.Meets` speaks of what a program asks.  Here the world is in the picture: it reacts to a
question with an answer and a next world, in one of possibly many ways, and a property of the world
is to hold at every moment of the run, also of a run that breaks off.

`Program.Reaches` is a run up to some moment: what is left of the program, and the world then.
`Program.Always` is the weakest precondition of an invariant and a postcondition, and it is
compositional: `always_bind` runs a sequence, `always_bindExcept` one that stops at the first error.
`Always.of_reaches` passes to the runs.
-/

namespace Kapsel
namespace Interaction

variable {Call : Type} {Answer : Call → Type} {World α β ε : Type}

namespace Program

/-! ## Runs -/

/-- The run of a program from a world: what is left of the program, and the world. -/
inductive Reaches (reacts : World → (c : Call) → Answer c → World → Prop)
    (p : Program Call Answer α) (w : World) : Program Call Answer α → World → Prop
  | start : Reaches reacts p w p w
  | react {c : Call} {k : Answer c → Program Call Answer α} {a : Answer c} {v v' : World} :
      Reaches reacts p w (.ask c k) v → reacts v c a v' → Reaches reacts p w (k a) v'

/-- At every moment from here on the invariant holds, and a result satisfies `post`. -/
def Always (reacts : World → (c : Call) → Answer c → World → Prop) (inv : World → Prop) :
    World → Program Call Answer α → (α → World → Prop) → Prop
  | w, done a, post => inv w ∧ post a w
  | w, ask c k, post => inv w ∧ ∀ a w', reacts w c a w' → (k a).Always reacts inv w' post

variable {reacts : World → (c : Call) → Answer c → World → Prop} {inv : World → Prop}
  {w w' : World}

@[simp] theorem always_done {a : α} {post : α → World → Prop} :
    (done a : Program Call Answer α).Always reacts inv w post ↔ inv w ∧ post a w := Iff.rfl

@[simp] theorem always_ask {c : Call} {k : Answer c → Program Call Answer α}
    {post : α → World → Prop} :
    (ask c k).Always reacts inv w post ↔
      inv w ∧ ∀ a w', reacts w c a w' → (k a).Always reacts inv w' post := Iff.rfl

/-- The invariant holds now. -/
theorem Always.now {p : Program Call Answer α} {post : α → World → Prop}
    (h : p.Always reacts inv w post) : inv w := by
  cases p with
  | done a => exact h.1
  | ask c k => exact h.1

/-- The postcondition may be weakened, where the invariant is known. -/
theorem Always.mono {p : Program Call Answer α} {post post' : α → World → Prop}
    (h : p.Always reacts inv w post) (hpost : ∀ a v, inv v → post a v → post' a v) :
    p.Always reacts inv w post' := by
  induction p generalizing w with
  | done a => exact ⟨h.1, hpost a w h.1 h.2⟩
  | ask c k ih => exact ⟨h.1, fun a w' hreacts => ih a (h.2 a w' hreacts)⟩

/-- The invariant may be weakened, and is then known of the end as it was. -/
theorem Always.relax {inv' : World → Prop} {p : Program Call Answer α} {post : α → World → Prop}
    (h : p.Always reacts inv w post) (hinv : ∀ v, inv v → inv' v) :
    p.Always reacts inv' w fun a v => inv v ∧ post a v := by
  induction p generalizing w with
  | done a => exact ⟨hinv w h.1, h⟩
  | ask c k ih => exact ⟨hinv w h.1, fun a w' hreacts => ih a (h.2 a w' hreacts)⟩

/-- **Sequencing.** -/
theorem always_bind (p : Program Call Answer α) (f : α → Program Call Answer β)
    {post : β → World → Prop} :
    (p >>= f).Always reacts inv w post ↔
      p.Always reacts inv w fun a w' => (f a).Always reacts inv w' post := by
  induction p generalizing w with
  | done a => exact ⟨fun h => ⟨h.now, h⟩, fun h => h.2⟩
  | ask c k ih =>
    rw [ask_bind, always_ask, always_ask]
    exact and_congr_right fun _ => forall₃_congr fun a _ _ => ih a

/-- What a fallible program owes after its first half. -/
def orElseAt (post : Except ε β → World → Prop) (next : α → World → Prop) :
    Except ε α → World → Prop
  | .ok a, w => next a w
  | .error e, w => post (.error e) w

/-- **Sequencing, stopping at the first error.** -/
theorem always_bindExcept {p : ExceptT ε (Program Call Answer) α}
    {f : α → ExceptT ε (Program Call Answer) β} {post : Except ε β → World → Prop}
    (h : p.run.Always reacts inv w
      (orElseAt post fun a w' => (f a).run.Always reacts inv w' post)) :
    (p >>= f).run.Always reacts inv w post := by
  have hrun : (p >>= f).run = p.run >>= ExceptT.bindCont f := rfl
  rw [hrun, always_bind]
  refine h.mono fun r v hv hr => ?_
  cases r with
  | ok a => exact hr
  | error e => exact ⟨hv, hr⟩

/-- A fallible program whose error is renamed. -/
theorem always_mapErr {ε' : Type} {f : ε → ε'} {p : ExceptT ε (Program Call Answer) α}
    {post : Except ε' α → World → Prop}
    (h : p.run.Always reacts inv w fun r v => post (r.mapError f) v) :
    (mapErr f p).run.Always reacts inv w post :=
  (always_bind _ _).mpr (h.mono fun _ _ hv hr => ⟨hv, hr⟩)

/-- A program that does not fail, inside a fallible one. -/
theorem always_lift {p : Program Call Answer α} {post : Except ε α → World → Prop}
    (h : p.Always reacts inv w fun a v => post (.ok a) v) :
    (ExceptT.lift p : ExceptT ε (Program Call Answer) α).run.Always reacts inv w post :=
  (always_bind _ _).mpr (h.mono fun _ _ hv hr => ⟨hv, hr⟩)

/-- A program whose questions all keep the invariant keeps it. -/
theorem always_of_meets {p : Program Call Answer α}
    {post : List (Exchange Call Answer) → α → Prop} {past : List (Exchange Call Answer)}
    (h : p.Meets (fun _ c => ∀ v a v', reacts v c a v' → inv v → inv v') past post) (hw : inv w) :
    p.Always reacts inv w fun _ _ => True := by
  induction p generalizing past w with
  | done a => exact ⟨hw, trivial⟩
  | ask c k ih => exact ⟨hw, fun a w' hreacts => ih a (h.2 a) (h.1 w a w' hreacts hw)⟩

/-- **The invariant holds at every moment of a run**, and whatever is left of the program keeps
it. -/
theorem Always.of_reaches {p q : Program Call Answer α} {post : α → World → Prop}
    (h : p.Always reacts inv w post) (hreaches : Reaches reacts p w q w') :
    q.Always reacts inv w' post := by
  induction hreaches with
  | start => exact h
  | react _ hreacts ih => exact ih.2 _ _ hreacts

/-- A run may be extended at its start. -/
theorem Reaches.after {c : Call} {k : Answer c → Program Call Answer α} {a : Answer c} {v : World}
    {q : Program Call Answer α} (hreacts : reacts w c a w') (h : Reaches reacts (k a) w' q v) :
    Reaches reacts (ask c k) w q v := by
  induction h with
  | start => exact .react .start hreacts
  | react _ hnext ih => exact ih.react hnext

end Program

end Interaction
end Kapsel
