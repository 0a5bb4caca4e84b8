import Mathlib.Logic.Basic
import Mathlib.Data.List.Basic

/-!
# Programs that ask their environment

A program of this library is a tree.  A leaf is a result.  A node asks the
environment one question --- a `Call` --- and has one branch for each answer that
question may get.  Nothing is assumed about the answers, so a statement about a
program holds against every environment: a storage layer that loses commits, a
peer that lies, a scheduler that runs somebody else in between.

## What is proved about one program

`Program.Meets allowed past p post` says: started after the exchanges `past`, the
program `p` only ever asks a question that `allowed` permits after what was
exchanged so far, and every result it returns satisfies `post`.  The exchanges are
listed newest first.

It is a weakest precondition, and it is compositional: `meets_bind` runs a
sequence, `meets_bindExcept` runs a sequence that stops at the first error.  A
protocol is the predicate `allowed`; that a program follows the protocol is one
`Meets` with the trivial postcondition.

## What is computed from one program

`Program.answered respond p w` runs the program against an environment that is a
function.  It is used where the environment is known to be healthy and the result
itself is wanted.
-/

namespace Kapsel
namespace Interaction

/-- A program over the interface `Call`, `Answer`, with results in `α`. -/
inductive Program (Call : Type) (Answer : Call → Type) (α : Type) : Type where
  | done : α → Program Call Answer α
  | ask : (c : Call) → (Answer c → Program Call Answer α) → Program Call Answer α

/-- One question with the answer it got. -/
structure Exchange (Call : Type) (Answer : Call → Type) where
  call : Call
  answer : Answer call

variable {Call : Type} {Answer : Call → Type} {α β ε σ : Type}

namespace Program

/-- Run `p`, then run the program that its result selects. -/
def bind : Program Call Answer α → (α → Program Call Answer β) → Program Call Answer β
  | done a, f => f a
  | ask c k, f => ask c fun a => (k a).bind f

instance : Monad (Program Call Answer) where
  pure := done
  bind := bind

/-- The program that asks one question and returns the answer. -/
def call (c : Call) : Program Call Answer (Answer c) :=
  ask c done

@[simp] theorem pure_eq_done (a : α) : (pure a : Program Call Answer α) = done a := rfl

@[simp] theorem done_bind (a : α) (f : α → Program Call Answer β) :
    (done a >>= f) = f a := rfl

@[simp] theorem ask_bind (c : Call) (k : Answer c → Program Call Answer α)
    (f : α → Program Call Answer β) : (ask c k >>= f) = ask c fun a => k a >>= f := rfl

@[simp] theorem call_bind (c : Call) (f : Answer c → Program Call Answer β) :
    (call c >>= f) = ask c f := rfl

theorem bind_bind {γ : Type} (p : Program Call Answer α) (f : α → Program Call Answer β)
    (g : β → Program Call Answer γ) : (p >>= f) >>= g = p >>= fun a => f a >>= g := by
  induction p with
  | done a => rfl
  | ask c k ih => exact congrArg (ask c) (funext ih)

/-! ## What was exchanged last -/

/-- The newest exchange that is not silent. -/
def latest (silent : Exchange Call Answer → Bool) (past : List (Exchange Call Answer)) :
    Option (Exchange Call Answer) := past.find? (!silent ·)

theorem latest_cons_of_not_silent {silent : Exchange Call Answer → Bool}
    {past : List (Exchange Call Answer)} {x : Exchange Call Answer} (h : silent x = false) :
    latest silent (x :: past) = some x := by
  rw [latest, List.find?_cons_of_pos]
  rw [h]
  rfl

theorem latest_cons_of_silent {silent : Exchange Call Answer → Bool}
    {past : List (Exchange Call Answer)} {x : Exchange Call Answer} (h : silent x = true) :
    latest silent (x :: past) = latest silent past := by
  rw [latest, List.find?_cons_of_neg]
  · rfl
  · rw [h]
    exact Bool.false_ne_true

theorem mem_of_latest {silent : Exchange Call Answer → Bool}
    {past : List (Exchange Call Answer)} {x : Exchange Call Answer}
    (h : latest silent past = some x) : x ∈ past := List.mem_of_find?_eq_some h

/-! ## Following a protocol -/

/-- The weakest precondition of `post`: every question is one that `allowed`
permits after the exchanges so far. -/
def Meets (allowed : List (Exchange Call Answer) → Call → Prop) :
    List (Exchange Call Answer) → Program Call Answer α →
      (List (Exchange Call Answer) → α → Prop) → Prop
  | past, done a, post => post past a
  | past, ask c k, post => allowed past c ∧ ∀ a, (k a).Meets allowed (⟨c, a⟩ :: past) post

variable {allowed : List (Exchange Call Answer) → Call → Prop}
  {past : List (Exchange Call Answer)}

@[simp] theorem meets_done {a : α} {post : List (Exchange Call Answer) → α → Prop} :
    (done a : Program Call Answer α).Meets allowed past post ↔ post past a := Iff.rfl

@[simp] theorem meets_ask {c : Call} {k : Answer c → Program Call Answer α}
    {post : List (Exchange Call Answer) → α → Prop} :
    (ask c k).Meets allowed past post ↔
      allowed past c ∧ ∀ a, (k a).Meets allowed (⟨c, a⟩ :: past) post := Iff.rfl

@[simp] theorem meets_call {c : Call} {post : List (Exchange Call Answer) → Answer c → Prop} :
    (call c : Program Call Answer (Answer c)).Meets allowed past post ↔
      allowed past c ∧ ∀ a, post (⟨c, a⟩ :: past) a := Iff.rfl

/-- **Sequencing.** -/
theorem meets_bind (p : Program Call Answer α) (f : α → Program Call Answer β)
    {post : List (Exchange Call Answer) → β → Prop} :
    (p >>= f).Meets allowed past post ↔
      p.Meets allowed past fun past' a => (f a).Meets allowed past' post := by
  induction p generalizing past with
  | done a => rfl
  | ask c k ih =>
    rw [ask_bind, meets_ask, meets_ask]
    exact and_congr_right fun _ => forall_congr' fun a => ih a

/-- The postcondition may be weakened. -/
theorem Meets.mono {p : Program Call Answer α}
    {post post' : List (Exchange Call Answer) → α → Prop}
    (h : p.Meets allowed past post) (hpost : ∀ past' a, post past' a → post' past' a) :
    p.Meets allowed past post' := by
  induction p generalizing past with
  | done a => exact hpost past a h
  | ask c k ih => exact ⟨h.1, fun a => ih a (h.2 a)⟩

/-- The protocol may be relaxed. -/
theorem Meets.relax {allowed' : List (Exchange Call Answer) → Call → Prop}
    {p : Program Call Answer α} {post : List (Exchange Call Answer) → α → Prop}
    (h : p.Meets allowed past post) (hallowed : ∀ past' c, allowed past' c → allowed' past' c) :
    p.Meets allowed' past post := by
  induction p generalizing past with
  | done a => exact h
  | ask c k ih => exact ⟨hallowed past c h.1, fun a => ih a (h.2 a)⟩

/-- **Adding a condition that the protocol itself keeps.**  A property of the past that every
permitted exchange preserves holds whenever the program asks, and at its end. -/
theorem Meets.keeps {keep : List (Exchange Call Answer) → Prop} {p : Program Call Answer α}
    {post : List (Exchange Call Answer) → α → Prop} (h : p.Meets allowed past post)
    (hkeep : ∀ past' c a, allowed past' c → keep past' → keep (⟨c, a⟩ :: past'))
    (hpast : keep past) :
    p.Meets (fun past' c => allowed past' c ∧ keep past') past
      fun past' a => post past' a ∧ keep past' := by
  induction p generalizing past with
  | done a => exact ⟨h, hpast⟩
  | ask c k ih =>
    exact ⟨⟨h.1, hpast⟩, fun a => ih a (h.2 a) (hkeep past c a h.1 hpast)⟩

/-- A program does not look at what was exchanged before it started. -/
theorem Meets.shift {p : Program Call Answer α} {post : List (Exchange Call Answer) → α → Prop}
    {start : List (Exchange Call Answer)} (h : p.Meets allowed past post) :
    p.Meets (fun past' c => ∃ own, past' = own ++ start ∧ allowed own c) (past ++ start)
      fun past' a => ∃ own, past' = own ++ start ∧ post own a := by
  induction p generalizing past with
  | done a => exact ⟨past, rfl, h⟩
  | ask c k ih =>
    refine ⟨⟨past, rfl, h.1⟩, fun a => ?_⟩
    rw [← List.cons_append]
    exact ih a (h.2 a)

/-! ## Results -/

/-- The program ran to its end with these exchanges, newest first, and returned this. -/
inductive Returns : Program Call Answer α → List (Exchange Call Answer) → α → Prop
  | done (a : α) : Returns (.done a) [] a
  | ask {c : Call} {k : Answer c → Program Call Answer α} {answer : Answer c}
      {own : List (Exchange Call Answer)} {a : α} :
      Returns (k answer) own a → Returns (.ask c k) (own ++ [⟨c, answer⟩]) a

/-- **What a program returns satisfies its postcondition.** -/
theorem Meets.returns {p : Program Call Answer α} {post : List (Exchange Call Answer) → α → Prop}
    {own : List (Exchange Call Answer)} {a : α} (h : p.Meets allowed past post)
    (hreturns : Returns p own a) : post (own ++ past) a := by
  induction hreturns generalizing past with
  | done a => exact h
  | @ask c k answer own a _ ih =>
    rw [List.append_assoc]
    exact ih (h.2 answer)

/-- **A sequence returns** what its second half returns, after the exchanges of both. -/
theorem returns_bind {p : Program Call Answer α} {f : α → Program Call Answer β}
    {own : List (Exchange Call Answer)} {b : β} :
    Returns (p >>= f) own b ↔
      ∃ first second a, own = second ++ first ∧ Returns p first a ∧ Returns (f a) second b := by
  constructor
  · intro h
    induction p generalizing own with
    | done a => exact ⟨[], own, a, (List.append_nil own).symm, .done a, h⟩
    | ask c k ih =>
      rw [ask_bind] at h
      cases h with
      | @ask _ _ answer rest _ hrest =>
        obtain ⟨first, second, a, rfl, hfirst, hsecond⟩ := ih answer hrest
        exact ⟨first ++ [⟨c, answer⟩], second, a, List.append_assoc .., .ask hfirst, hsecond⟩
  · rintro ⟨first, second, a, rfl, hfirst, hsecond⟩
    induction hfirst with
    | done a =>
      rw [List.append_nil]
      exact hsecond
    | @ask c k answer own a _ ih =>
      rw [← List.append_assoc]
      exact .ask (ih hsecond)

/-- Any program keeps to the protocol that permits everything. -/
theorem meets_free (p : Program Call Answer α) :
    p.Meets (fun _ _ => True) past fun past' _ => past <:+ past' := by
  induction p generalizing past with
  | done a => exact List.suffix_refl past
  | ask c k ih =>
    exact ⟨trivial, fun a => (ih a).mono fun _ _ h => (List.suffix_cons _ _).trans h⟩

/-! ## Programs that may fail -/

/-- What a fallible program owes after its first half: the second half's
obligation on a value, the postcondition itself on an error. -/
def orElse (post : List (Exchange Call Answer) → Except ε β → Prop)
    (next : List (Exchange Call Answer) → α → Prop) :
    List (Exchange Call Answer) → Except ε α → Prop
  | past, .ok a => next past a
  | past, .error e => post past (.error e)

@[simp] theorem orElse_ok {post : List (Exchange Call Answer) → Except ε β → Prop}
    {next : List (Exchange Call Answer) → α → Prop} {a : α} :
    orElse post next past (.ok a) ↔ next past a := Iff.rfl

@[simp] theorem orElse_error {post : List (Exchange Call Answer) → Except ε β → Prop}
    {next : List (Exchange Call Answer) → α → Prop} {e : ε} :
    orElse post next past (.error e) ↔ post past (.error e) := Iff.rfl

/-- **Sequencing, stopping at the first error.** -/
theorem meets_bindExcept (p : ExceptT ε (Program Call Answer) α)
    (f : α → ExceptT ε (Program Call Answer) β)
    {post : List (Exchange Call Answer) → Except ε β → Prop} :
    (p >>= f).run.Meets allowed past post ↔
      p.run.Meets allowed past (orElse post fun past' a => (f a).run.Meets allowed past' post) := by
  have hrun : (p >>= f).run = p.run >>= ExceptT.bindCont f := rfl
  rw [hrun, meets_bind]
  have hcont : ∀ past' (r : Except ε α),
      (ExceptT.bindCont f r).Meets allowed past' post ↔
        orElse post (fun past' a => (f a).run.Meets allowed past' post) past' r := by
    intro past' r
    cases r with
    | ok a => rfl
    | error e => rfl
  constructor
  · exact fun h => h.mono fun past' r => (hcont past' r).mp
  · exact fun h => h.mono fun past' r => (hcont past' r).mpr

@[simp] theorem meets_pureExcept {a : α}
    {post : List (Exchange Call Answer) → Except ε α → Prop} :
    (pure a : ExceptT ε (Program Call Answer) α).run.Meets allowed past post ↔
      post past (.ok a) := Iff.rfl

@[simp] theorem meets_throw {e : ε}
    {post : List (Exchange Call Answer) → Except ε α → Prop} :
    (throw e : ExceptT ε (Program Call Answer) α).run.Meets allowed past post ↔
      post past (.error e) := Iff.rfl

/-- Ask a question inside a fallible program. -/
def perform (c : Call) : ExceptT ε (Program Call Answer) (Answer c) := ExceptT.lift (call c)

/-- A result that is already there. -/
def check (result : Except ε α) : ExceptT ε (Program Call Answer) α := ExceptT.mk (done result)

@[simp] theorem meets_perform {c : Call}
    {post : List (Exchange Call Answer) → Except ε (Answer c) → Prop} :
    (perform c : ExceptT ε (Program Call Answer) (Answer c)).run.Meets allowed past post ↔
      allowed past c ∧ ∀ a, post (⟨c, a⟩ :: past) (.ok a) := Iff.rfl

@[simp] theorem meets_check {result : Except ε α}
    {post : List (Exchange Call Answer) → Except ε α → Prop} :
    (check result : ExceptT ε (Program Call Answer) α).run.Meets allowed past post ↔
      post past result := Iff.rfl

/-- **A fallible sequence returns** what its second half returns, or the error of its first. -/
theorem returns_bindExcept {p : ExceptT ε (Program Call Answer) α}
    {f : α → ExceptT ε (Program Call Answer) β} {own : List (Exchange Call Answer)}
    {r : Except ε β} :
    Returns (p >>= f).run own r ↔
      (∃ first second a, own = second ++ first ∧ Returns p.run first (.ok a) ∧
        Returns (f a).run second r) ∨ ∃ e, Returns p.run own (.error e) ∧ r = .error e := by
  have hrun : (p >>= f).run = p.run >>= ExceptT.bindCont f := rfl
  rw [hrun, returns_bind]
  constructor
  · rintro ⟨first, second, result, rfl, hfirst, hsecond⟩
    cases result with
    | ok a => exact .inl ⟨first, second, a, rfl, hfirst, hsecond⟩
    | error e =>
      cases hsecond
      exact .inr ⟨e, hfirst, rfl⟩
  · rintro (⟨first, second, a, rfl, hfirst, hsecond⟩ | ⟨e, hfirst, rfl⟩)
    · exact ⟨first, second, .ok a, rfl, hfirst, hsecond⟩
    · exact ⟨own, [], .error e, rfl, hfirst, .done _⟩

/-- A result that is there returns at once. -/
theorem returns_check {result r : Except ε α} {own : List (Exchange Call Answer)} :
    Returns (check result : ExceptT ε (Program Call Answer) α).run own r ↔
      own = [] ∧ result = r := by
  constructor
  · intro h
    cases h
    exact ⟨rfl, rfl⟩
  · rintro ⟨rfl, rfl⟩
    exact .done _

/-- A result that is there, then the rest. -/
theorem returns_checked {result : Except ε α} {f : α → ExceptT ε (Program Call Answer) β}
    {own : List (Exchange Call Answer)} {b : β} :
    Returns (check result >>= f).run own (.ok b) ↔
      ∃ a, result = .ok a ∧ Returns (f a).run own (.ok b) := by
  cases result with
  | ok a =>
    constructor
    · exact fun h => ⟨a, rfl, h⟩
    · rintro ⟨_, ha, h⟩
      obtain rfl := Except.ok.inj ha
      exact h
  | error e =>
    constructor
    · intro h
      cases h
    · rintro ⟨_, ha, -⟩
      cases ha

/-- A question, then the rest. -/
theorem returns_performed {c : Call} {f : Answer c → ExceptT ε (Program Call Answer) α}
    {own : List (Exchange Call Answer)} {r : Except ε α} :
    Returns (perform c >>= f).run own r ↔
      ∃ answer later, own = later ++ [⟨c, answer⟩] ∧ Returns (f answer).run later r := by
  constructor
  · intro h
    cases h with
    | ask h => exact ⟨_, _, rfl, h⟩
  · rintro ⟨answer, later, rfl, h⟩
    exact .ask h

/-- Rename the error of a fallible program. -/
def mapErr {ε' : Type} (f : ε → ε') (p : ExceptT ε (Program Call Answer) α) :
    ExceptT ε' (Program Call Answer) α :=
  ExceptT.mk (p.run >>= fun r => done (r.mapError f))

@[simp] theorem meets_mapErr {ε' : Type} {f : ε → ε'} {p : ExceptT ε (Program Call Answer) α}
    {post : List (Exchange Call Answer) → Except ε' α → Prop} :
    (mapErr f p).run.Meets allowed past post ↔
      p.run.Meets allowed past fun past' r => post past' (r.mapError f) := meets_bind _ _

/-- What was exchanged before stays exchanged. -/
theorem Meets.suffix {p : Program Call Answer α}
    {post : List (Exchange Call Answer) → α → Prop} (h : p.Meets allowed past post) :
    p.Meets allowed past fun past' a => past <:+ past' ∧ post past' a := by
  induction p generalizing past with
  | done a => exact ⟨List.suffix_refl past, h⟩
  | ask c k ih =>
    refine ⟨h.1, fun a => (ih a (h.2 a)).mono fun past' b hb => ⟨?_, hb.2⟩⟩
    exact (List.suffix_cons _ _).trans hb.1

/-! ## Partial correctness

What a fallible program establishes when it succeeds.  An error owes nothing, so the rules
below never mention one. -/

/-- Every question is permitted, and a value that is returned satisfies `post`. -/
def Ensures (allowed : List (Exchange Call Answer) → Call → Prop)
    (past : List (Exchange Call Answer)) (p : ExceptT ε (Program Call Answer) α)
    (post : List (Exchange Call Answer) → α → Prop) : Prop :=
  p.run.Meets allowed past fun past' r => ∀ a, r = .ok a → post past' a

section
variable {p : ExceptT ε (Program Call Answer) α} {post post' : List (Exchange Call Answer) → α → Prop}

theorem Ensures.mono (h : Ensures allowed past p post)
    (hpost : ∀ past' a, post past' a → post' past' a) : Ensures allowed past p post' :=
  Meets.mono h fun past' _ hr a ha => hpost past' a (hr a ha)

/-- **The sequencing rule.** -/
theorem Ensures.bind {f : α → ExceptT ε (Program Call Answer) β}
    {after : List (Exchange Call Answer) → β → Prop} (h : Ensures allowed past p post)
    (hf : ∀ past' a, post past' a → Ensures allowed past' (f a) after) :
    Ensures allowed past (p >>= f) after := by
  refine (meets_bindExcept p f).mpr (Meets.mono h fun past' r hr => ?_)
  cases r with
  | ok a => exact hf past' a (hr a rfl)
  | error e => exact fun b hb => nomatch hb

/-- Sequencing where the first half establishes nothing. -/
theorem Ensures.seq {f : α → ExceptT ε (Program Call Answer) β}
    {after : List (Exchange Call Answer) → β → Prop}
    (h : Ensures allowed past p fun _ _ => True)
    (hf : ∀ past' a, Ensures allowed past' (f a) after) : Ensures allowed past (p >>= f) after :=
  h.bind fun past' a _ => hf past' a

theorem Ensures.suffix (h : Ensures allowed past p post) :
    Ensures allowed past p fun past' a => past <:+ past' ∧ post past' a :=
  (Meets.suffix h).mono fun _ _ hr a ha => ⟨hr.1, hr.2 a ha⟩

/-- What a fallible program returns when it succeeds satisfies its postcondition. -/
theorem Ensures.returns {own : List (Exchange Call Answer)} {a : α}
    (h : Ensures allowed [] p post) (hreturns : Returns p.run own (.ok a)) : post own a := by
  have hpost := Meets.returns h hreturns a rfl
  rw [List.append_nil] at hpost
  exact hpost

theorem ensures_pure {a : α} (h : post past a) :
    Ensures allowed past (pure a : ExceptT ε (Program Call Answer) α) post := by
  intro b hb
  obtain rfl := Except.ok.inj hb
  exact h

theorem ensures_throw (e : ε) :
    Ensures allowed past (throw e : ExceptT ε (Program Call Answer) α) post :=
  fun _ hb => nomatch hb

/-- A question, then the rest. -/
theorem ensures_ask {c : Call} {f : Answer c → ExceptT ε (Program Call Answer) α}
    (hc : allowed past c) (h : ∀ a, Ensures allowed (⟨c, a⟩ :: past) (f a) post) :
    Ensures allowed past (perform c >>= f) post := ⟨hc, h⟩

theorem ensures_check {result : Except ε α} (h : ∀ a, result = .ok a → post past a) :
    Ensures allowed past (check result) post := h

/-- A result that is there, then the rest. -/
theorem ensures_checked {result : Except ε β} {f : β → ExceptT ε (Program Call Answer) α}
    (h : ∀ b, result = .ok b → Ensures allowed past (f b) post) :
    Ensures allowed past (check result >>= f) post := by
  cases result with
  | ok b => exact h b rfl
  | error e => exact fun _ hb => nomatch hb

theorem ensures_mapErr {ε' : Type} {f : ε → ε'} (h : Ensures allowed past p post) :
    Ensures allowed past (mapErr f p) post := by
  refine meets_mapErr.mpr (Meets.mono h fun past' r hr a ha => hr a ?_)
  cases r with
  | ok b => exact congrArg Except.ok (Except.ok.inj ha)
  | error e => cases ha

theorem Ensures.relax {allowed' : List (Exchange Call Answer) → Call → Prop}
    (h : Ensures allowed past p post) (hallowed : ∀ past' c, allowed past' c → allowed' past' c) :
    Ensures allowed' past p post := Meets.relax h hallowed

/-- A program that may ask anything from here on. -/
theorem ensures_of_forall (h : ∀ past', past <:+ past' → ∀ c, allowed past' c) :
    Ensures allowed past p fun _ _ => True := by
  have hrun : ∀ q : Program Call Answer (Except ε α),
      q.Meets allowed past fun _ r => ∀ a, r = .ok a → True := by
    intro q
    induction q generalizing past with
    | done r => exact fun _ _ => trivial
    | ask c k ih =>
      exact ⟨h past (List.suffix_refl past) c, fun a => ih a fun past' hpast =>
        h past' ((List.suffix_cons _ _).trans hpast)⟩
  exact hrun p.run

/-- A fallible program whose error is looked at. -/
theorem ensures_lift {ε' : Type} (h : Ensures allowed past p post) :
    Ensures allowed past (ExceptT.lift p.run : ExceptT ε' (Program Call Answer) (Except ε α))
      fun past' r => ∀ a, r = .ok a → post past' a := by
  refine (meets_bind p.run _).mpr (Meets.mono h fun past' r hr b hb => ?_)
  obtain rfl := Except.ok.inj hb
  exact hr

end

/-! ## Running against a function -/

/-- Run a program against an environment that answers by a function of its state. -/
def answered (respond : σ → (c : Call) → Answer c × σ) : Program Call Answer α → σ → α × σ
  | done a, w => (a, w)
  | ask c k, w => (k (respond w c).1).answered respond (respond w c).2

@[simp] theorem answered_done (respond : σ → (c : Call) → Answer c × σ) (a : α) (w : σ) :
    (done a : Program Call Answer α).answered respond w = (a, w) := rfl

@[simp] theorem answered_ask (respond : σ → (c : Call) → Answer c × σ) (c : Call)
    (k : Answer c → Program Call Answer α) (w : σ) :
    (ask c k).answered respond w =
      (k (respond w c).1).answered respond (respond w c).2 := rfl

theorem answered_bind (respond : σ → (c : Call) → Answer c × σ) (p : Program Call Answer α)
    (f : α → Program Call Answer β) (w : σ) :
    (p >>= f).answered respond w =
      (f (p.answered respond w).1).answered respond (p.answered respond w).2 := by
  induction p generalizing w with
  | done a => rfl
  | ask c k ih =>
    rw [ask_bind, answered_ask, answered_ask]
    exact ih _ _

/-- A program that only asks what leaves the world alone leaves it alone. -/
theorem answered_world {respond : σ → (c : Call) → Answer c × σ} {w : σ}
    {p : Program Call Answer α} {post : List (Exchange Call Answer) → α → Prop}
    (h : p.Meets (fun _ c => (respond w c).2 = w) past post) : (p.answered respond w).2 = w := by
  induction p generalizing past with
  | done a => rfl
  | ask c k ih =>
    rw [answered_ask, h.1]
    exact ih _ (h.2 _)

/-- The result of such a program satisfies its postcondition, after exchanges that were
answered in this world. -/
theorem Meets.answered {respond : σ → (c : Call) → Answer c × σ} {w : σ}
    {p : Program Call Answer α} {post : List (Exchange Call Answer) → α → Prop}
    (h : p.Meets (fun _ c => (respond w c).2 = w) past post) :
    ∃ past', post past' (p.answered respond w).1 ∧
      ∀ x ∈ past', x ∈ past ∨ x.answer = (respond w x.call).1 := by
  induction p generalizing past with
  | done a => exact ⟨past, h, fun x hx => .inl hx⟩
  | ask c k ih =>
    rw [answered_ask, h.1]
    obtain ⟨past', hpost, hpast'⟩ := ih _ (h.2 (respond w c).1)
    refine ⟨past', hpost, fun x hx => ?_⟩
    rcases hpast' x hx with hmem | hanswer
    · rcases List.mem_cons.mp hmem with rfl | hmem
      · exact .inr rfl
      · exact .inl hmem
    · exact .inr hanswer

/-- Against this environment the fallible program returns the value, and the world is then
the second one. -/
def Yields (respond : σ → (c : Call) → Answer c × σ) (w : σ)
    (p : ExceptT ε (Program Call Answer) α) (a : α) (w' : σ) : Prop :=
  p.run.answered respond w = (.ok a, w')

/-- Against this environment the fallible program fails, and the world is then the second
one. -/
def Fails (respond : σ → (c : Call) → Answer c × σ) (w : σ)
    (p : ExceptT ε (Program Call Answer) α) (e : ε) (w' : σ) : Prop :=
  p.run.answered respond w = (.error e, w')

section
variable {respond : σ → (c : Call) → Answer c × σ} {w w' w'' : σ} {e : ε}
  {p : ExceptT ε (Program Call Answer) α} {f : α → ExceptT ε (Program Call Answer) β} {a : α} {b : β}

theorem yields_pure (a : α) (w : σ) :
    Yields respond w (pure a : ExceptT ε (Program Call Answer) α) a w := rfl

/-- **Sequencing of values.** -/
theorem Yields.bind (h : Yields respond w p a w') (hf : Yields respond w' (f a) b w'') :
    Yields respond w (p >>= f) b w'' := by
  have hrun : (p >>= f).run = p.run >>= ExceptT.bindCont f := rfl
  unfold Yields
  rw [hrun, answered_bind, h]
  exact hf

/-- A question, then the rest. -/
theorem yields_ask {c : Call} {g : Answer c → ExceptT ε (Program Call Answer) β}
    (h : Yields respond (respond w c).2 (g (respond w c).1) b w') :
    Yields respond w (perform c >>= g) b w' := h

/-- A question whose answer is known, then the rest. -/
theorem yields_asked {c : Call} {g : Answer c → ExceptT ε (Program Call Answer) β}
    {answer : Answer c} (hanswer : respond w c = (answer, w'))
    (h : Yields respond w' (g answer) b w'') : Yields respond w (perform c >>= g) b w'' := by
  refine yields_ask ?_
  rw [hanswer]
  exact h

/-- A value that is there, then the rest. -/
theorem yields_checked {result : Except ε α} (hresult : result = .ok a)
    (h : Yields respond w (f a) b w') : Yields respond w (check result >>= f) b w' := by
  subst hresult
  exact h

theorem yields_check {result : Except ε α} (hresult : result = .ok a) (w : σ) :
    Yields respond w (check result) a w := by
  subst hresult
  rfl

theorem yields_mapErr {ε' : Type} {g : ε → ε'} (h : Yields respond w p a w') :
    Yields respond w (mapErr g p) a w' := by
  show (p.run >>= _ : Program Call Answer _).answered respond w = _
  rw [answered_bind, h]
  rfl

/-- A value of a program whose error is looked at. -/
theorem yields_lift {ε' : Type} (h : Yields respond w p a w') :
    Yields respond w (ExceptT.lift p.run : ExceptT ε' (Program Call Answer) (Except ε α)) (.ok a)
      w' := by
  show (p.run >>= _ : Program Call Answer _).answered respond w = _
  rw [answered_bind, h]
  rfl

/-- A value, then an error. -/
theorem Yields.bind_fails (h : Yields respond w p a w') (hf : Fails respond w' (f a) e w'') :
    Fails respond w (p >>= f) e w'' := by
  have hrun : (p >>= f).run = p.run >>= ExceptT.bindCont f := rfl
  unfold Fails
  rw [hrun, answered_bind, h]
  exact hf

/-- The first error decides. -/
theorem Fails.bind (h : Fails respond w p e w') : Fails respond w (p >>= f) e w' := by
  have hrun : (p >>= f).run = p.run >>= ExceptT.bindCont f := rfl
  unfold Fails
  rw [hrun, answered_bind, h]
  rfl

theorem fails_check {result : Except ε α} (hresult : result = .error e) (w : σ) :
    Fails respond w (check result : ExceptT ε (Program Call Answer) α) e w := by
  subst hresult
  rfl

end

/-- Against this environment the fallible program ends with the result, and the world is as
before. -/
def Concludes (respond : σ → (c : Call) → Answer c × σ) (w : σ)
    (p : ExceptT ε (Program Call Answer) α) (r : Except ε α) : Prop :=
  p.run.answered respond w = (r, w)

section
variable {respond : σ → (c : Call) → Answer c × σ} {w : σ} {r : Except ε α}
  {p : ExceptT ε (Program Call Answer) α} {f : α → ExceptT ε (Program Call Answer) β}

theorem concludes_pure (a : α) :
    Concludes respond w (pure a : ExceptT ε (Program Call Answer) α) (.ok a) := rfl

theorem concludes_check (r : Except ε α) :
    Concludes respond w (check r : ExceptT ε (Program Call Answer) α) r := rfl

/-- **Sequencing of programs that leave the world as it is.** -/
theorem Concludes.bind {g : α → Except ε β} (h : Concludes respond w p r)
    (hf : ∀ a, r = .ok a → Concludes respond w (f a) (g a)) :
    Concludes respond w (p >>= f) (r >>= g) := by
  have hrun : (p >>= f).run = p.run >>= ExceptT.bindCont f := rfl
  unfold Concludes
  rw [hrun, answered_bind, h]
  cases r with
  | ok a => exact hf a rfl
  | error e => rfl

theorem concludes_mapErr {ε' : Type} {g : ε → ε'} (h : Concludes respond w p r) :
    Concludes respond w (mapErr g p) (r.mapError g) := by
  show (p.run >>= _ : Program Call Answer _).answered respond w = _
  rw [answered_bind, h]
  rfl

theorem Concludes.unique {r' : Except ε α} (h : Concludes respond w p r)
    (h' : Concludes respond w p r') : r' = r :=
  congrArg Prod.fst (h'.symm.trans h)

end

end Program

end Interaction
end Kapsel
