/-!
# Methods that may fail and may panic

A method with a mutable receiver reads and writes a state.  When it fails it keeps what it has
written so far, since an error is an early return; when it panics nothing is left.

* `Method.call`: the outcome of one call, and its rules for the parts of a method.
* `Method.calls`: a sequence of calls, each made whatever the ones before returned.
* `Method.calls_related`: **two methods that agree call by call agree over every sequence of
  calls.**
-/

namespace Kapsel

/-- A computation on a state that may fail, keeping the state, or panic. -/
abbrev Method (σ ε α : Type) := ExceptT ε (StateT σ Option) α

namespace Method

variable {σ σ' ε ε' α β τ : Type}

/-- The outcome of a call: nothing if it panics, or what it returns and the state it leaves. -/
def call (m : Method σ ε α) (s : σ) : Option (Except ε α × σ) := m s

/-- `ok_or` and `map_err` with `?`: the value, or a failure. -/
def okOr (error : ε) : Option α → Method σ ε α
  | some a => pure a
  | none => throw error

/-- An index, a slice or an unchecked sum: the value, or a panic. -/
def orPanic (x : Option α) : Method σ ε α := fun s => x.map fun a => (.ok a, s)

/-- An early return with an error. -/
def failIf (condition : Bool) (error : ε) : Method σ ε Unit :=
  if condition then throw error else pure ()

/-! ## One call -/

section
variable (error : ε) (s : σ)

theorem call_get_bind (f : σ → Method σ ε β) : (get >>= f).call s = (f s).call s := rfl

theorem call_set_bind (s' : σ) (f : PUnit → Method σ ε β) :
    (set s' >>= f).call s = (f ⟨⟩).call s' := rfl

theorem call_set (s' : σ) : (set s' : Method σ ε PUnit).call s = some (.ok ⟨⟩, s') := rfl

/-- What fails without a value keeps the state. -/
theorem call_okOr_bind (x : Option α) (f : α → Method σ ε β) :
    (okOr error x >>= f).call s = x.elim (some (.error error, s)) fun a => (f a).call s := by
  cases x <;> rfl

/-- What panics without a value leaves nothing. -/
theorem call_orPanic_bind (x : Option α) (f : α → Method σ ε β) :
    (orPanic x >>= f).call s = x.elim none fun a => (f a).call s := by
  cases x <;> rfl

theorem call_orPanic (x : Option α) :
    (orPanic x : Method σ ε α).call s = x.map fun a => (.ok a, s) := rfl

theorem call_failIf_bind (condition : Bool) (f : Unit → Method σ ε β) :
    (failIf condition error >>= f).call s =
      if condition then some (.error error, s) else (f ()).call s := by
  cases condition <;> rfl

end

/-! ## Many calls -/

/-- A sequence of calls, each made whatever the ones before returned. -/
def calls (method : τ → Method σ ε α) : List τ → σ → Option (List (Except ε α) × σ)
  | [], s => some ([], s)
  | t :: ts, s =>
      match (method t).call s with
      | none => none
      | some (result, s') => (calls method ts s').map fun p => (result :: p.1, p.2)

theorem calls_cons {method : τ → Method σ ε α} {t : τ} {ts : List τ} {s s' s'' : σ}
    {result : Except ε α} {results : List (Except ε α)}
    (h : (method t).call s = some (result, s')) (hs : calls method ts s' = some (results, s'')) :
    calls method (t :: ts) s = some (result :: results, s'') := by
  rw [calls, h]
  show (calls method ts s').map _ = _
  rw [hs]
  rfl

/-- The first of a sequence of calls, and the others. -/
theorem exists_of_calls_cons {method : τ → Method σ ε α} {t : τ} {ts : List τ} {s s'' : σ}
    {results : List (Except ε α)} (h : calls method (t :: ts) s = some (results, s'')) :
    ∃ result s' results', (method t).call s = some (result, s') ∧
      calls method ts s' = some (results', s'') ∧ results = result :: results' := by
  rw [calls] at h
  split at h
  · cases h
  · rename_i result s' hcall
    obtain ⟨⟨results', s₂⟩, hcalls, hpair⟩ := Option.map_eq_some_iff.mp h
    obtain ⟨rfl, rfl⟩ := Prod.mk.inj hpair
    exact ⟨result, s', results', hcall, hcalls, rfl⟩

/-- Both calls return, they agree on what they return, and their states stay related. -/
def Agree (related : σ → σ' → Prop) (x : Option (Except ε α × σ)) (y : Option (Except ε' α × σ')) :
    Prop :=
  ∃ p q, x = some p ∧ y = some q ∧ p.1.toOption = q.1.toOption ∧ related p.2 q.2

/-- **Agreement of every call is agreement of every sequence of calls.** -/
theorem calls_related {related : σ → σ' → Prop} {method : τ → Method σ ε α}
    {method' : τ → Method σ' ε' α}
    (hcall : ∀ t s s', related s s' → Agree related ((method t).call s) ((method' t).call s'))
    (ts : List τ) {s : σ} {s' : σ'} (h : related s s') :
    ∃ results results' t t', calls method ts s = some (results, t) ∧
      calls method' ts s' = some (results', t') ∧
      results.map Except.toOption = results'.map Except.toOption ∧ related t t' := by
  induction ts generalizing s s' with
  | nil => exact ⟨[], [], s, s', rfl, rfl, rfl, h⟩
  | cons t ts ih =>
    obtain ⟨⟨result, s₁⟩, ⟨result', s₁'⟩, hs, hs', hsame, hrelated⟩ := hcall t s s' h
    obtain ⟨results, results', s₂, s₂', hts, hts', hall, hend⟩ := ih hrelated
    refine ⟨result :: results, result' :: results', s₂, s₂', calls_cons hs hts,
      calls_cons hs' hts', ?_, hend⟩
    rw [List.map_cons, List.map_cons, hall]
    exact congrArg (· :: results'.map Except.toOption) hsame

end Method
end Kapsel
