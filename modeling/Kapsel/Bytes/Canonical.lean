import Kapsel.Bytes.Readers

/-!
# Readers that accept one form only

A reader is canonical if what it returns tells the bytes that it was read from.

* `Takes r write`: whatever `r` returns, the bytes that it consumed are the ones that `write` gives
  for it.
* `TakesAll r before write`: the same of a reader that ends its input, where `before` is what was
  read already.

A sequence of readers takes part by part, so canonicality of a whole format is a chain in the order
of its records, as its round trip is.
-/

namespace Kapsel
namespace Framing

open BigEndian Fallible

variable {ε α β : Type}

/-- What the reader returns tells the bytes that it consumed. -/
def Takes (r : Reader ε α) (write : α → List UInt8) : Prop :=
  ∀ c a c', r c = .ok (a, c') → c.rest = write a ++ c'.rest

/-- What the reader returns tells the bytes that were read before, and all the rest. -/
def TakesAll (r : Reader ε β) (before : List UInt8) (write : β → List UInt8) : Prop :=
  ∀ c b c', r c = .ok (b, c') → write b = before ++ c.rest

theorem takes_take {errors : TakeErrors ε} (tag : UInt8) :
    Takes (fun c => c.take errors tag) (frame tag) :=
  fun _ _ _ h => (Cursor.take_eq_ok h).1

/-- Reading on with a computation that reads nothing. -/
theorem Takes.and_then {r : Reader ε α} {write : α → List UInt8} {f : α → Except ε β}
    {write' : β → List UInt8} (h : Takes r write) (hf : ∀ a b, f a = .ok b → write a = write' b) :
    Takes (do f (← r)) write' := by
  intro c b c' hread
  obtain ⟨⟨a, c₁⟩, hr, hfa⟩ := bind_eq_ok.mp hread
  have hsame : c' = c₁ := cursor_of_lift_eq_ok hfa
  rw [h c a c₁ hr, hf a b (lift_eq_ok hfa), hsame]

/-- Converting what was read loses nothing that tells its bytes. -/
theorem Takes.map {r : Reader ε α} {write : α → List UInt8} {g : α → β} {write' : β → List UInt8}
    (h : Takes r write) (hg : ∀ a, write a = write' (g a)) : Takes (do return g (← r)) write' := by
  intro c b c' hread
  obtain ⟨⟨a, c₁⟩, hr, hpair⟩ := bind_eq_ok.mp hread
  obtain ⟨rfl, rfl⟩ := Prod.mk.inj (Except.ok.inj hpair)
  rw [h c a c₁ hr, hg a]

/-- **Readers in sequence take part by part.** -/
theorem Takes.bindAll {r : Reader ε α} {write : α → List UInt8} {f : α → Reader ε β}
    {before : List UInt8} {write' : β → List UInt8} (h : Takes r write)
    (hf : ∀ a, TakesAll (f a) (before ++ write a) write') : TakesAll (r >>= f) before write' := by
  intro c b c' hread
  obtain ⟨⟨a, c₁⟩, hr, hfa⟩ := bind_eq_ok.mp hread
  rw [hf a c₁ b c' hfa, h c a c₁ hr, List.append_assoc]

/-- A check on the way consumes nothing, and what it found is known behind it. -/
theorem TakesAll.after_check {x : Except ε α} {f : α → Reader ε β} {before : List UInt8}
    {write : β → List UInt8} (hf : ∀ a, x = .ok a → TakesAll (f a) before write) :
    TakesAll ((liftM x : Reader ε α) >>= f) before write := by
  intro c b c' hread
  obtain ⟨⟨a, c₁⟩, hx, hfa⟩ := bind_eq_ok.mp hread
  obtain rfl : c₁ = c := cursor_of_lift_eq_ok hx
  exact hf a (lift_eq_ok hx) c₁ b c' hfa

/-- At the end nothing is left. -/
theorem takesAll_finish {errors : TakeErrors ε} {b : β} {before : List UInt8}
    {write : β → List UInt8} (h : write b = before) :
    TakesAll ((fun c => (c.finish errors).map fun _ => ((), c) : Reader ε Unit) >>= fun _ => pure b)
      before write := by
  intro c b' c' hread
  obtain ⟨⟨_, c₁⟩, hend, hpair⟩ := bind_eq_ok.mp hread
  obtain ⟨rfl, -⟩ := Prod.mk.inj (Except.ok.inj hpair)
  obtain ⟨_, hfinish, -⟩ := map_eq_ok.mp hend
  rw [Cursor.finish_eq_ok hfinish, List.append_nil]
  exact h

/-- The same of a reader that hands its value on to the end. -/
theorem takesAll_end {errors : TakeErrors ε} {b : β} {before : List UInt8}
    {write : β → List UInt8} (h : write b = before) :
    TakesAll (fun c => (c.finish errors).map fun _ => (b, c) : Reader ε β) before write := by
  intro c b' c' hread
  obtain ⟨_, hfinish, hpair⟩ := map_eq_ok.mp hread
  obtain ⟨rfl, -⟩ := Prod.mk.inj hpair
  rw [Cursor.finish_eq_ok hfinish, List.append_nil]
  exact h

/-- A canonical reader behind a magic accepts exactly one input for what it returns. -/
theorem TakesAll.run {errors : TakeErrors ε} {r : Reader ε β} {write : β → List UInt8}
    {input magic : List UInt8} {c c' : Cursor} {b : β} (h : TakesAll r [] write)
    (hstart : Cursor.start errors input magic = .ok c) (hread : r c = .ok (b, c')) :
    input = magic ++ write b := by
  rw [Cursor.start_eq_ok hstart, h c b c' hread, List.nil_append]

/-! ## Values of fixed size -/

theorem val_of_arrayOr {n : ℕ} {error : ε} {bytes : List UInt8} {array : Octets n}
    (h : arrayOr n error bytes = .ok array) : array.val = bytes := by
  unfold arrayOr octets at h
  split at h
  · rename_i found hfound
    split_ifs at hfound with hlength
    obtain rfl := Option.some.inj hfound
    obtain rfl := Except.ok.inj h
    rfl
  · cases h

end Framing

namespace BigEndian

/-- The bytes of a number that was read from bytes. -/
theorem beBytes_ofBeBytes_of_length {w : ℕ} {bytes : List UInt8} (h : bytes.length = w) :
    beBytes w (ofBeBytes bytes) = bytes := by
  subst h
  exact beBytes_ofBeBytes bytes

@[simp] theorem int64BeBytes_ofBeBytes (bytes : Octets 8) :
    int64BeBytes (int64OfBeBytes bytes) = bytes := by
  have hlt : ofBeBytes bytes.val < 2 ^ 64 := by
    have h := ofBeBytes_lt bytes.val
    rw [bytes.property] at h
    exact h
  apply Subtype.ext
  show beBytes 8 (BitVec.ofNat 64 (ofBeBytes bytes.val)).toNat = bytes.val
  rw [BitVec.toNat_ofNat, Nat.mod_eq_of_lt hlt]
  exact beBytes_ofBeBytes_of_length bytes.property

@[simp] theorem int32BeBytes_ofBeBytes (bytes : Octets 4) :
    int32BeBytes (int32OfBeBytes bytes) = bytes := by
  have hlt : ofBeBytes bytes.val < 2 ^ 32 := by
    have h := ofBeBytes_lt bytes.val
    rw [bytes.property] at h
    exact h
  apply Subtype.ext
  show beBytes 4 (BitVec.ofNat 32 (ofBeBytes bytes.val)).toNat = bytes.val
  rw [BitVec.toNat_ofNat, Nat.mod_eq_of_lt hlt]
  exact beBytes_ofBeBytes_of_length bytes.property

end BigEndian
end Kapsel
