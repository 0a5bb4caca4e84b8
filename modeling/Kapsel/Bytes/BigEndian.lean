import Mathlib.Data.List.Basic
import Mathlib.Order.Nat
import Mathlib.Tactic.Ring
import Mathlib.Tactic.NormNum

/-!
# Big-endian bytes of a natural number

`beBytes w n` is `n` written in `w` bytes, most significant first, and `ofBeBytes`
reads such a list back.  The two are inverse on numbers below `256 ^ w` and on
lists of length `w`.  The signed machine integers are written through their bit
patterns.
-/

namespace Kapsel

/-- Exactly `n` bytes. -/
abbrev Octets (n : ℕ) := { bytes : List UInt8 // bytes.length = n }

/-- A slice as an array of fixed size, when it has that size. -/
def octets (n : ℕ) (bytes : List UInt8) : Option (Octets n) :=
  if h : bytes.length = n then some ⟨bytes, h⟩ else none

/-- The same as a conversion that may fail. -/
def arrayOr {ε : Type} (n : ℕ) (error : ε) (bytes : List UInt8) : Except ε (Octets n) :=
  match octets n bytes with
  | some array => .ok array
  | none => .error error

@[simp] theorem octets_val {n : ℕ} (o : Octets n) : octets n o.val = some o := by
  rw [octets, dif_pos o.property]

@[simp] theorem arrayOr_val {ε : Type} {n : ℕ} {error : ε} (o : Octets n) :
    arrayOr n error o.val = .ok o := by
  rw [arrayOr, octets_val]

namespace BigEndian

/-- The last `w` bytes of `n`, most significant first. -/
def beBytes : ℕ → ℕ → List UInt8
  | 0, _ => []
  | w + 1, n => UInt8.ofNat (n / 256 ^ w) :: beBytes w n

/-- The number that a list of bytes writes, most significant first. -/
def ofBeBytes : List UInt8 → ℕ
  | [] => 0
  | b :: l => b.toNat * 256 ^ l.length + ofBeBytes l

@[simp] theorem length_beBytes (w n : ℕ) : (beBytes w n).length = w := by
  induction w with
  | zero => rfl
  | succ w ih => rw [beBytes, List.length_cons, ih]

theorem ofBeBytes_lt (l : List UInt8) : ofBeBytes l < 256 ^ l.length := by
  induction l with
  | nil => exact Nat.one_pos
  | cons b l ih =>
    have hb : b.toNat < 256 := b.toNat_lt
    have hpow : 256 ^ (l.length + 1) = 256 * 256 ^ l.length := by rw [Nat.pow_succ, Nat.mul_comm]
    have hmul : b.toNat * 256 ^ l.length ≤ 255 * 256 ^ l.length :=
      Nat.mul_le_mul_right _ (by omega)
    rw [ofBeBytes, List.length_cons, hpow]
    omega

/-- Writing depends on the number only up to `256 ^ w`. -/
theorem beBytes_add_mul (w n k : ℕ) : beBytes w (k * 256 ^ w + n) = beBytes w n := by
  induction w generalizing k with
  | zero => rfl
  | succ w ih =>
    have hpow : k * 256 ^ (w + 1) = k * 256 * 256 ^ w := by ring
    have hpos : 0 < 256 ^ w := Nat.pow_pos (by omega)
    rw [beBytes, beBytes, hpow, ih (k * 256)]
    congr 1
    rw [Nat.add_comm, Nat.add_mul_div_right _ _ hpos]
    apply UInt8.toNat.inj
    rw [UInt8.toNat_ofNat', UInt8.toNat_ofNat']
    omega

/-- **Reading back what was written.** -/
theorem ofBeBytes_beBytes (w n : ℕ) (h : n < 256 ^ w) : ofBeBytes (beBytes w n) = n := by
  induction w generalizing n with
  | zero =>
    rw [Nat.pow_zero] at h
    exact (Nat.lt_one_iff.mp h).symm
  | succ w ih =>
    have hpos : 0 < 256 ^ w := Nat.pow_pos (by omega)
    have hdiv : n / 256 ^ w < 256 := by
      rw [Nat.div_lt_iff_lt_mul hpos]
      rwa [Nat.pow_succ, Nat.mul_comm] at h
    have hsplit : n / 256 ^ w * 256 ^ w + n % 256 ^ w = n := Nat.div_add_mod' n _
    have hlow : beBytes w n = beBytes w (n % 256 ^ w) := by
      conv_lhs => rw [← hsplit, beBytes_add_mul]
    rw [beBytes, ofBeBytes, length_beBytes, hlow, ih _ (Nat.mod_lt _ hpos),
      UInt8.toNat_ofNat', Nat.mod_eq_of_lt hdiv, hsplit]

/-- **Writing back what was read.** -/
theorem beBytes_ofBeBytes (l : List UInt8) : beBytes l.length (ofBeBytes l) = l := by
  induction l with
  | nil => rfl
  | cons b l ih =>
    have hlt := ofBeBytes_lt l
    have hpos : 0 < 256 ^ l.length := Nat.pow_pos (by omega)
    rw [List.length_cons, beBytes, ofBeBytes, beBytes_add_mul, ih]
    congr 1
    rw [Nat.add_comm, Nat.add_mul_div_right _ _ hpos, Nat.div_eq_of_lt hlt, Nat.zero_add]
    exact UInt8.ofNat_toNat

/-! ## Signed machine integers -/

/-- `i64::to_be_bytes`. -/
def int64BeBytes (n : Int64) : Octets 8 := ⟨beBytes 8 n.toBitVec.toNat, length_beBytes 8 _⟩

/-- `i64::from_be_bytes`. -/
def int64OfBeBytes (bytes : Octets 8) : Int64 :=
  Int64.ofBitVec (BitVec.ofNat 64 (ofBeBytes bytes.val))

/-- `i32::to_be_bytes`. -/
def int32BeBytes (n : Int32) : Octets 4 := ⟨beBytes 4 n.toBitVec.toNat, length_beBytes 4 _⟩

/-- `i32::from_be_bytes`. -/
def int32OfBeBytes (bytes : Octets 4) : Int32 :=
  Int32.ofBitVec (BitVec.ofNat 32 (ofBeBytes bytes.val))

@[simp] theorem int64OfBeBytes_beBytes (n : Int64) : int64OfBeBytes (int64BeBytes n) = n := by
  have hlt : n.toBitVec.toNat < 256 ^ 8 := n.toBitVec.isLt
  have hread : ofBeBytes (int64BeBytes n).val = n.toBitVec.toNat := ofBeBytes_beBytes _ _ hlt
  rw [int64OfBeBytes, hread, BitVec.ofNat_toNat, BitVec.setWidth_eq]
  rfl

@[simp] theorem int32OfBeBytes_beBytes (n : Int32) : int32OfBeBytes (int32BeBytes n) = n := by
  have hlt : n.toBitVec.toNat < 256 ^ 4 := n.toBitVec.isLt
  have hread : ofBeBytes (int32BeBytes n).val = n.toBitVec.toNat := ofBeBytes_beBytes _ _ hlt
  rw [int32OfBeBytes, hread, BitVec.ofNat_toNat, BitVec.setWidth_eq]
  rfl

end BigEndian
end Kapsel
