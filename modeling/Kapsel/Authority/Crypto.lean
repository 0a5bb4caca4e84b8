import Kapsel.Authority.Grammar
import Kapsel.Bytes.BigEndian

/-!
# The cryptography the gateway is given

SHA-256 and Ed25519 come from other crates.  They are a parameter, `Crypto`, with
fixed output sizes, and nothing else is known of them unless `Crypto.Correct` is
assumed: that a key derived from a seed is a valid key, and that strict
verification accepts what signing produced.

`digestHex` is both `digest_hex` of the authority crate and `receipt_digest_hex` of
the receipt publication module: the two write the same sixty-four digits.
-/

namespace Kapsel

/-- SHA-256 and Ed25519. -/
structure Crypto where
  sha256 : Bytes → Octets 32
  /-- `VerifyingKey::from_bytes` accepts the bytes. -/
  keyIsValid : Octets 32 → Bool
  verifyStrict : Octets 32 → Bytes → Octets 64 → Bool
  /-- The verifying key of a signing seed. -/
  verifyingKey : Octets 32 → Octets 32
  sign : Octets 32 → Bytes → Octets 64

/-- Strict verification accepts what signing produced, under the key of the seed. -/
structure Crypto.Correct (C : Crypto) : Prop where
  keyIsValid_verifyingKey : ∀ seed, C.keyIsValid (C.verifyingKey seed) = true
  verifyStrict_sign : ∀ seed message,
    C.verifyStrict (C.verifyingKey seed) message (C.sign seed message) = true

/-- A scheme whose signature is the seed, twice: it accepts exactly what it signed. -/
def Crypto.bare : Crypto where
  sha256 _ := ⟨List.replicate 32 0, rfl⟩
  keyIsValid _ := true
  verifyStrict key _ signature := signature.val = key.val ++ key.val
  verifyingKey := id
  sign seed _ := ⟨seed.val ++ seed.val, by rw [List.length_append, seed.property]⟩

theorem Crypto.correct_bare : Crypto.bare.Correct := ⟨fun _ => rfl, fun _ _ => decide_eq_true rfl⟩

/-- One lowercase hexadecimal digit. -/
def hexDigit (value : UInt8) : UInt8 :=
  if value ≤ 9 then asciiByte '0' + value else asciiByte 'a' + (value - 10)

/-- The two digits of a byte. -/
def hexByte (b : UInt8) : Text := [hexDigit (b / 16), hexDigit (b % 16)]

/-- The SHA-256 of some bytes in lowercase hexadecimal. -/
def digestHex (C : Crypto) (bytes : Bytes) : Text := (C.sha256 bytes).val.flatMap hexByte

theorem isLowercaseHex_hexByte (b : UInt8) :
    (hexByte b).all Grammar.isLowercaseHex = true := by
  have hall : ∀ n : Fin 256, (hexByte (UInt8.ofFin n)).all Grammar.isLowercaseHex = true := by
    decide +kernel
  exact hall b.toFin

theorem length_flatMap_hexByte (bytes : Bytes) :
    (bytes.flatMap hexByte).length = 2 * bytes.length := by
  induction bytes with
  | nil => rfl
  | cons b bytes ih =>
    rw [List.flatMap_cons, List.length_append, ih, List.length_cons]
    show 2 + _ = _
    omega

/-- A digest in text is sixty-four lowercase hexadecimal digits. -/
theorem isLowercaseSha256_digestHex (C : Crypto) (bytes : Bytes) :
    Grammar.isLowercaseSha256 (digestHex C bytes) = true := by
  rw [Grammar.isLowercaseSha256, Bool.and_eq_true, decide_eq_true_eq]
  constructor
  · rw [digestHex, length_flatMap_hexByte, (C.sha256 bytes).property]
  · rw [digestHex, List.all_flatMap, List.all_eq_true]
    exact fun b _ => isLowercaseHex_hexByte b

end Kapsel
