import Kapsel.Daemon.Answers
import Kapsel.Daemon.Requests

/-!
# Receipts in hexadecimal

The daemon writes a receipt with two lowercase digits for every byte, and three decoders read such
texts: that of the command line client, that of the bridge and that of the operator document.  Each
has its own checks and its own arithmetic.  What passes the checks is what the daemon writes
(`exists_lowercaseHex`), and on that the three arithmetics agree.

* `decodeLowercaseHex_eq_some`, `decodeReceiptHex_eq_some` and `decodeHex_eq_ok`: the texts of every
  decoder, and what each is decoded as.
* `receiptValid_iff`: the check of the bridge asks that its decoder accepts, and for the digest.
* `receipt_export_fidelity`: every finalized receipt fits its frame, and both clients find in it the
  bytes that are stored.
* `long_receipt_hex_refused`: the bridge refuses what is longer than 64 KiB.
-/

namespace Kapsel

open Grammar Authority Fallible Interaction Interaction.Program

/-! ## Pairs -/

/-- `as_chunks::<2>().0`: the pairs of a list, without a last odd one. -/
def pairs {α : Type} : List α → List (α × α)
  | first :: second :: rest => (first, second) :: pairs rest
  | _ => []

/-- The value of a lowercase digit. -/
def nibble (b : UInt8) : UInt8 := if b ≤ asciiByte '9' then b - asciiByte '0' else b - 87

/-- The lowercase digits, byte by byte, and the two digits of every byte. -/
theorem nibble_table : ∀ n : Fin 256,
    (isLowercaseHex (UInt8.ofFin n) = true → (nibble (UInt8.ofFin n) < 16 ∧
      hexDigit (nibble (UInt8.ofFin n)) = UInt8.ofFin n) ∧ UInt8.ofFin n < 128) ∧
    nibble (hexDigit (UInt8.ofFin n / 16)) * 16 + nibble (hexDigit (UInt8.ofFin n % 16)) =
      UInt8.ofFin n := by
  decide +kernel

theorem hexDigit_nibble {b : UInt8} (h : isLowercaseHex b = true) :
    nibble b < 16 ∧ hexDigit (nibble b) = b := ((nibble_table b.toFin).1 h).1

theorem halves {high low : UInt8} (hhigh : high < 16) (hlow : low < 16) :
    (high * 16 + low) / 16 = high ∧ (high * 16 + low) % 16 = low := by
  have hhigh' : high.toNat < 16 := hhigh
  have hlow' : low.toNat < 16 := hlow
  have hsum : (high * 16 + low).toNat = high.toNat * 16 + low.toNat := by
    rw [UInt8.toNat_add, UInt8.toNat_mul]
    show (high.toNat * 16 % 256 + low.toNat) % 256 = _
    omega
  constructor
  · apply UInt8.toNat_inj.mp
    rw [UInt8.toNat_div, hsum]
    show (high.toNat * 16 + low.toNat) / 16 = _
    omega
  · apply UInt8.toNat_inj.mp
    rw [UInt8.toNat_mod, hsum]
    show (high.toNat * 16 + low.toNat) % 16 = _
    omega

namespace Daemon

open Gateway Gateway.Journal Application Json

/-- Two digits are those of one byte. -/
theorem exists_hexByte {first second : UInt8} (hfirst : isLowercaseHex first = true)
    (hsecond : isLowercaseHex second = true) : ∃ b, hexByte b = [first, second] := by
  obtain ⟨hhigh, hfirst⟩ := hexDigit_nibble hfirst
  obtain ⟨hlow, hsecond⟩ := hexDigit_nibble hsecond
  obtain ⟨hdiv, hmod⟩ := halves hhigh hlow
  exact ⟨nibble first * 16 + nibble second, by rw [hexByte, hdiv, hmod, hfirst, hsecond]⟩

theorem lowercaseHex_cons (b : UInt8) (bytes : Bytes) :
    lowercaseHex (b :: bytes) = hexByte b ++ lowercaseHex bytes := List.flatMap_cons

theorem length_lowercaseHex (bytes : Bytes) : (lowercaseHex bytes).length = 2 * bytes.length :=
  length_flatMap_hexByte bytes

/-- **What the daemon writes** is every text of an even number of lowercase digits. -/
theorem exists_lowercaseHex : ∀ text : Text,
    (text.length % 2 = 0 ∧ text.all isLowercaseHex = true) ↔ ∃ bytes, lowercaseHex bytes = text := by
  intro text
  constructor
  · rintro ⟨heven, hdigits⟩
    induction text using pairs.induct with
    | case1 first second rest ih =>
      rw [List.all_cons, List.all_cons, Bool.and_eq_true, Bool.and_eq_true] at hdigits
      obtain ⟨hfirst, hsecond, hrest⟩ := hdigits
      have heven' : rest.length % 2 = 0 := by
        rw [List.length_cons, List.length_cons] at heven
        omega
      obtain ⟨bytes, hbytes⟩ := ih heven' hrest
      obtain ⟨b, hb⟩ := exists_hexByte hfirst hsecond
      exact ⟨b :: bytes, by rw [lowercaseHex_cons, hb, hbytes]; rfl⟩
    | case2 text hshort =>
      match text, hshort with
      | [], _ => exact ⟨[], rfl⟩
      | [_], _ => cases heven
      | first :: second :: rest, hshort => exact absurd rfl (hshort first second rest)
  · rintro ⟨bytes, rfl⟩
    refine ⟨?_, isLowercaseHex_lowercaseHex bytes⟩
    rw [length_lowercaseHex]
    omega

/-- The pairs of what the daemon writes are the digits of the bytes. -/
theorem pairs_lowercaseHex (bytes : Bytes) : pairs (lowercaseHex bytes) =
    bytes.map fun b => (Kapsel.hexDigit (b / 16), Kapsel.hexDigit (b % 16)) := by
  induction bytes with
  | nil => rfl
  | cons b bytes ih =>
    rw [lowercaseHex_cons, List.map_cons, ← ih]
    rfl

/-- **What reads both digits of every byte reads what the daemon writes.** -/
theorem mapM_lowercaseHex {m : Type → Type} [Monad m] [LawfulMonad m]
    {f : UInt8 × UInt8 → m UInt8}
    (h : ∀ b, f (Kapsel.hexDigit (b / 16), Kapsel.hexDigit (b % 16)) = pure b) (bytes : Bytes) :
    (pairs (lowercaseHex bytes)).mapM f = pure bytes := by
  rw [pairs_lowercaseHex]
  induction bytes with
  | nil => rfl
  | cons b bytes ih => rw [List.map_cons, List.mapM_cons, h, ih, pure_bind, pure_bind]

/-- A text with the checks of a decoder is what the daemon writes, and is decoded. -/
theorem exists_mapM {m : Type → Type} [Monad m] [LawfulMonad m] {f : UInt8 × UInt8 → m UInt8}
    (h : ∀ b, f (Kapsel.hexDigit (b / 16), Kapsel.hexDigit (b % 16)) = pure b) {text : Text}
    (heven : text.length % 2 = 0) (hdigits : text.all isLowercaseHex = true) :
    ∃ bytes, lowercaseHex bytes = text ∧ (pairs text).mapM f = pure bytes := by
  obtain ⟨bytes, rfl⟩ := (exists_lowercaseHex text).mp ⟨heven, hdigits⟩
  exact ⟨bytes, rfl, mapM_lowercaseHex h bytes⟩

/-- What the daemon writes determines the bytes. -/
theorem lowercaseHex_injective {bytes bytes' : Bytes}
    (h : lowercaseHex bytes = lowercaseHex bytes') : bytes = bytes' := by
  have hread : ∀ b : UInt8, (some (nibble (Kapsel.hexDigit (b / 16)) * 16 +
      nibble (Kapsel.hexDigit (b % 16))) : Option UInt8) = pure b := fun b =>
    congrArg some (nibble_table b.toFin).2
  have hmap := mapM_lowercaseHex (f := fun pair => some (nibble pair.1 * 16 + nibble pair.2)) hread
  have hsame := hmap bytes
  rw [h, hmap bytes'] at hsame
  exact (Option.some.inj hsame).symm

/-! ## The command line client -/

/-- `u8::is_ascii_hexdigit`. -/
def isAsciiHexdigit (b : UInt8) : Bool :=
  isAsciiDigit b || (asciiByte 'A' ≤ b && b ≤ asciiByte 'F') ||
    (asciiByte 'a' ≤ b && b ≤ asciiByte 'f')

/-- `u8::is_ascii_uppercase`. -/
def isAsciiUppercase (b : UInt8) : Bool := asciiByte 'A' ≤ b && b ≤ asciiByte 'Z'

namespace Client

/-- `hex_nibble`. -/
def hexNibble (b : UInt8) : Option UInt8 :=
  if asciiByte '0' ≤ b && b ≤ asciiByte '9' then some (b - asciiByte '0')
  else if asciiByte 'a' ≤ b && b ≤ asciiByte 'f' then some (b - asciiByte 'a' + 10)
  else none

/-- The closure of `decode_lowercase_hex`. -/
def readPair (pair : UInt8 × UInt8) : Option UInt8 := do
  let high ← hexNibble pair.1
  let low ← hexNibble pair.2
  return high <<< 4 ||| low

/-- `decode_lowercase_hex`. -/
def decodeLowercaseHex (value : Text) : Option Bytes :=
  if value.length % 2 ≠ 0 || value.any fun b => !isAsciiHexdigit b || isAsciiUppercase b then none
  else (pairs value).mapM readPair

end Client

/-- What the client makes of every byte, and of its two digits. -/
theorem client_table : ∀ n : Fin 256,
    (!isAsciiHexdigit (UInt8.ofFin n) || isAsciiUppercase (UInt8.ofFin n)) =
      !isLowercaseHex (UInt8.ofFin n) ∧
    Client.readPair (Kapsel.hexDigit (UInt8.ofFin n / 16), Kapsel.hexDigit (UInt8.ofFin n % 16)) =
      some (UInt8.ofFin n) := by
  decide +kernel

/-- The checks of the client are for lowercase digits. -/
theorem clientDigit (b : UInt8) :
    (!isAsciiHexdigit b || isAsciiUppercase b) = !isLowercaseHex b := (client_table b.toFin).1

theorem clientPair (b : UInt8) :
    Client.readPair (Kapsel.hexDigit (b / 16), Kapsel.hexDigit (b % 16)) = pure b :=
  (client_table b.toFin).2

/-- **The client decodes what the daemon writes**, and nothing else. -/
theorem decodeLowercaseHex_eq_some {text : Text} {bytes : Bytes} :
    Client.decodeLowercaseHex text = some bytes ↔ lowercaseHex bytes = text := by
  have hchecks : (text.any fun b => !isAsciiHexdigit b || isAsciiUppercase b) =
      !text.all isLowercaseHex := by
    rw [List.not_all_eq_any_not]
    exact congrArg text.any (funext clientDigit)
  unfold Client.decodeLowercaseHex
  rw [hchecks]
  constructor
  · intro h
    split at h
    · cases h
    · rename_i haccepted
      simp only [ne_eq, decide_not, Bool.or_eq_true, Bool.not_eq_true', decide_eq_false_iff_not,
        not_or, Decidable.not_not, Bool.not_eq_false] at haccepted
      obtain ⟨bytes', rfl, hmap⟩ := exists_mapM clientPair haccepted.1 haccepted.2
      rw [hmap] at h
      rw [Option.some.inj h]
  · rintro rfl
    obtain ⟨heven, hdigits⟩ := (exists_lowercaseHex _).mpr ⟨bytes, rfl⟩
    rw [heven, hdigits]
    exact mapM_lowercaseHex clientPair bytes

/-! ## The bridge -/

namespace Bridge

/-- `char::to_digit` of base 16. -/
def toDigit16 (b : UInt8) : Option ℕ :=
  if asciiByte '0' ≤ b && b ≤ asciiByte '9' then some (b.toNat - 48)
  else if asciiByte 'a' ≤ b && b ≤ asciiByte 'f' then some (b.toNat - 87)
  else if asciiByte 'A' ≤ b && b ≤ asciiByte 'F' then some (b.toNat - 55)
  else none

/-- The closure `decode` of `receipt_valid`. -/
def decode (text : Text) : Bytes :=
  (pairs text).map fun pair =>
    let high := (toDigit16 pair.1).getD 0
    let low := (toDigit16 pair.2).getD 0
    if high * 16 + low < 256 then UInt8.ofNat (high * 16 + low) else 0

/-- `receipt_valid`. -/
def receiptValid (C : Crypto) (value : Document) : Bool :=
  match value.get? (utf8 "receipt_hex"), value.get? (utf8 "receipt_sha256") with
  | some (.string hex), some (.string digest) =>
      if 64 * 1024 < hex.length || hex.length % 2 ≠ 0 || digest.length ≠ 64 ||
          !(hex ++ digest).all isLowercaseHex then false
      else (C.sha256 (decode hex)).val = decode digest
  | _, _ => false

/-- What `receipt_valid` decodes of a text in hexadecimal, if it passes the checks. -/
def decodeReceiptHex (hex : Text) : Option Bytes :=
  if 64 * 1024 < hex.length || hex.length % 2 ≠ 0 || !hex.all isLowercaseHex then none
  else some (decode hex)

end Bridge

/-- What the two digits of every byte stand for. -/
theorem toDigit16_table : ∀ n : Fin 256,
    Bridge.toDigit16 (Kapsel.hexDigit (UInt8.ofFin n / 16)) = some (n.val / 16) ∧
    Bridge.toDigit16 (Kapsel.hexDigit (UInt8.ofFin n % 16)) = some (n.val % 16) ∧
    Kapsel.hexDigit (UInt8.ofFin n / 16) ≠ asciiByte '+' := by
  decide +kernel

theorem decode_lowercaseHex (bytes : Bytes) : Bridge.decode (lowercaseHex bytes) = bytes := by
  have hbyte : ∀ b : UInt8,
      (let high := (Bridge.toDigit16 (Kapsel.hexDigit (b / 16))).getD 0
      let low := (Bridge.toDigit16 (Kapsel.hexDigit (b % 16))).getD 0
      if high * 16 + low < 256 then UInt8.ofNat (high * 16 + low) else 0) = b := by
    intro b
    obtain ⟨hhigh, hlow, -⟩ := toDigit16_table b.toFin
    have hsum : b.toNat / 16 * 16 + b.toNat % 16 = b.toNat := Nat.div_add_mod' b.toNat 16
    have hhigh' : Bridge.toDigit16 (Kapsel.hexDigit (b / 16)) = some (b.toNat / 16) := hhigh
    have hlow' : Bridge.toDigit16 (Kapsel.hexDigit (b % 16)) = some (b.toNat % 16) := hlow
    simp only [hhigh', hlow', Option.getD_some, hsum]
    rw [if_pos b.toNat_lt, UInt8.ofNat_toNat]
  unfold Bridge.decode
  rw [pairs_lowercaseHex, List.map_map]
  exact (List.map_congr_left fun b _ => hbyte b).trans bytes.map_id

/-- **The bridge decodes what the daemon writes** of at most 32 KiB, and nothing else. -/
theorem decodeReceiptHex_eq_some {text : Text} {bytes : Bytes} :
    Bridge.decodeReceiptHex text = some bytes ↔
      lowercaseHex bytes = text ∧ bytes.length ≤ 32 * 1024 := by
  unfold Bridge.decodeReceiptHex
  constructor
  · intro h
    split at h
    · cases h
    · rename_i haccepted
      simp only [ne_eq, decide_not, Bool.or_eq_true, decide_eq_true_eq, Bool.not_eq_true',
        decide_eq_false_iff_not, not_or, Decidable.not_not, Bool.not_eq_false] at haccepted
      obtain ⟨⟨hlength, heven⟩, hdigits⟩ := haccepted
      obtain ⟨bytes', rfl⟩ := (exists_lowercaseHex text).mp ⟨heven, hdigits⟩
      rw [decode_lowercaseHex] at h
      obtain rfl := Option.some.inj h
      rw [length_lowercaseHex] at hlength
      exact ⟨rfl, by omega⟩
  · rintro ⟨rfl, hlength⟩
    obtain ⟨heven, hdigits⟩ := (exists_lowercaseHex _).mpr ⟨bytes, rfl⟩
    have hshort : ¬64 * 1024 < (lowercaseHex bytes).length := by
      rw [length_lowercaseHex]
      omega
    rw [heven, hdigits, decode_lowercaseHex, decide_eq_false hshort]
    rfl

/-! ## The operator document -/

namespace OperatorDocument

/-- `u8::from_str_radix` of base 16, on two bytes: a sign may stand first. -/
def fromStrRadix16 (pair : UInt8 × UInt8) : Option UInt8 :=
  if pair.1 = asciiByte '+' then (Bridge.toDigit16 pair.2).map UInt8.ofNat
  else do
    let high ← Bridge.toDigit16 pair.1
    let low ← Bridge.toDigit16 pair.2
    return UInt8.ofNat (high * 16 + low)

/-- The closure of `decode_hex`. -/
def readPair (pair : UInt8 × UInt8) : Except ServiceError UInt8 :=
  match fromStrRadix16 pair with
  | some b => .ok b
  | none => .error .configuration

/-- `decode_hex` of the operator document. -/
def decodeHex (text : Text) (decodedBytesMax : ℕ) : Except ServiceError Bytes :=
  if text.isEmpty || decodedBytesMax * 2 < text.length || text.length % 2 ≠ 0 ||
      !text.all isLowercaseHex then .error .configuration
  else (pairs text).mapM readPair

end OperatorDocument

theorem documentPair (b : UInt8) :
    OperatorDocument.readPair (Kapsel.hexDigit (b / 16), Kapsel.hexDigit (b % 16)) = pure b := by
  obtain ⟨hhigh, hlow, hsign⟩ := toDigit16_table b.toFin
  have hsum : b.toNat / 16 * 16 + b.toNat % 16 = b.toNat := Nat.div_add_mod' b.toNat 16
  have hhigh' : Bridge.toDigit16 (Kapsel.hexDigit (b / 16)) = some (b.toNat / 16) := hhigh
  have hlow' : Bridge.toDigit16 (Kapsel.hexDigit (b % 16)) = some (b.toNat % 16) := hlow
  have hb : OperatorDocument.fromStrRadix16
      (Kapsel.hexDigit (b / 16), Kapsel.hexDigit (b % 16)) = some b := by
    have hplain : Kapsel.hexDigit (b / 16) ≠ asciiByte '+' := hsign
    rw [OperatorDocument.fromStrRadix16, if_neg hplain, hhigh', hlow']
    show some (UInt8.ofNat (b.toNat / 16 * 16 + b.toNat % 16)) = some b
    rw [hsum, UInt8.ofNat_toNat]
  unfold OperatorDocument.readPair
  rw [hb]
  rfl

/-- **The operator document decodes what the daemon writes** of one byte or more within the bound,
and nothing else. -/
theorem decodeHex_eq_ok {text : Text} {bytes : Bytes} {maximum : ℕ} :
    OperatorDocument.decodeHex text maximum = .ok bytes ↔
      lowercaseHex bytes = text ∧ bytes ≠ [] ∧ bytes.length ≤ maximum := by
  unfold OperatorDocument.decodeHex
  constructor
  · intro h
    split at h
    · cases h
    · rename_i haccepted
      simp only [ne_eq, decide_not, Bool.or_eq_true, decide_eq_true_eq, Bool.not_eq_true',
        decide_eq_false_iff_not, not_or, Decidable.not_not, Bool.not_eq_false,
        List.isEmpty_iff] at haccepted
      obtain ⟨⟨⟨hempty, hlength⟩, heven⟩, hdigits⟩ := haccepted
      obtain ⟨bytes', rfl, hmap⟩ := exists_mapM documentPair heven hdigits
      rw [hmap] at h
      obtain rfl := Except.ok.inj h
      rw [length_lowercaseHex] at hlength
      refine ⟨rfl, ?_, by omega⟩
      rintro rfl
      exact hempty rfl
  · rintro ⟨rfl, hne, hlength⟩
    obtain ⟨heven, hdigits⟩ := (exists_lowercaseHex _).mpr ⟨bytes, rfl⟩
    have hpositive := List.length_pos_iff.mpr hne
    have hempty : (lowercaseHex bytes).isEmpty = false := by
      rw [List.isEmpty_eq_false_iff, ← List.length_pos_iff, length_lowercaseHex]
      omega
    have hshort : ¬maximum * 2 < (lowercaseHex bytes).length := by
      rw [length_lowercaseHex]
      omega
    rw [heven, hdigits, hempty, decide_eq_false hshort]
    exact mapM_lowercaseHex documentPair bytes

/-! ## Receipts at the clients -/

namespace Client

/-- `ReadyReceipt`. -/
structure ReadyReceipt where
  version : UInt8
  status : Text
  receiptHex : Text
  receiptSha256 : Text

/-- `ReadyReceipt` of an object with its four fields and no other one, or of their list. -/
def ReadyReceipt.ofDocument : Document → Option ReadyReceipt
  | .object members =>
      if (names members).Nodup ∧ ∀ name ∈ names members, name = utf8 "version" ∨
          name = utf8 "status" ∨ name = utf8 "receipt_hex" ∨ name = utf8 "receipt_sha256" then do
        let version ← (members.lookup (utf8 "version")).bind decodeU8
        let status ← (members.lookup (utf8 "status")).bind decodeString
        let receiptHex ← (members.lookup (utf8 "receipt_hex")).bind decodeString
        let receiptSha256 ← (members.lookup (utf8 "receipt_sha256")).bind decodeString
        return ⟨version, status, receiptHex, receiptSha256⟩
      else none
  | .array [version, status, receiptHex, receiptSha256] => do
      return ⟨← decodeU8 version, ← decodeString status, ← decodeString receiptHex,
        ← decodeString receiptSha256⟩
  | _ => none

/-- `lowercase_sha256`. -/
def lowercaseSha256 (value : Text) : Bool :=
  value.length = 64 && value.all fun b => isAsciiHexdigit b && !isAsciiUppercase b

/-- `save_receipt` up to the file that is opened: the bytes to write. -/
def receiptBytes (C : Crypto) (reader : Reader) (response : Bytes) : Option Bytes := do
  let ready ← ReadyReceipt.ofDocument (← reader.parse response)
  if ready.version ≠ 1 || ready.status ≠ utf8 "READY" || !lowercaseSha256 ready.receiptSha256 then
    none
  else
    let receiptBytes ← decodeLowercaseHex ready.receiptHex
    let expectedDigest ← decodeLowercaseHex ready.receiptSha256
    if (C.sha256 receiptBytes).val ≠ expectedDigest then none else some receiptBytes

end Client

/-- The decoder `Unique` of the bridge: a value, if no object has a name twice. -/
def Bridge.unique (reader : Reader) (response : Bytes) : Option Document := do
  let document ← reader.parse response
  if document.distinct then some document.toValue else none

section
variable {C : Crypto} {reader : Reader} {bytes : Bytes} {sha256 : Text}

/-- The reply with a receipt fits its frame, and both clients find the bytes in it. -/
structure Exported (C : Crypto) (reader : Reader) (bytes : Bytes) (sha256 : Text) : Prop where
  fits : responseLengthAllowed (renderReceipt (.ok (.ready bytes sha256))).length .receipt = true
  client : Client.receiptBytes C reader (renderReceipt (.ok (.ready bytes sha256))) = some bytes
  bridge : ∃ value hex, Bridge.unique reader (renderReceipt (.ok (.ready bytes sha256))) =
      some value ∧ value.get? (utf8 "receipt_hex") = some (.string hex) ∧
    Bridge.decodeReceiptHex hex = some bytes ∧ Bridge.receiptValid C value = true

theorem lowercaseSha256_digestHex (bytes : Bytes) :
    Client.lowercaseSha256 (digestHex C bytes) = true := by
  have hdigits : (fun b => isAsciiHexdigit b && !isAsciiUppercase b) = isLowercaseHex := by
    funext b
    have hb := congrArg not (clientDigit b)
    rwa [Bool.not_or, Bool.not_not, Bool.not_not] at hb
  unfold Client.lowercaseSha256
  rw [hdigits]
  exact isLowercaseSha256_digestHex C bytes

/-- What both clients read in the reply. -/
theorem parse_receiptDocument (hsha256 : sha256 = digestHex C bytes) :
    reader.parse (receiptDocument bytes sha256).print = some (receiptDocument bytes sha256) := by
  have hascii : ∀ text : Text, text.all isLowercaseHex = true → isAsciiText text = true := by
    intro text htext
    rw [isAsciiText, List.all_eq_true]
    intro b hb
    exact decide_eq_true ((nibble_table b.toFin).1 (List.all_eq_true.mp htext b hb)).2
  have hhex := hascii _ (isLowercaseHex_lowercaseHex bytes)
  have hdigest : isAsciiText sha256 = true := by
    refine hascii _ ?_
    rw [hsha256]
    exact isLowercaseHex_lowercaseHex _
  refine reader.parse_print _ (Document.readable_object.mpr fun member hmember => ?_)
  simp only [named, List.map_cons, List.map_nil, List.mem_cons, List.not_mem_nil, or_false]
    at hmember
  rcases hmember with rfl | rfl | rfl | rfl
  · exact ⟨rfl, rfl⟩
  · exact ⟨rfl, rfl⟩
  · exact ⟨rfl, hhex⟩
  · exact ⟨rfl, hdigest⟩

theorem length_renderReceipt (hsha256 : validSha256 sha256 = true)
    (hlength : bytes.length * 2 + wrapperBytes ≤ 40 * 1024) :
    (renderReceipt (.ok (.ready bytes sha256))).length = bytes.length * 2 + wrapperBytes := by
  have hallowed : responseLengthAllowed (bytes.length * 2 + wrapperBytes) .receipt = true := by
    refine responseLengthAllowed_iff.mpr ⟨?_, hlength⟩
    have hpos : 0 < wrapperBytes := by decide
    omega
  have hdigest : sha256.length = 64 := by
    have hboth : (decide (sha256.length = 64) && sha256.all isLowercaseHex) = true := hsha256
    exact of_decide_eq_true (Bool.and_eq_true _ _ ▸ hboth).1
  have hopening :
      (utf8 "\x7b\"version\":1,\"status\":\"READY\",\"receipt_hex\":\"").length = 45 := by decide
  have hmiddle : (utf8 "\",\"receipt_sha256\":\"").length = 20 := by decide
  have hclosing : (utf8 "\"\x7d").length = 2 := by decide
  have hwrapper : wrapperBytes = 131 := by decide
  simp only [renderReceipt, hsha256, hallowed, Bool.not_true, Bool.false_eq_true, if_false,
    List.length_append, length_lowercaseHex, hdigest, hopening, hmiddle, hclosing]
  omega

/-- The digest of the bytes passes the check of the client. -/
theorem receiptBytes_eq_some (hsha256 : sha256 = digestHex C bytes) :
    Client.receiptBytes C reader (receiptDocument bytes sha256).print = some bytes := by
  have hready : Client.ReadyReceipt.ofDocument (receiptDocument bytes sha256) =
      some ⟨1, utf8 "READY", lowercaseHex bytes, sha256⟩ := rfl
  have hdigits : Client.lowercaseSha256 sha256 = true := by
    rw [hsha256]
    exact lowercaseSha256_digestHex bytes
  have hbytes := decodeLowercaseHex_eq_some.mpr (Eq.refl (lowercaseHex bytes))
  have hdigest : Client.decodeLowercaseHex sha256 = some (C.sha256 bytes).val :=
    decodeLowercaseHex_eq_some.mpr hsha256.symm
  unfold Client.receiptBytes
  rw [parse_receiptDocument hsha256]
  simp only [Option.bind_eq_bind, Option.bind_some, hready, hdigits, hbytes, hdigest]
  simp

/-- **What passes the check of the bridge** are the texts that it decodes, with the digest of what
they are decoded as. -/
theorem receiptValid_iff {value : Document} : Bridge.receiptValid C value = true ↔
    ∃ hex bytes, value.get? (utf8 "receipt_hex") = some (.string hex) ∧
      Bridge.decodeReceiptHex hex = some bytes ∧
      value.get? (utf8 "receipt_sha256") = some (.string (digestHex C bytes)) := by
  unfold Bridge.receiptValid
  constructor
  · intro h
    split at h
    · rename_i hex digest hhex hdigest
      split at h
      · cases h
      · rename_i haccepted
        simp only [ne_eq, decide_not, Bool.or_eq_true, decide_eq_true_eq, Bool.not_eq_true',
          decide_eq_false_iff_not, not_or, Decidable.not_not, Bool.not_eq_false, List.all_append,
          Bool.and_eq_true] at haccepted
        obtain ⟨⟨⟨hlength, heven⟩, hdigest64⟩, hdigits, hdigestDigits⟩ := haccepted
        obtain ⟨bytes, rfl⟩ := (exists_lowercaseHex hex).mp ⟨heven, hdigits⟩
        obtain ⟨expected, rfl⟩ :=
          (exists_lowercaseHex digest).mp ⟨by rw [hdigest64], hdigestDigits⟩
        rw [decode_lowercaseHex, decode_lowercaseHex] at h
        rw [length_lowercaseHex] at hlength
        refine ⟨_, bytes, hhex, decodeReceiptHex_eq_some.mpr ⟨rfl, by omega⟩, ?_⟩
        rw [hdigest, ← of_decide_eq_true h]
        rfl
    · cases h
  · rintro ⟨hex, bytes, hhex, hbytes, hdigest⟩
    obtain ⟨rfl, hlength⟩ := decodeReceiptHex_eq_some.mp hbytes
    obtain ⟨heven, hdigits⟩ := (exists_lowercaseHex _).mpr ⟨bytes, rfl⟩
    have hshort : ¬64 * 1024 < (lowercaseHex bytes).length := by
      rw [length_lowercaseHex]
      omega
    have hsha256Digits := isLowercaseSha256_digestHex C bytes
    rw [isLowercaseSha256, Bool.and_eq_true, decide_eq_true_eq] at hsha256Digits
    have hdecode : Bridge.decode (digestHex C bytes) = (C.sha256 bytes).val := decode_lowercaseHex _
    rw [hhex, hdigest]
    simp only [heven, hsha256Digits.1, List.all_append, hdigits, hsha256Digits.2, hshort,
      decode_lowercaseHex, hdecode]
    simp

/-- **A receipt within its bound, with the digest of its bytes, is exported.** -/
theorem exported_of_presentable (hlength : bytes.length ≤ 16 * 1024)
    (hsha256 : sha256 = digestHex C bytes) : Exported C reader bytes sha256 := by
  have hvalid : validSha256 sha256 = true := by
    rw [hsha256]
    exact isLowercaseSha256_digestHex C bytes
  have hwrapper : wrapperBytes = 131 := by decide
  have hroom : bytes.length * 2 + wrapperBytes ≤ 40 * 1024 := by omega
  have hrender : renderReceipt (.ok (.ready bytes sha256)) = (receiptDocument bytes sha256).print :=
    renderReceipt_ready hvalid hroom
  refine ⟨?_, ?_, (receiptDocument bytes sha256).toValue, lowercaseHex bytes, ?_, rfl, ?_, ?_⟩
  · rw [length_renderReceipt hvalid hroom, responseLengthAllowed_iff]
    exact ⟨by omega, hroom⟩
  · rw [hrender]
    exact receiptBytes_eq_some hsha256
  · have hdistinct : (receiptDocument bytes sha256).distinct = true := rfl
    rw [hrender, Bridge.unique, parse_receiptDocument hsha256]
    show (if (receiptDocument bytes sha256).distinct then _ else none) = _
    rw [hdistinct]
    rfl
  · exact decodeReceiptHex_eq_some.mpr ⟨rfl, by omega⟩
  · subst hsha256
    exact receiptValid_iff.mpr
      ⟨_, bytes, rfl, decodeReceiptHex_eq_some.mpr ⟨rfl, by omega⟩, rfl⟩

/-! ## Finalized operations -/

/-- The row of a finalized operation, with its receipt. -/
structure Finalized {t : Table} (r : Record t) (bytes : Bytes) (sha256 : Text) : Prop where
  state : r.value .state = .text OperationState.finalized.asSql
  receiptBytes : r.value .receiptBytes = .blob bytes
  receiptDigest : r.value .receiptDigest = .text sha256

/-- The receipt in a row that the gateway wrote is within its bound, with the digest of its
bytes. -/
theorem finalized_of_lawfulRow {t : Table} {r : Record t} (h : LawfulRow C t r)
    (hstate : r.value .state = .text OperationState.finalized.asSql) :
    ∃ bytes, Finalized r bytes (digestHex C bytes) ∧ bytes.length ≤ 16 * 1024 := by
  cases h with
  | kubernetes a p hvalid =>
    have hword : p.state = .finalized := by
      have hsql : p.state.asSql = OperationState.finalized.asSql := Value.text.inj hstate
      revert hsql
      cases p.state <;> decide
    cases p with
    | finalized target response observation receipt =>
      have hreceipt := hvalid.2.2
      refine ⟨receipt.bytes, ⟨rfl, rfl, ?_⟩, (bounds_of_decodeFrozenReceipt hreceipt.embedded).1⟩
      rw [hreceipt.digest]
      rfl
    | _ => cases hword
  | git b p hvalid =>
    have hword : p.state = .finalized := by
      have hsql : p.state.asSql = OperationState.finalized.asSql := Value.text.inj hstate
      revert hsql
      cases p.state <;> decide
    cases p with
    | finalized statement receipt =>
      refine ⟨receipt.bytes, ⟨rfl, rfl, ?_⟩, length_of_decode hvalid.2.2.2.1⟩
      rw [hvalid.2.2.2.2]
      rfl
    | _ => cases hword

/-- **A receipt that is ready is that of a row that was read.** -/
theorem finalized_of_reads {trust : List AuthorizationTrust} {id : Text} {own : Past C}
    {tuple : RetainedTuple C} (h : Reads C trust id own tuple)
    (hlawful : ∀ db, readOf db ∈ own → Lawful C db)
    (hready : tuple.receipt = .ready bytes sha256) :
    ∃ db, readOf db ∈ own ∧ ∃ t r, stored db t id = some r ∧ Finalized r bytes sha256 := by
  rcases h.authentic with rfl | ⟨db, t, grant, hread, -, hauthentic⟩
  · cases hready
  · refine ⟨db, hread, ?_⟩
    cases hauthentic with
    | git b phase r hverify hid hr hdecode =>
      obtain ⟨b', phase', -, rfl, hvalid⟩ := (hlawful db hread).gitPhase hr
      obtain ⟨rfl, rfl⟩ := phase_of_decodeRecord hvalid hdecode
      cases phase with
      | finalized statement receipt =>
        obtain ⟨rfl, rfl⟩ := OperationReceipt.ready.inj hready
        exact ⟨.git, _, hr, rfl, rfl, rfl⟩
      | _ => cases hready
    | kubernetes retained a hgrant hauthorize hrequest hfound =>
      obtain ⟨r, hr, hdecode, -⟩ := authorizedRecordOn_eq_ok hfound
      obtain ⟨a', phase, -, rfl, hvalid⟩ := (hlawful db hread).phase hr
      have hready' : loadedReceipt retained.operation = .ready bytes sha256 := hready
      rw [eq_loaded_of_decode hvalid hdecode] at hready'
      cases phase with
      | finalized target response observation receipt =>
        obtain ⟨rfl, rfl⟩ := OperationReceipt.ready.inj hready'
        have hid : a.request.operationId = id := operationId_of_authorizeRetained hauthorize
        exact ⟨.kubernetes, _, hid ▸ hr, rfl, rfl, rfl⟩
      | _ => cases hready'

/-! ## Fidelity -/

/-- **A receipt leaves the daemon as it is stored.**

* Every finalized row of either table in every run has a receipt, and the reply with it fits its
  frame; both clients find the stored bytes in it and accept the digest.
* A receipt that a session is answered with is that of a finalized row that it read.
* Each decoder accepts what the daemon writes of bytes within its own bound, and nothing else, and
  decodes it to these bytes. -/
theorem receipt_export_fidelity (C : Crypto) (reader : Reader) :
    (∀ (e : Execution C) t id (r : Record t), stored e.world.db t id = some r →
      r.value .state = .text OperationState.finalized.asSql →
      ∃ bytes sha256, Finalized r bytes sha256 ∧ Exported C reader bytes sha256) ∧
    (∀ (e : Execution C) s trust id bytes sha256,
      Returns (receipt (C := C) trust id).run (Interaction.history s e.moments)
        (.ok (.ready bytes sha256)) →
      (∃ m ∈ e.moments, m.session = s ∧ ∃ t r, stored m.before.db t id = some r ∧
        Finalized r bytes sha256) ∧ Exported C reader bytes sha256) ∧
    (∀ bytes text, Client.decodeLowercaseHex text = some bytes ↔ lowercaseHex bytes = text) ∧
    (∀ bytes text, Bridge.decodeReceiptHex text = some bytes ↔
      lowercaseHex bytes = text ∧ bytes.length ≤ 32 * 1024) ∧
    (∀ bytes text maximum, OperatorDocument.decodeHex text maximum = .ok bytes ↔
      lowercaseHex bytes = text ∧ bytes ≠ [] ∧ bytes.length ≤ maximum) ∧
    ∀ bytes bytes', lowercaseHex bytes = lowercaseHex bytes' → bytes = bytes' := by
  refine ⟨?_, ?_, fun _ _ => decodeLowercaseHex_eq_some, fun _ _ => decodeReceiptHex_eq_some,
    fun _ _ _ => decodeHex_eq_ok, fun _ _ => lowercaseHex_injective⟩
  · intro e t id r hr hstate
    obtain ⟨bytes, hfinalized, hlength⟩ :=
      finalized_of_lawfulRow (e.sound.lawful t id r hr) hstate
    exact ⟨bytes, _, hfinalized, exported_of_presentable hlength rfl⟩
  · intro e s trust id bytes sha256 hreturns
    have hensures : Ensures (fun _ _ => True) [] (receipt (C := C) trust id) _ :=
      ensures_receipt_reads fun _ => trivial
    obtain ⟨own, tuple, hown, hreads, hready⟩ := hensures.returns hreturns
    rw [List.append_nil] at hown
    have hmoment : ∀ db, readOf db ∈ own → ∃ m ∈ e.moments, m.session = s ∧ db = m.before.db ∧
        Lawful C db := by
      intro db hdb
      obtain ⟨m, hm, hs, hdeed⟩ := mem_history.mp (hown ▸ hdb)
      obtain rfl := e.sound.reads m hm db hdeed
      exact ⟨m, hm, hs, rfl, (e.sound.past m hm).1⟩
    have hlawful : ∀ db, readOf db ∈ own → Lawful C db := by
      intro db hdb
      obtain ⟨m, -, -, -, hlawful⟩ := hmoment db hdb
      exact hlawful
    obtain ⟨db, hdb, t, r, hr, hfinalized⟩ := finalized_of_reads hreads hlawful hready
    obtain ⟨m, hm, hs, rfl, -⟩ := hmoment db hdb
    obtain ⟨bytes', hfinalized', hlength⟩ :=
      finalized_of_lawfulRow (hlawful _ hdb t id r hr) hfinalized.state
    have hbytes : bytes = bytes' :=
      Value.blob.inj (hfinalized.receiptBytes.symm.trans hfinalized'.receiptBytes)
    have hsha256 : sha256 = digestHex C bytes' :=
      Value.text.inj (hfinalized.receiptDigest.symm.trans hfinalized'.receiptDigest)
    subst hbytes
    exact ⟨⟨m, hm, hs, t, r, hr, hfinalized⟩, exported_of_presentable hlength hsha256⟩

/-- The Git operation, admitted and reconciled in one session. -/
def knownExport : Execution Known.crypto :=
  Execution.empty.after Known.outside 0
    ⟨Known.authorities, .admitAndReconcileGit Known.gitAuthorization.operationId Known.gitGrant
      (some ⟨Known.gitAuthorization.repositoryId⟩) (some Known.settings)⟩ Known.fresh_empty

/-- Its row is finalized, and its receipt is exported; and two bytes at the three decoders. -/
theorem known_receipt_exported :
    (∃ r bytes sha256, stored knownExport.world.db .git Known.gitAuthorization.operationId = some r ∧
      Finalized r bytes sha256 ∧ Exported Known.crypto compact bytes sha256) ∧
    Client.decodeLowercaseHex (utf8 "00ff") = some [0, 255] ∧
      Bridge.decodeReceiptHex (utf8 "00ff") = some [0, 255] ∧
      OperatorDocument.decodeHex (utf8 "00ff") 4096 = .ok [0, 255] := by
  obtain ⟨hexported, -, hclient, hbridge, hdocument, -⟩ :=
    receipt_export_fidelity Known.crypto compact
  have hrow : (stored knownExport.world.db .git Known.gitAuthorization.operationId).map
      (·.value .state) = some (.text (utf8 "finalized")) := by decide +kernel
  obtain ⟨r, hr, hstate⟩ := Option.map_eq_some_iff.mp hrow
  obtain ⟨bytes, sha256, hfinalized, hexport⟩ := hexported knownExport .git _ r hr hstate
  exact ⟨⟨r, bytes, sha256, hr, hfinalized, hexport⟩, (hclient _ _).mpr (by decide),
    (hbridge _ _).mpr ⟨by decide, by decide⟩, (hdocument _ _ _).mpr ⟨by decide, by decide, by decide⟩⟩

/-- What the daemon writes of one byte more than 32 KiB. -/
theorem long_receipt_hex_refused :
    Bridge.decodeReceiptHex (lowercaseHex (List.replicate 32769 0)) = none := by
  cases h : Bridge.decodeReceiptHex (lowercaseHex (List.replicate 32769 0)) with
  | none => rfl
  | some bytes =>
    obtain ⟨hbytes, hlength⟩ := decodeReceiptHex_eq_some.mp h
    rw [lowercaseHex_injective hbytes, List.length_replicate] at hlength
    exact absurd hlength (by decide)

end

end Daemon
end Kapsel
