/-!
# Byte strings and big-endian words

Every payload, text field and wire image of the broker is a `Bytes` value: a list of
octets. Fixed-width integers go on the wire most significant byte first; `beBytes w n`
writes the low `w` bytes of `n` and `beValue` reads them back, so
`beValue (beBytes w n) = n % 256 ^ w` (`beValue_beBytes`).
-/

namespace InferenceBroker

/-- An octet string: payloads, text fields and wire images. -/
abbrev Bytes := List UInt8

namespace Bytes

/-- The `w` low bytes of `n`, most significant first. -/
def beBytes : Nat → Nat → Bytes
  | 0, _ => []
  | w + 1, n => beBytes w (n / 256) ++ [UInt8.ofNat (n % 256)]

/-- The number written by `bs`, most significant byte first. -/
def beValue (bs : Bytes) : Nat :=
  bs.foldl (fun acc b => acc * 256 + b.toNat) 0

@[simp] theorem length_beBytes (w n : Nat) : (beBytes w n).length = w := by
  induction w generalizing n with
  | zero => rfl
  | succ w ih => simp [beBytes, ih]

theorem beValue_append_byte (bs : Bytes) (b : UInt8) :
    beValue (bs ++ [b]) = beValue bs * 256 + b.toNat := by
  simp [beValue, List.foldl_append]

theorem beValue_beBytes (w n : Nat) : beValue (beBytes w n) = n % Nat.pow 256 w := by
  induction w generalizing n with
  | zero => simp [beBytes, beValue, Nat.mod_one]
  | succ w ih =>
    have hb : (UInt8.ofNat (n % 256)).toNat = n % 256 := by simp
    rw [beBytes, beValue_append_byte, ih, hb, Nat.pow_eq, Nat.pow_eq]
    rw [Nat.pow_succ, Nat.mul_comm (256 ^ w) 256, Nat.mod_mul]
    omega

/-- Splits off the first `n` bytes when there are that many. -/
def take? (n : Nat) (bs : Bytes) : Option (Bytes × Bytes) :=
  if n ≤ bs.length then some (bs.take n, bs.drop n) else none

theorem take?_append (xs ys : Bytes) :
    take? xs.length (xs ++ ys) = some (xs, ys) := by
  simp [take?]

/-- Lowercase hexadecimal digits of every byte. -/
def hex (bs : Bytes) : String :=
  String.ofList (bs.flatMap fun b =>
    [Nat.digitChar (b.toNat / 16), Nat.digitChar (b.toNat % 16)])

/-- The value of one hexadecimal digit of either case. -/
def hexDigit? (c : Char) : Option Nat :=
  if '0' ≤ c ∧ c ≤ '9' then some (c.toNat - '0'.toNat)
  else if 'a' ≤ c ∧ c ≤ 'f' then some (c.toNat - 'a'.toNat + 10)
  else if 'A' ≤ c ∧ c ≤ 'F' then some (c.toNat - 'A'.toNat + 10)
  else none

/-- Reads pairs of hexadecimal digits; an odd count or a stray character fails. -/
def ofHexChars : List Char → Option Bytes
  | [] => some []
  | [_] => none
  | a :: b :: rest => do
    let hi ← hexDigit? a
    let lo ← hexDigit? b
    let tail ← ofHexChars rest
    pure (UInt8.ofNat (hi * 16 + lo) :: tail)

/-- Reads a hexadecimal string. -/
def ofHex? (s : String) : Option Bytes := ofHexChars s.toList

/-- The UTF-8 encoding of a string. -/
def ofString (s : String) : Bytes := s.toUTF8.toList

/-- The string these bytes encode, when they are valid UTF-8. -/
def utf8? (bs : Bytes) : Option String := String.fromUTF8? (ByteArray.mk bs.toArray)

end Bytes

end InferenceBroker
