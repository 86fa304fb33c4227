import InferenceBroker.Wasm.Syntax

/-!
# Reading bytes

A reader takes bytes from the front of an input and counts them, so sections can be checked
against their sizes. Failures are the runtime's texts: `EOF` past the end (`unexpected EOF`
for a run cut short); an unsigned LEB128 number has at most the bytes its width needs, the
unused bits of its last byte zero; a signed one is read to its last byte, then checked alike,
a missing byte failing with `readByte failed: EOF`.
-/

namespace InferenceBroker

namespace Wasm

/-- The bytes left, and how many were taken before them. -/
structure Input where
  rest : Bytes
  pos : Nat

abbrev Reader := StateT Input (Except String)

def failWith {α : Type} (msg : String) : Reader α := fun _ => .error msg

def within {α : Type} (context : String) (r : Reader α) : Reader α := fun i =>
  match r i with
  | .ok a => .ok a
  | .error e => .error (context ++ e)

def byte : Reader UInt8 := fun i =>
  match i.rest with
  | [] => .error "EOF"
  | b :: rest => .ok (b, ⟨rest, i.pos + 1⟩)

def bytes (n : Nat) : Reader Bytes := fun i =>
  if n ≤ i.rest.length then .ok (i.rest.take n, ⟨i.rest.drop n, i.pos + n⟩)
  else .error (if i.rest.isEmpty then "EOF" else "unexpected EOF")

def position : Reader Nat := fun i => .ok (i.pos, i)

def atEnd : Reader Bool := fun i => .ok (i.rest.isEmpty, i)

/-- An unsigned LEB128 number of `width` bits in at most `⌈width / 7⌉` bytes; a full-length
last byte's unused high bits must be zero. -/
def unsigned (width : Nat) : Reader Nat :=
  let most := (width + 6) / 7
  let spare := 7 * most - width
  let rec go : Nat → Nat → Nat → Reader Nat
    | 0, _, _ => failWith s!"overflows a {width}-bit integer"
    | left + 1, i, acc => do
      let b := (← byte).toNat
      if b < 0x80 then
        if left == 0 ∧ b / Nat.pow 2 (7 - spare) > 0 then failWith s!"overflows a {width}-bit integer"
        else pure (acc + b * Nat.pow 2 (7 * i))
      else go left (i + 1) (acc + (b % 0x80) * Nat.pow 2 (7 * i))
  go most 0 0

def u32 : Reader Nat := unsigned 32

def u64 : Reader Nat := unsigned 64

/-- A signed LEB128 number's bytes up to its last, or `most`: count, value of the low seven
bits, and the last byte. -/
def signedRaw (most : Nat) : Reader (Nat × Nat × Nat) := fun i =>
  let rec go : Nat → Bytes → Nat → Nat → Except String (Nat × Nat × Nat × Bytes)
    | 0, _, _, _ => .error "readByte failed: EOF"
    | _ + 1, [], _, _ => .error "readByte failed: EOF"
    | fuel + 1, b :: rest, count, acc =>
      let acc := acc + (b.toNat % 0x80) * Nat.pow 2 (7 * count)
      if b.toNat < 0x80 ∨ count + 1 = most then .ok (count + 1, acc, b.toNat, rest)
      else go fuel rest (count + 1) acc
  match go (i.rest.length + 1) i.rest 0 0 with
  | .ok (count, acc, last, rest) => .ok ((count, acc, last), ⟨rest, i.pos + count⟩)
  | .error e => .error e

def signedBits (width n : Nat) : Int :=
  let low := n % Nat.pow 2 width
  if low < Nat.pow 2 (width - 1) then low else (low : Int) - Nat.pow 2 width

/-- A signed LEB128 number of 32 or 64 bits: more than `⌈width / 7⌉` bytes fail, as do unused
bits of a full-length last byte that do not repeat the sign. -/
def signed (width : Nat) : Reader Int := do
  let most := (width + 6) / 7
  let (count, acc, last) ← signedRaw (Nat.pow 2 64)
  if count > most then failWith s!"overflows a {width}-bit integer"
  else if count == most then
    let used := width - 7 * (most - 1)
    let value := signedBits width acc
    let unused := last / Nat.pow 2 used % Nat.pow 2 (6 - used)
    if value < 0 ∧ unused != Nat.pow 2 (6 - used) - 1 then failWith s!"overflows a {width}-bit integer"
    else if value ≥ 0 ∧ unused != 0 then failWith s!"overflows a {width}-bit integer"
    else pure value
  else pure (signedBits (7 * count) acc)

/-- A signed 33-bit number, as block types are written: five bytes at most, a fifth must
repeat the sign above. -/
def signed33 : Reader Int := do
  let (count, acc, last) ← signedRaw 5
  let value := if count < 5 then signedBits 33 (signedBits (7 * count) acc % Nat.pow 2 33).toNat else signedBits 33 acc
  let unused := last / 0x20 % 2
  if count == 5 ∧ value < 0 ∧ unused != 1 then failWith "overflows a 33-bit integer"
  else if count == 5 ∧ value ≥ 0 ∧ unused != 0 then failWith "overflows a 33-bit integer"
  else pure value

/-- A name: a length and that many bytes of UTF-8. -/
def utf8 (what : String) : Reader String := do
  let n ← within s!"failed to read {what} size: " u32
  if n == 0 then pure ""
  else
    let bs ← within s!"failed to read {what}: " (bytes n)
    match Bytes.utf8? bs with
    | some s => pure s
    | none => failWith s!"{what} is not valid UTF-8"

def readAll {α : Type} (r : Reader α) (bs : Bytes) : Except String (α × Nat) :=
  match r ⟨bs, 0⟩ with
  | .ok (a, i) => .ok (a, i.pos)
  | .error e => .error e

end Wasm

end InferenceBroker
