/-!
# Binary floating point

IEEE 754 binary formats on their bit patterns: every result is computed exactly and rounded
once, to nearest with ties to even. NaNs follow the processor: a NaN operand gives the first
NaN operand made quiet; an invalid operation (`∞ - ∞`, `0 × ∞`, `0 / 0`, `∞ / ∞`, the root of a
negative) gives the default NaN (sign and quiet bit set, payload zero). Negation, absolute
value and sign copy touch the sign bit alone.
-/

namespace InferenceBroker

namespace Wasm

/-- The widths of the exponent and fraction fields. -/
structure FloatFormat where
  exponentBits : Nat
  fractionBits : Nat
deriving DecidableEq, Repr

/-- NaN, an infinity, or a finite `±mant × 2 ^ exp`. -/
inductive FloatClass where
  | nan
  | inf (neg : Bool)
  | finite (neg : Bool) (mant : Nat) (exp : Int)
deriving DecidableEq, Repr

inductive Integral where
  | ceil
  | floor
  | trunc
  | nearest
deriving DecidableEq, Repr

/-- The largest `r` with `r * r ≤ n`, by Newton's iteration from above. -/
def isqrt (n : Nat) : Nat :=
  if n < 2 then n else go (n.log2 + 2) (Nat.pow 2 (n.log2 / 2 + 1))
where
  go : Nat → Nat → Nat
    | 0, x => x
    | fuel + 1, x =>
      let y := (x + n / x) / 2
      if y < x then go fuel y else x

namespace FloatFormat

def single : FloatFormat := ⟨8, 23⟩

def double : FloatFormat := ⟨11, 52⟩

def width (f : FloatFormat) : Nat := 1 + f.exponentBits + f.fractionBits

def bias (f : FloatFormat) : Nat := Nat.pow 2 (f.exponentBits - 1) - 1

/-- The exponent field of infinities and NaNs. -/
def topExponent (f : FloatFormat) : Nat := Nat.pow 2 f.exponentBits - 1

def signBit (f : FloatFormat) : Nat := Nat.pow 2 (f.width - 1)

/-- The weight of the lowest exponent bit. -/
def unit (f : FloatFormat) : Nat := Nat.pow 2 f.fractionBits

def quietBit (f : FloatFormat) : Nat := Nat.pow 2 (f.fractionBits - 1)

def sign (f : FloatFormat) (bits : Nat) : Bool := bits / f.signBit % 2 == 1

def exponent (f : FloatFormat) (bits : Nat) : Nat := bits / f.unit % Nat.pow 2 f.exponentBits

def fraction (f : FloatFormat) (bits : Nat) : Nat := bits % f.unit

def isNaN (f : FloatFormat) (bits : Nat) : Bool := f.exponent bits == f.topExponent && f.fraction bits != 0

def quiet (f : FloatFormat) (bits : Nat) : Nat := bits ||| f.quietBit

def defaultNaN (f : FloatFormat) : Nat := f.signBit + f.topExponent * f.unit + f.quietBit

def infinity (f : FloatFormat) (neg : Bool) : Nat := (if neg then f.signBit else 0) + f.topExponent * f.unit

def zero (f : FloatFormat) (neg : Bool) : Nat := if neg then f.signBit else 0

def negate (f : FloatFormat) (bits : Nat) : Nat := bits ^^^ f.signBit

def abs (f : FloatFormat) (bits : Nat) : Nat := bits % f.signBit

def copySign (f : FloatFormat) (a b : Nat) : Nat := f.abs a + f.zero (f.sign b)

def classify (f : FloatFormat) (bits : Nat) : FloatClass :=
  let neg := f.sign bits
  let e := f.exponent bits
  let m := f.fraction bits
  if e == f.topExponent then (if m == 0 then .inf neg else .nan)
  else if e == 0 then .finite neg m (1 - (f.bias : Int) - f.fractionBits)
  else .finite neg (m + f.unit) ((e : Int) - f.bias - f.fractionBits)

/-- Rounds `±(n + δ) × 2 ^ e` to nearest, ties to even, `δ` zero or (when `sticky`) in `(0, 1)`;
overflow gives infinities, underflow subnormals. -/
def round (f : FloatFormat) (neg : Bool) (n : Nat) (e : Int) (sticky : Bool) : Nat :=
  if n == 0 then f.zero neg
  else
    let fb := f.fractionBits
    let lead : Int := (n.log2 : Int) + e
    let quantum : Int := max (lead - fb) (1 - (f.bias : Int) - fb)
    let shift := quantum - e
    let (m, quantum) :=
      if shift ≤ 0 then (n * Nat.pow 2 (-shift).toNat, quantum)
      else
        let s := shift.toNat
        let low := n % Nat.pow 2 s
        let half := Nat.pow 2 (s - 1)
        let m := n / Nat.pow 2 s
        let up := low > half || (low == half && (sticky || m % 2 == 1))
        let m := if up then m + 1 else m
        if m == Nat.pow 2 (fb + 1) then (m / 2, quantum + 1) else (m, quantum)
    let biased : Int := if m ≥ f.unit then quantum + fb + f.bias else 0
    if biased ≥ f.topExponent then f.infinity neg
    else f.zero neg + biased.toNat * f.unit + m % f.unit

/-- The first NaN operand made quiet, if any. -/
def nanOf (f : FloatFormat) (a b : Nat) : Option Nat :=
  if f.isNaN a then some (f.quiet a) else if f.isNaN b then some (f.quiet b) else none

def sum (f : FloatFormat) (a b : Nat) : Nat :=
  match f.classify a, f.classify b with
  | .inf n1, .inf n2 => if n1 == n2 then f.infinity n1 else f.defaultNaN
  | .inf n, _ => f.infinity n
  | _, .inf n => f.infinity n
  | .finite n1 m1 e1, .finite n2 m2 e2 =>
    let e := min e1 e2
    let x : Int := (m1 * Nat.pow 2 (e1 - e).toNat : Nat)
    let y : Int := (m2 * Nat.pow 2 (e2 - e).toNat : Nat)
    let s := (if n1 then -x else x) + (if n2 then -y else y)
    if s == 0 then f.zero (n1 && n2) else f.round (s < 0) s.natAbs e false
  | _, _ => f.defaultNaN

def add (f : FloatFormat) (a b : Nat) : Nat := (f.nanOf a b).getD (f.sum a b)

def sub (f : FloatFormat) (a b : Nat) : Nat := (f.nanOf a b).getD (f.sum a (f.negate b))

def mul (f : FloatFormat) (a b : Nat) : Nat :=
  match f.nanOf a b with
  | some r => r
  | none =>
    match f.classify a, f.classify b with
    | .inf n1, .inf n2 => f.infinity (n1 != n2)
    | .inf n1, .finite n2 m _ => if m == 0 then f.defaultNaN else f.infinity (n1 != n2)
    | .finite n1 m _, .inf n2 => if m == 0 then f.defaultNaN else f.infinity (n1 != n2)
    | .finite n1 m1 e1, .finite n2 m2 e2 => f.round (n1 != n2) (m1 * m2) (e1 + e2) false
    | _, _ => f.defaultNaN

/-- Division: the quotient to more bits than the format holds, the rest as a sticky bit. -/
def div (f : FloatFormat) (a b : Nat) : Nat :=
  match f.nanOf a b with
  | some r => r
  | none =>
    match f.classify a, f.classify b with
    | .inf _, .inf _ => f.defaultNaN
    | .inf n1, .finite n2 _ _ => f.infinity (n1 != n2)
    | .finite n1 _ _, .inf n2 => f.zero (n1 != n2)
    | .finite n1 m1 e1, .finite n2 m2 e2 =>
      if m2 == 0 then (if m1 == 0 then f.defaultNaN else f.infinity (n1 != n2))
      else if m1 == 0 then f.zero (n1 != n2)
      else
        let k := f.fractionBits + 4 + m2.log2
        let num := m1 * Nat.pow 2 k
        f.round (n1 != n2) (num / m2) (e1 - e2 - k) (num % m2 != 0)
    | _, _ => f.defaultNaN

def sqrt (f : FloatFormat) (a : Nat) : Nat :=
  if f.isNaN a then f.quiet a
  else
    match f.classify a with
    | .inf neg => if neg then f.defaultNaN else a
    | .finite neg m e =>
      if m == 0 then a
      else if neg then f.defaultNaN
      else
        let (m, e) := if e % 2 == 0 then (m, e) else (m * 2, e - 1)
        let k := f.fractionBits + 3
        let n := m * Nat.pow 4 k
        let r := isqrt n
        f.round false r (e / 2 - k) (r * r != n)
    | .nan => f.quiet a

/-- Rounds to an integral value; a zero result keeps the sign. -/
def integral (f : FloatFormat) (mode : Integral) (a : Nat) : Nat :=
  if f.isNaN a then f.quiet a
  else
    match f.classify a with
    | .finite neg m e =>
      if e ≥ 0 ∨ m == 0 then a
      else
        let s := (-e).toNat
        let i := m / Nat.pow 2 s
        let low := m % Nat.pow 2 s
        let half := Nat.pow 2 (s - 1)
        let up := match mode with
          | .trunc => false
          | .floor => neg && low != 0
          | .ceil => !neg && low != 0
          | .nearest => low > half || (low == half && i % 2 == 1)
        let i := if up then i + 1 else i
        if i == 0 then f.zero neg else f.round neg i 0 false
    | _ => a

/-- A key ordering non-NaN values; both zeros have key 0. -/
def key (f : FloatFormat) (bits : Nat) : Int :=
  if f.sign bits then -((f.abs bits : Nat) : Int) else (f.abs bits : Int)

def eq (f : FloatFormat) (a b : Nat) : Bool := !f.isNaN a && !f.isNaN b && f.key a == f.key b

def lt (f : FloatFormat) (a b : Nat) : Bool := !f.isNaN a && !f.isNaN b && f.key a < f.key b

def le (f : FloatFormat) (a b : Nat) : Bool := !f.isNaN a && !f.isNaN b && f.key a ≤ f.key b

/-- The minimum: NaNs as in addition, `-0` below `+0`. -/
def min (f : FloatFormat) (a b : Nat) : Nat :=
  match f.nanOf a b with
  | some r => r
  | none => if f.key a == f.key b then a ||| b else if f.key a < f.key b then a else b

/-- The maximum: NaNs as in addition, `+0` above `-0`. -/
def max (f : FloatFormat) (a b : Nat) : Nat :=
  match f.nanOf a b with
  | some r => r
  | none => if f.key a == f.key b then a &&& b else if f.key a < f.key b then b else a

def ofInt (f : FloatFormat) (i : Int) : Nat := f.round (i < 0) i.natAbs 0 false

/-- A finite value truncated toward zero; `none` for NaNs and infinities. -/
def truncate (f : FloatFormat) (a : Nat) : Option Int :=
  match f.classify a with
  | .finite neg m e =>
    let mag := if e ≥ 0 then m * Nat.pow 2 e.toNat else m / Nat.pow 2 (-e).toNat
    some (if neg then -(mag : Int) else mag)
  | _ => none

/-- A value in another format: finite ones rounded, NaNs quiet with the payload cut or
widened at the low end. -/
def convert (src dst : FloatFormat) (a : Nat) : Nat :=
  match src.classify a with
  | .nan =>
    let payload :=
      if src.fractionBits ≤ dst.fractionBits then src.fraction a * Nat.pow 2 (dst.fractionBits - src.fractionBits)
      else src.fraction a / Nat.pow 2 (src.fractionBits - dst.fractionBits)
    dst.zero (src.sign a) + dst.topExponent * dst.unit + (payload ||| dst.quietBit)
  | .inf neg => dst.infinity neg
  | .finite neg m e => dst.round neg m e false

end FloatFormat

end Wasm

end InferenceBroker
