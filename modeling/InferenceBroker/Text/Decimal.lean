/-!
# Shortest decimals of binary64 values

A finite non-negative binary64 value is `m * 2^q`; the reals that round to it reach halfway
to each neighbour, ends included when `m` is even. Its shortest decimal has the fewest
significant digits in that interval, the nearer of two (even on a tie). All is exact
arithmetic: values from ratios by rounding to nearest, decimals tested by cross-multiplying,
1 to 17 digits tried. The text is a JSON number's: plain from `1e-6` up to `1e21`, exponent
form outside.
-/

namespace InferenceBroker

namespace Decimal

/-- A finite non-negative binary64 value, `m * 2^q`. -/
structure Binary where
  m : Nat
  q : Int
  /-- the gap below is half the gap above -/
  narrowBelow : Bool
  deriving Repr, DecidableEq

/-- `digits * 10^exp`. -/
structure Dec where
  digits : Nat
  exp : Int
  deriving Repr, DecidableEq

def cmpScaled (a : Nat) (i : Int) (n : Nat) (j : Int) : Ordering :=
  compare (a * Nat.pow 10 i.toNat * Nat.pow 2 (-j).toNat) (n * Nat.pow 2 j.toNat * Nat.pow 10 (-i).toNat)

/-- Whether `d` rounds to `x` (to nearest, ties to even). -/
def Binary.readsBack (x : Binary) (d : Dec) : Bool :=
  let lo := if x.narrowBelow then 4 * x.m - 1 else 4 * x.m - 2
  let hi := 4 * x.m + 2
  let incl := x.m % 2 == 0
  let cl := cmpScaled d.digits d.exp lo (x.q - 2)
  let ch := cmpScaled d.digits d.exp hi (x.q - 2)
  (cl == .gt || (incl && cl == .eq)) && (ch == .lt || (incl && ch == .eq))

def roundRatio (n d : Nat) : Nat :=
  let r := n % d
  let k := n / d
  if 2 * r > d || (2 * r == d && k % 2 == 1) then k + 1 else k

def roundScaled (p d : Nat) (e : Int) : Nat :=
  roundRatio (p * Nat.pow 2 (-e).toNat) (d * Nat.pow 2 e.toNat)

def scaleFits (p d : Nat) (e : Int) : Bool :=
  Nat.pow 2 52 * d * Nat.pow 2 e.toNat ≤ p * Nat.pow 2 (-e).toNat

def minExponent : Int := -1074

/-- The binary64 value nearest to `p / d`; zero when `p` or `d` is zero. -/
def Binary.ofRatio (p d : Nat) : Binary :=
  if p == 0 || d == 0 then ⟨0, minExponent, false⟩
  else
    -- the largest scale `e` with `2^52 * d * 2^e ≤ p`, found from the logarithms
    let e0 : Int := (Nat.log2 p : Int) - Nat.log2 d - 52
    let e1 := if scaleFits p d e0 then e0 else e0 - 1
    let e2 := if scaleFits p d (e1 + 1) then e1 + 1 else e1
    let e := max e2 minExponent
    let m := roundScaled p d e
    if m == Nat.pow 2 53 then ⟨Nat.pow 2 52, e + 1, true⟩
    else ⟨m, e, m == Nat.pow 2 52 && e > minExponent⟩

def scaleFrom (x : Binary) : Nat → Int → Int
  | 0, k => k
  | fuel + 1, k => if cmpScaled 1 k x.m x.q == .gt then k else scaleFrom x fuel (k + 1)

/-- The least `k` with `x < 10^k`, searched from an estimate below it. -/
def Binary.scale (x : Binary) : Int :=
  let bits : Int := (Nat.log2 x.m : Int) + x.q
  scaleFrom x 700 (bits * 3 / 10 - 2)

def Binary.floorAt (x : Binary) (g : Int) : Nat :=
  (x.m * Nat.pow 2 x.q.toNat * Nat.pow 10 (-g).toNat) / (Nat.pow 2 (-x.q).toNat * Nat.pow 10 g.toNat)

/-- Whether `c * 10^g` is at least as near to `x` as `(c + 1) * 10^g`, even on a tie. -/
def Binary.lowerIsNearer (x : Binary) (c : Nat) (g : Int) : Bool :=
  match cmpScaled (2 * c + 1) g (2 * x.m) x.q with
  | .gt => true
  | .lt => false
  | .eq => c % 2 == 0

/-- The decimal of `n` digits that reads back, if any: the nearer of `x`'s two neighbours on
the grid `10^(k - n)` that does. -/
def Binary.digitsAt (x : Binary) (k : Int) (n : Nat) : Option Dec :=
  let g := k - n
  let c := x.floorAt g
  let lower : Dec := ⟨c, g⟩
  let upper : Dec := ⟨c + 1, g⟩
  match x.readsBack lower, x.readsBack upper with
  | true, true => some (if x.lowerIsNearer c g then lower else upper)
  | true, false => some lower
  | false, true => some upper
  | false, false => none

def Dec.strip (d : Dec) : Nat → Dec
  | 0 => d
  | fuel + 1 =>
    if d.digits != 0 && d.digits % 10 == 0 then Dec.strip ⟨d.digits / 10, d.exp + 1⟩ fuel else d

def Binary.exact (x : Binary) : Dec :=
  if x.q ≥ 0 then ⟨x.m * Nat.pow 2 x.q.toNat, 0⟩ else ⟨x.m * Nat.pow 5 (-x.q).toNat, x.q⟩

/-- The shortest decimal that reads back as `x`; zero is `0`. -/
def Binary.shortest (x : Binary) : Dec :=
  if x.m == 0 then ⟨0, 0⟩
  else
    let k := x.scale
    let found := (List.range 17).findSome? fun i => x.digitsAt k (i + 1)
    let d := found.getD x.exact
    d.strip 400

def digitText (n : Nat) : String := String.ofList (Nat.toDigits 10 n)

def Dec.plain (d : Dec) : String :=
  let s := digitText d.digits
  if d.exp ≥ 0 then s ++ String.ofList (List.replicate d.exp.toNat '0')
  else
    let shift := (-d.exp).toNat
    if shift < s.length then
      String.ofList (s.toList.take (s.length - shift)) ++ "." ++ String.ofList (s.toList.drop (s.length - shift))
    else "0." ++ String.ofList (List.replicate (shift - s.length) '0') ++ s

/-- Exponent form: one digit, a point and the rest, `e`, the sign, at least one digit. -/
def Dec.scientific (d : Dec) : String :=
  let s := digitText d.digits
  let e : Int := d.exp + s.length - 1
  let mant := match s.toList with
    | c :: rest => if rest.isEmpty then String.singleton c else String.ofList (c :: '.' :: rest)
    | [] => "0"
  mant ++ "e" ++ (if e < 0 then "-" else "+") ++ digitText e.natAbs

def Dec.jsonText (d : Dec) : String :=
  if d.digits == 0 then "0"
  else
    let e : Int := d.exp + (digitText d.digits).length - 1
    if e < -6 || e ≥ 21 then d.scientific else d.plain

def ratioText (p d : Nat) : String := (Binary.ofRatio p d).shortest.jsonText

def digitsValue (ds : List Char) : Nat := ds.foldl (fun acc c => acc * 10 + (c.toNat - 48)) 0

/-- A JSON number literal: negative or not, its digits without the point, and the power of ten. -/
def literalParts? (lit : String) : Option (Bool × Nat × Int) :=
  let (neg, rest) := match lit.toList with
    | '-' :: r => (true, r)
    | r => (false, r)
  let whole := rest.takeWhile Char.isDigit
  let rest := rest.dropWhile Char.isDigit
  let (frac, rest) := match rest with
    | '.' :: r => (r.takeWhile Char.isDigit, r.dropWhile Char.isDigit)
    | r => ([], r)
  let power : Option Int := match rest with
    | [] => some 0
    | c :: r =>
      if c != 'e' && c != 'E' then none
      else match r with
        | '-' :: ds => if !ds.isEmpty && ds.all Char.isDigit then some (-(digitsValue ds : Int)) else none
        | '+' :: ds => if !ds.isEmpty && ds.all Char.isDigit then some (digitsValue ds) else none
        | ds => if !ds.isEmpty && ds.all Char.isDigit then some (digitsValue ds) else none
  if whole.isEmpty then none
  else power.map fun p => (neg, digitsValue (whole ++ frac), p - frac.length)

/-- The sign of a literal and the binary64 value nearest to its magnitude (`none` for zero or
below the smallest); `none` as a whole when malformed or beyond the largest finite one. -/
def literalValue? (lit : String) : Option (Bool × Option Binary) :=
  match literalParts? lit with
  | none => none
  | some (neg, m, e) =>
    if m == 0 then some (neg, none)
    else
      let width : Int := (digitText m).length
      if e + width > 310 then none
      else if e + width < -330 then some (neg, none)
      else
        let x := if e ≥ 0 then Binary.ofRatio (m * Nat.pow 10 e.toNat) 1 else Binary.ofRatio m (Nat.pow 10 (-e).toNat)
        if x.q > 971 then none else some (neg, some x)

/-- The JSON text of the value nearest to a literal, `none` beyond the largest finite one;
values too small read as zero, keeping the sign. -/
def literalText? (lit : String) : Option String :=
  (literalValue? lit).map fun (neg, x) =>
    (if neg then "-" else "") ++ ((x.map (·.shortest.jsonText)).getD "0")

/-- Like `literalText?`, in plain digits and a point, never an exponent. -/
def literalPlain? (lit : String) : Option String :=
  (literalValue? lit).map fun (neg, x) =>
    (if neg then "-" else "") ++ ((x.map (·.shortest.plain)).getD "0")

/-- The general text, as default formatting shows floats: exponent form (two digits or more)
when the exponent is below -4 or at least 6, else plain. -/
def Dec.general (d : Dec) : String :=
  if d.digits == 0 then "0"
  else
    let s := digitText d.digits
    let e : Int := d.exp + s.length - 1
    if e < -4 || e ≥ 6 then
      let mant := match s.toList with
        | c :: rest => if rest.isEmpty then String.singleton c else String.ofList (c :: '.' :: rest)
        | [] => "0"
      let ds := digitText e.natAbs
      mant ++ "e" ++ (if e < 0 then "-" else "+") ++ (if ds.length < 2 then "0" ++ ds else ds)
    else d.plain

/-- The general text of the value nearest to a literal, `none` beyond the largest finite one. -/
def literalGeneral? (lit : String) : Option String :=
  (literalValue? lit).map fun (neg, x) =>
    (if neg then "-" else "") ++ ((x.map (·.shortest.general)).getD "0")

/-- The integer part, towards zero, of the value nearest to a literal. -/
def literalTruncated? (lit : String) : Option Int :=
  (literalValue? lit).map fun (neg, x) =>
    let whole : Nat := match x with
      | none => 0
      | some b => if b.q ≥ 0 then b.m * Nat.pow 2 b.q.toNat else b.m / Nat.pow 2 (-b.q).toNat
    if neg then -(whole : Int) else whole

end Decimal

end InferenceBroker
