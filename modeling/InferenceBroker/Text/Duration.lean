import InferenceBroker.Text.Quote

/-!
# Durations

A signed count of nanoseconds in 64 bits, written in the largest units that fit: below a
second one of `ns`, `µs`, `ms` with a decimal fraction (`1.5µs`), else hours, minutes and
seconds (`1h30m0.000000001s`). The reader takes a sign and decimal numbers with unit
suffixes (`ns`, `us`, `µs`, `ms`, `s`, `m`, `h`), like `1.5h` or `2h45m`.
-/

namespace InferenceBroker

structure Duration where
  nanos : Int
deriving DecidableEq, Repr, Inhabited

namespace Duration

def nanosecond : Nat := 1
def microsecond : Nat := 1000
def millisecond : Nat := 1000000
def second : Nat := 1000000000
def minute : Nat := 60 * second
def hour : Nat := 60 * minute

def ofMillis (n : Int) : Duration := ⟨n * millisecond⟩

/-- The fraction `v % 10^prec` as `.ddd` without trailing zeros; empty when zero. -/
def fraction (v prec : Nat) : String :=
  let digits := (Nat.toDigits 10 (v % Nat.pow 10 prec + Nat.pow 10 prec)).drop 1
  let trimmed := (digits.reverse.dropWhile (· == '0')).reverse
  if trimmed.isEmpty then "" else "." ++ String.ofList trimmed

def magnitudeText (u : Nat) : String :=
  if u == 0 then "0s"
  else if u < microsecond then s!"{u}ns"
  else if u < millisecond then s!"{u / 1000}{fraction u 3}µs"
  else if u < second then s!"{u / 1000000}{fraction u 6}ms"
  else
    let secs := u / second
    let frac := fraction u 9
    let mins := secs / 60
    if mins == 0 then s!"{secs % 60}{frac}s"
    else
      let hours := mins / 60
      if hours == 0 then s!"{mins % 60}m{secs % 60}{frac}s"
      else s!"{hours}h{mins % 60}m{secs % 60}{frac}s"

def render (d : Duration) : String :=
  if d.nanos < 0 then "-" ++ magnitudeText d.nanos.natAbs else magnitudeText d.nanos.toNat

/-- Quoted for a failure: printable ASCII as itself (`"` and `\` escaped), other bytes `\xNN`. -/
def quoteText (s : String) : String :=
  let esc := fun (c : Char) =>
    if c.toNat < 32 || c.toNat ≥ 128 then
      String.join ((String.singleton c).toUTF8.toList.map fun b => "\\x" ++ Quote.hexWidth 2 b.toNat)
    else if c == '"' || c == '\\' then String.ofList ['\\', c]
    else String.singleton c
  "\"" ++ String.join (s.toList.map esc) ++ "\""

/-- The units a duration text may use, in nanoseconds. -/
def unitOf? : String → Option Nat
  | "ns" => some nanosecond
  | "us" => some microsecond
  | "µs" => some microsecond
  | "μs" => some microsecond
  | "ms" => some millisecond
  | "s" => some second
  | "m" => some minute
  | "h" => some hour
  | _ => none

def limit : Nat := Nat.pow 2 63

/-- Reads leading digits: the value (none on overflow) and the rest. -/
def leadingInt (cs : List Char) : Option Nat × List Char :=
  let ds := cs.takeWhile Char.isDigit
  let rest := cs.dropWhile Char.isDigit
  let step := fun (acc : Option Nat) (c : Char) => do
    let x ← acc
    if x > limit / 10 then none
    else
      let y := x * 10 + (c.toNat - 48)
      if y > limit then none else some y
  (ds.foldl step (some 0), rest)

/-- Fraction digits: the value, its scale, the rest; digits past the precision dropped. -/
def leadingFraction (cs : List Char) : Nat × Nat × List Char :=
  let ds := cs.takeWhile Char.isDigit
  let rest := cs.dropWhile Char.isDigit
  let step := fun (acc : Nat × Nat × Bool) (c : Char) =>
    let (x, scale, full) := acc
    if full then acc
    else if x > (limit - 1) / 10 then (x, scale, true)
    else
      let y := x * 10 + (c.toNat - 48)
      if y > limit then (x, scale, true) else (y, scale * 10, false)
  let (x, scale, _) := ds.foldl step (0, 1, false)
  (x, scale, rest)

/-- The nanoseconds of `f / scale` of a unit, in double precision, truncated. -/
def fractionNanos (f unit scale : Nat) : Nat :=
  (Float.ofNat f * (Float.ofNat unit / Float.ofNat scale)).toUInt64.toNat

/-- The components after the sign, summed in 64 bits: two of `2^63` wrap to zero. -/
def components (orig : String) : Nat → List Char → Nat → Except String Nat
  | 0, _, d => .ok d
  | _ + 1, [], d => .ok d
  | fuel + 1, cs@(c :: _), d =>
    let invalid := s!"time: invalid duration {quoteText orig}"
    if !(c == '.' || c.isDigit) then .error invalid
    else
      let (v?, rest) := leadingInt cs
      match v? with
      | none => .error invalid
      | some v =>
        let pre := rest.length != cs.length
        let (f, scale, rest, post) := match rest with
          | '.' :: more =>
            let (f, scale, rest') := leadingFraction more
            (f, scale, rest', rest'.length != more.length)
          | _ => (0, 1, rest, false)
        if !pre && !post then .error invalid
        else
          let unitChars := rest.takeWhile fun c => !(c == '.' || c.isDigit)
          let rest := rest.drop unitChars.length
          if unitChars.isEmpty then .error s!"time: missing unit in duration {quoteText orig}"
          else
            let u := String.ofList unitChars
            match unitOf? u with
            | none => .error s!"time: unknown unit {quoteText u} in duration {quoteText orig}"
            | some unit =>
              if v > limit / unit then .error invalid
              else
                let v := v * unit
                let v := if f > 0 then v + fractionNanos f unit scale else v
                if v > limit then .error invalid
                else
                  let d := (d + v) % Nat.pow 2 64
                  if d > limit then .error invalid
                  else components orig fuel rest d

def parse (s : String) : Except String Duration :=
  let (neg, body) := match s.toList with
    | '-' :: rest => (true, rest)
    | '+' :: rest => (false, rest)
    | cs => (false, cs)
  if body == ['0'] then .ok ⟨0⟩
  else if body.isEmpty then .error s!"time: invalid duration {quoteText s}"
  else do
    let d ← components s (body.length + 1) body 0
    if neg then pure ⟨-(d : Int)⟩
    else if d > limit - 1 then .error s!"time: invalid duration {quoteText s}"
    else pure ⟨d⟩

end Duration

end InferenceBroker
