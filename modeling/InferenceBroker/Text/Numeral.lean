import InferenceBroker.Text.Quote

/-!
# Integer and truth-value numerals

An optional sign, then decimal digits or, when the base is read from the text, a `0x`,
`0o`, `0b` or `0` prefix, with `_` between digits. Too wide is out of range, anything else
a syntax error: `strconv.ParseInt: parsing "x": invalid syntax`. Truth values are `1`, `t`,
`T`, `true`, `TRUE`, `True` and their `0`/`f`/`false` counterparts.
-/

namespace InferenceBroker

namespace Numeral

inductive Refusal where
  | malformed
  | range
  deriving DecidableEq, Repr

/-- The text of a refusal by the reader `reader` of the input `s`. -/
def Refusal.text (r : Refusal) (reader s : String) : String :=
  let why := match r with
    | .malformed => "invalid syntax"
    | .range => "value out of range"
  s!"strconv.{reader}: parsing {Quote.string s}: {why}"

/-- Its value in bases up to 36, else 36. -/
def digitValue (c : Char) : Nat :=
  if c.isDigit then c.toNat - 48
  else if 'a' ≤ c && c ≤ 'z' then c.toNat - 87
  else if 'A' ≤ c && c ≤ 'Z' then c.toNat - 55
  else 36

/-- Underscores (after the sign) only between two digits, a base prefix counting as one. -/
def underscoresFit (cs : List Char) : Bool :=
  let (hex, body, start) := match cs with
    | '0' :: b :: rest =>
      let l := b.toLower
      if l == 'b' || l == 'o' || l == 'x' then (l == 'x', rest, '0') else (false, cs, '^')
    | _ => (false, cs, '^')
  let last := body.foldl (fun (saw : Char) c =>
      if saw == '#' then '#'
      else if c.isDigit || hex && digitValue c < 16 then '0'
      else if c == '_' then (if saw == '0' then '_' else '#')
      else if saw == '_' then '#'
      else '!') start
  last != '_' && last != '#'

def basePrefix (cs : List Char) : Nat × List Char :=
  match cs with
  | '0' :: b :: rest@(_ :: _) =>
    let l := b.toLower
    if l == 'b' then (2, rest) else if l == 'o' then (8, rest) else if l == 'x' then (16, rest)
    else (8, b :: rest)
  | '0' :: rest => (8, rest)
  | _ => (10, cs)

/-- The digits in base ten or, with `readBase`, the prefix's base. A value above `limit` is out
of range as soon as its digits pass it. -/
def unsigned (readBase : Bool) (limit : Nat) (cs : List Char) : Except Refusal Nat :=
  if cs.isEmpty then .error .malformed
  else
    let (base, digits) := if readBase then basePrefix cs else (10, cs)
    let step := fun (acc : Except Refusal (Nat × Bool)) (c : Char) =>
      match acc with
      | .error r => .error r
      | .ok (n, under) =>
        if c == '_' && readBase then .ok (n, true)
        else
          let d := digitValue c
          if d ≥ base then .error .malformed
          else if n * base + d > limit then .error .range
          else .ok (n * base + d, under)
    match digits.foldl step (.ok (0, false)) with
    | .error r => .error r
    | .ok (n, under) => if under && !underscoresFit cs then .error .malformed else .ok n

/-- A signed integer of `bits` bits. -/
def parseInt (readBase : Bool) (bits : Nat) (s : String) : Except String Int :=
  let (neg, body) := match s.toList with
    | '-' :: rest => (true, rest)
    | '+' :: rest => (false, rest)
    | cs => (false, cs)
  let bound := Nat.pow 2 (bits - 1)
  match unsigned readBase (Nat.pow 2 bits - 1) body with
  | .error r => .error (r.text "ParseInt" s)
  | .ok n =>
    if neg then (if n > bound then .error (Refusal.range.text "ParseInt" s) else .ok (-(n : Int)))
    else if n ≥ bound then .error (Refusal.range.text "ParseInt" s)
    else .ok n

/-- An unsigned integer of `bits` bits. -/
def parseNat (readBase : Bool) (bits : Nat) (s : String) : Except String Nat :=
  match unsigned readBase (Nat.pow 2 bits - 1) s.toList with
  | .error r => .error (r.text "ParseUint" s)
  | .ok n => .ok n

def parseBool (s : String) : Except String Bool :=
  if ["1", "t", "T", "TRUE", "true", "True"].contains s then .ok true
  else if ["0", "f", "F", "FALSE", "false", "False"].contains s then .ok false
  else .error s!"strconv.ParseBool: parsing {Quote.string s}: invalid syntax"

theorem parseBool_true : parseBool "true" = .ok true := by rfl

theorem parseInt_ten : parseInt false 64 "10" = .ok 10 := by rfl

end Numeral

end InferenceBroker
