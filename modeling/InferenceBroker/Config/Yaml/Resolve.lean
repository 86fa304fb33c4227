import InferenceBroker.Text.Numeral
import InferenceBroker.Text.Decimal
import InferenceBroker.Text.Timestamp

/-!
# YAML scalar resolution

A scalar's value follows from its tag (written short: `!!int` for `tag:yaml.org,2002:int`)
and text. Only `!!str`, `!!bool`, `!!int`, `!!float`, `!!null`, `!!timestamp` and no tag are
resolved; other tags keep the text. Untagged, the first character decides: known words
(`true`, `null`, `~`, `.inf`, …) are looked up; a digit or sign may start a timestamp, an
integer in base 10, 16, 8 or 2 (underscores dropped), an unsigned one beyond the signed
range, or a float that does not overflow; `.` may start a float; anything else is a string.
A tag the text does not fit is a failure, but an integer tagged `!!float` is a float.
-/

namespace InferenceBroker

namespace Yaml

def corePrefix : String := "tag:yaml.org,2002:"

/-- The short form of a tag: `!!name` for a core schema tag. -/
def shortTag (tag : String) : String :=
  if tag.startsWith corePrefix then "!!" ++ String.ofList (tag.toList.drop corePrefix.length) else tag

inductive Scalar where
  | null
  | bool (b : Bool)
  | int (n : Int)
  /-- beyond the signed 64-bit range, within the unsigned one -/
  | uint (n : Nat)
  /-- a literal that reads back as its binary64 value, or `+Inf`, `-Inf`, `NaN` -/
  | float (lit : String)
  | text (s : String)
  | time (shown : String)
  deriving Repr, Inhabited, BEq

def resolvable (tag : String) : Bool :=
  ["", "!!str", "!!bool", "!!int", "!!float", "!!null", "!!timestamp"].contains tag

/-- What a text's first character says it may be: `N` empty, `S` sign, `D` digit, `M` a
letter of a known word, `.` point, `?` else. -/
def hint (s : String) : Char :=
  match s.toList with
  | [] => 'N'
  | c :: _ =>
    if c == '+' || c == '-' then 'S'
    else if c.isDigit then 'D'
    else if "yYnNtTfFoO~".toList.contains c then 'M'
    else if c == '.' then '.'
    else '?'

def known (s : String) : Option (String × Scalar) :=
  if ["true", "True", "TRUE"].contains s then some ("!!bool", .bool true)
  else if ["false", "False", "FALSE"].contains s then some ("!!bool", .bool false)
  else if ["", "~", "null", "Null", "NULL"].contains s then some ("!!null", .null)
  else if [".nan", ".NaN", ".NAN"].contains s then some ("!!float", .float "NaN")
  else if [".inf", ".Inf", ".INF", "+.inf", "+.Inf", "+.INF"].contains s then some ("!!float", .float "+Inf")
  else if ["-.inf", "-.Inf", "-.INF"].contains s then some ("!!float", .float "-Inf")
  else if s == "<<" then some ("!!merge", .text "<<")
  else none

def exponentPart : List Char → Bool
  | [] => true
  | c :: rest =>
    (c == 'e' || c == 'E') &&
      (let ds := match rest with
        | '-' :: d => d
        | '+' :: d => d
        | d => d
       !ds.isEmpty && ds.all Char.isDigit)

/-- A YAML float: optional sign, digits with an optional point and fraction or a point and
digits, optional exponent. -/
def floatShaped (s : String) : Bool :=
  let cs := match s.toList with
    | '-' :: r => r
    | '+' :: r => r
    | r => r
  match cs with
  | '.' :: r =>
    let ds := r.takeWhile Char.isDigit
    !ds.isEmpty && exponentPart (r.drop ds.length)
  | r =>
    let ds := r.takeWhile Char.isDigit
    let rest := r.drop ds.length
    let rest := match rest with
      | '.' :: more => more.dropWhile Char.isDigit
      | more => more
    !ds.isEmpty && exponentPart rest

/-- A float text's literal (`+` dropped, `0` before a leading point), unless it overflows. -/
def floatLiteral? (s : String) : Option String :=
  let (neg, cs) := match s.toList with
    | '-' :: r => (true, r)
    | '+' :: r => (false, r)
    | r => (false, r)
  let cs := if cs.head? == some '.' then '0' :: cs else cs
  let lit := (if neg then "-" else "") ++ String.ofList cs
  (Decimal.literalValue? lit).map fun _ => lit

def digitsIn (base : Nat) (cs : List Char) : Option Nat :=
  if cs.isEmpty then none
  else cs.foldl (fun acc c => acc.bind fun n =>
    let d := Numeral.digitValue c
    if d < base then some (n * base + d) else none) (some 0)

def signedIn (base : Nat) (s : String) : Option Int :=
  let (neg, cs) := match s.toList with
    | '-' :: r => (true, r)
    | '+' :: r => (false, r)
    | r => (false, r)
  (digitsIn base cs).bind fun n =>
    if neg then (if n ≤ Nat.pow 2 63 then some (-(n : Int)) else none)
    else if n < Nat.pow 2 63 then some n else none

def unsignedIn (base : Nat) (s : String) : Option Nat :=
  (digitsIn base s.toList).bind fun n => if n < Nat.pow 2 64 then some n else none

def twoDigits : List Char → Option (Nat × List Char)
  | a :: b :: rest =>
    if !a.isDigit then none
    else if b.isDigit then some ((a.toNat - 48) * 10 + (b.toNat - 48), rest)
    else some (a.toNat - 48, b :: rest)
  | [a] => if a.isDigit then some (a.toNat - 48, []) else none
  | [] => none

def fixedTwo : List Char → Option Nat
  | [a, b] => if a.isDigit && b.isDigit then some ((a.toNat - 48) * 10 + (b.toNat - 48)) else none
  | _ => none

def literal (c : Char) : List Char → Option (List Char)
  | d :: rest => if c == d then some rest else none
  | [] => none

/-- A date `yyyy-m-d`, month and day of one or two digits, the month in range. -/
def datePart (cs : List Char) : Option ((Nat × Nat × Nat) × List Char) := do
  let ys := cs.take 4
  if ys.length != 4 || !ys.all Char.isDigit then none
  let rest ← literal '-' (cs.drop 4)
  let (month, rest) ← twoDigits rest
  if month == 0 || month > 12 then none
  let rest ← literal '-' rest
  let (day, rest) ← twoDigits rest
  return ((Decimal.digitsValue ys, month, day), rest)

/-- A fraction of a second after a point or comma: nine digits count, more are dropped. -/
def fractionPart (cs : List Char) : Nat × List Char :=
  match cs with
  | p :: d :: rest =>
    if (p == '.' || p == ',') && d.isDigit then
      let ds := (d :: rest).takeWhile Char.isDigit
      let used := ds.take 9
      (Decimal.digitsValue used * Nat.pow 10 (9 - used.length), (d :: rest).drop ds.length)
    else (0, cs)
  | _ => (0, cs)

def clockPart (cs : List Char) : Option ((Nat × Nat × Nat × Nat) × List Char) := do
  let (hour, rest) ← twoDigits cs
  if hour ≥ 24 then none
  let rest ← literal ':' rest
  let (minute, rest) ← twoDigits rest
  if minute ≥ 60 then none
  let rest ← literal ':' rest
  let (second, rest) ← twoDigits rest
  if second ≥ 60 then none
  let (nanos, rest) := fractionPart rest
  return ((hour, minute, second, nanos), rest)

/-- A zone: `Z`, or `+hh:mm`/`-hh:mm` (hours up to 24, minutes up to 60). -/
def zonePart (cs : List Char) : Option (Option Int × List Char) :=
  match cs with
  | 'Z' :: rest => some (none, rest)
  | sign :: h1 :: h2 :: colon :: m1 :: m2 :: rest => do
    if colon != ':' then none
    let hr ← fixedTwo [h1, h2]
    let mm ← fixedTwo [m1, m2]
    if hr > 24 || mm > 60 then none
    let off : Int := ((hr * 60 + mm) * 60 : Nat)
    if sign == '+' then some (some off, rest)
    else if sign == '-' then some (some (-off), rest)
    else none
  | _ => none

/-- A stamp from its parts, when the day lies in its month. -/
def stampOf (date : Nat × Nat × Nat) (clock : Nat × Nat × Nat × Nat) (offset : Option Int) :
    Option Timestamp.Stamp :=
  let (year, month, day) := date
  let (hour, minute, second, nanos) := clock
  if day < 1 || day > Timestamp.daysIn month year then none
  else some ⟨year, month, day, hour, minute, second, nanos, offset⟩

def zonedStamp (cs : List Char) : Option Timestamp.Stamp := do
  let (date, rest) ← datePart cs
  let rest ← match rest with
    | c :: more => if c == 'T' || c == 't' then some more else none
    | [] => none
  let (clock, rest) ← clockPart rest
  let (offset, rest) ← zonePart rest
  if !rest.isEmpty then none
  stampOf date clock offset

def spacedStamp (cs : List Char) : Option Timestamp.Stamp := do
  let (date, rest) ← datePart cs
  if rest.head?.any (· != ' ') then none
  let (clock, rest) ← clockPart (rest.dropWhile (· == ' '))
  if !rest.isEmpty then none
  stampOf date clock none

def dateStamp (cs : List Char) : Option Timestamp.Stamp := do
  let (date, rest) ← datePart cs
  if !rest.isEmpty then none
  stampOf date (0, 0, 0, 0) none

/-- A timestamp: four digits and `-`, then a date with a zoned time, with a time, or alone. -/
def parseTimestamp (s : String) : Option Timestamp.Stamp :=
  let cs := s.toList
  let ds := cs.takeWhile Char.isDigit
  if ds.length != 4 || (cs.drop 4).head? != some '-' then none
  else (zonedStamp cs).orElse fun _ => (spacedStamp cs).orElse fun _ => dateStamp cs

/-- Resolves a text starting with a digit or sign: timestamp (untagged or so tagged),
integer, unsigned, float, or a `0b`/`0o` numeral with a signed body. -/
def resolveNumber (tag s : String) : Option (String × Scalar) :=
  let stamp := if tag == "" || tag == "!!timestamp" then parseTimestamp s else none
  match stamp with
  | some t => some ("!!timestamp", .time t.text)
  | none =>
    let plain := String.ofList (s.toList.filter (· != '_'))
    let body := String.ofList (plain.toList.drop 2)
    let negBody := "-" ++ String.ofList (plain.toList.drop 3)
    match (Numeral.parseInt true 64 plain).toOption with
    | some n => some ("!!int", .int n)
    | none =>
    match (Numeral.parseNat true 64 plain).toOption with
    | some n => some ("!!int", .uint n)
    | none =>
    match (if floatShaped plain then floatLiteral? plain else none) with
    | some lit => some ("!!float", .float lit)
    | none =>
    if plain.startsWith "0b" then
      match signedIn 2 body with
      | some n => some ("!!int", .int n)
      | none => (unsignedIn 2 body).map fun n => ("!!int", .uint n)
    else if plain.startsWith "-0b" then (signedIn 2 negBody).map fun n => ("!!int", .int n)
    else if plain.startsWith "0o" then
      match signedIn 8 body with
      | some n => some ("!!int", .int n)
      | none => (unsignedIn 8 body).map fun n => ("!!int", .uint n)
    else if plain.startsWith "-0o" then (signedIn 8 negBody).map fun n => ("!!int", .int n)
    else none

def resolvePlain (tag s : String) : String × Scalar :=
  let h := hint s
  if h == '?' || tag == "!!str" then ("!!str", .text s)
  else match known s with
    | some r => r
    | none =>
      if h == '.' then
        match (if floatShaped s then floatLiteral? s else none) with
        | some lit => ("!!float", .float lit)
        | none => ("!!str", .text s)
      else if h == 'D' || h == 'S' then (resolveNumber tag s).getD ("!!str", .text s)
      else ("!!str", .text s)

/-- Resolves a scalar with a tag (short or long): its resolved tag and value, or the failure
when the tag does not fit. -/
def resolve (tag s : String) : Except String (String × Scalar) :=
  let tag := shortTag tag
  if !resolvable tag then .ok (tag, .text s)
  else
    let (rtag, v) := resolvePlain tag s
    if tag == "" || tag == rtag || tag == "!!str" then .ok (rtag, v)
    else match tag, v with
      | "!!float", .int n => .ok ("!!float", .float (toString n))
      | _, _ => .error s!"yaml: cannot decode {rtag} `{s}` as a {tag}"

def resolvedTag (s : String) : String := (resolvePlain "" s).1

theorem twoDigits_pair : twoDigits ['1', '2', ':'] = some (12, [':']) := by decide

theorem zonePart_utc : zonePart ['Z'] = some (none, []) := by decide

end Yaml

end InferenceBroker
