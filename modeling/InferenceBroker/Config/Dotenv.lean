import InferenceBroker.Text.Quote
import InferenceBroker.Text.Utf8

/-!
# Environment files

`NAME=value` statements (also `NAME: value`, an optional `export`) and `#` comment lines, read
from bytes. Blanks and comments before a statement are skipped; a name's bytes, as Latin-1,
must be letters, digits, `_`, `.` or blanks, else the file is refused; an unquoted value runs
to the line end, losing its last comment and surrounding blanks; a quoted value runs to the
next unescaped quote of its kind, losing those quotes at either end, and a double-quoted one
turns `\n`, `\r` into breaks and drops other escapes' backslashes. Unquoted and double-quoted
values expand `$NAME`, `${NAME}` and `$(NAME` from names defined earlier in the file; a
backslash before the dollar keeps the reference.
-/

namespace InferenceBroker

namespace Dotenv

/-- The blanks of a statement: not line feeds. -/
def isSpace (c : Char) : Bool :=
  c == '\t' || c == Char.ofNat 11 || c == Char.ofNat 12 || c == '\r' || c == ' ' ||
  c == Char.ofNat 0x85 || c == Char.ofNat 0xA0

def latin1 (b : UInt8) : Char := Char.ofNat b.toNat

def isLetter (c : Char) : Bool :=
  let n := c.toNat
  c.isAlpha || n == 0xAA || n == 0xB5 || n == 0xBA ||
  (0xC0 ≤ n && n ≤ 0xFF && n != 0xD7 && n != 0xF7)

def isNumber (c : Char) : Bool :=
  let n := c.toNat
  c.isDigit || n == 0xB2 || n == 0xB3 || n == 0xB9 || (0xBC ≤ n && n ≤ 0xBE)

/-- The length of the Unicode white space a text starts with, 0 if none. -/
def spaceWidth : Bytes → Nat
  | b :: rest =>
    let n := b.toNat
    if (9 ≤ n && n ≤ 13) || n == 32 then 1
    else match n, rest with
      | 0xC2, c :: _ => if c == 0x85 || c == 0xA0 then 2 else 0
      | 0xE1, c :: d :: _ => if c == 0x9A && d == 0x80 then 3 else 0
      | 0xE2, c :: d :: _ =>
        if c == 0x80 && (d.toNat ≤ 0x8A || d == 0xA8 || d == 0xA9 || d == 0xAF) then 3
        else if c == 0x81 && d == 0x9F then 3 else 0
      | 0xE3, c :: d :: _ => if c == 0x80 && d == 0x80 then 3 else 0
      | _, _ => 0
  | [] => 0

def dropSpaces : Nat → Bytes → Bytes
  | 0, bs => bs
  | fuel + 1, bs =>
    match spaceWidth bs with
    | 0 => bs
    | k => dropSpaces fuel (bs.drop k)

def blankWidth : Bytes → Nat
  | b :: rest =>
    if b == 9 || b == 11 || b == 12 || b == 13 || b == 32 then 1
    else if b == 0xC2 && (rest.head? == some 0x85 || rest.head? == some 0xA0) then 2 else 0
  | [] => 0

def dropBlanks : Nat → Bytes → Bytes
  | 0, bs => bs
  | fuel + 1, bs =>
    match blankWidth bs with
    | 0 => bs
    | k => dropBlanks fuel (bs.drop k)

/-- Drops blanks and comment lines before the next statement; `none` at the end. -/
def statementStart : Nat → Bytes → Option Bytes
  | 0, _ => none
  | fuel + 1, bs =>
    match dropSpaces bs.length bs with
    | [] => none
    | 35 :: rest =>
      match rest.dropWhile (· != 10) with
      | [] => none
      | more => statementStart fuel more
    | start => some start

def byteBlank (b : UInt8) : Bool := isSpace (latin1 b)

/-- A statement's name up to `=` or `:`, and the value text after; without either the name
is empty and all is value. -/
def keyName (bs : Bytes) : Except String (String × Bytes) :=
  let bs := dropBlanks bs.length bs
  let bs := match bs with
    | 101 :: 120 :: 112 :: 111 :: 114 :: 116 :: rest =>
      if blankWidth rest > 0 then dropBlanks rest.length rest else bs
    | _ => bs
  let rec scan : Nat → Bytes → Except String (Option Nat)
    | _, [] => .ok none
    | i, b :: rest =>
      if byteBlank b then scan (i + 1) rest
      else if b == 61 || b == 58 then .ok (some i)
      else if b == 95 || isLetter (latin1 b) || isNumber (latin1 b) || b == 46 then scan (i + 1) rest
      else
        let what := Quote.string (String.singleton (latin1 b))
        let near := Quote.string (Utf8.lossy bs)
        .error s!"unexpected character {what} in variable name near {near}"
  match scan 0 bs with
  | .error e => .error e
  | .ok found =>
    if bs.isEmpty then .error "zero length string"
    else
      let (key, offset) := match found with
        | some i => (Utf8.lossy (bs.take i), i + 1)
        | none => ("", 0)
      let key := String.ofList (key.toList.reverse.dropWhile fun c => isSpace c || c == '\n').reverse
      let rest := bs.drop offset
      .ok (key, dropBlanks rest.length rest)

/-- Expands `$NAME`, `${NAME}` and `$(NAME` by `lookup`; a backslash before the dollar keeps
the reference, without the backslash. -/
def expandSteps (lookup : String → String) : Nat → List Char → List Char → String
  | 0, cs, acc => String.ofList (acc.reverse ++ cs)
  | _ + 1, [], acc => String.ofList acc.reverse
  | fuel + 1, c :: rest, acc =>
    let escaped := c == '\\' && rest.head? == some '$'
    if c == '$' || escaped then
      let afterDollar := if escaped then rest.drop 1 else rest
      let body := if afterDollar.head? == some '(' then afterDollar.drop 1 else afterDollar
      let body := if body.head? == some '\x7b' then body.drop 1 else body
      let name := body.takeWhile fun c => ('A' ≤ c && c ≤ 'Z') || c.isDigit || c == '_'
      let after := body.drop name.length
      let after := if after.head? == some '\x7d' then after.drop 1 else after
      let whole := '$' :: afterDollar.take (afterDollar.length - after.length)
      if escaped then expandSteps lookup fuel after (whole.reverse ++ acc)
      else if name.isEmpty then expandSteps lookup fuel after (whole.reverse ++ acc)
      else expandSteps lookup fuel after ((lookup (String.ofList name)).toList.reverse ++ acc)
    else expandSteps lookup fuel rest (c :: acc)

def expand (lookup : String → String) (s : String) : String := expandSteps lookup (s.length + 1) s.toList []

/-- Turns `\n` and `\r` into line breaks, keeping other escapes. -/
def lineEscapes : List Char → List Char → List Char
  | [], acc => acc.reverse
  | '\\' :: c :: rest, acc =>
    if c == '\n' then lineEscapes (c :: rest) ('\\' :: acc)
    else if c == 'n' then lineEscapes rest ('\n' :: acc)
    else if c == 'r' then lineEscapes rest ('\r' :: acc)
    else lineEscapes rest (c :: '\\' :: acc)
  | c :: rest, acc => lineEscapes rest (c :: acc)

/-- Drops the backslash before every character but a dollar sign. -/
def dropBackslashes : List Char → List Char → List Char
  | [], acc => acc.reverse
  | '\\' :: c :: rest, acc =>
    if c == '$' then dropBackslashes (c :: rest) ('\\' :: acc) else dropBackslashes rest (c :: acc)
  | c :: rest, acc => dropBackslashes rest (c :: acc)

def unescape (s : String) : String := String.ofList (dropBackslashes (lineEscapes s.toList []) [])

/-- Cuts an unquoted value at its last comment: a `#` after a blank. -/
def cutComment (cs : List Char) : List Char :=
  let marks := (List.range cs.length).filter fun i =>
    i > 0 && cs[i]? == some '#' && (cs[i - 1]?.map isSpace).getD false
  match marks.getLast? with
  | some i => cs.take i
  | none => cs

/-- The index of the first quote `q` after the first byte that no backslash precedes. -/
def closingQuote (q : UInt8) (bs : Bytes) : Option Nat :=
  ((List.range bs.length).drop 1).find? fun i => bs[i]? == some q && bs[i - 1]? != some 92

def value (lookup : String → String) (bs : Bytes) : Except String (String × Bytes) :=
  match bs with
  | q :: _ =>
    if q == 34 || q == 39 then
      match closingQuote q bs with
      | some i =>
        let body := (bs.take i).dropWhile (· == q)
        let body := (body.reverse.dropWhile (· == q)).reverse
        let text := Utf8.lossy body
        if q == 34 then .ok (expand lookup (unescape text), bs.drop (i + 1))
        else .ok (text, bs.drop (i + 1))
      | none =>
        let shown := Utf8.lossy (bs.takeWhile (· != 10))
        .error s!"unterminated quoted value {shown}"
    else
      let line := bs.takeWhile fun b => b != 10 && b != 13
      let kept := cutComment (Utf8.lossy line).toList
      let trimmed := ((kept.dropWhile isSpace).reverse.dropWhile isSpace).reverse
      .ok (expand lookup (String.ofList trimmed), bs.drop line.length)
  | [] => .ok ("", [])

def foldLineEnds : Bytes → Bytes
  | 13 :: 10 :: rest => 10 :: foldLineEnds rest
  | b :: rest => b :: foldLineEnds rest
  | [] => []

/-- The definitions in order, a later one of a name replacing an earlier one. -/
def parse (src : Bytes) : Except String (List (String × String)) :=
  let src := foldLineEnds src
  let rec go : Nat → Bytes → List (String × String) → Except String (List (String × String))
    | 0, _, acc => .ok acc
    | fuel + 1, bs, acc =>
      match statementStart (bs.length + 1) bs with
      | none => .ok acc
      | some bs =>
        match keyName bs with
        | .error e => .error e
        | .ok (name, rest) =>
          let lookup := fun (n : String) => (acc.lookup n).getD ""
          match value lookup rest with
          | .error e => .error e
          | .ok (v, after) =>
            let acc := if acc.any (·.1 == name) then acc.map fun m => if m.1 == name then (name, v) else m
              else acc ++ [(name, v)]
            if after.length < bs.length then go fuel after acc else .ok acc
  go (src.length + 1) src []

end Dotenv

end InferenceBroker
