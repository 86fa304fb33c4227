import InferenceBroker.Text.Utf8

/-!
# Comma-separated records

A list flag's value is the first record of a comma-separated text. Lines end at a line feed
(a carriage return before it, or ending the text, dropped); empty lines first are skipped. A
field is plain, to the next comma or line end, or quoted, a doubled quote standing for one
and line ends allowed. A quote in a plain field, text after a closing quote, or a quoted
field the text ends in fails, naming line and byte column from 1 (and the record's first line
when different); no record at all is `EOF`.
-/

namespace InferenceBroker

namespace Csv

def quote : UInt8 := 34

def comma : UInt8 := 44

def newline : UInt8 := 10

def carriage : UInt8 := 13

/-- The next line with its line feed (a CR before it folded in, a CR ending the text dropped). -/
def readLine (rest : List UInt8) : Option (List UInt8 × List UInt8) :=
  if rest.isEmpty then none
  else
    let body := rest.takeWhile (· != newline)
    let after := rest.drop body.length
    match after with
    | _ :: tail =>
      let body := if body.getLast? == some carriage then body.dropLast else body
      some (body ++ [newline], tail)
    | [] => some (if body.getLast? == some carriage then body.dropLast else body, [])

def lengthNL (line : List UInt8) : Nat := if line.getLast? == some newline then 1 else 0

inductive Fault where
  | bareQuote
  | strayQuote
  deriving DecidableEq, Repr

def Fault.text : Fault → String
  | .bareQuote => "bare \" in non-quoted-field"
  | .strayQuote => "extraneous or missing \" in quoted-field"

/-- Where the record starts, the fault's line and column, and the fault. -/
structure ParseError where
  startLine : Nat
  line : Nat
  column : Nat
  fault : Fault
  deriving Repr

def ParseError.text (e : ParseError) : String :=
  if e.startLine != e.line then
    s!"record on line {e.startLine}; parse error on line {e.line}, column {e.column}: {e.fault.text}"
  else s!"parse error on line {e.line}, column {e.column}: {e.fault.text}"

/-- The line being read, the text after it, line number, column, fields done and the current
field's bytes. -/
structure Cursor where
  line : List UInt8
  rest : List UInt8
  lineNo : Nat
  col : Nat
  fields : List (List UInt8)
  field : List UInt8

def texts (fields : List (List UInt8)) : List String :=
  fields.map Utf8.lossy

mutual

def fieldsFrom (startLine : Nat) : Nat → Cursor → Except ParseError (List (List UInt8))
  | 0, c => .ok (c.fields.reverse)
  | fuel + 1, c =>
    if c.line.head? != some quote then
      let upto := c.line.takeWhile (· != comma)
      let found := upto.length < c.line.length
      let field := if found then upto else upto.take (upto.length - lengthNL upto)
      match field.idxOf? quote with
      | some j => .error ⟨startLine, c.lineNo, c.col + j, .bareQuote⟩
      | none =>
        let fields := field :: c.fields
        if found then
          fieldsFrom startLine fuel
            { c with line := c.line.drop (upto.length + 1), col := c.col + upto.length + 1, fields := fields }
        else .ok fields.reverse
    else quoted startLine fuel { c with line := c.line.drop 1, col := c.col + 1, field := [] }

def quoted (startLine : Nat) : Nat → Cursor → Except ParseError (List (List UInt8))
  | 0, c => .ok (c.fields.reverse)
  | fuel + 1, c =>
    match c.line.idxOf? quote with
    | some i =>
      let field := c.field ++ c.line.take i
      let line := c.line.drop (i + 1)
      let col := c.col + i + 1
      if line.head? == some quote then
        quoted startLine fuel { c with line := line.drop 1, col := col + 1, field := field ++ [quote] }
      else if line.head? == some comma then
        fieldsFrom startLine fuel
          { c with line := line.drop 1, col := col + 1, fields := field :: c.fields, field := [] }
      else if lengthNL line == line.length then .ok (field :: c.fields).reverse
      else .error ⟨startLine, c.lineNo, col - 1, .strayQuote⟩
    | none =>
      if !c.line.isEmpty then
        let field := c.field ++ c.line
        let col := c.col + c.line.length
        match readLine c.rest with
        | some (line, rest) =>
          if line.isEmpty then quoted startLine fuel { c with line := [], rest := rest, col := col, field := field }
          else quoted startLine fuel { c with line := line, rest := rest, lineNo := c.lineNo + 1, col := 1, field := field }
        | none => quoted startLine fuel { c with line := [], rest := [], col := col, field := field }
      else .error ⟨startLine, c.lineNo, c.col, .strayQuote⟩

end

/-- Skips empty lines: the first with content, its number and the text after it. -/
def firstLine : Nat → List UInt8 → Nat → Option (List UInt8 × List UInt8 × Nat)
  | 0, _, _ => none
  | fuel + 1, rest, n =>
    match readLine rest with
    | none => none
    | some (line, rest) => if line.length == lengthNL line then firstLine fuel rest (n + 1) else some (line, rest, n + 1)

def firstRecord (s : String) : Except String (List String) :=
  let bytes := s.toUTF8.toList
  match firstLine (bytes.length + 1) bytes 0 with
  | none => .error "EOF"
  | some (line, rest, n) =>
    match fieldsFrom n (2 * bytes.length + 2) ⟨line, rest, n, 1, [], []⟩ with
    | .ok fields => .ok (texts fields)
    | .error e => .error e.text

theorem firstRecord_empty : firstRecord "" = .error "EOF" := by
  simp [firstRecord, firstLine, readLine]

end Csv

end InferenceBroker
