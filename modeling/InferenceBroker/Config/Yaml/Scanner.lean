import InferenceBroker.Text.Utf8

/-!
# YAML scanner

Characters become tokens. The scanner keeps a cursor (`Mark`: index, line and column from 0),
a queue of tokens not yet handed out, the stack of block indentations, and one possible
*simple key* per flow level: a token that becomes a mapping key when a `:` follows on the
same line within 1024 characters, which inserts a `KEY` token (and in block context a
`BLOCK-MAPPING-START`) at the key's token number. The parser sees at least three tokens ahead,
so a later error can surface first. Input is checked for control characters in blocks of 512
bytes as the scanner reaches them.
-/

namespace InferenceBroker

namespace Yaml

/-- A position in a document: character index, line and column, from 0. -/
structure Mark where
  index : Nat
  line : Nat
  column : Nat
  deriving Repr, Inhabited, BEq

inductive ScalarStyle where
  | plain
  | singleQuoted
  | doubleQuoted
  | literal
  | folded
  deriving Repr, Inhabited, BEq, DecidableEq

inductive TokenKind where
  | streamStart
  | streamEnd
  | versionDirective (major minor : Nat)
  | tagDirective (handle pfx : String)
  | documentStart
  | documentEnd
  | blockSequenceStart
  | blockMappingStart
  | blockEnd
  | flowSequenceStart
  | flowSequenceEnd
  | flowMappingStart
  | flowMappingEnd
  | blockEntry
  | flowEntry
  | key
  | value
  | alias (name : String)
  | anchor (name : String)
  | tag (handle suffix : String)
  | scalar (text : String) (style : ScalarStyle)
  deriving Repr, Inhabited, BEq

structure Token where
  kind : TokenKind
  start : Mark
  stop : Mark
  deriving Repr, Inhabited

inductive Stage where
  | reader
  | scanner
  | parser
  deriving Repr, Inhabited, BEq, DecidableEq

/-- A failure: the stage, the context and where it started, the problem and where it was found. -/
structure Fault where
  stage : Stage
  context : String
  contextMark : Mark
  problem : String
  problemMark : Mark
  deriving Repr, Inhabited

def Mark.origin : Mark := ⟨0, 0, 0⟩

/-- `yaml: line N: problem`, the line being the context's when not the first, else the
problem's; scanner lines count from 1, parser lines from 0. -/
def Fault.text (f : Fault) : String :=
  let bump := if f.stage == .scanner then 1 else 0
  let line :=
    if f.contextMark.line != 0 then f.contextMark.line + bump
    else if f.problemMark.line != 0 then f.problemMark.line + bump
    else 0
  let place := if line != 0 then s!"line {line}: " else ""
  let problem := if f.problem.isEmpty then "unknown problem parsing YAML content" else f.problem
  "yaml: " ++ place ++ problem

/-- The character read past the end of the input. -/
def nul : Char := Char.ofNat 0

def bom : Char := Char.ofNat 0xFEFF

def isBlank (c : Char) : Bool := c == ' ' || c == '\t'

/-- A line break: carriage return, line feed, next line, line or paragraph separator. -/
def isBreak (c : Char) : Bool :=
  c == '\r' || c == '\n' || c.toNat == 0x85 || c.toNat == 0x2028 || c.toNat == 0x2029

def isBreakZ (c : Char) : Bool := isBreak c || c == nul

def isBlankZ (c : Char) : Bool := isBlank c || isBreakZ c

/-- A character of anchor names, tag handles and directive names: ASCII letter, digit, `_`, `-`. -/
def isWord (c : Char) : Bool :=
  ('0' ≤ c && c ≤ '9') || ('A' ≤ c && c ≤ 'Z') || ('a' ≤ c && c ≤ 'z') || c == '_' || c == '-'

def isHex (c : Char) : Bool :=
  ('0' ≤ c && c ≤ '9') || ('A' ≤ c && c ≤ 'F') || ('a' ≤ c && c ≤ 'f')

def hexDigit (c : Char) : Nat :=
  if c ≤ '9' then c.toNat - 48 else if c ≤ 'F' then c.toNat - 55 else c.toNat - 87

/-- Tab, line breaks, printable ASCII, next line, and the planes without surrogates and the
two non-characters. -/
def readable (c : Char) : Bool :=
  let n := c.toNat
  n == 9 || n == 10 || n == 13 || (0x20 ≤ n && n ≤ 0x7E) || n == 0x85 ||
  (0xA0 ≤ n && n ≤ 0xD7FF) || (0xE000 ≤ n && n ≤ 0xFFFD) || 0x10000 ≤ n

def utf8Width (c : Char) : Nat :=
  let n := c.toNat
  if n < 0x80 then 1 else if n < 0x800 then 2 else if n < 0x10000 then 3 else 4

/-- A possible simple key: still possible, required, its first token's number and its start. -/
structure SimpleKey where
  possible : Bool
  required : Bool
  number : Nat
  mark : Mark
  deriving Repr, Inhabited

structure Scanner where
  /-- the document, a leading byte order mark left out -/
  input : Array Char
  mark : Mark
  /-- characters checked for control characters, and their bytes -/
  checked : Nat
  checkedBytes : Nat
  /-- Line breaks passed since the last character that was no blank. -/
  newlines : Nat
  /-- tokens not yet handed out, and how many were -/
  queue : List Token
  parsed : Nat
  /-- whether the head may be handed out without scanning further -/
  available : Bool
  started : Bool
  finished : Bool
  flowLevel : Nat
  indent : Int
  indents : List Int
  keyAllowed : Bool
  keys : Array SimpleKey
  keysByToken : List (Nat × Nat)
  deriving Inhabited

/-- The scanner over a document's text; an empty text reads as one line break. -/
def Scanner.ofText (text : String) : Scanner :=
  let cs := if text.isEmpty then #['\n'] else text.toList.toArray
  let (cs, start) := if cs[0]? == some bom then (cs.extract 1 cs.size, 3) else (cs, 0)
  { input := cs, mark := Mark.origin, checked := 0, checkedBytes := start, newlines := 0,
    queue := [], parsed := 0, available := false, started := false, finished := false,
    flowLevel := 0, indent := -1, indents := [], keyAllowed := false, keys := #[],
    keysByToken := [] }

abbrev ScanM := StateT Scanner (Except Fault)

def Scanner.peek (s : Scanner) (k : Nat) : Char := s.input.getD (s.mark.index + k) nul

def Scanner.budget (s : Scanner) : Nat := s.input.size + 2

def controlFault : Fault :=
  { stage := .reader, context := "", contextMark := Mark.origin,
    problem := "control characters are not allowed", problemMark := Mark.origin }

def Scanner.checkBlock (s : Scanner) : Except Fault Scanner :=
  let limit := s.checkedBytes + 512
  let rec go : Nat → Nat → Nat → Except Fault Scanner
    | 0, i, b => .ok { s with checked := i, checkedBytes := b }
    | fuel + 1, i, b =>
      match s.input[i]? with
      | none => .ok { s with checked := i, checkedBytes := b }
      | some c =>
        if b + utf8Width c > limit then .ok { s with checked := i, checkedBytes := b }
        else if !readable c then .error controlFault
        else go fuel (i + 1) (b + utf8Width c)
  go 513 s.checked s.checkedBytes

/-- Checks blocks of input until `n` characters after the cursor are checked. -/
def Scanner.checkAhead (n : Nat) : Nat → Scanner → Except Fault Scanner
  | 0, s => .ok s
  | fuel + 1, s =>
    if s.mark.index + n ≤ s.checked || s.checked ≥ s.input.size then .ok s
    else match s.checkBlock with
      | .ok s' => Scanner.checkAhead n fuel s'
      | .error e => .error e

def ensure (n : Nat) : ScanM Unit := do
  let s ← get
  if s.mark.index + n ≤ s.checked || s.checked ≥ s.input.size then return
  match Scanner.checkAhead n (s.input.size + 1) s with
  | .ok s' => set s'
  | .error e => throw e

def skip : ScanM Unit := modify fun s =>
  { s with mark := ⟨s.mark.index + 1, s.mark.line, s.mark.column + 1⟩,
           newlines := if isBlank (s.peek 0) then s.newlines else 0 }

/-- Moves past a line break; a carriage return and line feed count as one. -/
def skipLine : ScanM Unit := modify fun s =>
  if s.peek 0 == '\r' && s.peek 1 == '\n' then
    { s with mark := ⟨s.mark.index + 2, s.mark.line + 1, 0⟩, newlines := s.newlines + 1 }
  else if isBreak (s.peek 0) then
    { s with mark := ⟨s.mark.index + 1, s.mark.line + 1, 0⟩, newlines := s.newlines + 1 }
  else s

/-- Reads a line break onto `acc`: CR, LF and next line become LF; LS and PS stay. -/
def readLine (acc : String) : ScanM String := do
  let s ← get
  let c := s.peek 0
  if c == '\r' && s.peek 1 == '\n' then
    set { s with mark := ⟨s.mark.index + 2, s.mark.line + 1, 0⟩, newlines := s.newlines + 1 }
    return acc.push '\n'
  else if c == '\r' || c == '\n' || c.toNat == 0x85 then
    set { s with mark := ⟨s.mark.index + 1, s.mark.line + 1, 0⟩, newlines := s.newlines + 1 }
    return acc.push '\n'
  else if isBreak c then
    set { s with mark := ⟨s.mark.index + 1, s.mark.line + 1, 0⟩, newlines := s.newlines + 1 }
    return acc.push c
  else return acc

def readChar (acc : String) : ScanM String := do
  let c := (← get).peek 0
  skip
  return acc.push c

def fault (context : String) (contextMark : Mark) (problem : String) : ScanM Fault := do
  return { stage := .scanner, context := context, contextMark := contextMark,
           problem := problem, problemMark := (← get).mark }

def pushToken (t : Token) : ScanM Unit := modify fun s => { s with queue := s.queue ++ [t] }

def insertToken (pos : Nat) (t : Token) : ScanM Unit :=
  modify fun s => { s with queue := s.queue.take pos ++ t :: s.queue.drop pos }

def dropKeyOf (n : Nat) (table : List (Nat × Nat)) : List (Nat × Nat) := table.filter (·.1 != n)

/-- Whether a key can still be simple: not once it left its line or lies over 1024
characters back; a required one is then a failure. -/
def keyValid (idx : Nat) : ScanM Bool := do
  let s ← get
  match s.keys[idx]? with
  | none => return false
  | some k =>
    if !k.possible then return false
    if k.mark.line < s.mark.line || k.mark.index + 1024 < s.mark.index then
      if k.required then throw (← fault "while scanning a simple key" k.mark "could not find expected ':'")
      set { s with keys := s.keys.modify idx fun k => { k with possible := false } }
      return false
    return true

/-- Drops the possible key of this flow level; a required one is a failure. -/
def removeSimpleKey : ScanM Unit := do
  let s ← get
  let i := s.keys.size - 1
  match s.keys[i]? with
  | some k =>
    if k.possible then
      if k.required then throw (← fault "while scanning a simple key" k.mark "could not find expected ':'")
      set { s with keys := s.keys.modify i (fun k => { k with possible := false }),
                   keysByToken := dropKeyOf k.number s.keysByToken }
  | none => pure ()

def saveSimpleKey : ScanM Unit := do
  let s ← get
  let required := s.flowLevel == 0 && s.indent == (s.mark.column : Int)
  if s.keyAllowed then
    let key : SimpleKey := ⟨true, required, s.parsed + s.queue.length, s.mark⟩
    removeSimpleKey
    modify fun s =>
      let i := s.keys.size - 1
      { s with keys := s.keys.modify i (fun _ => key),
               keysByToken := (key.number, i) :: dropKeyOf key.number s.keysByToken }

def increaseFlowLevel : ScanM Unit := do
  let s ← get
  set { s with keys := s.keys.push ⟨false, false, 0, s.mark⟩, flowLevel := s.flowLevel + 1 }
  if s.flowLevel + 1 > 10000 then
    throw (← fault "while increasing flow level" s.mark "exceeded max depth of 10000")

def decreaseFlowLevel : ScanM Unit := modify fun s =>
  if s.flowLevel > 0 then
    let last := s.keys.back?.map (·.number)
    { s with flowLevel := s.flowLevel - 1, keys := s.keys.pop,
             keysByToken := match last with
               | some n => dropKeyOf n s.keysByToken
               | none => s.keysByToken }
  else s

/-- In block context, opens a collection deeper than the current one, inserting its start
token at the given token number or at the end. -/
def rollIndent (column : Int) (number : Option Nat) (kind : TokenKind) (mark : Mark) : ScanM Unit := do
  let s ← get
  if s.flowLevel > 0 then return
  if s.indent < column then
    set { s with indents := s.indent :: s.indents, indent := column }
    if s.indents.length + 1 > 10000 then
      let keyMark := (s.keys.back?.map (·.mark)).getD Mark.origin
      throw (← fault "while increasing indent level" keyMark "exceeded max depth of 10000")
    let t : Token := ⟨kind, mark, mark⟩
    match number with
    | some n => insertToken (n - s.parsed) t
    | none => pushToken t

/-- In block context, closes every collection deeper than `column`, a block end each. -/
def unrollIndent (column : Int) (scanMark : Mark) : ScanM Unit := do
  if (← get).flowLevel > 0 then return
  let at_ : Mark := ⟨scanMark.index - 1, scanMark.line, scanMark.column⟩
  for _ in [0:(← get).indents.length + 1] do
    let s ← get
    if s.indent ≤ column then break
    pushToken ⟨.blockEnd, at_, at_⟩
    match s.indents with
    | i :: rest => modify fun s => { s with indent := i, indents := rest }
    | [] => modify fun s => { s with indent := -1 }

/-- Skips a comment whose `#` stands at `seen`, with the blanks and line breaks before it. -/
def skipComment (seen : Nat) : ScanM Unit := do
  for _ in [0:(← get).budget] do
    ensure 1
    let s ← get
    if isBreakZ (s.peek 0) then
      if s.mark.index ≥ seen then break
      ensure 2
      skipLine
    else skip

/-- Skips a comment on a token's line: blanks (also tabs), `#`, the rest of the line. -/
def scanLineComment : ScanM Unit := do
  if (← get).newlines > 0 then return
  for k in [0:512] do
    ensure (k + 1)
    let s ← get
    let c := s.peek k
    if isBlank c then continue
    if c == '#' then skipComment (s.mark.index + k)
    break

/-- Skips a comment block: further lines whose `#` follows only blanks and breaks (at most
512 characters) go too. -/
def scanComments : ScanM Unit := do
  let mut ahead := 0
  for _ in [0:(← get).budget * 513] do
    if ahead ≥ 512 then break
    ensure (ahead + 1)
    let s ← get
    let c := s.peek ahead
    if isBlank c then
      ahead := ahead + 1
      continue
    if (s.flowLevel > 0 && (c == ']' || c == '}')) || isBreakZ c then
      if !isBreak c then break
      ahead := ahead + 1
      continue
    if c != '#' then break
    skipComment (s.mark.index + ahead)
    ahead := 1

/-- Skips blanks, comments and breaks to the next token. Tabs only in flow context or where
no simple key may start; a break in block context allows a simple key again. -/
def scanToNextToken : ScanM Unit := do
  for _ in [0:(← get).budget] do
    ensure 1
    let s ← get
    if s.mark.column == 0 && s.peek 0 == bom then skip
    ensure 1
    for _ in [0:(← get).budget] do
      let s ← get
      if s.peek 0 == ' ' || ((s.flowLevel > 0 || !s.keyAllowed) && s.peek 0 == '\t') then
        skip
        ensure 1
      else break
    if (← get).peek 0 == '#' then scanComments
    let s ← get
    if isBreak (s.peek 0) then
      ensure 2
      skipLine
      if s.flowLevel == 0 then modify fun s => { s with keyAllowed := true }
    else break

def fetchStreamStart : ScanM Unit := do
  modify fun s => { s with indent := -1, keys := s.keys.push ⟨false, false, 0, Mark.origin⟩,
                           keysByToken := [], keyAllowed := true, started := true }
  let m := (← get).mark
  pushToken ⟨.streamStart, m, m⟩

/-- Ends the stream: a new line is forced, every block closed. -/
def fetchStreamEnd : ScanM Unit := do
  let s ← get
  if s.mark.column != 0 then set { s with mark := ⟨s.mark.index, s.mark.line + 1, 0⟩ }
  unrollIndent (-1) (← get).mark
  removeSimpleKey
  modify fun s => { s with keyAllowed := false, keysByToken := [] }
  let m := (← get).mark
  pushToken ⟨.streamEnd, m, m⟩

def scanWord : ScanM String := do
  let mut acc := ""
  ensure 1
  for _ in [0:(← get).budget] do
    if !isWord ((← get).peek 0) then break
    acc ← readChar acc
    ensure 1
  return acc

def skipBlanks : ScanM Unit := do
  ensure 1
  for _ in [0:(← get).budget] do
    if !isBlank ((← get).peek 0) then break
    skip
    ensure 1

/-- Reads a tag handle: `!`, word characters, a closing `!` if any; in `%TAG` the handle must
end with `!`. -/
def scanTagHandle (directive : Bool) (start : Mark) : ScanM String := do
  let context := if directive then "while parsing a %TAG directive" else "while parsing a tag"
  ensure 1
  if (← get).peek 0 != '!' then throw (← fault context start "did not find expected '!'")
  let mut acc ← readChar ""
  ensure 1
  for _ in [0:(← get).budget] do
    if !isWord ((← get).peek 0) then break
    acc ← readChar acc
    ensure 1
  if (← get).peek 0 == '!' then acc ← readChar acc
  else if directive && acc != "!" then throw (← fault context start "did not find expected '!'")
  return acc

/-- Whether a character may stand in a tag URI; inside `!<...>` also `,`, `[` and `]`. -/
def isUriChar (verbatim : Bool) (c : Char) : Bool :=
  isWord c || ";/?:@&=+$.%!~*'()".toList.contains c || (verbatim && (c == ',' || c == '[' || c == ']'))

/-- Reads `%`-escaped bytes of a URI forming one UTF-8 character. -/
def scanUriEscapes (directive : Bool) (start : Mark) (acc : String) : ScanM String := do
  let context := if directive then "while parsing a %TAG directive" else "while parsing a tag"
  let mut width := 0
  let mut bytes : List UInt8 := []
  for i in [0:4] do
    ensure 3
    let s ← get
    if !(s.peek 0 == '%' && isHex (s.peek 1) && isHex (s.peek 2)) then
      throw (← fault context start "did not find URI escaped octet")
    let octet := hexDigit (s.peek 1) * 16 + hexDigit (s.peek 2)
    if i == 0 then
      width := if octet < 0x80 then 1 else if octet / 32 == 6 then 2 else if octet / 16 == 14 then 3
        else if octet / 8 == 30 then 4 else 0
      if width == 0 then throw (← fault context start "found an incorrect leading UTF-8 octet")
    else if octet / 64 != 2 then throw (← fault context start "found an incorrect trailing UTF-8 octet")
    bytes := bytes ++ [octet.toUInt8]
    skip; skip; skip
    if i + 1 ≥ width then break
  return acc ++ Utf8.lossy bytes

def scanTagUri (verbatim directive : Bool) (head : String) (start : Mark) : ScanM String := do
  let context := if directive then "while parsing a %TAG directive" else "while parsing a tag"
  let mut acc := String.ofList (head.toList.drop 1)
  let mut found := !head.isEmpty
  ensure 1
  for _ in [0:(← get).budget] do
    let c := (← get).peek 0
    if !isUriChar verbatim c then break
    if c == '%' then acc ← scanUriEscapes directive start acc
    else acc ← readChar acc
    ensure 1
    found := true
  if !found then throw (← fault context start "did not find expected tag URI")
  return acc

def scanVersionNumber (start : Mark) : ScanM Nat := do
  ensure 1
  let mut value := 0
  let mut length := 0
  for _ in [0:3] do
    let c := (← get).peek 0
    if !c.isDigit then break
    length := length + 1
    if length > 2 then throw (← fault "while scanning a %YAML directive" start "found extremely long version number")
    value := value * 10 + (c.toNat - 48)
    skip
    ensure 1
  if length == 0 then throw (← fault "while scanning a %YAML directive" start "did not find expected version number")
  return value

def scanVersionValue (start : Mark) : ScanM TokenKind := do
  skipBlanks
  let major ← scanVersionNumber start
  if (← get).peek 0 != '.' then
    throw (← fault "while scanning a %YAML directive" start "did not find expected digit or '.' character")
  skip
  let minor ← scanVersionNumber start
  return .versionDirective major minor

def scanTagDirectiveValue (start : Mark) : ScanM TokenKind := do
  skipBlanks
  let handle ← scanTagHandle true start
  ensure 1
  if !isBlank ((← get).peek 0) then
    throw (← fault "while scanning a %TAG directive" start "did not find expected whitespace")
  skipBlanks
  let pfx ← scanTagUri true true "" start
  ensure 1
  if !isBlankZ ((← get).peek 0) then
    throw (← fault "while scanning a %TAG directive" start "did not find expected whitespace or line break")
  return .tagDirective handle pfx

/-- Reads `%YAML major.minor` or `%TAG handle prefix`, a comment and the line break. -/
def scanDirective : ScanM Token := do
  let start := (← get).mark
  skip
  let name ← scanWord
  if name.isEmpty then throw (← fault "while scanning a directive" start "could not find expected directive name")
  if !isBlankZ ((← get).peek 0) then
    throw (← fault "while scanning a directive" start "found unexpected non-alphabetical character")
  let kind ←
    if name == "YAML" then scanVersionValue start
    else if name == "TAG" then scanTagDirectiveValue start
    else throw (← fault "while scanning a directive" start "found unknown directive name")
  let stop := (← get).mark
  skipBlanks
  if (← get).peek 0 == '#' then
    for _ in [0:(← get).budget] do
      if isBreakZ ((← get).peek 0) then break
      skip
      ensure 1
  if !isBreakZ ((← get).peek 0) then
    throw (← fault "while scanning a directive" start "did not find expected comment or line break")
  if isBreak ((← get).peek 0) then
    ensure 2
    skipLine
  return ⟨kind, start, stop⟩

def scanAnchor (isAlias : Bool) : ScanM Token := do
  let start := (← get).mark
  skip
  let name ← scanWord
  let stop := (← get).mark
  let c := (← get).peek 0
  if name.isEmpty || !(isBlankZ c || "?:,]\x7d%@".toList.contains c || c == Char.ofNat 96) then
    let context := if isAlias then "while scanning an alias" else "while scanning an anchor"
    throw (← fault context start "did not find expected alphabetic or numeric character")
  return ⟨if isAlias then .alias name else .anchor name, start, stop⟩

def scanVerbatimTag (start : Mark) : ScanM (String × String) := do
  skip; skip
  let suffix ← scanTagUri true false "" start
  if (← get).peek 0 != '>' then throw (← fault "while scanning a tag" start "did not find the expected '>'")
  skip
  return ("", suffix)

def scanShorthandTag (start : Mark) : ScanM (String × String) := do
  let handle ← scanTagHandle false start
  if handle.length > 1 && handle.endsWith "!" then
    let suffix ← scanTagUri false false "" start
    return (handle, suffix)
  let suffix ← scanTagUri false false handle start
  return if suffix.isEmpty then ("", "!") else ("!", suffix)

/-- Reads a tag: `!<uri>`, `!handle!suffix`, `!suffix` or the lone `!`. -/
def scanTag : ScanM Token := do
  let start := (← get).mark
  ensure 2
  let (handle, suffix) ←
    if (← get).peek 1 == '<' then scanVerbatimTag start else scanShorthandTag start
  ensure 1
  let c := (← get).peek 0
  if !isBlankZ c && !((← get).flowLevel > 0 && c == ',') then
    throw (← fault "while scanning a tag" start "did not find expected whitespace or line break")
  return ⟨.tag handle suffix, start, (← get).mark⟩

/-- Skips the indentation and empty lines before a block scalar's next line, collecting the
breaks; an unknown indentation (0) becomes the deepest seen, above the enclosing block's and
at least 1. -/
def blockBreaks (indent : Int) (breaks : String) (start : Mark) : ScanM (Int × String × Mark) := do
  let mut endMark := (← get).mark
  let mut maxIndent : Nat := 0
  let mut breaks := breaks
  for _ in [0:(← get).budget] do
    ensure 1
    for _ in [0:(← get).budget] do
      let s ← get
      if (indent == 0 || (s.mark.column : Int) < indent) && s.peek 0 == ' ' then
        skip
        ensure 1
      else break
    let s ← get
    if s.mark.column > maxIndent then maxIndent := s.mark.column
    if (indent == 0 || (s.mark.column : Int) < indent) && s.peek 0 == '\t' then
      throw (← fault "while scanning a block scalar" start "found a tab character where an indentation space is expected")
    if !isBreak (s.peek 0) then break
    ensure 2
    breaks ← readLine breaks
    endMark := (← get).mark
  let mut indent := indent
  if indent == 0 then
    indent := maxIndent
    let outer := (← get).indent + 1
    if indent < outer then indent := outer
    if indent < 1 then indent := 1
  return (indent, breaks, endMark)

/-- Reads a literal (`|`) or folded (`>`) block scalar; its header has a chomping indicator
and an indentation digit, in either order. -/
def scanBlockScalar (literal : Bool) : ScanM Token := do
  let start := (← get).mark
  skip
  ensure 1
  let mut chomping : Int := 0
  let mut increment : Nat := 0
  let c := (← get).peek 0
  if c == '+' || c == '-' then
    chomping := if c == '+' then 1 else -1
    skip
    ensure 1
    let d := (← get).peek 0
    if d.isDigit then
      if d == '0' then throw (← fault "while scanning a block scalar" start "found an indentation indicator equal to 0")
      increment := d.toNat - 48
      skip
  else if c.isDigit then
    if c == '0' then throw (← fault "while scanning a block scalar" start "found an indentation indicator equal to 0")
    increment := c.toNat - 48
    skip
    ensure 1
    let d := (← get).peek 0
    if d == '+' || d == '-' then
      chomping := if d == '+' then 1 else -1
      skip
  skipBlanks
  if (← get).peek 0 == '#' then
    scanLineComment
    for _ in [0:(← get).budget] do
      if isBreakZ ((← get).peek 0) then break
      skip
      ensure 1
  if !isBreakZ ((← get).peek 0) then
    throw (← fault "while scanning a block scalar" start "did not find expected comment or line break")
  if isBreak ((← get).peek 0) then
    ensure 2
    skipLine
  let mut indent : Int := 0
  if increment > 0 then
    let outer := (← get).indent
    indent := if outer ≥ 0 then outer + increment else increment
  let (ind, tb, em) ← blockBreaks indent "" start
  indent := ind
  let mut trailingBreaks := tb
  let mut endMark := em
  let mut text := ""
  let mut leadingBreak := ""
  let mut leadingBlank := false
  ensure 1
  for _ in [0:(← get).budget] do
    let s ← get
    if !((s.mark.column : Int) == indent && s.peek 0 != nul) then break
    let trailingBlank := isBlank (s.peek 0)
    if !literal && !leadingBlank && !trailingBlank && leadingBreak.front == '\n' && !leadingBreak.isEmpty then
      if trailingBreaks.isEmpty then text := text.push ' '
    else text := text ++ leadingBreak
    leadingBreak := ""
    text := text ++ trailingBreaks
    trailingBreaks := ""
    leadingBlank := isBlank (s.peek 0)
    for _ in [0:(← get).budget] do
      if isBreakZ ((← get).peek 0) then break
      text ← readChar text
      ensure 1
    ensure 2
    leadingBreak ← readLine leadingBreak
    let (ind, tb, em) ← blockBreaks indent trailingBreaks start
    indent := ind
    trailingBreaks := tb
    endMark := em
  if chomping != -1 then text := text ++ leadingBreak
  if chomping == 1 then text := text ++ trailingBreaks
  return ⟨.scalar text (if literal then .literal else .folded), start, endMark⟩

/-- What a one-letter escape stands for, and how many hex digits follow. -/
def escapeOf (c : Char) : Option (Option Char × Nat) :=
  match c with
  | '0' => some (some (Char.ofNat 0), 0)
  | 'a' => some (some (Char.ofNat 7), 0)
  | 'b' => some (some (Char.ofNat 8), 0)
  | 't' => some (some '\t', 0)
  | '\t' => some (some '\t', 0)
  | 'n' => some (some '\n', 0)
  | 'v' => some (some (Char.ofNat 11), 0)
  | 'f' => some (some (Char.ofNat 12), 0)
  | 'r' => some (some '\r', 0)
  | 'e' => some (some (Char.ofNat 27), 0)
  | ' ' => some (some ' ', 0)
  | '"' => some (some '"', 0)
  | '\'' => some (some '\'', 0)
  | '\\' => some (some '\\', 0)
  | 'N' => some (some (Char.ofNat 0x85), 0)
  | '_' => some (some (Char.ofNat 0xA0), 0)
  | 'L' => some (some (Char.ofNat 0x2028), 0)
  | 'P' => some (some (Char.ofNat 0x2029), 0)
  | 'x' => some (none, 2)
  | 'u' => some (none, 4)
  | 'U' => some (none, 8)
  | _ => none

/-- Whether a document marker `---` or `...` starts at the cursor, at column 0. -/
def atDocumentMarker (s : Scanner) : Bool :=
  s.mark.column == 0 &&
    ((s.peek 0 == '-' && s.peek 1 == '-' && s.peek 2 == '-') ||
     (s.peek 0 == '.' && s.peek 1 == '.' && s.peek 2 == '.')) &&
    isBlankZ (s.peek 3)

/-- Joins the parts of a flow or plain scalar: one line break becomes a blank, more stay. -/
def foldBreaks (text leadingBreak trailingBreaks : String) : String :=
  if !leadingBreak.isEmpty && leadingBreak.front == '\n' then
    if trailingBreaks.isEmpty then text.push ' ' else text ++ trailingBreaks
  else text ++ leadingBreak ++ trailingBreaks

def scanFlowScalar (single : Bool) : ScanM Token := do
  let start := (← get).mark
  skip
  let mut text := ""
  let mut leadingBreak := ""
  let mut trailingBreaks := ""
  let mut whitespaces := ""
  for _ in [0:(← get).budget] do
    ensure 4
    let s ← get
    if atDocumentMarker s then
      throw (← fault "while scanning a quoted scalar" start "found unexpected document indicator")
    if s.peek 0 == nul then
      throw (← fault "while scanning a quoted scalar" start "found unexpected end of stream")
    let mut leadingBlanks := false
    for _ in [0:(← get).budget] do
      let s ← get
      let c := s.peek 0
      if isBlankZ c then break
      if single && c == '\'' && s.peek 1 == '\'' then
        text := text.push '\''
        skip; skip
      else if single && c == '\'' then break
      else if !single && c == '"' then break
      else if !single && c == '\\' && isBreak (s.peek 1) then
        ensure 3
        skip
        skipLine
        leadingBlanks := true
        break
      else if !single && c == '\\' then
        match escapeOf (s.peek 1) with
        | none => throw (← fault "while parsing a quoted scalar" start "found unknown escape character")
        | some (some e, _) =>
          text := text.push e
          skip; skip
        | some (none, width) =>
          skip; skip
          ensure width
          let s ← get
          let mut value := 0
          for k in [0:width] do
            if !isHex (s.peek k) then
              throw (← fault "while parsing a quoted scalar" start "did not find expected hexdecimal number")
            value := value * 16 + hexDigit (s.peek k)
          if (0xD800 ≤ value && value ≤ 0xDFFF) || value > 0x10FFFF then
            throw (← fault "while parsing a quoted scalar" start "found invalid Unicode character escape code")
          text := text.push (Char.ofNat value)
          for _ in [0:width] do skip
      else text ← readChar text
      ensure 2
    ensure 1
    let c := (← get).peek 0
    if (single && c == '\'') || (!single && c == '"') then break
    for _ in [0:(← get).budget] do
      let c := (← get).peek 0
      if isBlank c then
        if !leadingBlanks then whitespaces ← readChar whitespaces else skip
      else if isBreak c then
        ensure 2
        if !leadingBlanks then
          whitespaces := ""
          leadingBreak ← readLine leadingBreak
          leadingBlanks := true
        else trailingBreaks ← readLine trailingBreaks
      else break
      ensure 1
    if leadingBlanks then
      text := foldBreaks text leadingBreak trailingBreaks
      leadingBreak := ""
      trailingBreaks := ""
    else
      text := text ++ whitespaces
      whitespaces := ""
  skip
  return ⟨.scalar text (if single then .singleQuoted else .doubleQuoted), start, (← get).mark⟩

/-- Reads a plain scalar, continued on lines indented deeper than the block; it ends before
`: `, a comment, a document marker, a shallower line or a flow indicator in flow context. -/
def scanPlainScalar : ScanM Token := do
  let s0 ← get
  let indent := s0.indent + 1
  let start := s0.mark
  let mut endMark := s0.mark
  let mut text := ""
  let mut leadingBreak := ""
  let mut trailingBreaks := ""
  let mut whitespaces := ""
  let mut leadingBlanks := false
  for _ in [0:s0.budget] do
    ensure 4
    let s ← get
    if atDocumentMarker s then break
    if s.peek 0 == '#' then break
    for _ in [0:(← get).budget] do
      let s ← get
      let c := s.peek 0
      if isBlankZ c then break
      if (c == ':' && isBlankZ (s.peek 1)) ||
         (s.flowLevel > 0 && (c == ',' || c == '?' || c == '[' || c == ']' || c == '{' || c == '}')) then break
      if leadingBlanks || !whitespaces.isEmpty then
        if leadingBlanks then
          text := foldBreaks text leadingBreak trailingBreaks
          trailingBreaks := ""
          leadingBreak := ""
          leadingBlanks := false
        else
          text := text ++ whitespaces
          whitespaces := ""
      text ← readChar text
      endMark := (← get).mark
      ensure 2
    let c := (← get).peek 0
    if !(isBlank c || isBreak c) then break
    ensure 1
    for _ in [0:(← get).budget] do
      let s ← get
      let c := s.peek 0
      if isBlank c then
        if leadingBlanks && (s.mark.column : Int) < indent && c == '\t' then
          throw (← fault "while scanning a plain scalar" start "found a tab character that violates indentation")
        if !leadingBlanks then whitespaces ← readChar whitespaces else skip
      else if isBreak c then
        ensure 2
        if !leadingBlanks then
          whitespaces := ""
          leadingBreak ← readLine leadingBreak
          leadingBlanks := true
        else trailingBreaks ← readLine trailingBreaks
      else break
      ensure 1
    let s ← get
    if s.flowLevel == 0 && (s.mark.column : Int) < indent then break
  if leadingBlanks then modify fun s => { s with keyAllowed := true }
  return ⟨.scalar text .plain, start, endMark⟩

def indicator (kind : TokenKind) : ScanM Unit := do
  let start := (← get).mark
  skip
  pushToken ⟨kind, start, (← get).mark⟩

def fetchDocumentIndicator (kind : TokenKind) : ScanM Unit := do
  unrollIndent (-1) (← get).mark
  removeSimpleKey
  modify fun s => { s with keyAllowed := false }
  let start := (← get).mark
  skip; skip; skip
  pushToken ⟨kind, start, (← get).mark⟩

def fetchDirective : ScanM Unit := do
  unrollIndent (-1) (← get).mark
  removeSimpleKey
  modify fun s => { s with keyAllowed := false }
  pushToken (← scanDirective)

/-- `[` or `{`: may start a simple key, opens a flow level. -/
def fetchFlowCollectionStart (kind : TokenKind) : ScanM Unit := do
  saveSimpleKey
  increaseFlowLevel
  modify fun s => { s with keyAllowed := true }
  indicator kind

/-- `]` or `}`: closes a flow level. -/
def fetchFlowCollectionEnd (kind : TokenKind) : ScanM Unit := do
  removeSimpleKey
  decreaseFlowLevel
  modify fun s => { s with keyAllowed := false }
  indicator kind

def fetchFlowEntry : ScanM Unit := do
  removeSimpleKey
  modify fun s => { s with keyAllowed := true }
  indicator .flowEntry

/-- `-` followed by a blank: in block context it may open a sequence. -/
def fetchBlockEntry : ScanM Unit := do
  let s ← get
  if s.flowLevel == 0 then
    if !s.keyAllowed then throw (← fault "" s.mark "block sequence entries are not allowed in this context")
    rollIndent s.mark.column none .blockSequenceStart s.mark
  removeSimpleKey
  modify fun s => { s with keyAllowed := true }
  indicator .blockEntry

/-- `?`: an explicit key; in block context it may open a mapping. -/
def fetchKey : ScanM Unit := do
  let s ← get
  if s.flowLevel == 0 then
    if !s.keyAllowed then throw (← fault "" s.mark "mapping keys are not allowed in this context")
    rollIndent s.mark.column none .blockMappingStart s.mark
  removeSimpleKey
  modify fun s => { s with keyAllowed := s.flowLevel == 0 }
  indicator .key

/-- `:`: confirms this level's simple key, inserting its `KEY` token (and opening a block
mapping at its column), or follows an explicit key. -/
def fetchValue : ScanM Unit := do
  let idx := (← get).keys.size - 1
  if (← keyValid idx) then
    let s ← get
    let k := s.keys.getD idx ⟨false, false, 0, Mark.origin⟩
    insertToken (k.number - s.parsed) ⟨.key, k.mark, k.mark⟩
    rollIndent k.mark.column (some k.number) .blockMappingStart k.mark
    modify fun s => { s with keys := s.keys.modify idx (fun k => { k with possible := false }),
                             keysByToken := dropKeyOf k.number s.keysByToken, keyAllowed := false }
  else
    let s ← get
    if s.flowLevel == 0 then
      if !s.keyAllowed then throw (← fault "" s.mark "mapping values are not allowed in this context")
      rollIndent s.mark.column none .blockMappingStart s.mark
    modify fun s => { s with keyAllowed := s.flowLevel == 0 }
  indicator .value

/-- A token that may be a simple key and after which none may start. -/
def fetchKeyCandidate (scan : ScanM Token) : ScanM Unit := do
  saveSimpleKey
  modify fun s => { s with keyAllowed := false }
  pushToken (← scan)

def fetchBlockScalar (literal : Bool) : ScanM Unit := do
  removeSimpleKey
  modify fun s => { s with keyAllowed := true }
  pushToken (← scanBlockScalar literal)

def plainStart (s : Scanner) : Bool :=
  let c := s.peek 0
  let next := s.peek 1
  !(isBlankZ c || "-?:,[]\x7b\x7d#&*!|>'\"%@".toList.contains c || c == Char.ofNat 96) ||
    (c == '-' && !isBlank next) ||
    (s.flowLevel == 0 && (c == '?' || c == ':') && !isBlank next)

/-- Scans the token at the cursor, other than stream, directive and document markers. -/
def fetchToken : ScanM Unit := do
  let s ← get
  let c := s.peek 0
  let next := s.peek 1
  if c == '[' then fetchFlowCollectionStart .flowSequenceStart
  else if c == '{' then fetchFlowCollectionStart .flowMappingStart
  else if c == ']' then fetchFlowCollectionEnd .flowSequenceEnd
  else if c == '}' then fetchFlowCollectionEnd .flowMappingEnd
  else if c == ',' then fetchFlowEntry
  else if c == '-' && isBlankZ next then fetchBlockEntry
  else if c == '?' && (s.flowLevel > 0 || isBlankZ next) then fetchKey
  else if c == ':' && (s.flowLevel > 0 || isBlankZ next) then fetchValue
  else if c == '*' then fetchKeyCandidate (scanAnchor true)
  else if c == '&' then fetchKeyCandidate (scanAnchor false)
  else if c == '!' then fetchKeyCandidate scanTag
  else if c == '|' && s.flowLevel == 0 then fetchBlockScalar true
  else if c == '>' && s.flowLevel == 0 then fetchBlockScalar false
  else if c == '\'' then fetchKeyCandidate (scanFlowScalar true)
  else if c == '"' then fetchKeyCandidate (scanFlowScalar false)
  else if plainStart s then fetchKeyCandidate scanPlainScalar
  else throw (← fault "while scanning for the next token" s.mark "found character that cannot start any token")

def fetchNextToken : ScanM Unit := do
  ensure 1
  if !(← get).started then
    fetchStreamStart
    return
  let scanMark := (← get).mark
  scanToNextToken
  unrollIndent (← get).mark.column scanMark
  ensure 4
  let s ← get
  let c := s.peek 0
  let marker := s.mark.column == 0 && isBlankZ (s.peek 3)
  if c == nul then fetchStreamEnd
  else if s.mark.column == 0 && c == '%' then fetchDirective
  else if marker && c == '-' && s.peek 1 == '-' && s.peek 2 == '-' then fetchDocumentIndicator .documentStart
  else if marker && c == '.' && s.peek 1 == '.' && s.peek 2 == '.' then fetchDocumentIndicator .documentEnd
  else
    fetchToken
    match (← get).queue.getLast? with
    | some t => if t.kind != .blockEntry then scanLineComment
    | none => scanLineComment

/-- Scans until the head token may go out: three tokens queued, the head no simple key a
later `:` could confirm. -/
def fetchMoreTokens : ScanM Unit := do
  for _ in [0:8 * (← get).budget + 16] do
    let s ← get
    if s.queue.length ≥ 3 then
      match s.keysByToken.lookup s.parsed with
      | none => break
      | some idx => if !(← keyValid idx) then break
    fetchNextToken
  modify fun s => { s with available := true }

def peekToken : ScanM Token := do
  if !(← get).available then fetchMoreTokens
  let s ← get
  return s.queue.headD ⟨.streamEnd, s.mark, s.mark⟩

def skipToken : ScanM Unit := modify fun s =>
  match s.queue with
  | t :: rest =>
    { s with available := false, parsed := s.parsed + 1, finished := t.kind == .streamEnd, queue := rest }
  | [] => { s with available := false }

theorem isBlank_space : isBlank ' ' = true := by decide

theorem readable_tab : readable '\t' = true := by decide

end Yaml

end InferenceBroker
