import InferenceBroker.Config.Yaml.Scanner

/-!
# YAML events

Tokens become events (stream, document, collection starts and ends, scalars, aliases). The
parser is a state machine; nested collections push the state to return to and their start
mark, so a failure names its collection. Tags resolve against the document's directives,
`!` and `!!` always defined; missing keys, values and entries become empty plain scalars.
-/

namespace InferenceBroker

namespace Yaml

inductive ParseState where
  | streamStart
  | implicitDocumentStart
  | documentStart
  | documentContent
  | documentEnd
  | blockNode
  | blockNodeOrIndentlessSequence
  | flowNode
  | blockSequenceFirstEntry
  | blockSequenceEntry
  | indentlessSequenceEntry
  | blockMappingFirstKey
  | blockMappingKey
  | blockMappingValue
  | flowSequenceFirstEntry
  | flowSequenceEntry
  | flowSequenceEntryMappingKey
  | flowSequenceEntryMappingValue
  | flowSequenceEntryMappingEnd
  | flowMappingFirstKey
  | flowMappingKey
  | flowMappingValue
  | flowMappingEmptyValue
  | finished
  deriving Repr, Inhabited, BEq, DecidableEq

/-- An event's kind; anchors and tags are empty when absent. -/
inductive EventKind where
  | nothing
  | streamStart
  | streamEnd
  | documentStart
  | documentEnd
  | alias (anchor : String)
  | scalar (anchor tag value : String) (style : ScalarStyle)
  | sequenceStart (anchor tag : String) (flow : Bool)
  | sequenceEnd
  | mappingStart (anchor tag : String) (flow : Bool)
  | mappingEnd
  deriving Repr, Inhabited, BEq

structure Event where
  kind : EventKind
  start : Mark
  deriving Repr, Inhabited

/-- The scanner, the state, the states and collection marks to return to, and the tag directives. -/
structure Parser where
  scanner : Scanner
  state : ParseState
  states : List ParseState
  marks : List Mark
  tagDirectives : List (String × String)
  deriving Inhabited

def Parser.ofText (text : String) : Parser :=
  ⟨Scanner.ofText text, .streamStart, [], [], []⟩

abbrev ParseM := StateT Parser (Except Fault)

def scan {α : Type} (m : ScanM α) : ParseM α := fun p =>
  match m.run p.scanner with
  | .ok (a, s) => .ok (a, { p with scanner := s })
  | .error e => .error e

def parserFault (problem : String) (mark : Mark) : Fault :=
  { stage := .parser, context := "", contextMark := Mark.origin, problem := problem, problemMark := mark }

/-- A failure inside a collection or node that started at `contextMark`. -/
def parserFaultIn (context : String) (contextMark : Mark) (problem : String) (mark : Mark) : Fault :=
  { stage := .parser, context := context, contextMark := contextMark, problem := problem, problemMark := mark }

def defaultTagDirectives : List (String × String) := [("!", "!"), ("!!", "tag:yaml.org,2002:")]

def popState : ParseM Unit := modify fun p =>
  match p.states with
  | s :: rest => { p with state := s, states := rest }
  | [] => p

def pushState (back : ParseState) : ParseM Unit := modify fun p => { p with states := back :: p.states }

def goTo (s : ParseState) : ParseM Unit := modify fun p => { p with state := s }

def popMark : ParseM Mark := do
  let p ← get
  match p.marks with
  | m :: rest =>
    set { p with marks := rest }
    return m
  | [] => return Mark.origin

def pushMark (m : Mark) : ParseM Unit := modify fun p => { p with marks := m :: p.marks }

def emptyScalar (m : Mark) : Event := ⟨.scalar "" "" "" .plain, m⟩

/-- Adds a tag directive; a second for a handle fails unless duplicates are allowed (then
ignored). -/
def appendTagDirective (d : String × String) (allowDuplicates : Bool) (mark : Mark) : ParseM Unit := do
  let p ← get
  if p.tagDirectives.any (·.1 == d.1) then
    if allowDuplicates then return
    throw (parserFault "found duplicate %TAG directive" mark)
  set { p with tagDirectives := p.tagDirectives ++ [d] }

def processDirectives : ParseM Unit := do
  let mut version := false
  for _ in [0:(← get).scanner.budget] do
    let token ← scan peekToken
    match token.kind with
    | .versionDirective major minor =>
      if version then throw (parserFault "found duplicate %YAML directive" token.start)
      if major != 1 || minor != 1 then throw (parserFault "found incompatible YAML document" token.start)
      version := true
    | .tagDirective handle pfx => appendTagDirective (handle, pfx) false token.start
    | _ => break
    scan skipToken
  let token ← scan peekToken
  for d in defaultTagDirectives do
    appendTagDirective d true token.start

def parseStreamStart : ParseM Event := do
  let token ← scan peekToken
  match token.kind with
  | .streamStart =>
    goTo .implicitDocumentStart
    scan skipToken
    return ⟨.streamStart, token.start⟩
  | _ => throw (parserFault "did not find expected <stream-start>" token.start)

/-- The start of a document (implicit for the first when nothing marks it), or the stream's end. -/
def parseDocumentStart (implicit : Bool) : ParseM Event := do
  let mut token ← scan peekToken
  if !implicit then
    for _ in [0:(← get).scanner.budget] do
      match token.kind with
      | .documentEnd =>
        scan skipToken
        token ← scan peekToken
      | _ => break
  let explicitStart := match token.kind with
    | .versionDirective _ _ | .tagDirective _ _ | .documentStart | .streamEnd => true
    | _ => false
  match token.kind with
  | .streamEnd =>
    goTo .finished
    scan skipToken
    return ⟨.streamEnd, token.start⟩
  | _ =>
    if implicit && !explicitStart then
      processDirectives
      pushState .documentEnd
      goTo .blockNode
      return ⟨.documentStart, token.start⟩
    let start := token.start
    processDirectives
    let next ← scan peekToken
    match next.kind with
    | .documentStart =>
      pushState .documentEnd
      goTo .documentContent
      scan skipToken
      return ⟨.documentStart, start⟩
    | _ => throw (parserFault "did not find expected <document start>" next.start)

def parseDocumentEnd : ParseM Event := do
  let token ← scan peekToken
  match token.kind with
  | .documentEnd => scan skipToken
  | _ => pure ()
  modify fun p => { p with tagDirectives := [], state := .documentStart }
  return ⟨.documentEnd, token.start⟩

/-- An alias, or a scalar or collection with optional anchor and tag in either order; an
anchor or tag alone is an empty scalar. -/
def parseNode (block indentless : Bool) : ParseM Event := do
  let first ← scan peekToken
  if let .alias name := first.kind then
    popState
    scan skipToken
    return ⟨.alias name, first.start⟩
  let mut token := first
  let mut anchor := ""
  let mut tagged := false
  let mut handle := ""
  let mut suffix := ""
  let mut tagMark := first.start
  match first.kind with
  | .anchor name =>
    anchor := name
    scan skipToken
    token ← scan peekToken
    if let .tag h s := token.kind then
      tagged := true
      handle := h
      suffix := s
      tagMark := token.start
      scan skipToken
      token ← scan peekToken
  | .tag h s =>
    tagged := true
    handle := h
    suffix := s
    scan skipToken
    token ← scan peekToken
    if let .anchor name := token.kind then
      anchor := name
      scan skipToken
      token ← scan peekToken
  | _ => pure ()
  let start := first.start
  let mut tag := ""
  if tagged then
    if handle.isEmpty then tag := suffix
    else
      match (← get).tagDirectives.lookup handle with
      | some pfx => tag := pfx ++ suffix
      | none => pure ()
      if tag.isEmpty then throw (parserFaultIn "while parsing a node" start "found undefined tag handle" tagMark)
  if indentless && token.kind == .blockEntry then
    goTo .indentlessSequenceEntry
    return ⟨.sequenceStart anchor tag false, start⟩
  match token.kind with
  | .scalar text style =>
    popState
    scan skipToken
    return ⟨.scalar anchor tag text style, start⟩
  | .flowSequenceStart =>
    goTo .flowSequenceFirstEntry
    return ⟨.sequenceStart anchor tag true, start⟩
  | .flowMappingStart =>
    goTo .flowMappingFirstKey
    return ⟨.mappingStart anchor tag true, start⟩
  | .blockSequenceStart =>
    if block then
      goTo .blockSequenceFirstEntry
      return ⟨.sequenceStart anchor tag false, start⟩
  | .blockMappingStart =>
    if block then
      goTo .blockMappingFirstKey
      return ⟨.mappingStart anchor tag false, start⟩
  | _ => pure ()
  if !anchor.isEmpty || !tag.isEmpty then
    popState
    return ⟨.scalar anchor tag "" .plain, start⟩
  let context := if block then "while parsing a block node" else "while parsing a flow node"
  throw (parserFaultIn context start "did not find expected node content" token.start)

def parseDocumentContent : ParseM Event := do
  let token ← scan peekToken
  match token.kind with
  | .versionDirective _ _ | .tagDirective _ _ | .documentStart | .documentEnd | .streamEnd =>
    popState
    return emptyScalar token.start
  | _ => parseNode true false

def parseBlockSequenceEntry (first : Bool) : ParseM Event := do
  if first then
    let token ← scan peekToken
    pushMark token.start
    scan skipToken
  let token ← scan peekToken
  match token.kind with
  | .blockEntry =>
    let mark := token.stop
    scan skipToken
    let token ← scan peekToken
    match token.kind with
    | .blockEntry | .blockEnd =>
      goTo .blockSequenceEntry
      return emptyScalar mark
    | _ =>
      pushState .blockSequenceEntry
      parseNode true false
  | .blockEnd =>
    popState
    let _ ← popMark
    scan skipToken
    return ⟨.sequenceEnd, token.start⟩
  | _ =>
    let context ← popMark
    throw (parserFaultIn "while parsing a block collection" context "did not find expected '-' indicator" token.start)

/-- An entry of a sequence at its key's indentation inside a block mapping. -/
def parseIndentlessSequenceEntry : ParseM Event := do
  let token ← scan peekToken
  match token.kind with
  | .blockEntry =>
    let mark := token.stop
    scan skipToken
    let token ← scan peekToken
    match token.kind with
    | .blockEntry | .key | .value | .blockEnd =>
      goTo .indentlessSequenceEntry
      return emptyScalar mark
    | _ =>
      pushState .indentlessSequenceEntry
      parseNode true false
  | _ =>
    popState
    return ⟨.sequenceEnd, token.start⟩

def parseBlockMappingKey (first : Bool) : ParseM Event := do
  if first then
    let token ← scan peekToken
    pushMark token.start
    scan skipToken
  let token ← scan peekToken
  match token.kind with
  | .key =>
    let mark := token.stop
    scan skipToken
    let token ← scan peekToken
    match token.kind with
    | .key | .value | .blockEnd =>
      goTo .blockMappingValue
      return emptyScalar mark
    | _ =>
      pushState .blockMappingValue
      parseNode true true
  | .blockEnd =>
    popState
    let _ ← popMark
    scan skipToken
    return ⟨.mappingEnd, token.start⟩
  | _ =>
    let context ← popMark
    throw (parserFaultIn "while parsing a block mapping" context "did not find expected key" token.start)

def parseBlockMappingValue : ParseM Event := do
  let token ← scan peekToken
  match token.kind with
  | .value =>
    let mark := token.stop
    scan skipToken
    let token ← scan peekToken
    match token.kind with
    | .key | .value | .blockEnd =>
      goTo .blockMappingKey
      return emptyScalar mark
    | _ =>
      pushState .blockMappingKey
      parseNode true true
  | _ =>
    goTo .blockMappingKey
    return emptyScalar token.start

/-- An entry of a flow sequence; one with `?` or `:` is a one-pair mapping. -/
def parseFlowSequenceEntry (first : Bool) : ParseM Event := do
  if first then
    let token ← scan peekToken
    pushMark token.start
    scan skipToken
  let mut token ← scan peekToken
  if token.kind != .flowSequenceEnd then
    if !first then
      if token.kind == .flowEntry then
        scan skipToken
        token ← scan peekToken
      else
        let context ← popMark
        throw (parserFaultIn "while parsing a flow sequence" context "did not find expected ',' or ']'" token.start)
    if token.kind == .key then
      goTo .flowSequenceEntryMappingKey
      scan skipToken
      return ⟨.mappingStart "" "" true, token.start⟩
    if token.kind != .flowSequenceEnd then
      pushState .flowSequenceEntry
      return (← parseNode false false)
  popState
  let _ ← popMark
  scan skipToken
  return ⟨.sequenceEnd, token.start⟩

/-- The key of a one-pair mapping in a flow sequence; a missing key reads as empty, the token
in its place dropped. -/
def parseFlowSequenceEntryMappingKey : ParseM Event := do
  let token ← scan peekToken
  match token.kind with
  | .value | .flowEntry | .flowSequenceEnd =>
    let mark := token.stop
    scan skipToken
    goTo .flowSequenceEntryMappingValue
    return emptyScalar mark
  | _ =>
    pushState .flowSequenceEntryMappingValue
    parseNode false false

def parseFlowSequenceEntryMappingValue : ParseM Event := do
  let token ← scan peekToken
  if token.kind == .value then
    scan skipToken
    let token ← scan peekToken
    if token.kind != .flowEntry && token.kind != .flowSequenceEnd then
      pushState .flowSequenceEntryMappingEnd
      return (← parseNode false false)
    goTo .flowSequenceEntryMappingEnd
    return emptyScalar token.start
  goTo .flowSequenceEntryMappingEnd
  return emptyScalar token.start

def parseFlowSequenceEntryMappingEnd : ParseM Event := do
  let token ← scan peekToken
  goTo .flowSequenceEntry
  return ⟨.mappingEnd, token.start⟩

/-- A key of a flow mapping; an entry without `:` has an empty value. -/
def parseFlowMappingKey (first : Bool) : ParseM Event := do
  if first then
    let token ← scan peekToken
    pushMark token.start
    scan skipToken
  let mut token ← scan peekToken
  if token.kind != .flowMappingEnd then
    if !first then
      if token.kind == .flowEntry then
        scan skipToken
        token ← scan peekToken
      else
        let context ← popMark
        throw (parserFaultIn "while parsing a flow mapping" context "did not find expected ',' or '\x7d'" token.start)
    if token.kind == .key then
      scan skipToken
      let next ← scan peekToken
      match next.kind with
      | .value | .flowEntry | .flowMappingEnd =>
        goTo .flowMappingValue
        return emptyScalar next.start
      | _ =>
        pushState .flowMappingValue
        return (← parseNode false false)
    else if token.kind != .flowMappingEnd then
      pushState .flowMappingEmptyValue
      return (← parseNode false false)
  popState
  let _ ← popMark
  scan skipToken
  return ⟨.mappingEnd, token.start⟩

def parseFlowMappingValue (empty : Bool) : ParseM Event := do
  let token ← scan peekToken
  if empty then
    goTo .flowMappingKey
    return emptyScalar token.start
  if token.kind == .value then
    scan skipToken
    let token ← scan peekToken
    if token.kind != .flowEntry && token.kind != .flowMappingEnd then
      pushState .flowMappingKey
      return (← parseNode false false)
    goTo .flowMappingKey
    return emptyScalar token.start
  goTo .flowMappingKey
  return emptyScalar token.start

def nextEvent : ParseM Event := do
  let p ← get
  if p.scanner.finished || p.state == .finished then return ⟨.nothing, p.scanner.mark⟩
  match p.state with
  | .streamStart => parseStreamStart
  | .implicitDocumentStart => parseDocumentStart true
  | .documentStart => parseDocumentStart false
  | .documentContent => parseDocumentContent
  | .documentEnd => parseDocumentEnd
  | .blockNode => parseNode true false
  | .blockNodeOrIndentlessSequence => parseNode true true
  | .flowNode => parseNode false false
  | .blockSequenceFirstEntry => parseBlockSequenceEntry true
  | .blockSequenceEntry => parseBlockSequenceEntry false
  | .indentlessSequenceEntry => parseIndentlessSequenceEntry
  | .blockMappingFirstKey => parseBlockMappingKey true
  | .blockMappingKey => parseBlockMappingKey false
  | .blockMappingValue => parseBlockMappingValue
  | .flowSequenceFirstEntry => parseFlowSequenceEntry true
  | .flowSequenceEntry => parseFlowSequenceEntry false
  | .flowSequenceEntryMappingKey => parseFlowSequenceEntryMappingKey
  | .flowSequenceEntryMappingValue => parseFlowSequenceEntryMappingValue
  | .flowSequenceEntryMappingEnd => parseFlowSequenceEntryMappingEnd
  | .flowMappingFirstKey => parseFlowMappingKey true
  | .flowMappingKey => parseFlowMappingKey false
  | .flowMappingValue => parseFlowMappingValue false
  | .flowMappingEmptyValue => parseFlowMappingValue true
  | .finished => return ⟨.nothing, p.scanner.mark⟩

theorem defaultTagDirectives_secondary :
    defaultTagDirectives.lookup "!!" = some "tag:yaml.org,2002:" := by decide

end Yaml

end InferenceBroker
