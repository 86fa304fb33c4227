import InferenceBroker.Config.Yaml.Parser
import InferenceBroker.Config.Yaml.Resolve

/-!
# YAML node graphs

The events of a YAML document's first document become a graph of nodes held in an array,
children by index. An alias refers to the node its anchor named when it was read; an anchor
is registered when its node starts, so an alias may refer to its own ancestor, a cycle the
decoder refuses. A node's short tag is the one written, else `!!str` for quoted and block
scalars, `!!merge` for a plain `<<`, `!!map`/`!!seq`, or the resolved tag of a plain scalar.
-/

namespace InferenceBroker

namespace Yaml

inductive NodeKind where
  | document
  | sequence
  | mapping
  | scalar
  | alias
  deriving Repr, Inhabited, BEq, DecidableEq

/-- A node: kind, short tag, text (the anchor name for an alias), style, line, the
aliased node and the children (keys and values alternating for a mapping). -/
structure Node where
  kind : NodeKind
  tag : String
  value : String
  style : ScalarStyle
  line : Nat
  target : Nat
  content : Array Nat
  deriving Repr, Inhabited

/-- The parser, the event read ahead, the nodes so far and the anchors, latest first. -/
structure Composer where
  parser : Parser
  event : Option Event
  nodes : Array Node
  anchors : List (String × Nat)
  deriving Inhabited

abbrev ComposeM := StateT Composer (Except String)

def peekEvent : ComposeM Event := do
  let c ← get
  match c.event with
  | some e => return e
  | none =>
    match nextEvent.run c.parser with
    | .ok (e, p) =>
      set { c with parser := p, event := some e }
      return e
    | .error f => throw f.text

def takeEvent : ComposeM Event := do
  let e ← peekEvent
  modify fun c => { c with event := none }
  return e

/-- Adds a node; its tag is the one written unless that is empty or `!`, else the
default tag, else for a scalar the tag its text resolves to. -/
def addNode (kind : NodeKind) (defaultTag tag value : String) (style : ScalarStyle) (line : Nat) :
    ComposeM Nat := do
  let t :=
    if tag != "" && tag != "!" then shortTag tag
    else if defaultTag != "" then defaultTag
    else if kind == .scalar then resolvedTag value
    else ""
  let c ← get
  set { c with nodes := c.nodes.push ⟨kind, t, value, style, line, 0, #[]⟩ }
  return c.nodes.size

def setAnchor (anchor : String) (n : Nat) : ComposeM Unit :=
  if anchor.isEmpty then pure () else modify fun c => { c with anchors := (anchor, n) :: c.anchors }

def addChild (parent : Nat) (child : Option Nat) : ComposeM Unit :=
  match child with
  | some k => modify fun c => { c with nodes := c.nodes.modify parent fun p => { p with content := p.content.push k } }
  | none => pure ()

def scalarDefaultTag (style : ScalarStyle) (value : String) : String :=
  if style == .plain then (if value == "<<" then "!!merge" else "") else "!!str"

/-- Reads a node and its children from the events; `none` at the end of the stream.
`fuel` bounds the nesting. -/
def composeNode : Nat → ComposeM (Option Nat)
  | 0 => throw "yaml: document nested too deeply"
  | fuel + 1 => do
    let e ← peekEvent
    let line := e.start.line + 1
    let bound := (← get).parser.scanner.budget * 16
    match e.kind with
    | .scalar anchor tag value style =>
      let n ← addNode .scalar (scalarDefaultTag style value) tag value style line
      setAnchor anchor n
      let _ ← takeEvent
      return some n
    | .alias name =>
      let n ← addNode .alias "" "" name .plain line
      match (← get).anchors.lookup name with
      | none => throw s!"yaml: unknown anchor '{name}' referenced"
      | some t => modify fun c => { c with nodes := c.nodes.modify n fun a => { a with target := t } }
      let _ ← takeEvent
      return some n
    | .mappingStart anchor tag _ =>
      let n ← addNode .mapping "!!map" tag "" .plain line
      setAnchor anchor n
      let _ ← takeEvent
      for _ in [0:bound] do
        if (← peekEvent).kind == .mappingEnd then break
        addChild n (← composeNode fuel)
        addChild n (← composeNode fuel)
      let _ ← takeEvent
      return some n
    | .sequenceStart anchor tag _ =>
      let n ← addNode .sequence "!!seq" tag "" .plain line
      setAnchor anchor n
      let _ ← takeEvent
      for _ in [0:bound] do
        if (← peekEvent).kind == .sequenceEnd then break
        addChild n (← composeNode fuel)
      let _ ← takeEvent
      return some n
    | .documentStart =>
      let n ← addNode .document "" "" "" .plain line
      let _ ← takeEvent
      addChild n (← composeNode fuel)
      let _ ← takeEvent
      return some n
    | .streamEnd => return none
    | _ => throw "yaml: unexpected event"

/-- The nodes of a text's first document and the index of the document node; `none` for
a text without documents. -/
def compose (text : String) : Except String (Option (Array Node × Nat)) :=
  let start : Composer := ⟨Parser.ofText text, none, #[], []⟩
  let run : ComposeM (Option Nat) := do
    let _ ← takeEvent
    composeNode ((← get).parser.scanner.budget * 16)
  match run.run start with
  | .ok (root, c) => .ok (root.map fun n => (c.nodes, n))
  | .error e => .error e

theorem scalarDefaultTag_quoted : scalarDefaultTag .doubleQuoted "x" = "!!str" := by decide

end Yaml

end InferenceBroker
