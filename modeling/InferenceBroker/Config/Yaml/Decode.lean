import InferenceBroker.Config.Yaml.Compose
import InferenceBroker.Config.Value
import InferenceBroker.Text.Base64
import InferenceBroker.Text.Quote
import InferenceBroker.Text.Utf8

/-!
# Decoding YAML nodes into settings

The node graph becomes a settings value: the top node a table with text keys, nested
mappings tables keyed by key texts when every key is a string (or a merge key), by the keys'
default texts otherwise; scalars their resolved values, `!!binary` its decoded bytes.
Repeated keys (`mapping key "k" already defined at line M`) and values of the wrong shape
(`cannot unmarshal !!tag ... into type`) are left out and reported together after reading. A
merge key `<<` brings in members of a mapping, or of each mapping of a sequence, not defined
here, earlier ones first; a bad merge, too much aliasing, a collection as a key of a
non-string-keyed mapping, a tag the text does not fit and bad base64 fail at once.
-/

namespace InferenceBroker

namespace Yaml

/-- A table's members being read: each key's identity (type and value), text and value. -/
abbrev Members := List (String × String × ConfigValue)

/-- Where a node is read into: any value, a text (a key), or a table with text or any keys. -/
inductive Target where
  | any
  | text
  | into (general : Bool) (members : Members)

/-- Nothing (the node is left out), a value, a text, or the members of the table read into. -/
inductive Outcome where
  | failed
  | value (v : ConfigValue)
  | text (s : String)
  | members (ms : Members)

/-- The nodes, the failures gathered, the nodes read and those through aliases, the aliases
being expanded, and the keys present when merging. -/
structure Decoder where
  nodes : Array Node
  errors : Array String
  decodes : Nat
  aliasDecodes : Nat
  aliasDepth : Nat
  expanding : List Nat
  merged : Option (List String)

abbrev DecodeM := StateT Decoder (Except String)

def Decoder.node (d : Decoder) (n : Nat) : Node := d.nodes.getD n default

def Scalar.toValue : Scalar → ConfigValue
  | .null => .null
  | .bool b => .bool b
  | .int n => .int n "int"
  | .uint n => .int n "uint64"
  | .float lit => .float lit
  | .text s => .text s
  | .time shown => .time "time.Time" shown

def Decoder.shortTagOf (d : Decoder) (n : Nat) : String :=
  let node := d.node n
  let byKind (m : Node) : String :=
    if m.kind == .scalar && m.tag == "!!str" then "!!str"
    else if m.tag == "" || m.tag == "!" then
      match m.kind with
      | .mapping => "!!map"
      | .sequence => "!!seq"
      | .scalar => resolvedTag m.value
      | _ => ""
    else shortTag m.tag
  if node.kind == .alias then byKind (d.node node.target) else byKind node

def Decoder.stringKeyed (d : Decoder) (n : Nat) : Bool :=
  let content := (d.node n).content.toList
  (content.zipIdx.filter (·.2 % 2 == 0)).all fun (k, _) =>
    let t := d.shortTagOf k
    t == "!!str" || t == "!!merge"

/-- A merge key: a plain `<<` without another tag. -/
def isMerge (node : Node) : Bool :=
  node.kind == .scalar && node.value == "<<" &&
    (node.tag == "" || node.tag == "!" || shortTag node.tag == "!!merge")

def mapTypeName (general : Bool) : String :=
  if general then "map[interface \x7b\x7d]interface \x7b\x7d" else "map[string]interface \x7b\x7d"

def keyIdentity : ConfigValue → String
  | .text s => "s:" ++ s
  | .int n t => (if t == "uint64" then "u:" else "i:") ++ toString n
  | .float lit => "f:" ++ (Decimal.literalGeneral? lit).getD lit
  | .bool b => if b then "b:true" else "b:false"
  | .null => "n:"
  | .time _ s => "t:" ++ s
  | .list _ => "l:"
  | .table _ => "m:"

/-- The default text of a key value, as keys of any type become text. -/
def keyText : ConfigValue → String
  | .text s => s
  | .int n _ => toString n
  | .float lit => (Decimal.literalGeneral? lit).getD lit
  | .bool b => if b then "true" else "false"
  | .null => "<nil>"
  | .time _ s => s
  | .list _ => ""
  | .table _ => ""

mutual
/-- A value as source text of its type, as failures about invalid keys show it. -/
def goSyntax : ConfigValue → String
  | .list items => "[]interface \x7b\x7d\x7b" ++ ", ".intercalate (goSyntaxItems items) ++ "\x7d"
  | .table ms => "map[string]interface \x7b\x7d\x7b" ++ ", ".intercalate (goSyntaxMembers ms) ++ "\x7d"
  | .text s => Quote.string s
  | .null => "interface \x7b\x7d(nil)"
  | v => keyText v

def goSyntaxItems : List ConfigValue → List String
  | [] => []
  | v :: rest => goSyntax v :: goSyntaxItems rest

def goSyntaxMembers : List (String × ConfigValue) → List String
  | [] => []
  | (k, v) :: rest => (Quote.string k ++ ":" ++ goSyntax v) :: goSyntaxMembers rest
end

/-- Replaces the member with the same key identity, or appends. -/
def setMember (ms : Members) (id text : String) (v : ConfigValue) : Members :=
  if ms.any (·.1 == id) then ms.map fun m => if m.1 == id then (id, text, v) else m
  else ms ++ [(id, text, v)]

def tableOf (ms : Members) : ConfigValue := .table (ms.map fun (_, k, v) => (k, v))

def typeFailure (n : Nat) (tag goType : String) : DecodeM Unit := do
  let d ← get
  let node := d.node n
  let tag := if node.tag != "" then node.tag else tag
  let shown :=
    if tag != "!!seq" && tag != "!!map" then
      let bs := Bytes.ofString node.value
      if bs.length > 10 then " `" ++ Utf8.lossy (bs.take 7) ++ "...`" else " `" ++ node.value ++ "`"
    else node.value
  let line := node.line
  let short := shortTag tag
  set { d with errors := d.errors.push s!"line {line}: cannot unmarshal {short}{shown} into {goType}" }

/-- Records the failures of repeated keys of a mapping; whether there were any. -/
def duplicateKeys (n : Nat) : DecodeM Bool := do
  let d ← get
  let keys := ((d.node n).content.toList.zipIdx.filter (·.2 % 2 == 0)).map (d.node ·.1)
  let failures := keys.zipIdx.flatMap fun (ki, i) =>
    (keys.drop (i + 1)).filterMap fun kj =>
      if ki.kind == kj.kind && ki.value == kj.value then
        let quoted := Quote.string kj.value
        let line := kj.line
        let first := ki.line
        some s!"line {line}: mapping key {quoted} already defined at line {first}"
      else none
  set { d with errors := d.errors ++ failures.toArray }
  return !failures.isEmpty

/-- Whether too many nodes were read through aliases: over 99% for small documents, falling
to 10% for very large ones. -/
def excessiveAliasing (aliased total : Nat) : Bool :=
  aliased > 100 && total > 1000 &&
    (if total ≤ 400000 then aliased * 100 > total * 99
     else if total ≥ 4000000 then aliased * 10 > total
     else (360000000 * aliased : Int) > (total : Int) * (392000000 - 89 * (total : Int)))

def countDecode : DecodeM Unit := do
  let d ← get
  let total := d.decodes + 1
  let aliased := if d.aliasDepth > 0 then d.aliasDecodes + 1 else d.aliasDecodes
  set { d with decodes := total, aliasDecodes := aliased }
  if excessiveAliasing aliased total then throw "yaml: document contains excessive aliasing"

def decodeScalar (n : Nat) (t : Target) : DecodeM Outcome := do
  let node := (← get).node n
  let (tag, v) ← if node.kind == .scalar && node.tag == "!!str" then pure ("!!str", Scalar.text node.value)
    else match resolve node.tag node.value with
      | .ok r => pure r
      | .error e => throw e
  let v ← if tag == "!!binary" then
      match Base64.decode (Bytes.ofString node.value) with
      | .ok bs => pure (Scalar.text (Utf8.lossy bs))
      | .error _ => throw "yaml: !!binary value contains invalid base64 data"
    else pure v
  match v, t with
  | .null, .any => return .value .null
  | .null, .text => return .failed
  | .null, .into _ ms => return .members ms
  | _, .any => return .value v.toValue
  | .text s, .text => return .text s
  | _, .text => return .text node.value
  | _, .into g _ =>
    typeFailure n tag (mapTypeName g)
    return .failed

def pairsOf (content : Array Nat) : List (Nat × Nat) :=
  let l := content.toList
  (l.zipIdx.filter (·.2 % 2 == 0)).map fun (k, i) => (k, l.getD (i + 1) 0)

def wantMap : String := "yaml: map merge requires map or sequence of maps as the value"

mutual

/-- Reads a node into a target; `fuel` bounds the nesting, aliases included. -/
def unmarshal : Nat → Nat → Target → DecodeM Outcome
  | 0, _, _ => throw "yaml: document nested too deeply"
  | fuel + 1, n, t => do
    countDecode
    let d ← get
    let node := d.node n
    match node.kind with
    | .document =>
      if node.content.size == 1 then unmarshal fuel (node.content.getD 0 0) t else return .failed
    | .alias =>
      if d.expanding.contains n then throw s!"yaml: anchor '{node.value}' value contains itself"
      set { d with expanding := n :: d.expanding, aliasDepth := d.aliasDepth + 1 }
      let r ← unmarshal fuel node.target t
      modify fun d => { d with expanding := d.expanding.erase n, aliasDepth := d.aliasDepth - 1 }
      return r
    | .scalar => decodeScalar n t
    | .mapping => decodeMapping fuel n t
    | .sequence => decodeSequence fuel n t

def decodeMapping : Nat → Nat → Target → DecodeM Outcome
  | 0, _, _ => throw "yaml: document nested too deeply"
  | fuel + 1, n, t => do
    if ← duplicateKeys n then return .failed
    let general ← match t with
      | .text =>
        typeFailure n "!!map" "string"
        return .failed
      | .any => pure (!(← get).stringKeyed n)
      | .into g _ => pure g
    let start := match t with
      | .into _ ms => ms
      | _ => []
    let node := (← get).node n
    let saved := (← get).merged
    modify fun d => { d with merged := none }
    let mut fields := saved
    let mut members := start
    let mut mergeNode : Option Nat := none
    for (k, v) in pairsOf node.content do
      if isMerge ((← get).node k) then
        mergeNode := some v
        continue
      let key : Option (String × String × ConfigValue) ←
        if general then do
          match ← unmarshal fuel k .any with
          | .value x => pure (some (keyIdentity x, keyText x, x))
          | _ => pure none
        else do
          match ← unmarshal fuel k .text with
          | .text s => pure (some ("s:" ++ s, s, ConfigValue.text s))
          | _ => pure none
      match key with
      | none => continue
      | some (id, text, kv) =>
        if let some fs := fields then
          if fs.contains id then continue
          fields := some (id :: fs)
        if general then
          match kv with
          | .list _ | .table _ => throw s!"yaml: invalid map key: {goSyntax kv}"
          | _ => pure ()
        match ← unmarshal fuel v .any with
        | .value x => members := setMember members id text x
        | _ =>
          if (← get).shortTagOf v == "!!null" && !members.any (·.1 == id) then
            members := setMember members id text .null
    modify fun d => { d with merged := fields }
    if let some m := mergeNode then
      members ← decodeMerge fuel n m general members
    match t with
    | .into _ _ => return .members members
    | _ => return .value (tableOf members)

/-- Merges the mapping(s) at `m` into `parent`'s members, skipping keys already present. -/
def decodeMerge : Nat → Nat → Nat → Bool → Members → DecodeM Members
  | 0, _, _, _, _ => throw "yaml: document nested too deeply"
  | fuel + 1, parent, m, general, members => do
    let saved := (← get).merged
    if saved.isNone then
      modify fun d => { d with merged := some [] }
      for (k, _) in pairsOf ((← get).node parent).content do
        match ← unmarshal fuel k .any with
        | .value x => modify fun d => { d with merged := d.merged.map (keyIdentity x :: ·) }
        | _ => pure ()
    let d ← get
    let node := d.node m
    let mut members := members
    match node.kind with
    | .mapping =>
      if let .members ms ← unmarshal fuel m (.into general members) then members := ms
    | .alias =>
      if (d.node node.target).kind != .mapping then throw wantMap
      if let .members ms ← unmarshal fuel m (.into general members) then members := ms
    | .sequence =>
      for c in node.content do
        let cn := (← get).node c
        if cn.kind == .alias then
          if ((← get).node cn.target).kind != .mapping then throw wantMap
        else if cn.kind != .mapping then throw wantMap
        if let .members ms ← unmarshal fuel c (.into general members) then members := ms
    | _ => throw wantMap
    if saved.isNone then modify fun d => { d with merged := none }
    return members

def decodeSequence : Nat → Nat → Target → DecodeM Outcome
  | 0, _, _ => throw "yaml: document nested too deeply"
  | fuel + 1, n, t => do
    let node := (← get).node n
    match t with
    | .any =>
      let mut items : Array ConfigValue := #[]
      for c in node.content do
        if let .value x ← unmarshal fuel c .any then items := items.push x
      return .value (.list items.toList)
    | .text =>
      typeFailure n "!!seq" "string"
      return .failed
    | .into g _ =>
      typeFailure n "!!seq" (mapTypeName g)
      return .failed

end

/-- The table of a YAML document's first document (empty if none), or the failure text. -/
def decodeDocument (text : String) : Except String ConfigValue :=
  match compose text with
  | .error e => .error e
  | .ok none => .ok (.table [])
  | .ok (some (nodes, root)) =>
    let start : Decoder := ⟨nodes, #[], 0, 0, 0, [], none⟩
    let fuel := (nodes.size + 2) * (nodes.size + 2)
    match (unmarshal fuel root (.into false [])).run start with
    | .error e => .error e
    | .ok (r, d) =>
      if !d.errors.isEmpty then .error ("yaml: unmarshal errors:\n  " ++ "\n  ".intercalate d.errors.toList)
      else match r with
        | .members ms => .ok (tableOf ms)
        | _ => .ok (.table [])

theorem excessiveAliasing_small : excessiveAliasing 50 60 = false := by decide

end Yaml

end InferenceBroker
