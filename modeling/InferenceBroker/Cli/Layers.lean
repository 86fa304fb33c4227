import InferenceBroker.Cli.Flag
import InferenceBroker.Config.Yaml.Decode
import InferenceBroker.Config.Toml.Decode
import InferenceBroker.Config.Dotenv
import InferenceBroker.Json.Parse
import InferenceBroker.Message.Json
import InferenceBroker.Host.Directory
import InferenceBroker.Plugin.Descriptor

/-!
# Layered settings

Each setting is read from four layers, the first that has it winning: a flag set on the
command line, the variable `AIB_NAME` (upper-cased, `-` as `_`) unless empty, the file named
by `--config`, the flag's default. Files are YAML, JSON, TOML or environment files; a few
other known extensions cannot be read, others are refused. The plugin table is the file's
`plugins` list, each entry's `algorithm-id`, `version`, `kind`, `path` and `mode` (any case)
filling a descriptor; all entries' failures are reported together, and a single value is a
list of one.
-/

namespace InferenceBroker

structure Layers where
  flags : List Flag := []
  set : List (String × FlagValue) := []
  env : List (String × String) := []
  file : ConfigValue := .table []
  deriving Inhabited

namespace Layers

def envName (key : String) : String := ("AIB_" ++ key).toUpper.replace "-" "_"

def get? (l : Layers) (key : String) : Option ConfigValue :=
  let flag := l.flags.find? (·.name == key)
  match flag, l.set.lookup key with
  | some f, some v => some (f.setting v)
  | _, _ =>
    match l.env.lookup (envName key) with
    | some v => if v.isEmpty then fallback flag else some (.text v)
    | none => fallback flag
where
  /-- the settings file, then the flag's default -/
  fallback (flag : Option Flag) : Option ConfigValue :=
    match l.file.member? key with
    | some .null | none => flag.map fun f => f.setting f.initial
    | some v => some v

def text (l : Layers) (key : String) : String := ((l.get? key).map ConfigValue.toText).getD ""

def int (l : Layers) (key : String) : Int := ((l.get? key).map ConfigValue.toInt).getD 0

def bool (l : Layers) (key : String) : Bool := ((l.get? key).map ConfigValue.toBool).getD false

def duration (l : Layers) (key : String) : Duration := ((l.get? key).map ConfigValue.toDuration).getD ⟨0⟩

def texts (l : Layers) (key : String) : List String := ((l.get? key).map ConfigValue.toTexts).getD []

end Layers

namespace SettingsFile

mutual
/-- Later members of an object replace earlier ones. -/
def ofJson : JsonValue → ConfigValue
  | .null => .null
  | .bool b => .bool b
  | .number lit => .float lit
  | .string s => .text s
  | .array items => .list (ofJsonList items)
  | .object ms => .table ((ofJsonMembers ms).foldl (fun acc (k, v) => ConfigValue.putMember acc k v) [])

def ofJsonList : List JsonValue → List ConfigValue
  | [] => []
  | v :: rest => ofJson v :: ofJsonList rest

def ofJsonMembers : List (String × JsonValue) → List (String × ConfigValue)
  | [] => []
  | (k, v) :: rest => (k, ofJson v) :: ofJsonMembers rest
end

def formatOf (path : String) : String :=
  let base := (path.splitOn "/").getLast?.getD path
  match (base.splitOn ".").reverse with
  | ext :: _ :: _ => ext
  | _ => ""

def known : List String :=
  ["json", "toml", "yaml", "yml", "properties", "props", "prop", "hcl", "tfvars", "dotenv", "env", "ini"]

def decode (format : String) (text : String) : Except String ConfigValue :=
  match format.toLower with
  | "yaml" | "yml" => Yaml.decodeDocument text
  | "toml" => Toml.decodeDocument text
  | "json" =>
    match Json.parse (Bytes.ofString text) with
    | .error e => .error e
    | .ok (.object ms) => .ok (ofJson (.object ms))
    | .ok .null => .ok (.table [])
    | .ok other =>
      .error s!"json: cannot unmarshal {JsonCodec.typeWord other} into Go value of type map[string]interface \x7b\x7d"
  | "env" | "dotenv" =>
    match Dotenv.parse (Bytes.ofString text) with
    | .error e => .error e
    | .ok vars => .ok (.table (vars.map fun (k, v) => (k, .text v)))
  | _ => .error "decoder not found for this format"

def read (dir : Directory) (path : String) : Except String ConfigValue :=
  let format := formatOf path
  let fail := fun (why : String) => Except.error s!"failed to read config file {path}: {why}"
  if !known.contains format then fail s!"Unsupported Config Type {Quote.string format}"
  else match dir.read path with
    | .error e => fail e.message
    | .ok bytes =>
      match decode format (Utf8.lossy bytes) with
      | .error e => fail s!"While parsing config: {e}"
      | .ok v => .ok v.lowerKeys

end SettingsFile

namespace PluginTable

def kindWord : ConfigValue → String
  | .null => "invalid"
  | .bool _ => "bool"
  | .int _ t => t
  | .float _ => "float64"
  | .text _ => "string"
  | .time _ _ => "struct"
  | .list _ => "slice"
  | .table _ => "map"

def typeWord : ConfigValue → String
  | .list _ => "[]interface \x7b\x7d"
  | .table _ => "map[string]interface \x7b\x7d"
  | .time t _ => t
  | v => kindWord v

def floatShown (lit : String) : String := (Decimal.literalGeneral? lit).getD lit

mutual
/-- How a failure shows a value: lists in brackets, tables as `map[k:v]` sorted by key,
items separated by blanks. -/
def shown : ConfigValue → String
  | .list items => "[" ++ " ".intercalate (shownList items) ++ "]"
  | .table ms =>
    let sorted := (shownMembers ms).mergeSort fun a b => a.1 ≤ b.1
    "map[" ++ " ".intercalate (sorted.map fun (k, s) => k ++ ":" ++ s) ++ "]"
  | .null => "<nil>"
  | .bool b => if b then "true" else "false"
  | .int n _ => toString n
  | .float lit => floatShown lit
  | .text s => s
  | .time _ s => s

def shownList : List ConfigValue → List String
  | [] => []
  | v :: rest => shown v :: shownList rest

def shownMembers : List (String × ConfigValue) → List (String × String)
  | [] => []
  | (k, v) :: rest => (k, shown v) :: shownMembers rest
end

def unconvertible (name goType : String) (v : ConfigValue) : String :=
  let ty := typeWord v
  let val := shown v
  s!"'{name}' expected type '{goType}', got unconvertible type '{ty}', value: '{val}'"

def textOf (goType name : String) (v : ConfigValue) : Except String (Option String) :=
  match v with
  | .null => .ok none
  | .text s => .ok (some s)
  | .bool b => .ok (some (if b then "1" else "0"))
  | .int n _ => .ok (some (toString n))
  | .float _ => .ok (some v.toText)
  | other => .error (unconvertible name goType other)

def intOf (name : String) (v : ConfigValue) : Except String (Option Int) :=
  match v with
  | .null => .ok none
  | .int n _ => .ok (some n)
  | .float lit => .ok (some (ConfigValue.floatToInt64 lit))
  | .bool b => .ok (some (if b then 1 else 0))
  | .text s =>
    match Numeral.parseInt true 64 (if s.isEmpty then "0" else s) with
    | .ok n => .ok (some n)
    | .error e => .error s!"cannot parse '{name}' as int: {e}"
  | other => .error (unconvertible name "int64" other)

/-- One entry: the descriptor and its members' failures. -/
def entry (i : Nat) (v : ConfigValue) : Descriptor × List String :=
  let at_ := s!"[{i}]"
  match v with
  | .null => ({}, [])
  | .time _ _ => ({}, [])
  | .table _ =>
    let text := fun (key goType : String) (d : Descriptor) (set : Descriptor → String → Descriptor)
        (errs : List String) =>
      match v.field? key with
      | none => (d, errs)
      | some x =>
        match textOf goType (at_ ++ "." ++ key) x with
        | .ok (some s) => (set d s, errs)
        | .ok none => (d, errs)
        | .error e => (d, errs ++ [e])
    let (d, errs) := text "algorithm-id" "string" {} (fun d s => { d with algorithm := s }) []
    let (d, errs) := match v.field? "version" with
      | none => (d, errs)
      | some x =>
        match intOf (at_ ++ ".version") x with
        | .ok (some n) => ({ d with version := Int64.ofInt n }, errs)
        | .ok none => (d, errs)
        | .error e => (d, errs ++ [e])
    let (d, errs) := text "kind" "plugin.Kind" d (fun d s => { d with kind := s }) errs
    let (d, errs) := text "path" "string" d (fun d s => { d with path := s }) errs
    text "mode" "plugin.InferMode" d (fun d s => { d with mode := s }) errs
  | other =>
    let k := kindWord other
    ({}, [s!"'{at_}' expected a map, got '{k}'"])

def joined (errs : List String) : String :=
  "decoding failed due to the following error(s):\n\n" ++ "\n".intercalate errs

def read (v : Option ConfigValue) : Except String (List Descriptor) :=
  let items : List ConfigValue := match v with
    | none | some .null => []
    | some (.list xs) => xs
    | some (.table []) => []
    | some other => [other]
  let read := items.zipIdx.map fun (x, i) => entry i x
  let errs := read.flatMap (·.2)
  if !errs.isEmpty then .error s!"invalid plugin table: {joined errs}"
  else
    let ds := read.map (·.1)
    let bad := ds.zipIdx.find? fun (d, _) =>
      d.algorithm.isEmpty || !(["", "builtin", "native", "wasm"].contains d.kind)
    match bad with
    | none => .ok ds
    | some (d, i) =>
      if d.algorithm.isEmpty then .error s!"plugin {i}: missing algorithm-id"
      else
        let k := Quote.string d.kind
        .error s!"plugin {d.key.render}: invalid kind {k} (expected builtin, native or wasm)"

end PluginTable

end InferenceBroker
