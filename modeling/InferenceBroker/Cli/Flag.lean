import InferenceBroker.Text.Numeral
import InferenceBroker.Text.Duration
import InferenceBroker.Config.Value
import InferenceBroker.Text.Csv

/-!
# Command-line flags

A flag has a long name, perhaps a shorthand, a kind, a default and a usage text. Text flags
take anything; switches take truth numerals and stand alone for `true`; integer flags take
numerals of any base that fit their width; durations take duration texts; list flags take
the first record of a comma-separated text, collected over repeated uses. A refused value
fails with `invalid argument "v" for "--name" flag: …`. Usage lines show the names, the kind's
word, the usage text and a default other than the kind's zero.
-/

namespace InferenceBroker

inductive FlagKind where
  | text
  | switch
  | integer (bits : Nat) (word : String)
  | duration
  | texts
  deriving DecidableEq, Repr, Inhabited

structure Flag where
  name : String
  shorthand : Option Char := none
  kind : FlagKind
  default : String
  usage : String
  deriving Repr, Inhabited

inductive FlagValue where
  | one (text : String)
  | many (items : List String)
  deriving DecidableEq, Repr, Inhabited

namespace FlagKind

/-- The kind's word in usage lines; empty for switches. -/
def word : FlagKind → String
  | .text => "string"
  | .switch => ""
  | .integer _ w => w
  | .duration => "duration"
  | .texts => "strings"

def isZero (k : FlagKind) (d : String) : Bool :=
  match k with
  | .text => d.isEmpty
  | .switch => d == "false"
  | .integer _ _ => d == "0"
  | .duration => d == "0" || d == "0s"
  | .texts => d == "[]"

end FlagKind

namespace Flag

def shownName (f : Flag) : String :=
  match f.shorthand with
  | some c => s!"-{c}, --{f.name}"
  | none => s!"--{f.name}"

/-- None for the empty text, else the fields of its first comma-separated record. -/
def splitList (s : String) : Except String (List String) :=
  if s.isEmpty then .ok [] else Csv.firstRecord s

/-- Sets a flag from a text, on top of what it held. -/
def assign (f : Flag) (before : Option FlagValue) (v : String) : Except String FlagValue :=
  let refuse := fun (why : String) =>
    let shown := Quote.string v
    let name := Quote.string f.shownName
    Except.error s!"invalid argument {shown} for {name} flag: {why}"
  match f.kind with
  | .text => .ok (.one v)
  | .switch =>
    match Numeral.parseBool v with
    | .ok b => .ok (.one (if b then "true" else "false"))
    | .error e => refuse e
  | .integer bits _ =>
    match Numeral.parseInt true bits v with
    | .ok n => .ok (.one (toString n))
    | .error e => refuse e
  | .duration =>
    match Duration.parse v with
    | .ok d => .ok (.one d.render)
    | .error e => refuse e
  | .texts =>
    let earlier := match before with
      | some (.many xs) => xs
      | _ => []
    match splitList v with
    | .ok xs => .ok (.many (earlier ++ xs))
    | .error e => refuse e

def setting (f : Flag) (v : FlagValue) : ConfigValue :=
  match f.kind, v with
  | _, .many xs => .list (xs.map .text)
  | .integer _ _, .one t => .int (ConfigValue.text t).toInt "int"
  | .switch, .one t => .bool (ConfigValue.text t).toBool
  | _, .one t => .text t

def initial (f : Flag) : FlagValue :=
  if f.kind == .texts then .many ((splitList ((f.default.drop 1).dropEnd 1).toString).toOption.getD [])
  else .one f.default

def usageHead (f : Flag) : String :=
  let names := match f.shorthand with
    | some c => s!"  -{c}, --{f.name}"
    | none => s!"      --{f.name}"
  if f.kind.word.isEmpty then names else names ++ " " ++ f.kind.word

def usageTail (f : Flag) : String :=
  if f.kind.isZero f.default then f.usage
  else if f.kind == .text then f.usage ++ " (default " ++ Quote.string f.default ++ ")"
  else f.usage ++ " (default " ++ f.default ++ ")"

def help (name : String) : Flag :=
  { name := "help", shorthand := some 'h', kind := .switch, default := "false", usage := s!"help for {name}" }

end Flag

/-- Usage lines sorted by name, the texts starting two places after the longest left part,
continuation lines indented to it. -/
def flagUsages (fs : List Flag) : String :=
  let fs := fs.mergeSort fun a b => a.name ≤ b.name
  let width := (fs.map fun f => f.usageHead.length).foldl max 0
  let lines := fs.map fun f =>
    let head := f.usageHead
    let pad := String.ofList (List.replicate (width + 1 - head.length) ' ')
    let indent := "\n" ++ String.ofList (List.replicate (width + 3) ' ')
    head ++ " " ++ pad ++ " " ++ (f.usageTail.replace "\n" indent) ++ "\n"
  String.join lines

end InferenceBroker
