import InferenceBroker.Cli.Flag

/-!
# Command tables

A program's commands form a tree kept as a flat table, each known by its path of names. A
command has a usage pattern, short and long descriptions, own and persistent (inherited)
flags, an argument rule, and runs or only groups. The command of a command line is found by
following its non-flag words down the tree; its flags are then read (`--name=value`,
`--name value`, `-x`, `--` ending them). A root with subcommands refuses an unknown first word
with suggestions; others check their argument rule only when they run.
-/

namespace InferenceBroker

inductive Arity where
  /-- anything; a root with subcommands still refuses an unknown first word -/
  | free
  /-- none: a word is an unknown command -/
  | none
  | exactly (n : Nat)
  | atMost (n : Nat)
  | atLeast (n : Nat)
  deriving DecidableEq, Repr, Inhabited

structure Command where
  path : List String
  use : String
  short : String
  long : String := ""
  flags : List Flag := []
  persistent : List Flag := []
  arity : Arity := .free
  runnable : Bool := true
  /-- listed, never suggested -/
  helpTopic : Bool := false
  /-- its usage line lists no `[flags]` -/
  bareUse : Bool := false
  deriving Repr, Inhabited

/-- The root's name and the commands, the root first. -/
structure CommandTable where
  program : String
  commands : List Command
  deriving Repr, Inhabited

namespace CommandTable

variable (t : CommandTable)

def find? (path : List String) : Option Command := t.commands.find? (·.path == path)

def nameOf (c : Command) : String := c.path.getLast?.getD t.program

def pathText (c : Command) : String := " ".intercalate (t.program :: c.path)

def children (c : Command) : List Command :=
  t.commands.filter fun d => d.path.length == c.path.length + 1 && d.path.take c.path.length == c.path

def sortedChildren (c : Command) : List Command :=
  (t.children c).mergeSort fun a b => t.nameOf a ≤ t.nameOf b

/-- The strict ancestors of a command, nearest first. -/
def ancestors (c : Command) : List Command :=
  ((List.range c.path.length).reverse.filterMap fun k => t.find? (c.path.take k))

/-- The persistent flags of the ancestors, a nearer one hiding a farther one of the same name,
none hidden by the command's own. -/
def inherited (c : Command) : List Flag :=
  let own := (c.flags ++ c.persistent).map (·.name) ++ ["help"]
  let all := (t.ancestors c).flatMap (·.persistent)
  let firsts := all.foldl (fun acc f => if acc.any (·.name == f.name) then acc else acc ++ [f]) []
  firsts.filter fun f => !own.contains f.name

/-- Its own flags, its persistent ones and `--help`. -/
def localFlags (c : Command) : List Flag :=
  c.flags ++ c.persistent ++ (if (c.flags ++ c.persistent).any (·.name == "help") then [] else [Flag.help (t.nameOf c)])

def allFlags (c : Command) : List Flag := t.localFlags c ++ t.inherited c

def flagNamed? (c : Command) (name : String) : Option Flag := (t.allFlags c).find? (·.name == name)

def flagShort? (c : Command) (ch : Char) : Option Flag := (t.allFlags c).find? (·.shorthand == some ch)

/-- Whether a long flag word (without dashes) needs no value. -/
def standsAlone (c : Command) (name : String) : Bool :=
  match t.flagNamed? c name with
  | some f => f.kind == .switch
  | none => false

def shortStandsAlone (c : Command) (ch : Char) : Bool :=
  match t.flagShort? c ch with
  | some f => f.kind == .switch
  | none => false

def takesNext (c : Command) (s : String) : Bool :=
  (s.startsWith "--" && !s.contains '=' && !t.standsAlone c (s.drop 2).toString) ||
  (s.startsWith "-" && !s.startsWith "--" && !s.contains '=' && s.utf8ByteSize == 2 &&
    !t.shortStandsAlone c ((s.toList.drop 1).headD ' '))

/-- The words that are neither flags nor flag values. -/
def words (c : Command) : List String → List String
  | [] => []
  | s :: rest =>
    if s == "--" then []
    else if t.takesNext c s then
      if rest.length ≤ 1 then [] else words c (rest.drop 1)
    else if !s.isEmpty && !s.startsWith "-" then s :: words c rest
    else words c rest
termination_by args => args.length
decreasing_by all_goals (simp only [List.length_drop, List.length_cons]; omega)

def withoutWord (c : Command) (x : String) : List String → List String
  | [] => []
  | s :: rest =>
    if s == "--" then s :: rest
    else if t.takesNext c s then s :: (rest.take 1 ++ withoutWord c x (rest.drop 1))
    else if !s.startsWith "-" && s == x then rest
    else s :: withoutWord c x rest
termination_by args => args.length
decreasing_by all_goals (simp only [List.length_drop, List.length_cons]; omega)

/-- Follows the words down the table: the command found and the arguments left. -/
def descend : Nat → Command → List String → Command × List String
  | 0, c, args => (c, args)
  | fuel + 1, c, args =>
    match t.words c args with
    | [] => (c, args)
    | w :: _ =>
      match (t.children c).find? (t.nameOf · == w) with
      | some d => descend fuel d (t.withoutWord c w args)
      | none => (c, args)

/-- The edit distance of two texts, without case. -/
def distance (a b : String) : Nat :=
  let a := a.toLower.toList
  let b := b.toLower.toList
  let first := List.range (b.length + 1)
  let row := fun (prev : List Nat) (ca : Char) (i : Nat) =>
    (b.zipIdx.foldl (fun (acc : List Nat) (cb, j) =>
      let del := prev.getD (j + 1) 0 + 1
      let ins := acc.getLast?.getD 0 + 1
      let sub := prev.getD j 0 + (if ca == cb then 0 else 1)
      acc ++ [min (min del ins) sub]) [i + 1])
  (a.zipIdx.foldl (fun prev (ca, i) => row prev ca i) first).getLast?.getD 0

/-- Names within two edits of a mistyped word, or starting with it. -/
def suggestions (c : Command) (typed : String) : List String :=
  ((t.children c).filter fun d => !d.helpTopic && (d.runnable || !(t.children d).isEmpty)).filterMap fun d =>
    let n := t.nameOf d
    if distance typed n ≤ 2 || n.toLower.startsWith typed.toLower then some n else none

def unknownCommand (c : Command) (w : String) : String :=
  let near := t.suggestions c w
  let hint := if near.isEmpty then "" else "\n\nDid you mean this?\n" ++ String.join (near.map fun n => "\t" ++ n ++ "\n")
  let shown := Quote.string w
  let path := Quote.string (t.pathText c)
  s!"unknown command {shown} for {path}" ++ hint

/-- The command of a command line, its arguments, and the refusal of an unknown first word. -/
def locate (root : Command) (args : List String) : Command × List String × Option String :=
  let (c, rest) := t.descend (args.length + 1) root args
  if c.arity == .free && !(t.children c).isEmpty && c.path.isEmpty then
    match t.words c rest with
    | w :: _ => (c, rest, some (t.unknownCommand c w))
    | [] => (c, rest, none)
  else (c, rest, none)

end CommandTable

/-- The flags set, in the order first set, and the positional arguments. -/
structure FlagReading where
  set : List (String × FlagValue) := []
  positional : List String := []
  deriving Repr, Inhabited

namespace FlagReading

def put (r : FlagReading) (f : Flag) (v : String) : Except String FlagReading :=
  match f.assign (r.set.lookup f.name) v with
  | .error e => .error e
  | .ok fv =>
    if (r.set.lookup f.name).isSome then .ok { r with set := r.set.map fun p => if p.1 == f.name then (f.name, fv) else p }
    else .ok { r with set := r.set ++ [(f.name, fv)] }

def isOn (r : FlagReading) (name : String) : Bool := r.set.lookup name == some (.one "true")

end FlagReading

namespace CommandTable

variable (t : CommandTable)

/-- Reads a run of shorthands such as `-h` or `-xvalue`. -/
def readShorts (c : Command) (whole : String) : Nat → List Char → List String → FlagReading →
    Except String (List String × FlagReading)
  | 0, _, args, r => .ok (args, r)
  | _ + 1, [], args, r => .ok (args, r)
  | fuel + 1, ch :: more, args, r =>
    match t.flagShort? c ch with
    | none =>
      let shown := Quote.byteChar (UInt8.ofNat ch.toNat)
      .error s!"unknown shorthand flag: {shown} in {whole}"
    | some f =>
      match more with
      | '=' :: v@(_ :: _) => r.put f (String.ofList v) |>.map fun r => (args, r)
      | _ =>
        if f.kind == .switch then
          match r.put f "true" with
          | .error e => .error e
          | .ok r => readShorts c whole fuel more args r
        else if !more.isEmpty then r.put f (String.ofList more) |>.map fun r => (args, r)
        else match args with
          | v :: rest => r.put f v |>.map fun r => (rest, r)
          | [] =>
            let shown := Quote.byteChar (UInt8.ofNat ch.toNat)
            .error s!"flag needs an argument: {shown} in {whole}"

def readFlags (c : Command) : Nat → List String → FlagReading → Except String FlagReading
  | 0, _, r => .ok r
  | _ + 1, [], r => .ok r
  | fuel + 1, s :: rest, r =>
    if s.isEmpty || !s.startsWith "-" || s.length == 1 then
      readFlags c fuel rest { r with positional := r.positional ++ [s] }
    else if s == "--" then .ok { r with positional := r.positional ++ rest }
    else if s.startsWith "--" then
      let body := (s.drop 2).toString
      if body.startsWith "-" || body.startsWith "=" then .error s!"bad flag syntax: {s}"
      else
        let name := (body.splitOn "=").headD ""
        let given := if body.contains '=' then some ((body.drop (name.length + 1)).toString) else none
        match t.flagNamed? c name with
        | none => .error s!"unknown flag: --{name}"
        | some f =>
          match given with
          | some v => match r.put f v with
            | .error e => .error e
            | .ok r => readFlags c fuel rest r
          | none =>
            if f.kind == .switch then
              match r.put f "true" with
              | .error e => .error e
              | .ok r => readFlags c fuel rest r
            else match rest with
              | v :: more =>
                match r.put f v with
                | .error e => .error e
                | .ok r => readFlags c fuel more r
              | [] => .error s!"flag needs an argument: {s}"
    else
      match t.readShorts c s (s.length + 1) (s.toList.drop 1) rest r with
      | .error e => .error e
      | .ok (rest, r) => readFlags c fuel rest r

def checkArity (c : Command) (args : List String) : Option String :=
  match c.arity with
  | .free => none
  | .none =>
    match args with
    | w :: _ =>
      let shown := Quote.string w
      let path := Quote.string (t.pathText c)
      some s!"unknown command {shown} for {path}"
    | [] => none
  | .exactly n => if args.length == n then none else some s!"accepts {n} arg(s), received {args.length}"
  | .atMost n => if args.length ≤ n then none else some s!"accepts at most {n} arg(s), received {args.length}"
  | .atLeast n => if args.length ≥ n then none else some s!"requires at least {n} arg(s), only received {args.length}"

/-- The path and the rest of the usage pattern, then `[flags]`. -/
def useLine (c : Command) : String :=
  let parent := " ".intercalate (t.program :: c.path.dropLast)
  let line := if c.path.isEmpty then c.use else parent ++ " " ++ c.use
  if c.bareUse || (line.splitOn "[flags]").length > 1 then line else line ++ " [flags]"

def trimEnd (s : String) : String := (s.dropEndWhile fun c => c == ' ' || c == '\n' || c == '\t' || c == '\r').toString

def usage (c : Command) : String :=
  let kids := t.sortedChildren c
  let listed := kids.filter fun d => d.helpTopic || d.runnable || !(t.children d).isEmpty
  let hasAvailable := listed.any fun d => !d.helpTopic
  let pad := max 11 ((kids.map fun d => (t.nameOf d).length).foldl max 0)
  let lines := (if c.runnable then ["\n  " ++ t.useLine c] else []) ++
    (if hasAvailable then ["\n  " ++ t.pathText c ++ " [command]"] else [])
  let commands := if !hasAvailable then "" else
    "\n\nAvailable Commands:" ++ String.join (listed.map fun d =>
      let n := t.nameOf d
      "\n  " ++ n ++ String.ofList (List.replicate (pad - n.length) ' ') ++ " " ++ d.short)
  let localPart := "\n\nFlags:\n" ++ trimEnd (flagUsages (t.localFlags c))
  let inheritedFlags := t.inherited c
  let inheritedPart := if inheritedFlags.isEmpty then "" else "\n\nGlobal Flags:\n" ++ trimEnd (flagUsages inheritedFlags)
  let more := if !hasAvailable then "" else
    "\n\nUse " ++ Quote.string (t.pathText c ++ " [command] --help") ++ " for more information about a command."
  "Usage:" ++ String.join lines ++ commands ++ localPart ++ inheritedPart ++ more ++ "\n"

/-- The long (or short) description, then the usage. -/
def helpText (c : Command) : String :=
  let about := if c.long.isEmpty then c.short else c.long
  let head := if about.isEmpty then "" else trimEnd about ++ "\n\n"
  if c.runnable || !(t.children c).isEmpty then head ++ t.usage c else head

end CommandTable

end InferenceBroker
