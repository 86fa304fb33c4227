import InferenceBroker.Config.Toml.Syntax

/-!
# TOML documents: keys already defined

Each key may be defined once. A mark per key path says how: a value, a table (explicit by
header or made by a dotted key, the latter made explicit by the next header), or an array of
tables. A key with a value refuses a defined key and a path through a value, an array of
tables or an explicit table; a table header refuses a path through a value and a last part
that is no table or already explicit; an array-of-tables header refuses a last part that is
no array of tables and forgets everything below it. An inline table's keys may not repeat.
-/

namespace InferenceBroker

namespace Toml

inductive Defined where
  | value
  | table
  | arrayTable
  deriving Repr, Inhabited, BEq, DecidableEq

def Defined.text : Defined → String
  | .value => "value"
  | .table => "table"
  | .arrayTable => "array table"

/-- A key path defined, how, whether explicitly, and whether by a dotted key. -/
structure Mark where
  path : List String
  kind : Defined
  explicit : Bool
  byKey : Bool
  deriving Repr, Inhabited

/-- The marks and the path of the table being filled. -/
structure Seen where
  marks : List Mark
  current : List String
  deriving Repr, Inhabited

def Seen.empty : Seen := ⟨[], []⟩

def Seen.find (s : Seen) (path : List String) : Option Mark :=
  s.marks.find? (·.path == path)

def Seen.add (s : Seen) (m : Mark) : Seen := { s with marks := s.marks ++ [m] }

def Seen.update (s : Seen) (path : List String) (f : Mark → Mark) : Seen :=
  { s with marks := s.marks.map fun m => if m.path == path then f m else m }

def below (parent path : List String) : Bool :=
  path.length > parent.length && path.take parent.length == parent

def Seen.clear (s : Seen) (path : List String) : Seen :=
  { s with marks := s.marks.filter fun m => !below path m.path }

/-- Makes the tables dotted keys made below a path explicit. -/
def Seen.settle (s : Seen) (path : List String) : Seen :=
  { s with marks := s.marks.map fun m =>
      if below path m.path && m.byKey then { m with explicit := true, byKey := false } else m }

/-- Follows a valued key's parts, marking missing ones as dotted-key tables; the key's path. -/
def Seen.keyPath (s : Seen) (parent : List String) : List String → Except String (Seen × List String)
  | [] => .ok (s, parent)
  | k :: more =>
    let path := parent ++ [k]
    match s.find path with
    | none => Seen.keyPath (s.add ⟨path, .table, false, true⟩) path more
    | some m =>
      if more.isEmpty then .error s!"toml: key {k} is already defined"
      else if m.kind != .table then .error s!"toml: expected {k} to be a table, not a {m.kind.text}"
      else if m.explicit then
        .error s!"toml: cannot redefine table {k} that has already been explicitly defined"
      else Seen.keyPath s path more

/-- Follows a header's leading parts from the root, marking missing ones as implicit tables. -/
def Seen.headerPath (s : Seen) (parent : List String) : List String → Except String (Seen × List String)
  | [] => .ok (s, parent)
  | k :: more =>
    let path := parent ++ [k]
    match s.find path with
    | none => Seen.headerPath (s.add ⟨path, .table, false, false⟩) path more
    | some m =>
      if m.kind == .value then .error s!"toml: expected {k} to be a table, not a {m.kind.text}"
      else Seen.headerPath s path more

mutual

def checkValue : Nat → Value → Except String Unit
  | 0, _ => .ok ()
  | fuel + 1, .inlineTable entries => checkEntries fuel entries Seen.empty
  | fuel + 1, .array items => checkItems fuel items
  | _ + 1, _ => .ok ()

def checkItems : Nat → List Value → Except String Unit
  | 0, _ => .ok ()
  | _ + 1, [] => .ok ()
  | fuel + 1, v :: more => do
    checkValue fuel v
    checkItems fuel more

def checkEntries : Nat → List (List String × Value) → Seen → Except String Unit
  | 0, _, _ => .ok ()
  | _ + 1, [], _ => .ok ()
  | fuel + 1, (key, v) :: more, s => do
    let (s, path) ← s.keyPath s.current key
    let s := s.update path fun m => { m with kind := .value }
    checkValue fuel v
    checkEntries fuel more s

end

def Seen.keyValue (s : Seen) (fuel : Nat) (key : List String) (v : Value) : Except String Seen := do
  let (s, path) ← s.keyPath s.current key
  let s := s.update path fun m => { m with kind := .value }
  checkValue fuel v
  pure s

/-- Checks a table header and fills its table next. -/
def Seen.table (s : Seen) (key : List String) : Except String Seen := do
  let s := s.settle s.current
  let (s, parent) ← s.headerPath [] key.dropLast
  let last := key.getLastD ""
  let path := parent ++ [last]
  match s.find path with
  | some m =>
    if m.kind != .table then throw s!"toml: key {last} should be a table, not a {m.kind.text}"
    else if m.explicit then throw s!"toml: table {last} already exists"
    else pure { s.update path (fun m => { m with explicit := true }) with current := path }
  | none => pure { s.add ⟨path, .table, true, false⟩ with current := path }

/-- Checks an array-of-tables header and fills its new element next. -/
def Seen.arrayTable (s : Seen) (key : List String) : Except String Seen := do
  let s := s.settle s.current
  let (s, parent) ← s.headerPath [] key.dropLast
  let last := key.getLastD ""
  let path := parent ++ [last]
  match s.find path with
  | some m =>
    if m.kind != .arrayTable then
      throw s!"toml: key {m.kind.text} already exists as a {last},  but should be an array table"
    else pure { s.clear path with current := path }
  | none => pure { s.add ⟨path, .arrayTable, true, false⟩ with current := path }

theorem below_self (p : List String) : below p p = false := by simp [below]

theorem find_add (s : Seen) (m : Mark) (h : s.find m.path = none) :
    (s.add m).find m.path = some m := by
  unfold Seen.find at h
  simp [Seen.find, Seen.add, List.find?_append, h]

theorem below_child : below ["a"] ["a", "b"] = true := by decide

end Toml

end InferenceBroker
