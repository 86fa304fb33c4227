import InferenceBroker.Core.Bytes

/-!
# WebAssembly modules

The abstract syntax the decoder produces: types, imports, functions with raw code, tables,
the memory, globals, exports, the start function, and element and data segments. Bodies stay
bytes until validation compiles them.
-/

namespace InferenceBroker

namespace Wasm

inductive ValType where
  | i32
  | i64
  | f32
  | f64
  | v128
  | funcref
  | externref
  deriving DecidableEq, Repr, Inhabited

namespace ValType

def name : ValType → String
  | .i32 => "i32"
  | .i64 => "i64"
  | .f32 => "f32"
  | .f64 => "f64"
  | .v128 => "v128"
  | .funcref => "funcref"
  | .externref => "externref"

def ofCode? : Nat → Option ValType
  | 0x7F => some .i32
  | 0x7E => some .i64
  | 0x7D => some .f32
  | 0x7C => some .f64
  | 0x7B => some .v128
  | 0x70 => some .funcref
  | 0x6F => some .externref
  | _ => none

def isRef : ValType → Bool
  | .funcref | .externref => true
  | _ => false

/-- The eight-byte slots a value takes when passed from the embedder. -/
def slots : ValType → Nat
  | .v128 => 2
  | _ => 1

end ValType

structure FuncType where
  params : List ValType
  results : List ValType
  deriving DecidableEq, Repr, Inhabited

/-- A function type in failures: parameter names, `_`, result names, `v` for none. -/
def FuncType.key (ft : FuncType) : String :=
  (if ft.params.isEmpty then "v" else String.join (ft.params.map ValType.name)) ++ "_" ++
    (if ft.results.isEmpty then "v" else String.join (ft.results.map ValType.name))

/-- Size limits of a memory (pages) or table (elements). -/
structure Limits where
  min : Nat
  max : Option Nat
  deriving DecidableEq, Repr, Inhabited

/-- The element type byte, kept as read, and the limits. -/
structure TableType where
  elem : Nat
  limits : Limits
  deriving DecidableEq, Repr, Inhabited

inductive ImportKind where
  | func (type : Nat)
  | table (t : TableType)
  | memory (limits : Limits)
  | global (type : ValType) (mutable : Bool)
  deriving Repr, Inhabited

structure Import where
  module : String
  name : String
  kind : ImportKind
  deriving Repr, Inhabited

def ImportKind.word : ImportKind → String
  | .func _ => "func"
  | .table _ => "table"
  | .memory _ => "memory"
  | .global _ _ => "global"

inductive ExportKind where
  | func
  | table
  | memory
  | global
  deriving DecidableEq, Repr, Inhabited

structure Export where
  name : String
  kind : ExportKind
  index : Nat
  deriving Repr, Inhabited

/-- A constant expression: one instruction. -/
inductive ConstExpr where
  | i32 (v : Int)
  | i64 (v : Int)
  | f32 (bits : Nat)
  | f64 (bits : Nat)
  | v128 (bits : Nat)
  | global (i : Nat)
  | refNull (t : ValType)
  | refFunc (i : Nat)
  deriving Repr, Inhabited

structure GlobalDef where
  type : ValType
  mutable : Bool
  init : ConstExpr
  deriving Repr, Inhabited

/-- Declared locals as runs of one type, and the body with its final `end`. -/
structure Code where
  locals : List (Nat × ValType)
  body : Bytes
  deriving Repr, Inhabited

def Code.localCount (c : Code) : Nat := (c.locals.map (·.1)).foldr (· + ·) 0

def Code.localType? (c : Code) (i : Nat) : Option ValType :=
  let rec go : List (Nat × ValType) → Nat → Option ValType
    | [], _ => none
    | (n, t) :: rest, i => if i < n then some t else go rest (i - n)
  go c.locals i

structure NameSection where
  module : String := ""
  funcs : List (Nat × String) := []
  deriving Repr, Inhabited

inductive ElemMode where
  | active (table : Nat) (offset : ConstExpr)
  | passive
  | declarative
  deriving Repr, Inhabited

inductive ElemItem where
  | func (i : Nat)
  | null
  | global (i : Nat)
  deriving DecidableEq, Repr, Inhabited

structure ElemSegment where
  mode : ElemMode
  type : ValType
  items : List ElemItem
  deriving Repr, Inhabited

/-- A data segment; active ones carry their offset. -/
structure DataSegment where
  offset : Option ConstExpr
  bytes : Bytes
  deriving Repr, Inhabited

structure Module where
  types : List FuncType := []
  imports : List Import := []
  funcs : List Nat := []
  tables : List TableType := []
  memory : Option Limits := none
  globals : List GlobalDef := []
  exports : List Export := []
  start : Option Nat := none
  elems : List ElemSegment := []
  codes : List Code := []
  datas : List DataSegment := []
  dataCount : Option Nat := none
  names : Option NameSection := none
  deriving Repr, Inhabited

namespace Module

def importedFuncs (m : Module) : List Nat :=
  m.imports.filterMap fun i => match i.kind with
    | .func t => some t
    | _ => none

def importedGlobals (m : Module) : List (ValType × Bool) :=
  m.imports.filterMap fun i => match i.kind with
    | .global t mutable => some (t, mutable)
    | _ => none

def importedTables (m : Module) : List TableType :=
  m.imports.filterMap fun i => match i.kind with
    | .table t => some t
    | _ => none

def importedMemory (m : Module) : Option Limits :=
  m.imports.findSome? fun i => match i.kind with
    | .memory l => some l
    | _ => none

/-- The type index of every function, imported ones first. -/
def funcTypes (m : Module) : List Nat := m.importedFuncs ++ m.funcs

def funcType? (m : Module) (f : Nat) : Option FuncType :=
  (m.funcTypes[f]?).bind fun t => m.types[t]?

/-- Type and mutability of every global, imported ones first. -/
def globalTypes (m : Module) : List (ValType × Bool) :=
  m.importedGlobals ++ m.globals.map fun g => (g.type, g.mutable)

def allTables (m : Module) : List TableType := m.importedTables ++ m.tables

def exportedFunc? (m : Module) (name : String) : Option Nat :=
  (m.exports.find? fun e => e.name == name && e.kind == .func).map (·.index)

def importedFuncCount (m : Module) : Nat := m.importedFuncs.length

def importedGlobalCount (m : Module) : Nat := m.importedGlobals.length

/-- Every function's name, imported first, from the name section read in index order, so an
entry out of order is passed over; unnamed functions get the empty name. -/
def funcNames (m : Module) : List String :=
  let entries := (m.names.map (·.funcs)).getD []
  let rec go : Nat → Nat → List (Nat × String) → List String
    | 0, _, _ => []
    | left + 1, f, es =>
      let es := es.dropWhile (·.1 < f)
      let name := match es with
        | (g, n) :: _ => if g == f then n else ""
        | [] => ""
      name :: go left (f + 1) es
  go m.funcTypes.length 0 entries

def moduleName (m : Module) : String := (m.names.map (·.module)).getD ""

end Module

end Wasm

end InferenceBroker
