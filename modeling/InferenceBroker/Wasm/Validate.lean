import InferenceBroker.Wasm.Typing

/-!
# Validating a module

`Wasm.compile` decodes and validates a module in a fixed order: start function,
declarations, imports, global initializers, memory and data, exports, every body (compiled
on the way), element segments against tables, data count. The first failure is the
module's. A constant expression may read only imported globals.
-/

namespace InferenceBroker

namespace Wasm

/-- A validated module with its own functions' compiled bodies. -/
structure Program where
  module : Module
  funcTypes : Array FuncType
  bodies : Array Body
  deriving Inhabited

namespace Program

def exportedFunc? (p : Program) (name : String) : Option Nat := p.module.exportedFunc? name

end Program

namespace Validate

def typeOfFunction (m : Module) (f : Nat) : Option FuncType :=
  (m.funcTypes[f]?).bind fun t => m.types[t]?

/-- How failures name function `i`: with the quoted names it is exported under, sorted. -/
def funcDesc (m : Module) (i : Nat) : String :=
  let names := (m.exports.filter fun e => e.kind == .func ∧ e.index == i + m.importedFuncCount).map
    fun e => Quote.string e.name
  let sorted := ",".intercalate (names.mergeSort fun a b => a ≤ b)
  if names.isEmpty then s!"function[{i}]" else s!"function[{i}] export[{sorted}]"

def start (m : Module) : Except String Unit :=
  match m.start with
  | none => .ok ()
  | some s =>
    match typeOfFunction m s with
    | none => .error s!"invalid start function: func[{s}] has an invalid type"
    | some ft =>
      if ft.params.isEmpty ∧ ft.results.isEmpty then .ok ()
      else .error s!"invalid start function: func[{s}] must have an empty (nullary) signature: {ft.key}"

def imports (m : Module) : Except String Unit :=
  (m.imports.zip (List.range m.imports.length)).forM fun (imp, i) =>
    if imp.module.isEmpty then .error s!"import[{i}] has an empty module name"
    else match imp.kind with
      | .func t =>
        if t ≥ m.types.length then
          .error s!"invalid import[{Quote.string imp.module}.{Quote.string imp.name}] function: type index out of range"
        else .ok ()
      | _ => .ok ()

/-- Checks a constant expression against `expected`, given the globals it may read and the
functions it may name. -/
def constExpr (globals : List (ValType × Bool)) (funcCount : Nat) (e : ConstExpr) (expected : ValType) :
    Except String Unit := do
  let actual ← match e with
    | .i32 _ => pure ValType.i32
    | .i64 _ => pure .i64
    | .f32 _ => pure .f32
    | .f64 _ => pure .f64
    | .v128 _ => pure .v128
    | .global g =>
      match globals[g]? with
      | some (t, _) => pure t
      | none => throw "global index out of range"
    | .refNull t => pure t
    | .refFunc f =>
      if f ≥ funcCount then throw s!"ref.func index out of range [{f}] with length {(funcCount + Nat.pow 2 32 - 1) % Nat.pow 2 32}"
      else pure .funcref
  if actual != expected then
    throw s!"const expression type mismatch expected {expected.name} but got {actual.name}"

def globals (m : Module) : Except String Unit :=
  m.globals.forM fun g => constExpr m.importedGlobals m.funcTypes.length g.init g.type

/-- Active data segments need a memory and an `i32` constant or imported global offset. -/
def memory (m : Module) : Except String Unit := do
  let active := m.datas.filterMap (·.offset)
  if !active.isEmpty ∧ m.memory.isNone ∧ m.importedMemory.isNone then throw "unknown memory"
  active.forM fun off =>
    match constExpr m.importedGlobals 0 off .i32 with
    | .ok () => .ok ()
    | .error e => .error s!"calculate offset: {e}"

def exports (m : Module) : Except String Unit :=
  m.exports.forM fun e =>
    let name := Quote.string e.name
    match e.kind with
    | .func => if e.index ≥ m.funcTypes.length then .error s!"unknown function for export[{name}]" else .ok ()
    | .global => if e.index ≥ m.globalTypes.length then .error s!"unknown global for export[{name}]" else .ok ()
    | .memory =>
      if e.index > 0 ∨ (m.memory.isNone ∧ m.importedMemory.isNone) then
        .error s!"memory for export[{name}] out of range"
      else .ok ()
    | .table => if e.index ≥ m.allTables.length then .error s!"table for export[{name}] out of range" else .ok ()

/-- What `ref.func` may name: exported functions, those global initializers and element
segments name. -/
def declared (m : Module) : List Nat :=
  (m.exports.filter (·.kind == .func)).map (·.index) ++
  m.globals.filterMap (fun g => match g.init with
    | .refFunc f => some f
    | _ => none) ++
  m.elems.flatMap fun e => e.items.filterMap fun
    | .func f => some f
    | .global g => some (g + Nat.pow 2 31)
    | .null => none

def functions (m : Module) : Except String (Array Body) := do
  let funcTypes := m.funcTypes.toArray
  let globals := m.globalTypes.toArray
  let tables := (m.allTables.map (·.elem)).toArray
  let declared := declared m
  let rec go : List (Nat × Code) → Nat → Array Body → Except String (Array Body)
    | [], _, acc => .ok acc
    | (t, code) :: rest, i, acc =>
      match m.types[t]? with
      | none => .error s!"invalid {funcDesc m i}: type section index {t} out of range"
      | some ft =>
        match checkBody m funcTypes globals tables declared ft code with
        | .ok body => go rest (i + 1) (acc.push body)
        | .error e => .error s!"invalid {funcDesc m i}: {e}"
  go (m.funcs.zip m.codes) 0 #[]

def refName (t : Nat) : String := Typing.refByteName t

def importedI32 (m : Module) (i g : Nat) : Except String Unit :=
  let gs := (m.imports.zip (List.range m.imports.length)).filterMap fun (imp, k) =>
    match imp.kind with
    | .global t _ => some (t, k)
    | _ => none
  match gs[g]? with
  | some (t, k) =>
    if t != .i32 then .error s!"element[{i}] (global.get {g}): import[{k}].global.ValType != i32" else .ok ()
  | none => .error s!"element[{i}] (global.get {g}): out of range of imported globals"

/-- Element segments name functions and globals in range, and active ones a table of their
type with a usable offset. -/
def elements (m : Module) : Except String Unit := do
  let tables := m.allTables
  let funcCount := m.funcTypes.length
  let globalCount := m.globalTypes.length
  (m.elems.zip (List.range m.elems.length)).forM fun (e, i) => do
    (e.items.zip (List.range e.items.length)).forM fun (item, k) =>
      match item with
      | .null => .ok ()
      | .global g =>
        if g ≥ globalCount then .error s!"element[{i}].init[{k}] global index {g} out of range" else .ok ()
      | .func f =>
        if e.type == .externref then .error s!"element[{i}].init[{k}] must be ref.null but was {f}"
        else if f ≥ funcCount then .error s!"element[{i}].init[{k}] func index {f} out of range"
        else .ok ()
    match e.mode with
    | .active t off =>
      match tables[t]? with
      | none => throw s!"unknown table {t} as active element target"
      | some tt =>
        let et := Typing.codeOf e.type
        if tt.elem != et then
          throw s!"element type mismatch: table has {refName tt.elem} but element has {refName et}"
        match off with
        | .global g => importedI32 m i g
        | .i32 _ => pure ()
        | other => throw s!"element[{i}] has an invalid const expression: {instrName other.opcode}"
    | _ => pure ()

end Validate

def compile (bs : Bytes) : Except String Program := do
  let m ← decode bs
  Validate.start m
  if m.memory.isSome ∧ m.importedMemory.isSome then throw "at most one table allowed in module"
  Validate.imports m
  Validate.globals m
  Validate.memory m
  Validate.exports m
  let bodies ← Validate.functions m
  Validate.elements m
  match m.dataCount with
  | some n =>
    if n != m.datas.length then
      throw s!"data count section ({n}) doesn't match the length of data section ({m.datas.length})"
  | none => pure ()
  let funcTypes := m.funcTypes.map fun t => m.types.getD t default
  pure ⟨m, funcTypes.toArray, bodies⟩

end Wasm

end InferenceBroker
