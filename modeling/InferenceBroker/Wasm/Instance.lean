import InferenceBroker.Wasm.Machine

/-!
# Instances

An instance is a validated module with its own store. Instantiation links the imports (only
WASI host functions of the right types), makes tables, globals and memory, writes the active
data segments (one that does not fit fails), fills tables from the active element segments
(stopping quietly at one that does not fit), and runs the start function, whose trap fails
too. A trap is reported with its stack trace, innermost first, at most `traceLimit` calls,
each `module.function` (`$` and the index when unnamed) with its signature.
-/

namespace InferenceBroker

namespace Wasm

structure Instance where
  env : Env
  store : Store

def traceLimit : Nat := 30

/-- A value type's name in a stack trace: only number types and `externref` have one. -/
def traceTypeName : ValType → String
  | .i32 => "i32"
  | .i64 => "i64"
  | .f32 => "f32"
  | .f64 => "f64"
  | .externref => "externref"
  | _ => "unknown"

def signature (ft : FuncType) : String :=
  let params := "(" ++ ",".intercalate (ft.params.map traceTypeName) ++ ")"
  match ft.results with
  | [] => params
  | [r] => params ++ " " ++ traceTypeName r
  | rs => params ++ " (" ++ ",".intercalate (rs.map traceTypeName) ++ ")"

namespace Program

def funcName (p : Program) (f : Nat) : String := p.module.funcNames.getD f ""

def frameName (p : Program) (f : Nat) : String :=
  let n := p.funcName f
  p.module.moduleName ++ "." ++ (if n.isEmpty then s!"${f}" else n) ++
    ((p.funcTypes[f]?).map signature).getD "()"

/-- A trap with its stack trace; a stack overflow, raised outside any call, has none. -/
def trapMessage (p : Program) (t : Trap) (frames : List Nat) : String :=
  if t == .stackOverflow then t.message else
  let lines := (frames.take traceLimit).map p.frameName
  let lines := if frames.length ≥ traceLimit then lines ++ ["... maybe followed by omitted frames"] else lines
  t.message ++ "\nwasm stack trace:\n\t" ++ "\n\t".intercalate lines

end Program

/-- A host exit's text; `0xFFFFFFFF` stands for a cancelled context, `0xEFFFFFFF` for a passed
deadline. -/
def exitMessage (code : Nat) : String :=
  if code == 0xFFFFFFFF then "module closed with context canceled"
  else if code == 0xEFFFFFFF then "module closed with context deadline exceeded"
  else s!"module closed with exit_code({code})"

/-- The host function of each imported function; one module's imports are linked in order,
the modules by their first import. -/
def link (m : Module) : Except String (Array String) := do
  let modules := m.imports.foldl (fun acc i => if acc.contains i.module then acc else acc ++ [i.module]) []
  for name in modules do
    if name != hostModule then throw s!"module[{name}] not instantiated"
    for imp in m.imports.filter (·.module == name) do
      match hostType? imp.name with
      | none => throw s!"{Quote.string imp.name} is not exported in module {Quote.string hostModule}"
      | some actual =>
        match imp.kind with
        | .func t =>
          let expected := m.types.getD t default
          if expected != actual then
            throw s!"import func[{hostModule}.{imp.name}]: signature mismatch: {expected.key} != {actual.key}"
        | kind =>
          throw s!"export {Quote.string imp.name} in module {Quote.string hostModule} is a func, but you imported a {kind.word}"
  pure (m.imports.filterMap fun i => match i.kind with
    | .func _ => some i.name
    | _ => none).toArray

def constValue (globals : Array Value) : ConstExpr → Value
  | .i32 v => .i32 (UInt32.ofInt v)
  | .i64 v => .i64 (UInt64.ofInt v)
  | .f32 b => .f32 (UInt32.ofNat b)
  | .f64 b => .f64 (UInt64.ofNat b)
  | .v128 b => .v128 b
  | .global g => globals.getD g (.i32 0)
  | .refNull _ => .ref none
  | .refFunc f => .ref (some f)

def itemRef (globals : Array Value) : ElemItem → Option Nat
  | .func f => some f
  | .null => none
  | .global g =>
    match globals.getD g (.ref none) with
    | .ref r => r
    | _ => none

def placeData (globals : Array Value) (mem : Option Memory) : List DataSegment → Nat → Except String (Option Memory)
  | [], _ => .ok mem
  | d :: rest, i =>
    match d.offset with
    | none => placeData globals mem rest (i + 1)
    | some off =>
      let at_ := u32Of (constValue globals off)
      match mem with
      | none => .error s!"data[{i}]: out of bounds memory access"
      | some m =>
        match m.write at_ d.bytes with
        | some m => placeData globals (some m) rest (i + 1)
        | none => .error s!"data[{i}]: out of bounds memory access"

/-- Fills the tables from the active element segments, stopping at the first that does not fit. -/
def placeElems (globals : Array Value) (tables : Array Table) : List ElemSegment → Array Table
  | [] => tables
  | e :: rest =>
    match e.mode with
    | .active t off =>
      if e.items.isEmpty then placeElems globals tables rest
      else
        let start := u32Of (constValue globals off)
        match tables[t]? with
        | none => tables
        | some table =>
          if start + e.items.length > table.elems.size then tables
          else
            let elems := (e.items.zip (List.range e.items.length)).foldl (fun es (item, k) =>
              if table.elem == 0x6F then es.set! (start + k) none
              else match item with
                | .null => es
                | item => es.set! (start + k) (itemRef globals item)) table.elems
            placeElems globals (tables.set! t { table with elems := elems }) rest
    | _ => placeElems globals tables rest

namespace Instance

def invokeValues (inst : Instance) (f : Nat) (args : List Value) : Except String (List Value) × Instance :=
  match invoke inst.env inst.store f args with
  | .done results store => (.ok results, { inst with store := store })
  | .trap t frames store => (.error (inst.env.program.trapMessage t frames), { inst with store := store })
  | .exit code store => (.error (exitMessage code), { inst with store := store })

/-- Calls a function with words, two per vector. An instance that exited fails every call
with its exit. -/
def call (inst : Instance) (f : Nat) (args : List UInt64) : Except String (List UInt64) × Instance :=
  match inst.env.program.funcTypes[f]? with
  | none => (.error "function not found", inst)
  | some ft =>
    let slots := (ft.params.map ValType.slots).foldr (· + ·) 0
    if args.length != slots then
      (.error s!"expected {slots} params, but passed {args.length}", inst)
    else if let some code := inst.store.host.exited then (.error (exitMessage code), inst)
    else
      let (r, inst) := inst.invokeValues f (Value.ofWords ft.params args)
      (r.map (·.flatMap Value.words), inst)

def export? (inst : Instance) (name : String) : Option Nat := inst.env.program.exportedFunc? name

def funcName (inst : Instance) (f : Nat) : String := inst.env.program.funcName f

/-- `none` without memory, `some false` when out of range. -/
def write (inst : Instance) (addr : Nat) (bs : Bytes) : Option (Bool × Instance) :=
  inst.store.memory.map fun mem =>
    match mem.write addr bs with
    | some mem => (true, { inst with store := { inst.store with memory := some mem } })
    | none => (false, inst)

/-- `none` without memory, `some none` when out of range. -/
def read (inst : Instance) (addr n : Nat) : Option (Option Bytes) :=
  inst.store.memory.map fun mem => mem.read addr n

end Instance

def instantiate (p : Program) : Except String Instance := do
  let m := p.module
  let hosts ← link m
  let tables := m.allTables.toArray.map fun t => Table.mk (Array.replicate t.limits.min none) t.limits.max t.elem
  let globals := m.globals.foldl (fun acc g => acc.push (constValue acc g.init)) #[]
  let memory := m.memory.map fun l => Memory.make l.min (l.max.getD memoryLimit)
  let elems := m.elems.toArray.map fun e =>
    match e.mode with
    | .passive => if e.type == .funcref then (e.items.map (itemRef globals)).toArray else #[]
    | _ => #[]
  let memory ← placeData globals memory m.datas 0
  let tables := placeElems globals tables m.elems
  let store : Store := ⟨globals, memory, tables, (m.datas.map fun d => ByteArray.mk d.bytes.toArray).toArray, elems, {}⟩
  let inst : Instance := ⟨⟨p, m.importedFuncCount, hosts⟩, store⟩
  let inst ← match m.start with
    | none => pure inst
    | some s =>
      match invoke inst.env inst.store s [] with
      | .done _ store => pure { inst with store := store }
      | .exit code _ => throw (exitMessage code)
      | .trap t frames _ =>
        throw s!"start {Validate.funcDesc m s} failed: {p.trapMessage t frames}"
  match p.exportedFunc? "_start" with
  | none => pure inst
  | some f =>
    match inst.call f [] with
    | (.ok _, inst) => pure inst
    | (.error e, inst) =>
      match inst.store.host.exited with
      | some 0 => pure inst
      | some code => throw (exitMessage code)
      | none => throw s!"module[] function[_start] failed: {e}"

end Wasm

end InferenceBroker
