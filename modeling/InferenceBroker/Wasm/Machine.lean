import InferenceBroker.Wasm.Host
import InferenceBroker.Wasm.Lanes

/-!
# Running compiled code

A small-step machine over compiled code. All calls share one value stack, a call's locals
(arguments first) at its base and its operands above; the waiting calls are kept as numbers
(function, base, return point). The loop passes the state on in its parts, so a step
allocates only the values it makes. A call ends with results, a trap (with the functions of
the calls it passed, for the trace), or a host exit.

Calls also take room on a machine stack of bytes, each the frame its body needs (see
`frameSize`), starting sixteen bytes below the end. On entry a call checks that its frame
fits; if not the stack grows to twice its length plus that room and sixteen, unless it is
past `stackCeiling`: a stack overflow, raised outside any frame, so with no trace.
-/

namespace InferenceBroker

namespace Wasm

/-- The program and the host function of each imported function. -/
structure Env where
  program : Program
  imports : Nat
  hosts : Array String

/-- A call: function, code, base of locals, base of operands, results, and machine stack bytes. -/
structure Frame where
  func : Nat
  code : Array Op
  base : Nat
  opBase : Nat
  results : Nat
  bytes : Nat

/-- The machine stack: bytes used from its end, and its length. -/
structure Room where
  used : Nat
  size : Nat

def stackCeiling : Nat := 50000000

/-- The machine stack of an embedder call whose parameters and results take `slots` slots. -/
def Room.initial (slots : Nat) : Room := ⟨16, max 10240 (16 * slots + 48)⟩

/-- Enters a call needing `f`, or nothing when the stack would grow past its ceiling. -/
@[inline] def Room.enter (r : Room) (f : FrameSize) : Option Room :=
  let used := r.used + f.bytes
  if r.used + 16 + f.need < r.size then some ⟨used, r.size⟩
  else if r.size > stackCeiling then none
  else some ⟨used, 2 * r.size + f.need + 16⟩

theorem Room.enter_used (r : Room) (f : FrameSize) :
    (r.enter f).map Room.used =
      if r.used + 16 + f.need < r.size ∨ r.size ≤ stackCeiling then some (r.used + f.bytes)
      else none := by
  unfold Room.enter
  by_cases h1 : r.used + 16 + f.need < r.size
  · simp [h1]
  · by_cases h2 : r.size > stackCeiling
    · simp [h1, h2]
    · simp [h1, h2]

/-- The waiting calls, innermost last, three numbers each: function, base of locals and
return point; a frame is made again when its call goes on. -/
structure CallStack where
  entries : Array Nat := #[]

namespace CallStack

@[inline] def push (cs : CallStack) (func base ret : Nat) : CallStack :=
  ⟨((cs.entries.push func).push base).push ret⟩

@[inline] def top? (cs : CallStack) : Option (Nat × Nat × Nat) :=
  let n := cs.entries.size
  if n < 3 then none else some (cs.entries[n - 3]!, cs.entries[n - 2]!, cs.entries[n - 1]!)

@[inline] def pop (cs : CallStack) : CallStack := ⟨cs.entries.pop.pop.pop⟩

def funcs (cs : CallStack) : List Nat :=
  ((List.range (cs.entries.size / 3)).map fun i => cs.entries[3 * i]!).reverse

theorem pop_push (cs : CallStack) (func base ret : Nat) : (cs.push func base ret).pop = cs := by
  simp [push, pop]

theorem top?_push (cs : CallStack) (func base ret : Nat) :
    (cs.push func base ret).top? = some (func, base, ret) := by
  have h : cs.entries.size ≠ cs.entries.size + 1 + 1 := by omega
  simp [push, top?, getElem!_def, Array.getElem?_push, Array.getElem_push, h]

end CallStack

/-- The value stack, waiting calls, machine stack, current call, program counter and store. -/
structure Machine where
  stack : Array Value
  waiting : CallStack
  room : Room
  frame : Frame
  pc : Nat
  store : Store

inductive Outcome where
  | done (results : List Value) (store : Store)
  | trap (t : Trap) (frames : List Nat) (store : Store)
  | exit (code : Nat) (store : Store)

inductive Step where
  | next (m : Machine)
  | halt (o : Outcome)

def stepLimit : Nat := Nat.pow 2 62

/-- Width in bytes, signedness and result type of a load opcode. -/
def loadShape (op : Nat) : Nat × Bool × ValType :=
  match op with
  | 0x28 => (4, false, .i32)
  | 0x29 => (8, false, .i64)
  | 0x2A => (4, false, .f32)
  | 0x2B => (8, false, .f64)
  | 0x2C => (1, true, .i32)
  | 0x2D => (1, false, .i32)
  | 0x2E => (2, true, .i32)
  | 0x2F => (2, false, .i32)
  | 0x30 => (1, true, .i64)
  | 0x31 => (1, false, .i64)
  | 0x32 => (2, true, .i64)
  | 0x33 => (2, false, .i64)
  | 0x34 => (4, true, .i64)
  | _ => (4, false, .i64)

def storeWidth (op : Nat) : Nat :=
  match op with
  | 0x36 | 0x38 | 0x3E => 4
  | 0x37 | 0x39 => 8
  | 0x3A | 0x3C => 1
  | _ => 2

def loaded (op raw : Nat) : Value :=
  let (w, sgn, t) := loadShape op
  let bits := if sgn then extendSigned 64 (8 * w) raw else raw
  match t with
  | .i32 => .i32 (UInt32.ofNat bits)
  | .f32 => .f32 (UInt32.ofNat bits)
  | .f64 => .f64 (UInt64.ofNat bits)
  | _ => .i64 (UInt64.ofNat bits)

@[inline] def u32Of : Value → Nat
  | .i32 v => v.toNat
  | v => v.word.toNat % Nat.pow 2 32

/-- Moves the top `keep` values down to `dest` and cuts the stack after them. -/
def moveDown (stack : Array Value) (dest keep : Nat) : Array Value :=
  let src := stack.size - keep
  if src == dest then stack
  else
    let rec go : Nat → Nat → Array Value → Array Value
      | 0, _, st => st
      | k + 1, j, st => go k (j + 1) (st.set! (dest + j) st[src + j]!)
    (go keep 0 stack).shrink (dest + keep)

def popN (stack : Array Value) (n : Nat) : Array Value × List Value :=
  let popped := (stack.extract (stack.size - n) stack.size).toList
  (stack.shrink (stack.size - n), popped)

namespace Env

@[inline] def body? (env : Env) (f : Nat) : Option Body := env.program.bodies[f - env.imports]?

end Env

@[inline] def Body.frameOf (b : Body) (f : Nat) (base : Nat) : Frame :=
  ⟨f, b.code, base, base + b.type.params.length + b.locals.size, b.type.results.length, b.frame.bytes⟩

def Machine.trace (m : Machine) : List Nat := m.frame.func :: m.waiting.funcs

def trapIn (frame : Frame) (waiting : CallStack) (store : Store) (t : Trap) : Step :=
  .halt (.trap t (frame.func :: waiting.funcs) store)

def Machine.trapWith (m : Machine) (t : Trap) : Step := trapIn m.frame m.waiting m.store t

/-- Returns to the innermost waiting call, whose frame is made again. -/
@[inline] def Machine.leave (env : Env) : Machine → Step
  | ⟨stack, waiting, room, frame, _, store⟩ =>
    let stack := moveDown stack frame.base frame.results
    match waiting.top? with
    | none => .halt (.done (stack.extract frame.base stack.size).toList store)
    | some (f, base, pc) =>
      match env.body? f with
      | none => .halt (.trap (.unsupported "return") (f :: waiting.pop.funcs) store)
      | some b =>
        .next ⟨stack, waiting.pop, { room with used := room.used - frame.bytes }, b.frameOf f base, pc, store⟩

/-- Calls `f` with its arguments on top of the stack; the caller goes on at `ret`. -/
@[inline] def Machine.enter (env : Env) (f ret : Nat) : Machine → Step
  | ⟨stack, waiting, room, frame, _, store⟩ =>
    if f < env.imports then
      let name := env.hosts.getD f ""
      let n := ((env.program.funcTypes[f]?).map (·.params.length)).getD 0
      let (stack, args) := popN stack n
      match callHost name args store with
      | .ok results store => .next ⟨results.foldl Array.push stack, waiting, room, frame, ret, store⟩
      | .exit code store => .halt (.exit code store)
    else
      match env.body? f with
      | none => .halt (.trap (.unsupported "call") (frame.func :: waiting.funcs) store)
      | some b =>
        let base := stack.size - b.type.params.length
        let callee := b.frameOf f base
        match room.enter b.frame with
        | none => .halt (.trap .stackOverflow [] store)
        | some room =>
          .next ⟨stack ++ b.locals, waiting.push frame.func frame.base ret, room, callee, 0, store⟩

@[inline] def Machine.branch (env : Env) (m : Machine) (t : Target) : Step :=
  match t, m with
  | .exit, m => m.leave env
  | .label pc keep height, ⟨stack, waiting, room, frame, _, store⟩ =>
    .next ⟨moveDown stack (frame.opBase + height) keep, waiting, room, frame, pc, store⟩

def miscStep (op : Nat) (args : List Nat) (stack : Array Value) (waiting : CallStack) (room : Room)
    (frame : Frame) (pc : Nat) (store : Store) : Step :=
    let go := fun (stack : Array Value) (store : Store) => Step.next ⟨stack, waiting, room, frame, pc + 1, store⟩
    let arg := fun (i : Nat) => args.getD i 0
    if op ≤ 7 then
      match saturate op stack.back! with
      | .ok v => go (stack.set! (stack.size - 1) v) store
      | .error t => trapIn frame waiting store t
    else
      let (rest, top) := popN stack (if op == 9 ∨ op == 13 then 0 else if op == 16 then 0 else if op == 15 then 2 else 3)
      let n := u32Of (top.getD 2 (top.getD 1 (.i32 0)))
      match op with
      | 8 =>
        let d := u32Of (top.getD 0 (.i32 0))
        let s := u32Of (top.getD 1 (.i32 0))
        let data := store.datas.getD (arg 0) ByteArray.empty
        match store.memory with
        | some mem =>
          if s + n > data.size ∨ d + n > mem.size then trapIn frame waiting store .memoryOutOfBounds
          else go rest (store.modifyMemory (·.copyFrom data s d n))
        | none => trapIn frame waiting store .memoryOutOfBounds
      | 9 => go rest { store with datas := store.datas.set! (arg 0) ByteArray.empty }
      | 10 =>
        let d := u32Of (top.getD 0 (.i32 0))
        let s := u32Of (top.getD 1 (.i32 0))
        match store.memory with
        | some mem =>
          if s + n > mem.size ∨ d + n > mem.size then trapIn frame waiting store .memoryOutOfBounds
          else go rest (store.modifyMemory (·.copyWithin d s n))
        | none => trapIn frame waiting store .memoryOutOfBounds
      | 11 =>
        let d := u32Of (top.getD 0 (.i32 0))
        let v := u32Of (top.getD 1 (.i32 0))
        match store.memory with
        | some mem =>
          if d + n > mem.size then trapIn frame waiting store .memoryOutOfBounds
          else go rest (store.modifyMemory (·.fill d n (UInt8.ofNat v)))
        | none => trapIn frame waiting store .memoryOutOfBounds
      | 12 =>
        let d := u32Of (top.getD 0 (.i32 0))
        let s := u32Of (top.getD 1 (.i32 0))
        let seg := store.elems.getD (arg 0) #[]
        match store.tables[arg 1]? with
        | some t =>
          if s + n > seg.size ∨ d + n > t.elems.size then trapIn frame waiting store .tableOutOfBounds
          else
            go rest (store.modifyTable (arg 1) (·.modifyElems fun es =>
              (List.range n).foldl (fun es k => es.set! (d + k) (seg.getD (s + k) none)) es))
        | none => trapIn frame waiting store .tableOutOfBounds
      | 13 => go rest { store with elems := store.elems.set! (arg 0) #[] }
      | 14 =>
        let d := u32Of (top.getD 0 (.i32 0))
        let s := u32Of (top.getD 1 (.i32 0))
        match store.tables[arg 0]?, store.tables[arg 1]? with
        | some dt, some st =>
          if s + n > st.elems.size ∨ d + n > dt.elems.size then trapIn frame waiting store .tableOutOfBounds
          else
            let moved := st.elems.extract s (s + n)
            go rest (store.modifyTable (arg 0) (·.modifyElems fun es =>
              (List.range n).foldl (fun es k => es.set! (d + k) (moved.getD k none)) es))
        | _, _ => trapIn frame waiting store .tableOutOfBounds
      | 15 =>
        let init := match top.getD 0 (.ref none) with
          | .ref r => r
          | _ => none
        let k := u32Of (top.getD 1 (.i32 0))
        match store.tables[arg 0]? with
        | some t =>
          let cur := t.elems.size
          if k == 0 then go (rest.push (.i32 (UInt32.ofNat cur))) store
          else if cur + k ≥ Nat.pow 2 32 - 1 ∨ t.max.any (cur + k > ·) then go (rest.push (.i32 0xFFFFFFFF)) store
          else
            go (rest.push (.i32 (UInt32.ofNat cur)))
              (store.modifyTable (arg 0) (·.modifyElems (· ++ Array.replicate k init)))
        | none => trapIn frame waiting store .tableOutOfBounds
      | 16 =>
        let size := ((store.tables[arg 0]?).map (·.elems.size)).getD 0
        go (rest.push (.i32 (UInt32.ofNat size))) store
      | _ =>
        let i := u32Of (top.getD 0 (.i32 0))
        let v := match top.getD 1 (.ref none) with
          | .ref r => r
          | _ => none
        match store.tables[arg 0]? with
        | some t =>
          if i + n > t.elems.size then trapIn frame waiting store .tableOutOfBounds
          else
            go rest (store.modifyTable (arg 0) (·.modifyElems fun es =>
              (List.range n).foldl (fun es k => es.set! (i + k) v) es))
        | none => trapIn frame waiting store .tableOutOfBounds

def vectorStep (op : Nat) (args : List Nat) (stack : Array Value) (waiting : CallStack) (room : Room)
    (frame : Frame) (pc : Nat) (store : Store) : Step :=
    let go := fun (stack : Array Value) (store : Store) => Step.next ⟨stack, waiting, room, frame, pc + 1, store⟩
    let offset := args.getD 0 0
    let mem := store.memory.getD (Memory.make 0 0)
    match vecShape op with
    | some (.load _) =>
      let ea := u32Of stack.back! + offset
      let n := match op with
        | 0x00 => 16
        | 0x07 => 1
        | 0x08 => 2
        | 0x09 | 0x5C => 4
        | _ => 8
      if !mem.fits ea n then trapIn frame waiting store .memoryOutOfBounds
      else
        let raw := mem.load ea n
        let v := match op with
          | 0x00 | 0x5C | 0x5D => raw
          | 0x07 => Lanes.join 8 (List.replicate 16 raw)
          | 0x08 => Lanes.join 16 (List.replicate 8 raw)
          | 0x09 => Lanes.join 32 (List.replicate 4 raw)
          | 0x0A => Lanes.join 64 (List.replicate 2 raw)
          | _ =>
            let (w, sgn) := match op with
              | 0x01 => (8, true)
              | 0x02 => (8, false)
              | 0x03 => (16, true)
              | 0x04 => (16, false)
              | 0x05 => (32, true)
              | _ => (32, false)
            let ls := (Lanes.split w raw).take (64 / w)
            Lanes.join (2 * w) (ls.map fun l => if sgn then (Lanes.signedLane w l % Nat.pow 2 (2 * w)).toNat else l)
        go (stack.set! (stack.size - 1) (.v128 v)) store
    | some .store =>
      let v := vectorBits stack.back!
      let stack := stack.pop
      let ea := u32Of stack.back! + offset
      if !mem.fits ea 16 then trapIn frame waiting store .memoryOutOfBounds
      else go stack.pop (store.modifyMemory (·.store ea 16 v))
    | some (.loadLane _ lanes) =>
      let w := 128 / lanes
      let l := args.getD 1 0
      let v := vectorBits stack.back!
      let stack := stack.pop
      let ea := u32Of stack.back! + offset
      if !mem.fits ea (w / 8) then trapIn frame waiting store .memoryOutOfBounds
      else
        let x := mem.load ea (w / 8)
        let cleared := v - (v / Nat.pow 2 (w * l) % Nat.pow 2 w) * Nat.pow 2 (w * l)
        go (stack.set! (stack.size - 1) (.v128 (cleared + x * Nat.pow 2 (w * l)))) store
    | some (.storeLane _ lanes) =>
      let w := 128 / lanes
      let l := args.getD 1 0
      let v := vectorBits stack.back!
      let stack := stack.pop
      let ea := u32Of stack.back! + offset
      if !mem.fits ea (w / 8) then trapIn frame waiting store .memoryOutOfBounds
      else go stack.pop (store.modifyMemory (·.store ea (w / 8) (v / Nat.pow 2 (w * l) % Nat.pow 2 w)))
    | _ =>
      match vectorOp op args stack with
      | .ok stack => go stack store
      | .error t => trapIn frame waiting store t

@[inline] def step (env : Env) : Machine → Step
  | ⟨stack, waiting, room, frame, pc, store⟩ =>
    let go := fun (stack : Array Value) => Step.next ⟨stack, waiting, room, frame, pc + 1, store⟩
    match frame.code[pc]? with
    | none => Machine.leave env ⟨stack, waiting, room, frame, pc, store⟩
    | some op =>
      match op with
      | .unreachable => trapIn frame waiting store .unreachable
      | .nop => go stack
      | .jump target => .next ⟨stack, waiting, room, frame, target, store⟩
      | .br t => Machine.branch env ⟨stack, waiting, room, frame, pc, store⟩ t
      | .brIf t =>
        let c := stack.back!
        let m : Machine := ⟨stack.pop, waiting, room, frame, pc + 1, store⟩
        if u32Of c != 0 then m.branch env t else .next m
      | .brTable ts d =>
        let i := u32Of stack.back!
        let m : Machine := ⟨stack.pop, waiting, room, frame, pc, store⟩
        m.branch env (ts.getD i d)
      | .brUnless target =>
        let c := stack.back!
        if u32Of c == 0 then .next ⟨stack.pop, waiting, room, frame, target, store⟩
        else .next ⟨stack.pop, waiting, room, frame, pc + 1, store⟩
      | .ret => Machine.leave env ⟨stack, waiting, room, frame, pc, store⟩
      | .call f => Machine.enter env f (pc + 1) ⟨stack, waiting, room, frame, pc, store⟩
      | .callIndirect ti t =>
        let i := u32Of stack.back!
        let m' : Machine := ⟨stack.pop, waiting, room, frame, pc, store⟩
        match store.tables[t]? with
        | none => trapIn frame waiting store .tableOutOfBounds
        | some table =>
          match table.elems[i]? with
          | none => trapIn frame waiting store .tableOutOfBounds
          | some none => trapIn frame waiting store .tableOutOfBounds
          | some (some f) =>
            if env.program.funcTypes[f]? != env.program.module.types[ti]? then trapIn frame waiting store .indirectTypeMismatch
            else m'.enter env f (pc + 1)
      | .drop => go stack.pop
      | .select =>
        let c := u32Of stack.back!
        let stack := stack.pop
        let b := stack.back!
        let stack := stack.pop
        if c == 0 then go (stack.set! (stack.size - 1) b) else go stack
      | .localGet i => go (stack.push stack[frame.base + i]!)
      | .localSet i =>
        let v := stack.back!
        go (stack.pop.set! (frame.base + i) v)
      | .localTee i => go (stack.set! (frame.base + i) stack.back!)
      | .globalGet i => go (stack.push (store.globals.getD i (.i32 0)))
      | .globalSet i =>
        let v := stack.back!
        Step.next ⟨stack.pop, waiting, room, frame, pc + 1, store.setGlobal i v⟩
      | .tableGet t =>
        let i := u32Of stack.back!
        match (store.tables[t]?).bind (·.elems[i]?) with
        | some r => go (stack.set! (stack.size - 1) (.ref r))
        | none => trapIn frame waiting store .tableOutOfBounds
      | .tableSet t =>
        let r := match stack.back! with
          | .ref r => r
          | _ => none
        let stack := stack.pop
        let i := u32Of stack.back!
        match store.tables[t]? with
        | some table =>
          if i ≥ table.elems.size then trapIn frame waiting store .tableOutOfBounds
          else
            Step.next ⟨stack.pop, waiting, room, frame, pc + 1, store.modifyTable t (·.modifyElems (·.set! i r))⟩
        | none => trapIn frame waiting store .tableOutOfBounds
      | .load op offset =>
        match store.memory with
        | none => trapIn frame waiting store .memoryOutOfBounds
        | some mem =>
          let ea := u32Of stack.back! + offset
          let w := (loadShape op).1
          if !mem.fits ea w then trapIn frame waiting store .memoryOutOfBounds
          else go (stack.set! (stack.size - 1) (loaded op (mem.load ea w)))
      | .store op offset =>
        match store.memory with
        | none => trapIn frame waiting store .memoryOutOfBounds
        | some mem =>
          let v := stack.back!
          let stack := stack.pop
          let ea := u32Of stack.back! + offset
          let w := storeWidth op
          if !mem.fits ea w then trapIn frame waiting store .memoryOutOfBounds
          else
            Step.next ⟨stack.pop, waiting, room, frame, pc + 1, store.modifyMemory (·.store ea w v.word.toNat)⟩
      | .memorySize =>
        go (stack.push (.i32 (UInt32.ofNat ((store.memory.map (·.pages)).getD 0))))
      | .memoryGrow =>
        match store.memory with
        | none => go (stack.set! (stack.size - 1) (.i32 0xFFFFFFFF))
        | some mem =>
          let n := u32Of stack.back!
          if mem.canGrow n then
            Step.next ⟨stack.set! (stack.size - 1) (.i32 (UInt32.ofNat mem.pages)), waiting, room, frame, pc + 1,
              store.modifyMemory (·.extend n)⟩
          else go (stack.set! (stack.size - 1) (.i32 0xFFFFFFFF))
      | .const v => go (stack.push v)
      | .refIsNull =>
        let r := match stack.back! with
          | .ref none => true
          | _ => false
        go (stack.set! (stack.size - 1) (Value.flag r))
      | .refFunc f => go (stack.push (.ref (some f)))
      | .num op =>
        if isUnary op then
          match numeric1 op stack.back! with
          | .ok v => go (stack.set! (stack.size - 1) v)
          | .error t => trapIn frame waiting store t
        else
          let b := stack.back!
          let stack := stack.pop
          match numeric2 op stack.back! b with
          | .ok v => go (stack.set! (stack.size - 1) v)
          | .error t => trapIn frame waiting store t
      | .misc op args => miscStep op args stack waiting room frame pc store
      | .vec op args => vectorStep op args stack waiting room frame pc store

/-- Runs the machine for at most `fuel` steps, the state passed on in its parts. -/
def run (env : Env) : Nat → Array Value → CallStack → Room → Frame → Nat → Store → Outcome
  | 0, _, waiting, _, frame, _, store => .trap (.unsupported "step limit") (frame.func :: waiting.funcs) store
  | fuel + 1, stack, waiting, room, frame, pc, store =>
    match step env ⟨stack, waiting, room, frame, pc, store⟩ with
    | .next ⟨stack, waiting, room, frame, pc, store⟩ => run env fuel stack waiting room frame pc store
    | .halt o => o

def invoke (env : Env) (store : Store) (f : Nat) (args : List Value) : Outcome :=
  if f < env.imports then
    match callHost (env.hosts.getD f "") args store with
    | .ok results store => .done results store
    | .exit code store => .exit code store
  else
    match env.body? f with
    | none => .trap (.unsupported "call") [f] store
    | some b =>
      let stack := args.toArray ++ b.locals
      let slots := max ((b.type.params.map ValType.slots).foldr (· + ·) 0) ((b.type.results.map ValType.slots).foldr (· + ·) 0)
      match (Room.initial slots).enter b.frame with
      | none => .trap .stackOverflow [] store
      | some room => run env stepLimit stack {} room (b.frameOf f 0) 0 store

end Wasm

end InferenceBroker
