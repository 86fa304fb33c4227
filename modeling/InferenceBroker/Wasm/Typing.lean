import InferenceBroker.Wasm.Decode
import InferenceBroker.Wasm.Code
import InferenceBroker.Wasm.Vector

/-!
# Checking and compiling function bodies

A body is read instruction by instruction with a stack of operand types and a stack of open
blocks, as the WebAssembly validation algorithm does, and compiled into the flat code of
`Wasm.Code`. Type `0xFF` stands for a value of unknown type, which an unreachable part may
pop. Each block limits how far its instructions pop; its parameters and results are checked
on entry, at `else`, at `end` and at each branch to it, and a mismatch is worded as a
compiler words it (`not enough results in else block`, then what it has and wants). The
first failure ends the check.
-/

namespace InferenceBroker

namespace Wasm

namespace Typing

def unknown : Nat := 0xFF

def codeOf : ValType → Nat
  | .i32 => 0x7F
  | .i64 => 0x7E
  | .f32 => 0x7D
  | .f64 => 0x7C
  | .v128 => 0x7B
  | .funcref => 0x70
  | .externref => 0x6F

def nameOf (c : Nat) : String := typeName (ValType.ofCode? c)

def codes (ts : List ValType) : List Nat := ts.map codeOf

def namesOf (ts : List Nat) : String := ", ".intercalate (ts.map nameOf)

/-- An open block: its opcode (0 for the function, `else` once an `if` reached it), type,
branch and `else` labels, and the stack height below its parameters. -/
structure Ctrl where
  kind : Nat
  params : List Nat
  results : List Nat
  label : Nat
  elseLabel : Nat
  height : Nat

/-- What a branch carries: a loop's parameters, else the block's results. -/
def Ctrl.branchTypes (c : Ctrl) : List Nat := if c.kind == 0x03 then c.params else c.results

/-- Operand types (bottom first), pop limits, open blocks (innermost first), code, label
positions; and for the frame size, where each operand comes from, each local's value, the
next value number and the calls. -/
structure State where
  stack : Array Nat := #[]
  limits : List Nat := []
  ctrls : List Ctrl := []
  code : Array Op := #[]
  labels : Array Nat := #[]
  origins : Array Origin := #[]
  localOrigins : List (Nat × Origin) := []
  nextValue : Nat := 2
  calls : List CallSite := []

abbrev Check := StateT State (Except String)

def fail {α : Type} (msg : String) : Check α := fun _ => .error msg

def context {α : Type} (ctx : String) (c : Check α) : Check α := fun s =>
  match c s with
  | .ok r => .ok r
  | .error e => .error (ctx ++ e)

/-- Reads an immediate after an opcode: its value and length. -/
def immediate {α : Type} (ctx : String) (r : Reader α) (bs : Bytes) : Check (α × Nat) :=
  match readAll r bs with
  | .ok r => pure r
  | .error e => fail (ctx ++ e)

def emit (op : Op) : Check Unit := modify fun s => { s with code := s.code.push op }

/-- Adds a call, noting where it is, the operands under its arguments and the locals' values. -/
def emitCall (op : Op) (ft : FuncType) : Check Unit := modify fun s =>
  { s with
    code := s.code.push op
    calls := ⟨s.code.size, s.origins.toList, s.localOrigins, stackBytes ft⟩ :: s.calls }

def newLabel : Check Nat := modifyGet fun s => (s.labels.size, { s with labels := s.labels.push 0 })

def place (l : Nat) : Check Unit := modify fun s => { s with labels := s.labels.set! l s.code.size }

def limit : Check Nat := do pure ((← get).limits.headD 0)

def push (t : Nat) : Check Unit := modify fun s =>
  { s with stack := s.stack.push t, origins := s.origins.push (.value s.nextValue (t == 0x7B)),
           nextValue := s.nextValue + 1 }

def topOrigin : Check Origin := do pure (((← get).origins.back?).getD .const)

def setTop (o : Origin) : Check Unit := modify fun s => { s with origins := s.origins.pop.push o }

def setLocal (i : Nat) (o : Origin) : Check Unit := modify fun s =>
  { s with localOrigins := (i, o) :: s.localOrigins.filter (·.1 != i) }

def pushAll (ts : List Nat) : Check Unit := ts.forM push

/-- Pops a type if the block allows it; in an unreachable part the unknown type at the limit
is popped without being removed. -/
def tryPop : Check (Option Nat) := do
  let s ← get
  let lim := s.limits.headD 0
  let n := s.stack.size
  if n ≤ lim then pure none
  else if n == lim + 1 ∧ s.stack[lim]! == unknown then pure (some unknown)
  else
    set { s with stack := s.stack.pop, origins := s.origins.pop }
    pure (some s.stack[n - 1]!)

def pop : Check Nat := do
  match ← tryPop with
  | some t => pure t
  | none =>
    let size := (← get).stack.size
    let lim ← limit
    fail s!"invalid operation: trying to pop at {size} with limit {lim}"

def popExpect (t : Nat) : Check Unit := do
  match ← tryPop with
  | none => fail s!"{nameOf t} missing"
  | some got =>
    if got != t ∧ got != unknown ∧ t != unknown then
      fail s!"type mismatch: expected {nameOf t}, but was {nameOf got}"
    else pure ()

def popFor (ctx : String) (t : Nat) : Check Unit := context ctx (popExpect t)

def unreachable : Check Unit := do
  let lim ← limit
  modify fun s => { s with stack := (s.stack.extract 0 lim).push unknown,
                           origins := (s.origins.extract 0 lim).push .const }

def resetAtLimit : Check Unit := do
  let lim ← limit
  modify fun s => { s with stack := s.stack.extract 0 lim, origins := s.origins.extract 0 lim }

def countError (isParam : Bool) (ctx : String) (found want : List Nat) : String :=
  (if found.length > want.length then "too many " else "not enough ") ++
  (if isParam then "params" else "results") ++
  (if ctx.isEmpty then "" else (if isParam then " for " else " in ") ++ ctx ++ " block") ++
  s!"\n\thave ({namesOf found})\n\twant ({namesOf want})"

def mismatchError (isParam : Bool) (ctx : String) (found want : Nat) (i : Nat) : String :=
  s!"cannot use {nameOf found}" ++ (if ctx.isEmpty then "" else s!" in {ctx} block") ++
  (if isParam then " as param" else " as result") ++ s!"[{i}] type {nameOf want}"

/-- Checks that the stack ends with `want`, popping them; with `exact`, that only an unknown
type is left above the limit. -/
def require (isParam : Bool) (ctx : String) (want : List Nat) (exact : Bool) : Check Unit := do
  let rec popped : Nat → List Nat → Check (Option (List Nat))
    | 0, acc => pure (some acc.reverse)
    | k + 1, acc => do
      match ← tryPop with
      | some t => popped k (t :: acc)
      | none => pure none
  let had := (← get).stack
  match ← popped want.length [] with
  | none =>
    -- the values popped so far, top first
    let s ← get
    let taken := (had.extract s.stack.size had.size).toList.reverse
    fail (countError isParam ctx taken want)
  | some got =>
    let s ← get
    let lim ← limit
    if exact ∧ !(lim == s.stack.size ∨ (lim + 1 == s.stack.size ∧ s.stack[lim]! == unknown)) then
      fail (countError isParam ctx (s.stack.toList ++ want) want)
    else
      let rec compare : Nat → List Nat → List Nat → Check Unit
        | _, [], _ => pure ()
        | _, _, [] => pure ()
        | i, v :: vs, w :: ws =>
          if v != w ∧ v != unknown then fail (mismatchError isParam ctx v w i)
          else compare (i + 1) vs ws
      compare 0 got want.reverse

def bytesText (ts : List Nat) : String := "[" ++ " ".intercalate (ts.map toString) ++ "]"

structure Env where
  module : Module
  funcTypes : Array Nat
  globals : Array (ValType × Bool)
  hasMemory : Bool
  tables : Array Nat
  declared : List Nat
  type : FuncType
  localTypes : Nat → Option ValType
  localCount : Nat

def Env.localType? (env : Env) (i : Nat) : Option ValType :=
  if i < env.type.params.length then env.type.params[i]? else env.localTypes (i - env.type.params.length)

def target (depth : Nat) : Check Target := do
  let s ← get
  match s.ctrls[depth]? with
  | some c => if c.kind == 0 then pure .exit else pure (.label c.label c.branchTypes.length c.height)
  | none => pure .exit

def blockType (env : Env) (bs : Bytes) : Check (FuncType × Nat) := do
  let (raw, n) ← immediate "read block: decode int33: " signed33 bs
  let t : Option ValType := match raw with
    | -1 => some .i32
    | -2 => some .i64
    | -3 => some .f32
    | -4 => some .f64
    | -5 => some .v128
    | -16 => some .funcref
    | -17 => some .externref
    | _ => none
  if raw == -64 then pure (⟨[], []⟩, n)
  else match t with
    | some t => pure (⟨[], [t]⟩, n)
    | none =>
      if raw < 0 ∨ raw ≥ env.module.types.length then fail s!"read block: type index out of range: {raw}"
      else pure (env.module.types[raw.toNat]!, n)

/-- Opens a block of opcode `kind`: its parameters are checked and pushed again. -/
def openBlock (kind : Nat) (ft : FuncType) : Check Ctrl := do
  let label ← newLabel
  let elseLabel ← if kind == 0x04 then newLabel else pure label
  if kind == 0x03 then place label
  let params := codes ft.params
  require true (instrName kind) params false
  pushAll params
  let height := (← get).stack.size - params.length
  let c : Ctrl := ⟨kind, params, codes ft.results, label, elseLabel, height⟩
  modify fun s => { s with limits := height :: s.limits, ctrls := c :: s.ctrls }
  pure c

def memArg (bs : Bytes) : Check (Nat × Nat × Nat) := do
  let (align, a) ← immediate "read memory align: " u32 bs
  let (offset, b) ← immediate "read memory offset: " u32 (bs.drop a)
  pure (align, offset, a + b)

/-- Whether an alignment exponent is too large for `max` bytes, the power taken in `bits`-bit
arithmetic as the runtime does. -/
def alignTooLarge (bits align max : Nat) : Bool :=
  if bits == 64 then align < 63 ∧ Nat.pow 2 align > max else align < bits ∧ Nat.pow 2 align > max

def memoryShape (op : Nat) : Nat × List Nat × List Nat :=
  let i32 := 0x7F
  let i64 := 0x7E
  match op with
  | 0x28 => (4, [i32], [i32])
  | 0x29 => (8, [i32], [i64])
  | 0x2A => (4, [i32], [0x7D])
  | 0x2B => (8, [i32], [0x7C])
  | 0x2C | 0x2D => (1, [i32], [i32])
  | 0x2E | 0x2F => (2, [i32], [i32])
  | 0x30 | 0x31 => (1, [i32], [i64])
  | 0x32 | 0x33 => (2, [i32], [i64])
  | 0x34 | 0x35 => (4, [i32], [i64])
  | 0x36 => (4, [i32, i32], [])
  | 0x37 => (8, [i32, i64], [])
  | 0x38 => (4, [i32, 0x7D], [])
  | 0x39 => (8, [i32, 0x7C], [])
  | 0x3A => (1, [i32, i32], [])
  | 0x3B => (2, [i32, i32], [])
  | 0x3C => (1, [i32, i64], [])
  | 0x3D => (2, [i32, i64], [])
  | _ => (4, [i32, i64], [])

/-- How a numeric operand's failure is worded: `cannot pop the [1st] [T] operand for NAME`. -/
inductive Wording where
  | plain
  | typed
  | first
  | both
  | pair

def numericShape (op : Nat) : Option (Nat × Nat × Wording) :=
  let i32 := 0x7F
  let i64 := 0x7E
  let f32 := 0x7D
  let f64 := 0x7C
  if op == 0x45 then some (i32, i32, .plain)
  else if within? 0x46 0x4F op then some (i32, i32, .both)
  else if op == 0x50 then some (i64, i32, .plain)
  else if within? 0x51 0x5A op then some (i64, i32, .both)
  else if within? 0x5B 0x60 op then some (f32, i32, .both)
  else if within? 0x61 0x66 op then some (f64, i32, .both)
  else if within? 0x67 0x69 op then some (i32, i32, .typed)
  else if within? 0x6A 0x78 op then some (i32, i32, .pair)
  else if within? 0x79 0x7B op then some (i64, i64, .typed)
  else if within? 0x7C 0x8A op then some (i64, i64, .both)
  else if within? 0x8B 0x91 op then some (f32, f32, .first)
  else if within? 0x92 0x98 op then some (f32, f32, .both)
  else if within? 0x99 0x9F op then some (f64, f64, .first)
  else if within? 0xA0 0xA6 op then some (f64, f64, .both)
  else if op == 0xA7 then some (i64, i32, .plain)
  else if op == 0xA8 ∨ op == 0xA9 then some (f32, i32, .typed)
  else if op == 0xAA ∨ op == 0xAB then some (f64, i32, .typed)
  else if op == 0xAC ∨ op == 0xAD then some (i32, i64, .typed)
  else if op == 0xAE ∨ op == 0xAF then some (f32, i64, .typed)
  else if op == 0xB0 ∨ op == 0xB1 then some (f64, i64, .typed)
  else if op == 0xB2 ∨ op == 0xB3 then some (i32, f32, .typed)
  else if op == 0xB4 ∨ op == 0xB5 then some (i64, f32, .typed)
  else if op == 0xB6 then some (f64, f32, .plain)
  else if op == 0xB7 ∨ op == 0xB8 then some (i32, f64, .typed)
  else if op == 0xB9 ∨ op == 0xBA then some (i64, f64, .typed)
  else if op == 0xBB then some (f32, f64, .plain)
  else if op == 0xBC then some (f32, i32, .plain)
  else if op == 0xBD then some (f64, i64, .plain)
  else if op == 0xBE then some (i32, f32, .plain)
  else if op == 0xBF then some (i64, f64, .plain)
  else if op == 0xC0 ∨ op == 0xC1 then some (i32, i32, .plain)
  else if within? 0xC2 0xC4 op then some (i64, i64, .plain)
  else none

def numeric (op : Nat) : Check Unit := do
  match numericShape op with
  | none => fail s!"invalid numeric instruction {hexText op}"
  | some (t, r, w) =>
    let name := instrName op
    match w with
    | .plain => popFor s!"cannot pop the operand for {name}: " t
    | .typed => popFor s!"cannot pop the {nameOf t} operand for {name}: " t
    | .first => popFor s!"cannot pop the 1st {nameOf t} operand for {name}: " t
    | .both =>
      popFor s!"cannot pop the 1st {nameOf t} operand for {name}: " t
      popFor s!"cannot pop the 2nd {nameOf t} operand for {name}: " t
    | .pair =>
      popFor s!"cannot pop the 1st operand for {name}: " t
      popFor s!"cannot pop the 2nd operand for {name}: " t
    push r
    emit (.num op)

def tableAt (env : Env) (i : Nat) : Check Nat :=
  match env.tables[i]? with
  | some t => pure t
  | none => fail s!"table of index {i} not found"

def refByteName (t : Nat) : String :=
  if t == 0x70 then "funcref" else if t == 0x6F then "externref" else s!"unknown({hexText t})"

/-- Checks an instruction after the `0xFC` prefix; gives the bytes read. -/
def misc (env : Env) (bs : Bytes) : Check Nat := do
  let (sub, n) ← immediate "failed to read misc opcode: " u32 bs
  if sub ≥ 256 then fail s!"invalid misc opcode: {hexText sub}"
  let name := miscName sub
  let rest := bs.drop n
  let i32 := 0x7F
  if sub ≤ 7 then
    let (t, r) := match sub with
      | 0 | 1 => (0x7D, i32)
      | 2 | 3 => (0x7C, i32)
      | 4 | 5 => (0x7D, 0x7E)
      | _ => (0x7C, 0x7E)
    popFor s!"cannot pop the operand for {name}: " t
    push r
    emit (.misc sub [])
    pure n
  else if sub ≤ 14 then
    let reserved := fun (bs : Bytes) => do
      let (v, k) ← immediate s!"failed to read memory index for {name}: " u32 bs
      if v != 0 ∨ k != 1 then fail s!"{name} reserved byte must be zero encoded with 1 byte"
      else pure k
    let dataIndex := fun (bs : Bytes) => do
      if env.module.dataCount.isNone then fail s!"{name} requires data count section"
      let (d, k) ← immediate s!"failed to read data segment index for {name}: " u32 bs
      if d ≥ env.module.datas.length then
        fail s!"index {d} out of range of data section(len={env.module.datas.length})"
      else pure (d, k)
    let elemIndex := fun (bs : Bytes) => do
      let (e, k) ← immediate s!"failed to read element segment index for {name}: " u32 bs
      if e ≥ env.module.elems.length then
        fail s!"index {e} out of range of element section(len={env.module.elems.length})"
      else pure (e, k)
    let (params, args, k) ← match sub with
      | 9 => do
        let (d, k) ← dataIndex rest
        pure ([], [d], k)
      | 13 => do
        let (e, k) ← elemIndex rest
        pure ([], [e], k)
      | 12 => do
        let (e, k) ← elemIndex rest
        let (t, k2) ← immediate s!"failed to read source table index for {name}: " u32 (rest.drop k)
        let tt ← tableAt env t
        let et := (env.module.elems[e]?.map fun s => codeOf s.type).getD 0
        if et != tt then
          fail s!"type mismatch for table.init: element type {refByteName et} does not match table type {refByteName tt}"
        pure ([i32, i32, i32], [e, t], k + k2)
      | 14 => do
        let (d, k) ← immediate s!"failed to read destination table index for {name}: " u32 rest
        let dt ← tableAt env d
        let (src, k2) ← immediate s!"failed to read source table index for {name}: " u32 (rest.drop k)
        let st ← tableAt env src
        if st != dt then
          fail s!"table type mismatch for table.copy: {refByteName st} (src) != {refByteName dt} (dst)"
        pure ([i32, i32, i32], [d, src], k + k2)
      | _ => do
        if !env.hasMemory then fail s!"memory must exist for {name}"
        let (args, k) ← if sub == 8 then dataIndex rest >>= fun (d, k) => pure ([d], k) else pure ([], 0)
        let k2 ← reserved (rest.drop k)
        let k3 ← if sub == 10 then reserved (rest.drop (k + k2)) else pure 0
        pure ([i32, i32, i32], args, k + k2 + k3)
    params.forM fun p => popFor s!"cannot pop the operand for {name}: " p
    emit (.misc sub args)
    pure (n + k)
  else if sub ≤ 17 then
    let (t, k) ← immediate s!"failed to read table index for {name}: " u32 rest
    let rt ← tableAt env t
    let (params, results) := match sub with
      | 15 => ([rt, i32], [i32])
      | 16 => ([], [i32])
      | _ => ([i32, rt, i32], [])
    params.reverse.forM fun p => popFor s!"cannot pop the operand for {name}: " p
    pushAll results
    emit (.misc sub [t])
    pure (n + k)
  else fail s!"unknown misc opcode {hexText sub}"

def littleEndian (bs : Bytes) : Nat := bs.foldr (fun b acc => acc * 256 + b.toNat) 0

/-- Checks a vector instruction, the sub-opcode at `pc`; gives the bytes read. -/
def vector (env : Env) (pc size : Nat) (bs : Bytes) : Check Nat := do
  let sub := (bs.head?.map UInt8.toNat).getD 0
  let name := vectorName sub
  let rest := bs.drop 1
  let v128 := 0x7B
  let i32 := 0x7F
  let popOp := fun (t : Nat) => popFor s!"cannot pop the operand for {name}: " t
  let lane := fun (at_ lanes : Nat) (missing : String) => do
    if pc + at_ ≥ size then fail s!"lane for {missing} not found"
    let l := ((bs.drop at_).head?.map UInt8.toNat).getD 0
    if l ≥ lanes then fail s!"invalid lane index {l} >= {lanes} for {name}"
    pure l
  match vecShape sub with
  | none => fail s!"unknown SIMD instruction {name}"
  | some .const =>
    if pc + 16 ≥ size then fail s!"cannot read constant vector value for {name}"
    push v128
    setTop .const
    emit (.vec sub [littleEndian (rest.take 16)])
    pure 17
  | some (.load maxAlign) =>
    if !env.hasMemory then fail s!"memory must exist for {name}"
    let (align, offset, k) ← memArg rest
    if alignTooLarge 32 align maxAlign then fail s!"invalid memory alignment {align} for {name}"
    popOp i32
    push v128
    emit (.vec sub [offset])
    pure (1 + k)
  | some .store =>
    if !env.hasMemory then fail s!"memory must exist for {name}"
    let (align, offset, k) ← memArg rest
    if alignTooLarge 64 align 16 then fail s!"invalid memory alignment {align} for {name}"
    popOp v128
    popOp i32
    emit (.vec sub [offset])
    pure (1 + k)
  | some (.loadLane maxAlign lanes) =>
    if !env.hasMemory then fail s!"memory must exist for {name}"
    let (align, offset, k) ← memArg rest
    if alignTooLarge 32 align maxAlign then fail s!"invalid memory alignment {align} for {name}"
    let l ← lane (1 + k) lanes "v128.load64_lane"
    popOp v128
    popOp i32
    push v128
    emit (.vec sub [offset, l])
    pure (2 + k)
  | some (.storeLane maxAlign lanes) =>
    if !env.hasMemory then fail s!"memory must exist for {name}"
    let (align, offset, k) ← memArg rest
    if alignTooLarge 32 align maxAlign then fail s!"invalid memory alignment {align} for {name}"
    let l ← lane (1 + k) lanes name
    popOp v128
    popOp i32
    emit (.vec sub [offset, l])
    pure (2 + k)
  | some (.extract lanes result) =>
    let l ← lane 1 lanes name
    popOp v128
    push (codeOf result)
    emit (.vec sub [l])
    pure 2
  | some (.replace lanes param) =>
    let l ← lane 1 lanes name
    popOp (codeOf param)
    popOp v128
    push v128
    emit (.vec sub [l])
    pure 2
  | some (.splat param) =>
    popOp (codeOf param)
    push v128
    emit (.vec sub [])
    pure 1
  | some .shuffle =>
    if pc + 16 ≥ size then fail s!"16 lane indexes for {name} not found"
    let lanes := (rest.take 16).map UInt8.toNat
    match (lanes.zip (List.range 16)).find? (fun (l, _) => l ≥ 32) with
    | some (l, i) => fail s!"invalid lane index[{i}] {l} >= 32 for {name}"
    | none => pure ()
    popOp v128
    popOp v128
    push v128
    emit (.vec sub lanes)
    pure 17
  | some .test =>
    popOp v128
    push i32
    emit (.vec sub [])
    pure 1
  | some .shift =>
    popOp i32
    popOp v128
    push v128
    emit (.vec sub [])
    pure 1
  | some .unary =>
    popOp v128
    push v128
    emit (.vec sub [])
    pure 1
  | some .binary =>
    popOp v128
    popOp v128
    push v128
    emit (.vec sub [])
    pure 1
  | some .ternary =>
    popOp v128
    popOp v128
    popOp v128
    push v128
    emit (.vec sub [])
    pure 1

/-- Checks the instruction of opcode `op` at `pc`; gives the immediate bytes it takes. -/
def instr (env : Env) (pc size op : Nat) (bs : Bytes) : Check Nat := do
  let i32 := 0x7F
  if within? 0x28 0x3E op then
    if !env.hasMemory then fail s!"memory must exist for {instrName op}"
    let (align, offset, k) ← memArg bs
    let (width, params, results) := memoryShape op
    if alignTooLarge 64 align width then fail "invalid memory alignment"
    params.reverse.forM popExpect
    pushAll results
    emit (if op ≤ 0x35 then .load op offset else .store op offset)
    pure k
  else if op == 0x3F ∨ op == 0x40 then
    if !env.hasMemory then fail s!"memory must exist for {instrName op}"
    let (v, k) ← immediate "read immediate: " u32 bs
    if v != 0 ∨ k != 1 then fail "memory instruction reserved bytes not zero with 1 byte"
    if op == 0x40 then popExpect i32
    push i32
    emit (if op == 0x3F then .memorySize else .memoryGrow)
    pure k
  else if op == 0x41 then
    let (v, k) ← immediate "read i32 immediate: " (signed 32) bs
    push i32
    setTop .const
    emit (.const (.i32 (UInt32.ofInt v)))
    pure k
  else if op == 0x42 then
    let (v, k) ← immediate "read i64 immediate: " (signed 64) bs
    push 0x7E
    setTop .const
    emit (.const (.i64 (UInt64.ofInt v)))
    pure k
  else if op == 0x43 then
    push 0x7D
    setTop .const
    emit (.const (.f32 (UInt32.ofNat (littleEndian (bs.take 4)))))
    pure 4
  else if op == 0x44 then
    push 0x7C
    setTop .const
    emit (.const (.f64 (UInt64.ofNat (littleEndian (bs.take 8)))))
    pure 8
  else if within? 0x20 0x24 op then
    let (i, k) ← immediate "read immediate: " u32 bs
    let localOf := fun (what : String) => do
      let total := env.type.params.length + env.localCount
      if i ≥ total then
        fail s!"invalid local index for {what} {i} >= {total}(=len(locals)+len(parameters))"
      else pure (codeOf ((env.localType? i).getD .i32))
    match op with
    | 0x20 => do
      push (← localOf "local.get")
      setTop (((← get).localOrigins.lookup i).getD .const)
      emit (.localGet i)
    | 0x21 => do
      let o ← topOrigin
      popExpect (← localOf "local.set")
      setLocal i o
      emit (.localSet i)
    | 0x22 => do
      let t ← localOf "local.tee"
      let o ← topOrigin
      popExpect t
      push t
      setTop o
      setLocal i o
      emit (.localTee i)
    | 0x23 =>
      match env.globals[i]? with
      | none => fail "invalid index for global.get"
      | some (t, _) =>
        push (codeOf t)
        emit (.globalGet i)
    | _ =>
      match env.globals[i]? with
      | none => fail "invalid global index"
      | some (t, mutable) =>
        if !mutable then fail "global.set when not mutable"
        popExpect (codeOf t)
        emit (.globalSet i)
    pure k
  else if op == 0x0C then
    let (d, k) ← immediate "read immediate: " u32 bs
    let s ← get
    match s.ctrls[d]? with
    | none => fail "invalid br operation: index out of range"
    | some c =>
      require false "br" c.branchTypes false
      emit (.br (← target d))
      unreachable
      pure k
  else if op == 0x0D then
    let (d, k) ← immediate "read immediate: " u32 bs
    let s ← get
    match s.ctrls[d]? with
    | none =>
      fail s!"invalid ln param given for br_if: index={d} with {s.ctrls.length} for the current label stack length"
    | some c =>
      context "cannot pop the required operand for br_if" (do
        match ← tryPop with
        | none => fail ""
        | some t => if t != i32 ∧ t != unknown then fail "" else pure ())
      require false "br_if" c.branchTypes false
      pushAll c.branchTypes
      emit (.brIf (← target d))
      pure k
  else if op == 0x0E then
    let (n, k) ← immediate "read immediate: " u32 bs
    let (ls, k2) ← immediate "read immediate: " (Decode.items n fun _ => u32) (bs.drop k)
    let (dflt, k3) ← immediate "read immediate: " u32 (bs.drop (k + k2))
    let s ← get
    match s.ctrls[dflt]? with
    | none =>
      fail s!"invalid ln param given for br_table: ln={dflt} with {s.ctrls.length} for the current label stack length"
    | some c =>
      context "cannot pop the required operand for br_table" (do
        match ← tryPop with
        | none => fail ""
        | some t => if t != i32 ∧ t != unknown then fail "" else pure ())
      let want := c.branchTypes
      -- each carried value is popped; an unknown one leaves its expected type open
      let rec carried : Nat → List Nat → List Nat → Check (List Nat)
        | _, [], acc => pure acc
        | i, w :: ws, acc => do
          let t ← pop
          if t == unknown then carried (i + 1) ws (unknown :: acc)
          else if t != w then fail (mismatchError true "br_table" t w i)
          else carried (i + 1) ws (w :: acc)
      let expected ← carried 0 want.reverse []
      for l in ls do
        let s ← get
        match s.ctrls[l]? with
        | none => fail "invalid l param given for br_table"
        | some lc =>
          let types := lc.branchTypes
          if types.length != expected.length then
            let shown := bytesText expected
            let other := bytesText types
            fail s!"inconsistent block type length for br_table at {l}; {shown} (ln={dflt}) != {other} (l={l})"
          if (expected.zip types).any fun (e, t) => e != unknown ∧ e != t then
            fail s!"incosistent block type for br_table at {l}"
      let targets ← ls.mapM target
      emit (.brTable targets.toArray (← target dflt))
      unreachable
      pure (k + k2 + k3)
  else if op == 0x10 then
    let (f, k) ← immediate "read immediate: " u32 bs
    match env.funcTypes[f]? with
    | none => fail "invalid function index"
    | some ti =>
      let ft := env.module.types[ti]!
      context "type mismatch on call operation param type: " ((codes ft.params).reverse.forM popExpect)
      emitCall (.call f) ft
      pushAll (codes ft.results)
      pure k
  else if op == 0x11 then
    let (ti, k) ← immediate "read immediate: " u32 bs
    if ti ≥ env.module.types.length then fail s!"invalid type index at call_indirect: {ti}"
    let (t, k2) ← immediate "read table index: " u32 (bs.drop k)
    if t ≥ env.tables.size then fail s!"unknown table index: {t}"
    let tt := env.tables[t]!
    if tt != 0x70 then
      fail s!"table is not funcref type but was {refByteName tt} for call_indirect"
    context "cannot pop the offset in table for call_indirect" (do
      match ← tryPop with
      | none => fail ""
      | some x => if x != i32 ∧ x != unknown then fail "" else pure ())
    let ft := env.module.types[ti]!
    context "type mismatch on call_indirect operation input type" (do
      for p in (codes ft.params).reverse do
        match ← tryPop with
        | none => fail ""
        | some x => if x != p ∧ x != unknown then fail "" else pure ())
    emitCall (.callIndirect ti t) ft
    pushAll (codes ft.results)
    pure (k + k2)
  else if within? 0x45 0xC4 op then
    numeric op
    pure 0
  else if within? 0xD0 0xD2 op then
    if op == 0xD0 then
      let t := (bs.head?.map UInt8.toNat).getD 0
      if t == 0x6F ∨ t == 0x70 then push t
      else fail s!"unknown type for ref.null: {hexText t}"
      setTop .const
      emit (.const (.ref none))
      pure 1
    else if op == 0xD1 then
      match ← context "cannot pop the operand for ref.is_null: " pop with
      | t =>
        if t != 0x70 ∧ t != 0x6F ∧ t != unknown then
          fail s!"type mismatch: expected reference type but was {nameOf t}"
      push i32
      emit .refIsNull
      pure 0
    else
      let (f, k) ← immediate "failed to read function index for ref.func: " u32 bs
      if !env.declared.contains f then fail s!"undeclared function index {f} for ref.func"
      push 0x70
      emit (.refFunc f)
      pure k
  else if op == 0x25 ∨ op == 0x26 then
    let (t, k) ← immediate "read immediate: " u32 bs
    if t ≥ env.tables.size then fail s!"table of index {t} not found"
    let rt := env.tables[t]!
    if op == 0x25 then
      popFor "cannot pop the operand for table.get: " i32
      push rt
      emit (.tableGet t)
    else
      popFor "cannot pop the operand for table.set: " rt
      popFor "cannot pop the operand for table.set: " i32
      emit (.tableSet t)
    pure k
  else if op == 0xFC then
    misc env bs
  else if op == 0xFD then
    vector env (pc + 1) size bs
  else if op == 0xFE then
    let sub := (bs.head?.map UInt8.toNat).getD 0
    fail s!"{atomicName sub} invalid as feature \"\" is disabled"
  else if op == 0x02 ∨ op == 0x03 then
    let (ft, k) ← blockType env bs
    discard (openBlock op ft)
    pure k
  else if op == 0x04 then
    let (ft, k) ← blockType env bs
    popFor "cannot pop the operand for 'if': " i32
    let label ← newLabel
    let elseLabel ← newLabel
    let params := codes ft.params
    require true "if" params false
    pushAll params
    let height := (← get).stack.size - params.length
    let c : Ctrl := ⟨0x04, params, codes ft.results, label, elseLabel, height⟩
    modify fun s => { s with limits := height :: s.limits, ctrls := c :: s.ctrls }
    emit (.brUnless elseLabel)
    pure k
  else if op == 0x05 then
    let s ← get
    match s.ctrls with
    | c :: rest =>
      if c.kind != 0x04 then fail s!"else instruction must be used in if block: {hexText pc}"
      require false "if" c.results true
      resetAtLimit
      pushAll c.params
      emit (.jump c.label)
      place c.elseLabel
      modify fun s => { s with ctrls := { c with kind := 0x05 } :: rest }
      pure 0
    | [] => fail s!"else instruction must be used in if block: {hexText pc}"
  else if op == 0x0B then
    let s ← get
    match s.ctrls with
    | c :: rest =>
      set { s with ctrls := rest }
      if c.kind == 0x04 then
        if c.results != c.params then fail (countError false "else" c.params c.results)
      let ctx := if c.kind == 0 then "" else instrName c.kind
      -- the innermost limit is still the block's own while its results are checked
      require false ctx c.results true
      resetAtLimit
      pushAll c.results
      modify fun s => { s with limits := s.limits.drop 1 }
      if c.kind == 0 then emit .ret
      else
        if c.kind == 0x04 then place c.elseLabel
        if c.kind != 0x03 then place c.label
      pure 0
    | [] => fail s!"unexpected end of function at pc={hexText pc}"
  else if op == 0x0F then
    require false "" (codes env.type.results) false
    unreachable
    emit .ret
    pure 0
  else if op == 0x1A then
    discard (context "invalid drop: " pop)
    emit .drop
    pure 0
  else if op == 0x1B ∨ op == 0x1C then
    popFor "type mismatch on 3rd select operand: " i32
    let v1 ← context "invalid select: " pop
    let v2 ← context "invalid select: " pop
    let k ← if op == 0x1C then do
        let count := (bs.head?.map UInt8.toNat).getD 0
        if count != 1 then fail s!"too many type immediates for {instrName op}"
        let t := ((bs.drop 1).head?.map UInt8.toNat).getD 0
        if (ValType.ofCode? t).isNone then fail s!"invalid type {nameOf t} for typed_select"
        pure 2
      else do
        let isRef := fun (t : Nat) => t == 0x70 ∨ t == 0x6F
        if isRef v1 ∨ isRef v2 then fail "reference types cannot be used for non typed select instruction"
        pure 0
    if v1 != v2 ∧ v1 != unknown ∧ v2 != unknown then fail "type mismatch on 1st and 2nd select operands"
    push (if v1 == unknown then v2 else v1)
    emit .select
    pure k
  else if op == 0x00 then
    unreachable
    emit .unreachable
    pure 0
  else if op == 0x01 then
    pure 0
  else fail s!"invalid instruction {hexText op}"

def loop (env : Env) (size : Nat) : Nat → Nat → Bytes → Check Unit
  | 0, _, _ => pure ()
  | fuel + 1, pc, rest => do
    if pc ≥ size then return
    if (← get).ctrls.isEmpty then fail s!"unexpected end of function at pc={hexText pc}"
    let op := (rest.head?.map UInt8.toNat).getD 0
    let k ← instr env pc size op (rest.drop 1)
    loop env size fuel (pc + 1 + k) (rest.drop (1 + k))

def resolve (labels : Array Nat) : Target → Target
  | .label l keep height => .label (labels.getD l 0) keep height
  | .exit => .exit

def resolveOp (labels : Array Nat) : Op → Op
  | .jump l => .jump (labels.getD l 0)
  | .brUnless l => .brUnless (labels.getD l 0)
  | .br t => .br (resolve labels t)
  | .brIf t => .brIf (resolve labels t)
  | .brTable ts d => .brTable (ts.map (resolve labels)) (resolve labels d)
  | op => op

end Typing

/-- Checks and compiles a function body, given the module's function types, globals, table
element types and the functions `ref.func` may name. -/
def checkBody (m : Module) (funcTypes : Array Nat) (globals : Array (ValType × Bool)) (tables : Array Nat)
    (declared : List Nat) (type : FuncType) (code : Code) : Except String Body :=
  let env : Typing.Env := {
    module := m, funcTypes := funcTypes, globals := globals, hasMemory := m.memory.isSome || m.importedMemory.isSome,
    tables := tables, declared := declared, type := type, localTypes := code.localType?,
    localCount := code.localCount }
  let size := code.body.length
  let fn : Typing.Ctrl := ⟨0, [], Typing.codes type.results, 0, 0, 0⟩
  let params := type.params.length
  let paramOrigins := (List.range params).map fun i => Origin.value (2 + i) (type.params[i]? == some .v128)
  let start : Typing.State := {
    ctrls := [fn], labels := #[0], nextValue := 2 + params,
    localOrigins := (List.range params).zip paramOrigins }
  match (Typing.loop env size (size + 1) 0 code.body) start with
  | .error e => .error e
  | .ok ((), s) =>
    if !s.ctrls.isEmpty then .error "ill-nested block exists"
    else
      let zeros := code.locals.foldl (fun acc (n, t) => acc ++ Array.replicate n (Value.zero t)) #[]
      let code := s.code.map (Typing.resolveOp s.labels)
      .ok ⟨type, zeros, code, frameSize code s.calls⟩

end Wasm

end InferenceBroker
