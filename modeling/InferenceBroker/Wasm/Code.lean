import InferenceBroker.Wasm.Numeric

/-!
# Compiled code

Validation turns a body into a flat array of operations run with one program counter per
call. Blocks leave nothing behind: each branch knows its target instruction, how many values
it carries and the target's stack height, so taking it is a move and a jump; a branch out of
the function is a return.
-/

namespace InferenceBroker

namespace Wasm

inductive Target where
  /-- to `pc`, carrying the top `keep` values onto a stack cut to `height` -/
  | label (pc keep height : Nat)
  /-- out of the function, as a return -/
  | exit
  deriving Repr, Inhabited

inductive Op where
  | unreachable
  | nop
  | jump (pc : Nat)
  | br (t : Target)
  | brIf (t : Target)
  | brTable (targets : Array Target) (default : Target)
  /-- takes a condition and goes on at `pc` if it is zero: the start of an `if` -/
  | brUnless (pc : Nat)
  | ret
  | call (func : Nat)
  | callIndirect (type table : Nat)
  | drop
  | select
  | localGet (i : Nat)
  | localSet (i : Nat)
  | localTee (i : Nat)
  | globalGet (i : Nat)
  | globalSet (i : Nat)
  | tableGet (t : Nat)
  | tableSet (t : Nat)
  | load (op offset : Nat)
  | store (op offset : Nat)
  | memorySize
  | memoryGrow
  | const (v : Value)
  | refIsNull
  | refFunc (i : Nat)
  | num (op : Nat)
  /-- after the `0xFC` prefix, with its index immediates -/
  | misc (op : Nat) (args : List Nat)
  /-- after the `0xFD` prefix, with its immediates -/
  | vec (op : Nat) (args : List Nat)
  deriving Repr, Inhabited

/-- A call's share of the machine stack: its frame's bytes, and the bytes its entry check
requires free below the frame. -/
structure FrameSize where
  bytes : Nat
  need : Nat
  deriving Repr, Inhabited

/-- A compiled function: type, zero values of its declared locals, code, and frame size. -/
structure Body where
  type : FuncType
  locals : Array Value
  code : Array Op
  frame : FrameSize
  deriving Repr, Inhabited

namespace Op

def reads : Op → Option Nat
  | .localGet i => some i
  | _ => none

/-- The instructions a branch may go back to. -/
def targets : Op → List Nat
  | .br (.label pc _ _) | .brIf (.label pc _ _) => [pc]
  | .brTable ts d => (ts.toList ++ [d]).filterMap fun
      | .label pc _ _ => some pc
      | .exit => none
  | _ => []

end Op

/-- Where an operand comes from for register allocation: a constant, made again at each use,
or a numbered value of its own, marked when a 16-byte vector. -/
inductive Origin where
  | const
  | value (id : Nat) (wide : Bool)
  deriving DecidableEq, Repr, Inhabited

def Origin.slot : Origin → Nat
  | .const => 0
  | .value _ wide => if wide then 16 else 8

/-- The execution context, which code needs to call, trap or leave. -/
def execContext : Origin := .value 0 false

/-- The module context, through which code reaches the instance. -/
def moduleContext : Origin := .value 1 false

/-- A call in a body: position, operands under its arguments, values of the locals holding
one (the others a constant zero), and its stack argument and result bytes. -/
structure CallSite where
  pos : Nat
  below : List Origin
  locals : List (Nat × Origin)
  stackBytes : Nat

/-- The bytes of arguments and results a call of type `ft` passes on the stack: those past
seven integer and eight float argument registers (two more carry the contexts) and nine
integer and eight float result registers; eight bytes each, sixteen for a vector, rounded up
to sixteen. -/
def stackBytes (ft : FuncType) : Nat :=
  let isFloat := fun (t : ValType) => t == .f32 || t == .f64 || t == .v128
  let beyond := fun (ts : List ValType) (ints floats : Nat) =>
    ((ts.filter (!isFloat ·)).length - ints) * 8 +
      (((ts.filter isFloat).drop floats).map fun t => if t == .v128 then 16 else 8).foldr (· + ·) 0
  (beyond ft.params 7 8 + beyond ft.results 9 8 + 15) / 16 * 16

namespace Op

/-- Whether an operation accesses memory at an address it checks first. -/
def checksBounds : Op → Bool
  | .load _ _ | .store _ _ => true
  | .vec op _ => op ≤ 0x0B || (0x54 ≤ op && op ≤ 0x5D)
  | _ => false

/-- Whether an operation needs the execution context: a call, or one that may trap. -/
def needsExec : Op → Bool
  | .unreachable | .call _ | .callIndirect _ _ | .memoryGrow | .tableGet _ | .tableSet _
  | .refFunc _ => true
  | .num op => (0x6D ≤ op && op ≤ 0x70) || (0x7F ≤ op && op ≤ 0x82) ||
    (0xA8 ≤ op && op ≤ 0xB1 && op != 0xAC && op != 0xAD)
  | .misc op _ => op ≥ 8
  | op => op.checksBounds

def needsModule : Op → Bool
  | .call _ | .callIndirect _ _ | .memorySize | .memoryGrow | .globalGet _ | .globalSet _
  | .tableGet _ | .tableSet _ | .refFunc _ => true
  | .misc op _ => op ≥ 8
  | op => op.checksBounds

end Op

/-- The code that may run after the call at `pos`: the rest, and the part a loop goes back over. -/
def regionAfter (code : Array Op) (pos : Nat) : Array Op × Array Op :=
  let rest := code.extract (pos + 1) code.size
  let back := rest.foldl (fun b op => (op.targets.filter (· ≤ pos)).foldl min b) pos
  (rest, code.extract back pos)

/-- The locals read after a call: in the rest those read before written, in a loop's part all read. -/
def localsReadAfter (rest back : Array Op) : List Nat :=
  let (read, _) := rest.foldl (fun (read, written) op =>
    match op with
    | .localGet i => if written.contains i then (read, written) else (i :: read, written)
    | .localSet i | .localTee i => (read, i :: written)
    | _ => (read, written)) (([] : List Nat), ([] : List Nat))
  (read ++ back.toList.filterMap Op.reads).eraseDups

/-- The values that outlive a call: operands under its arguments, locals read after it, and
the contexts needed; constants are made again. -/
def CallSite.liveAcross (code : Array Op) (site : CallSite) : List Origin :=
  let (rest, back) := regionAfter code site.pos
  let region := rest ++ back
  let locals := (localsReadAfter rest back).map fun i => (site.locals.lookup i).getD .const
  let contexts := (if region.any Op.needsExec then [execContext] else []) ++
    (if region.any Op.needsModule then [moduleContext] else [])
  (site.below ++ locals ++ contexts).filter (· != .const)

/-- A body's frame. Each value outliving a call has a spill slot (eight bytes, sixteen for a
vector, rounded up to sixteen); a value kept through a call, or a checked access, also takes a
callee-saved register (eight bytes, sixteen for the entry check). The frame adds the return
address and frame pointer; the entry check adds, for a body that calls, its calls' stack
arguments, sixteen bytes per call and thirty-two more. -/
def frameSize (code : Array Op) (sites : List CallSite) : FrameSize :=
  let live := (sites.flatMap (·.liveAcross code)).eraseDups
  let spill := ((live.map Origin.slot).foldr (· + ·) 0 + 15) / 16 * 16
  let kept := live.any fun o => o != execContext && o != moduleContext
  let saved := if kept || code.any Op.checksBounds then 1 else 0
  let calls := if sites.isEmpty then 0 else 16 + sites.foldl (fun m s => max m s.stackBytes) 0
  ⟨16 + 8 * saved + spill, calls + 16 * saved + spill + 32⟩

end Wasm

end InferenceBroker
