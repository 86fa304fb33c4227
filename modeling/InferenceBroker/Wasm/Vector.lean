import InferenceBroker.Wasm.Syntax

/-!
# Shapes of vector instructions

What a vector instruction takes from the stack, leaves on it, and which immediates follow:
all validation needs.
-/

namespace InferenceBroker

namespace Wasm

inductive VecShape where
  /-- `v128.const`: sixteen bytes. -/
  | const
  /-- A load of a vector from an address, with the largest alignment it allows. -/
  | load (maxAlign : Nat)
  | store
  /-- A load into one lane of a vector. -/
  | loadLane (maxAlign lanes : Nat)
  /-- A store of one lane of a vector. -/
  | storeLane (maxAlign lanes : Nat)
  /-- A lane read out as a scalar. -/
  | extract (lanes : Nat) (result : ValType)
  /-- A lane replaced by a scalar. -/
  | replace (lanes : Nat) (param : ValType)
  /-- A scalar copied into every lane. -/
  | splat (param : ValType)
  /-- `i8x16.shuffle`: sixteen lane indices. -/
  | shuffle
  /-- A test of a vector giving an `i32`. -/
  | test
  /-- A shift of every lane by an `i32`. -/
  | shift
  | unary
  | binary
  /-- `v128.bitselect`. -/
  | ternary
  deriving Repr, Inhabited

def within? (lo hi n : Nat) : Bool := lo ≤ n && n ≤ hi

def isVecBinary (op : Nat) : Bool :=
  op == 0x0E || within? 0x23 0x4C op || within? 0x4E 0x51 op || op == 0x65 || op == 0x66 ||
  within? 0x6E 0x73 op || within? 0x76 0x79 op || op == 0x7B || op == 0x82 || op == 0x85 ||
  op == 0x86 || within? 0x8E 0x93 op || within? 0x95 0x99 op || within? 0x9B 0x9F op ||
  op == 0xAE || op == 0xB1 || within? 0xB5 0xBA op || within? 0xBC 0xBF op || op == 0xCE ||
  op == 0xD1 || within? 0xD5 0xDF op || within? 0xE4 0xEB op || within? 0xF0 0xF7 op

def isVecUnary (op : Nat) : Bool :=
  op == 0x4D || op == 0x5E || op == 0x5F || within? 0x60 0x62 op || within? 0x67 0x6A op ||
  op == 0x74 || op == 0x75 || op == 0x7A || within? 0x7C 0x81 op || within? 0x87 0x8A op ||
  op == 0x94 || op == 0xA0 || op == 0xA1 || within? 0xA7 0xAA op || op == 0xC0 || op == 0xC1 ||
  within? 0xC7 0xCA op || op == 0xE0 || op == 0xE1 || op == 0xE3 || op == 0xEC || op == 0xED ||
  op == 0xEF || within? 0xF8 0xFF op

def vecShape (op : Nat) : Option VecShape :=
  match op with
  | 0x00 => some (.load 16)
  | 0x07 => some (.load 1)
  | 0x08 => some (.load 2)
  | 0x09 => some (.load 4)
  | 0x0A => some (.load 8)
  | 0x0B => some .store
  | 0x0C => some .const
  | 0x0D => some .shuffle
  | 0x0F | 0x10 | 0x11 => some (.splat .i32)
  | 0x12 => some (.splat .i64)
  | 0x13 => some (.splat .f32)
  | 0x14 => some (.splat .f64)
  | 0x15 | 0x16 => some (.extract 16 .i32)
  | 0x17 => some (.replace 16 .i32)
  | 0x18 | 0x19 => some (.extract 8 .i32)
  | 0x1A => some (.replace 8 .i32)
  | 0x1B => some (.extract 4 .i32)
  | 0x1C => some (.replace 4 .i32)
  | 0x1D => some (.extract 2 .i64)
  | 0x1E => some (.replace 2 .i64)
  | 0x1F => some (.extract 4 .f32)
  | 0x20 => some (.replace 4 .f32)
  | 0x21 => some (.extract 2 .f64)
  | 0x22 => some (.replace 2 .f64)
  | 0x52 => some .ternary
  | 0x53 | 0x63 | 0x64 | 0x83 | 0x84 | 0xA3 | 0xA4 | 0xC3 | 0xC4 => some .test
  | 0x54 => some (.loadLane 1 16)
  | 0x55 => some (.loadLane 2 8)
  | 0x56 => some (.loadLane 4 4)
  | 0x57 => some (.loadLane 8 2)
  | 0x58 => some (.storeLane 1 16)
  | 0x59 => some (.storeLane 2 8)
  | 0x5A => some (.storeLane 4 4)
  | 0x5B => some (.storeLane 8 2)
  | 0x5C => some (.load 4)
  | 0x5D => some (.load 8)
  | 0x6B | 0x6C | 0x6D | 0x8B | 0x8C | 0x8D | 0xAB | 0xAC | 0xAD | 0xCB | 0xCC | 0xCD => some .shift
  | _ =>
    if within? 0x01 0x06 op then some (.load 8)
    else if isVecBinary op then some .binary
    else if isVecUnary op then some .unary
    else none

end Wasm

end InferenceBroker
