import InferenceBroker.Wasm.Syntax
import InferenceBroker.Wasm.Float

/-!
# Values and numeric instructions

Values are 32- and 64-bit integers, floats as bit patterns, and references. Integer
arithmetic wraps, shift and rotate counts are taken modulo the width, division by zero traps
(`integer divide by zero`) and the smallest signed number divided by -1 overflows. Floats use
`FloatFormat`; truncation traps on a NaN (`invalid conversion to integer`) or out of range
(`integer overflow`), and its saturating forms clamp.
-/

namespace InferenceBroker

namespace Wasm

inductive Value where
  | i32 (v : UInt32)
  | i64 (v : UInt64)
  | f32 (bits : UInt32)
  | f64 (bits : UInt64)
  | v128 (bits : Nat)
  | ref (func : Option Nat)
  deriving DecidableEq, Repr, Inhabited

namespace Value

def zero : ValType → Value
  | .i32 => .i32 0
  | .i64 => .i64 0
  | .f32 => .f32 0
  | .f64 => .f64 0
  | .v128 => .v128 0
  | _ => .ref none

/-- The value as the 64-bit word an embedder sees. -/
def word : Value → UInt64
  | .i32 v => v.toUInt64
  | .i64 v => v
  | .f32 b => b.toUInt64
  | .f64 b => b
  | .v128 b => UInt64.ofNat b
  | .ref _ => 0

def ofWord (t : ValType) (w : UInt64) : Value :=
  match t with
  | .i32 => .i32 w.toUInt32
  | .i64 => .i64 w
  | .f32 => .f32 w.toUInt32
  | .f64 => .f64 w
  | .v128 => .v128 w.toNat
  | _ => .ref none

/-- Values of types `ts` from an embedder's words, a vector from two (low half first). -/
def ofWords : List ValType → List UInt64 → List Value
  | .v128 :: ts, lo :: hi :: ws => .v128 (lo.toNat + hi.toNat * Nat.pow 2 64) :: ofWords ts ws
  | t :: ts, w :: ws => ofWord t w :: ofWords ts ws
  | _, _ => []

def words : Value → List UInt64
  | .v128 b => [UInt64.ofNat b, UInt64.ofNat (b / Nat.pow 2 64)]
  | v => [v.word]

def flag (c : Bool) : Value := .i32 (if c then 1 else 0)

end Value

inductive Trap where
  | unreachable
  | memoryOutOfBounds
  | divideByZero
  | overflow
  | invalidConversion
  | tableOutOfBounds
  | indirectTypeMismatch
  | stackOverflow
  | unsupported (what : String)
  deriving DecidableEq, Repr, Inhabited

namespace Trap

def message : Trap → String
  | .unreachable => "wasm error: unreachable"
  | .memoryOutOfBounds => "wasm error: out of bounds memory access"
  | .divideByZero => "wasm error: integer divide by zero"
  | .overflow => "wasm error: integer overflow"
  | .invalidConversion => "wasm error: invalid conversion to integer"
  | .tableOutOfBounds => "wasm error: invalid table access"
  | .indirectTypeMismatch => "wasm error: indirect call type mismatch"
  | .stackOverflow => "stack overflow"
  | .unsupported what => s!"wasm error: unsupported instruction {what}"

end Trap

def signed32 (v : UInt32) : Int := if v.toNat < Nat.pow 2 31 then v.toNat else (v.toNat : Int) - Nat.pow 2 32

def signed64 (v : UInt64) : Int := if v.toNat < Nat.pow 2 63 then v.toNat else (v.toNat : Int) - Nat.pow 2 64

def clz (n v : Nat) : Nat := (List.range n).find? (fun i => v / Nat.pow 2 (n - 1 - i) % 2 == 1) |>.getD n

def ctz (n v : Nat) : Nat := (List.range n).find? (fun i => v / Nat.pow 2 i % 2 == 1) |>.getD n

def popcnt (n v : Nat) : Nat := ((List.range n).filter fun i => v / Nat.pow 2 i % 2 == 1).length

def rotl (n v k : Nat) : Nat :=
  let k := k % n
  (v * Nat.pow 2 k % Nat.pow 2 n) + v / Nat.pow 2 (n - k)

/-- Sign-extends the low `bits` bits into `n` bits. -/
def extendSigned (n bits v : Nat) : Nat :=
  let low := v % Nat.pow 2 bits
  if low < Nat.pow 2 (bits - 1) then low else low + Nat.pow 2 n - Nat.pow 2 bits

def divTrunc (a b : Int) : Int := Int.tdiv a b

def remTrunc (a b : Int) : Int := Int.tmod a b

/-- Signed order on 32-bit words: flipping the sign bit turns it into unsigned order. -/
def lt32 (a b : UInt32) : Bool := (a ^^^ 0x80000000) < (b ^^^ 0x80000000)

def lt64 (a b : UInt64) : Bool := (a ^^^ 0x8000000000000000) < (b ^^^ 0x8000000000000000)

def binary32 (op : Nat) (a b : UInt32) : Except Trap Value :=
  match op with
  | 0x46 => .ok (Value.flag (a == b))
  | 0x47 => .ok (Value.flag (a != b))
  | 0x48 => .ok (Value.flag (lt32 a b))
  | 0x49 => .ok (Value.flag (a < b))
  | 0x4A => .ok (Value.flag (lt32 b a))
  | 0x4B => .ok (Value.flag (b < a))
  | 0x4C => .ok (Value.flag (!lt32 b a))
  | 0x4D => .ok (Value.flag (a ≤ b))
  | 0x4E => .ok (Value.flag (!lt32 a b))
  | 0x4F => .ok (Value.flag (b ≤ a))
  | 0x6A => .ok (.i32 (a + b))
  | 0x6B => .ok (.i32 (a - b))
  | 0x6C => .ok (.i32 (a * b))
  | 0x6D =>
    if b == 0 then .error .divideByZero
    else if a == 0x80000000 && b == 0xFFFFFFFF then .error .overflow
    else .ok (.i32 (UInt32.ofInt (divTrunc (signed32 a) (signed32 b))))
  | 0x6E => if b == 0 then .error .divideByZero else .ok (.i32 (a / b))
  | 0x6F =>
    if b == 0 then .error .divideByZero
    else .ok (.i32 (UInt32.ofInt (remTrunc (signed32 a) (signed32 b))))
  | 0x70 => if b == 0 then .error .divideByZero else .ok (.i32 (a % b))
  | 0x71 => .ok (.i32 (a &&& b))
  | 0x72 => .ok (.i32 (a ||| b))
  | 0x73 => .ok (.i32 (a ^^^ b))
  | 0x74 => .ok (.i32 (a <<< b))
  | 0x75 => .ok (.i32 (UInt32.ofInt (Int.fdiv (signed32 a) (Nat.pow 2 (b.toNat % 32)))))
  | 0x76 => .ok (.i32 (a >>> b))
  | 0x77 => .ok (.i32 ((a <<< b) ||| (a >>> (32 - b % 32))))
  | 0x78 => .ok (.i32 ((a >>> b) ||| (a <<< (32 - b % 32))))
  | _ => .error (.unsupported s!"{op}")

def binary64 (op : Nat) (a b : UInt64) : Except Trap Value :=
  match op with
  | 0x51 => .ok (Value.flag (a == b))
  | 0x52 => .ok (Value.flag (a != b))
  | 0x53 => .ok (Value.flag (lt64 a b))
  | 0x54 => .ok (Value.flag (a < b))
  | 0x55 => .ok (Value.flag (lt64 b a))
  | 0x56 => .ok (Value.flag (b < a))
  | 0x57 => .ok (Value.flag (!lt64 b a))
  | 0x58 => .ok (Value.flag (a ≤ b))
  | 0x59 => .ok (Value.flag (!lt64 a b))
  | 0x5A => .ok (Value.flag (b ≤ a))
  | 0x7C => .ok (.i64 (a + b))
  | 0x7D => .ok (.i64 (a - b))
  | 0x7E => .ok (.i64 (a * b))
  | 0x7F =>
    if b == 0 then .error .divideByZero
    else if a == 0x8000000000000000 && b == 0xFFFFFFFFFFFFFFFF then .error .overflow
    else .ok (.i64 (UInt64.ofInt (divTrunc (signed64 a) (signed64 b))))
  | 0x80 => if b == 0 then .error .divideByZero else .ok (.i64 (a / b))
  | 0x81 =>
    if b == 0 then .error .divideByZero
    else .ok (.i64 (UInt64.ofInt (remTrunc (signed64 a) (signed64 b))))
  | 0x82 => if b == 0 then .error .divideByZero else .ok (.i64 (a % b))
  | 0x83 => .ok (.i64 (a &&& b))
  | 0x84 => .ok (.i64 (a ||| b))
  | 0x85 => .ok (.i64 (a ^^^ b))
  | 0x86 => .ok (.i64 (a <<< b))
  | 0x87 => .ok (.i64 (UInt64.ofInt (Int.fdiv (signed64 a) (Nat.pow 2 (b.toNat % 64)))))
  | 0x88 => .ok (.i64 (a >>> b))
  | 0x89 => .ok (.i64 ((a <<< b) ||| (a >>> (64 - b % 64))))
  | 0x8A => .ok (.i64 ((a >>> b) ||| (a <<< (64 - b % 64))))
  | _ => .error (.unsupported s!"{op}")

/-- A comparison or arithmetic operation on floats of `f`, given the opcodes of its equality
and addition; `wrap` makes the result value. -/
def floatBinary (f : FloatFormat) (eqOp addOp op : Nat) (a b : Nat) (wrap : Nat → Value) :
    Except Trap Value :=
  let flag := fun (c : Bool) => Value.i32 (if c then 1 else 0)
  if op == eqOp then .ok (flag (f.eq a b))
  else if op == eqOp + 1 then .ok (flag (!f.eq a b))
  else if op == eqOp + 2 then .ok (flag (f.lt a b))
  else if op == eqOp + 3 then .ok (flag (f.lt b a))
  else if op == eqOp + 4 then .ok (flag (f.le a b))
  else if op == eqOp + 5 then .ok (flag (f.le b a))
  else if op == addOp then .ok (wrap (f.add a b))
  else if op == addOp + 1 then .ok (wrap (f.sub a b))
  else if op == addOp + 2 then .ok (wrap (f.mul a b))
  else if op == addOp + 3 then .ok (wrap (f.div a b))
  else if op == addOp + 4 then .ok (wrap (f.min a b))
  else if op == addOp + 5 then .ok (wrap (f.max a b))
  else if op == addOp + 6 then .ok (wrap (f.copySign a b))
  else .error (.unsupported s!"{op}")

/-- A unary float operation, given the opcode of the format's absolute value. -/
def floatUnary (f : FloatFormat) (absOp op : Nat) (a : Nat) : Nat :=
  if op == absOp then f.abs a
  else if op == absOp + 1 then f.negate a
  else if op == absOp + 2 then f.integral .ceil a
  else if op == absOp + 3 then f.integral .floor a
  else if op == absOp + 4 then f.integral .trunc a
  else if op == absOp + 5 then f.integral .nearest a
  else f.sqrt a

def intRange (signed : Bool) (bits : Nat) : Int × Int :=
  if signed then (-(Nat.pow 2 (bits - 1) : Nat), (Nat.pow 2 (bits - 1) - 1 : Nat)) else (0, (Nat.pow 2 bits - 1 : Nat))

/-- Truncates a float to `bits` bits: a trap on a NaN or out of range. -/
def truncTrapping (f : FloatFormat) (signed : Bool) (bits : Nat) (a : Nat) : Except Trap Nat :=
  if f.isNaN a then .error .invalidConversion
  else
    let (lo, hi) := intRange signed bits
    match f.truncate a with
    | some i => if i < lo ∨ hi < i then .error .overflow else .ok (i % Nat.pow 2 bits).toNat
    | none => .error .overflow

/-- Truncates a float to `bits` bits, clamping; a NaN gives 0. -/
def truncSaturating (f : FloatFormat) (signed : Bool) (bits : Nat) (a : Nat) : Nat :=
  if f.isNaN a then 0
  else
    let (lo, hi) := intRange signed bits
    let i := match f.truncate a with
      | some i => if i < lo then lo else if hi < i then hi else i
      | none => if f.sign a then lo else hi
    (i % Int.pow 2 bits).toNat

def intToFloat (f : FloatFormat) (signed : Bool) (bits n : Nat) : Nat :=
  f.ofInt (if signed ∧ Nat.pow 2 (bits - 1) ≤ n then (n : Int) - Nat.pow 2 bits else n)

/-- The saturating truncations, `0xFC 0` to `0xFC 7`. -/
def saturate (op : Nat) (v : Value) : Except Trap Value :=
  let signed := op % 2 == 0
  match op, v with
  | 0, .f32 a | 1, .f32 a => .ok (.i32 (UInt32.ofNat (truncSaturating .single signed 32 a.toNat)))
  | 2, .f64 a | 3, .f64 a => .ok (.i32 (UInt32.ofNat (truncSaturating .double signed 32 a.toNat)))
  | 4, .f32 a | 5, .f32 a => .ok (.i64 (UInt64.ofNat (truncSaturating .single signed 64 a.toNat)))
  | 6, .f64 a | 7, .f64 a => .ok (.i64 (UInt64.ofNat (truncSaturating .double signed 64 a.toNat)))
  | _, _ => .error (.unsupported s!"0xfc {op}")

def integerUnary (op : Nat) (v : Value) : Except Trap Value :=
  match op, v with
  | 0x45, .i32 a => .ok (.i32 (if a == 0 then 1 else 0))
  | 0x50, .i64 a => .ok (.i32 (if a == 0 then 1 else 0))
  | 0x67, .i32 a => .ok (.i32 (UInt32.ofNat (clz 32 a.toNat)))
  | 0x68, .i32 a => .ok (.i32 (UInt32.ofNat (ctz 32 a.toNat)))
  | 0x69, .i32 a => .ok (.i32 (UInt32.ofNat (popcnt 32 a.toNat)))
  | 0x79, .i64 a => .ok (.i64 (UInt64.ofNat (clz 64 a.toNat)))
  | 0x7A, .i64 a => .ok (.i64 (UInt64.ofNat (ctz 64 a.toNat)))
  | 0x7B, .i64 a => .ok (.i64 (UInt64.ofNat (popcnt 64 a.toNat)))
  | 0xA7, .i64 a => .ok (.i32 a.toUInt32)
  | 0xAC, .i32 a => .ok (.i64 (UInt64.ofInt (signed32 a)))
  | 0xAD, .i32 a => .ok (.i64 a.toUInt64)
  | 0xBE, .i32 a => .ok (.f32 a)
  | 0xBF, .i64 a => .ok (.f64 a)
  | 0xC0, .i32 a => .ok (.i32 (UInt32.ofNat (extendSigned 32 8 a.toNat)))
  | 0xC1, .i32 a => .ok (.i32 (UInt32.ofNat (extendSigned 32 16 a.toNat)))
  | 0xC2, .i64 a => .ok (.i64 (UInt64.ofNat (extendSigned 64 8 a.toNat)))
  | 0xC3, .i64 a => .ok (.i64 (UInt64.ofNat (extendSigned 64 16 a.toNat)))
  | 0xC4, .i64 a => .ok (.i64 (UInt64.ofNat (extendSigned 64 32 a.toNat)))
  | 0xD1, .ref r => .ok (.i32 (if r.isNone then 1 else 0))
  | op, _ => .error (.unsupported s!"{op}")

def unary (op : Nat) (v : Value) : Except Trap Value :=
  let f32 := fun (n : Nat) => Value.f32 (UInt32.ofNat n)
  let f64 := fun (n : Nat) => Value.f64 (UInt64.ofNat n)
  let i32 := fun (r : Except Trap Nat) => r.map fun n => Value.i32 (UInt32.ofNat n)
  let i64 := fun (r : Except Trap Nat) => r.map fun n => Value.i64 (UInt64.ofNat n)
  match op, v with
  | 0xA8, .f32 a => i32 (truncTrapping .single true 32 a.toNat)
  | 0xA9, .f32 a => i32 (truncTrapping .single false 32 a.toNat)
  | 0xAA, .f64 a => i32 (truncTrapping .double true 32 a.toNat)
  | 0xAB, .f64 a => i32 (truncTrapping .double false 32 a.toNat)
  | 0xAE, .f32 a => i64 (truncTrapping .single true 64 a.toNat)
  | 0xAF, .f32 a => i64 (truncTrapping .single false 64 a.toNat)
  | 0xB0, .f64 a => i64 (truncTrapping .double true 64 a.toNat)
  | 0xB1, .f64 a => i64 (truncTrapping .double false 64 a.toNat)
  | 0xB2, .i32 a => .ok (f32 (intToFloat .single true 32 a.toNat))
  | 0xB3, .i32 a => .ok (f32 (intToFloat .single false 32 a.toNat))
  | 0xB4, .i64 a => .ok (f32 (intToFloat .single true 64 a.toNat))
  | 0xB5, .i64 a => .ok (f32 (intToFloat .single false 64 a.toNat))
  | 0xB6, .f64 a => .ok (f32 (FloatFormat.convert .double .single a.toNat))
  | 0xB7, .i32 a => .ok (f64 (intToFloat .double true 32 a.toNat))
  | 0xB8, .i32 a => .ok (f64 (intToFloat .double false 32 a.toNat))
  | 0xB9, .i64 a => .ok (f64 (intToFloat .double true 64 a.toNat))
  | 0xBA, .i64 a => .ok (f64 (intToFloat .double false 64 a.toNat))
  | 0xBB, .f32 a => .ok (f64 (FloatFormat.convert .single .double a.toNat))
  | op, .f32 a =>
    if 0x8B ≤ op ∧ op ≤ 0x91 then .ok (f32 (floatUnary .single 0x8B op a.toNat))
    else if op == 0xBC then .ok (.i32 a) else .error (.unsupported s!"{op}")
  | op, .f64 a =>
    if 0x99 ≤ op ∧ op ≤ 0x9F then .ok (f64 (floatUnary .double 0x99 op a.toNat))
    else if op == 0xBD then .ok (.i64 a) else .error (.unsupported s!"{op}")
  | _, _ => integerUnary op v

def isUnary (op : Nat) : Bool :=
  op == 0x45 || op == 0x50 || (0x67 ≤ op && op ≤ 0x69) || (0x79 ≤ op && op ≤ 0x7B) ||
  (0x8B ≤ op && op ≤ 0x91) || (0x99 ≤ op && op ≤ 0x9F) || (0xA7 ≤ op && op ≤ 0xC4) || op == 0xD1

/-- Applies a numeric instruction to the stack (top first). -/
def applyNumeric (op : Nat) (stack : List Value) : Except Trap (List Value) :=
  if isUnary op then
    match stack with
    | v :: rest => (· :: rest) <$> unary op v
    | [] => .error (.unsupported "empty stack")
  else
    match stack with
    | .i32 b :: .i32 a :: rest => (· :: rest) <$> binary32 op a b
    | .i64 b :: .i64 a :: rest => (· :: rest) <$> binary64 op a b
    | .f32 b :: .f32 a :: rest =>
      (· :: rest) <$> floatBinary .single 0x5B 0x92 op a.toNat b.toNat fun n => .f32 (UInt32.ofNat n)
    | .f64 b :: .f64 a :: rest =>
      (· :: rest) <$> floatBinary .double 0x61 0xA0 op a.toNat b.toNat fun n => .f64 (UInt64.ofNat n)
    | _ => .error (.unsupported s!"{op}")

def numeric1 (op : Nat) (a : Value) : Except Trap Value := unary op a

/-- A numeric instruction of two operands, `a` below `b`. -/
def numeric2 (op : Nat) (a b : Value) : Except Trap Value :=
  match a, b with
  | .i32 a, .i32 b => binary32 op a b
  | .i64 a, .i64 b => binary64 op a b
  | .f32 a, .f32 b => floatBinary .single 0x5B 0x92 op a.toNat b.toNat fun n => .f32 (UInt32.ofNat n)
  | .f64 a, .f64 b => floatBinary .double 0x61 0xA0 op a.toNat b.toNat fun n => .f64 (UInt64.ofNat n)
  | _, _ => .error (.unsupported s!"{op}")

theorem binary32_add (a b : UInt32) : binary32 0x6A a b = .ok (.i32 (a + b)) := rfl

end Wasm

end InferenceBroker
