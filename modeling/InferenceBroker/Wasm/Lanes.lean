import InferenceBroker.Wasm.Store

/-!
# Vector instructions

A 128-bit vector is a number below `2 ^ 128`, read as lanes of 8 to 64 bits, lane 0 lowest.
Integer lanes wrap, saturating forms clamp, widening forms read a half, narrowing forms
clamp. Float lanes compute as scalars, except the engine's own minimum and maximum: a
minimum with a NaN is the negative canonical NaN, a maximum with a NaN the canonical NaN,
negative when either operand is.
-/

namespace InferenceBroker

namespace Wasm

namespace Lanes

def split (width v : Nat) : List Nat :=
  (List.range (128 / width)).map fun i => v / Nat.pow 2 (width * i) % Nat.pow 2 width

/-- The vector of lanes of `width` bits, lane 0 first, each wrapped. -/
def join (width : Nat) (lanes : List Nat) : Nat :=
  (lanes.zip (List.range lanes.length)).foldl (fun acc (l, i) => acc + l % Nat.pow 2 width * Nat.pow 2 (width * i)) 0

def signedLane (width l : Nat) : Int := if l < Nat.pow 2 (width - 1) then l else (l : Int) - Nat.pow 2 width

def clampSigned (width : Nat) (x : Int) : Nat :=
  let lo : Int := -(Nat.pow 2 (width - 1) : Nat)
  let hi : Int := (Nat.pow 2 (width - 1) - 1 : Nat)
  ((if x < lo then lo else if x > hi then hi else x) % Nat.pow 2 width).toNat

def clampUnsigned (width : Nat) (x : Int) : Nat :=
  if x < 0 then 0 else if x ≥ Nat.pow 2 width then Nat.pow 2 width - 1 else x.toNat

def laneWidth (op : Nat) : Nat :=
  if op < 0x80 then 8 else if op < 0xA0 then 16 else if op < 0xC0 then 32 else 64

def intBinary (op : Nat) : Option (Nat → Nat → Nat → Nat) :=
  let w := laneWidth op
  match op with
  | 0x6E | 0x8E | 0xAE | 0xCE => some fun _ a b => a + b
  | 0x71 | 0x91 | 0xB1 | 0xD1 => some fun w a b => a + Nat.pow 2 w - b
  | 0x95 | 0xB5 | 0xD5 => some fun _ a b => a * b
  | 0x6F | 0x8F => some fun w a b => clampSigned w (signedLane w a + signedLane w b)
  | 0x70 | 0x90 => some fun w a b => clampUnsigned w ((a : Int) + b)
  | 0x72 | 0x92 => some fun w a b => clampSigned w (signedLane w a - signedLane w b)
  | 0x73 | 0x93 => some fun w a b => clampUnsigned w ((a : Int) - b)
  | 0x76 | 0x96 | 0xB6 => some fun w a b => if signedLane w a ≤ signedLane w b then a else b
  | 0x77 | 0x97 | 0xB7 => some fun _ a b => min a b
  | 0x78 | 0x98 | 0xB8 => some fun w a b => if signedLane w a ≥ signedLane w b then a else b
  | 0x79 | 0x99 | 0xB9 => some fun _ a b => max a b
  | 0x7B | 0x9B => some fun _ a b => (a + b + 1) / 2
  | _ => let _ := w; none

def ofInts (width : Nat) (xs : List Int) : Nat := join width (xs.map fun x => (x % Int.pow 2 width).toNat)

/-- The half-width lanes of the low or high half, signed or not, widened to `width` bits. -/
def halves (width : Nat) (high signed : Bool) (a : Nat) : List Int :=
  let h := width / 2
  let ls := split h a
  let n := 128 / width
  (if high then ls.drop n else ls.take n).map fun l => if signed then signedLane h l else (l : Int)

/-- Two vectors' signed lanes narrowed to half the width, the first's first, clamped to the
signed or unsigned range. -/
def narrow (width : Nat) (signed : Bool) (a b : Nat) : Nat :=
  let h := width / 2
  join h ((split width a ++ split width b).map fun l =>
    if signed then clampSigned h (signedLane width l) else clampUnsigned h (signedLane width l))

/-- Sums of adjacent pairs of half-width lanes, signed or not. -/
def pairwise (width : Nat) (signed : Bool) (a : Nat) : Nat :=
  let h := width / 2
  let xs := (split h a).map fun l => if signed then signedLane h l else (l : Int)
  ofInts width ((List.range (128 / width)).map fun i => xs.getD (2 * i) 0 + xs.getD (2 * i + 1) 0)

/-- Signed 16-bit dot product: sums of adjacent products as 32-bit lanes. -/
def dot (a b : Nat) : Nat :=
  let ps := (split 16 a).zipWith (fun x y => signedLane 16 x * signedLane 16 y) (split 16 b)
  ofInts 32 ((List.range 4).map fun i => ps.getD (2 * i) 0 + ps.getD (2 * i + 1) 0)

/-- The rounded, saturated product of signed Q15 lanes. -/
def q15 (a b : Nat) : Nat :=
  join 16 ((split 16 a).zipWith
    (fun x y => clampSigned 16 (Int.fdiv (signedLane 16 x * signedLane 16 y + 16384) 32768)) (split 16 b))

/-- Widening operations: result lane width, from the high half, read signed. -/
def widening (op : Nat) : Option (Nat × Bool × Bool) :=
  let w := if within? 0x87 0x8A op then 16 else if within? 0xA7 0xAA op then 32 else 64
  let k := (op + 1) % 0x20 % 8
  if within? 0x87 0x8A op || within? 0xA7 0xAA op || within? 0xC7 0xCA op then
    some (w, k % 2 == 1, k < 2)
  else none

/-- Widening multiplications: result lane width, from the high half, read signed. -/
def wideningProduct (op : Nat) : Option (Nat × Bool × Bool) :=
  if within? 0x9C 0x9F op then widening (op - 0x15)
  else if within? 0xBC 0xBF op then widening (op - 0x15)
  else if within? 0xDC 0xDF op then widening (op - 0x15)
  else none

def formatOf (width : Nat) : FloatFormat := if width == 32 then .single else .double

def canonicalNaN (f : FloatFormat) (neg : Bool) : Nat := f.zero neg + f.topExponent * f.unit + f.quietBit

def floatMin (f : FloatFormat) (a b : Nat) : Nat :=
  if f.isNaN a || f.isNaN b then canonicalNaN f true else f.min a b

/-- The engine's maximum: with a NaN it ORs both operands' bits, keeping either sign, and
clears the fraction below the quiet bit. -/
def floatMax (f : FloatFormat) (a b : Nat) : Nat :=
  if f.isNaN a || f.isNaN b then canonicalNaN f (f.sign a || f.sign b)
  else f.max a b

def floatBinary (op : Nat) : Option (Nat × (FloatFormat → Nat → Nat → Nat)) :=
  let family := fun (k : Nat) (f : FloatFormat) (a b : Nat) => match k with
    | 0 => f.add a b
    | 1 => f.sub a b
    | 2 => f.mul a b
    | 3 => f.div a b
    | 4 => floatMin f a b
    | 5 => floatMax f a b
    | 6 => if f.lt b a then b else a
    | _ => if f.lt a b then b else a
  if within? 0xE4 0xEB op then some (32, family (op - 0xE4))
  else if within? 0xF0 0xF7 op then some (64, family (op - 0xF0))
  else none

def floatCompare (op : Nat) : Option (Nat × (FloatFormat → Nat → Nat → Bool)) :=
  let family := fun (k : Nat) (f : FloatFormat) (a b : Nat) => match k with
    | 0 => f.eq a b
    | 1 => !f.eq a b
    | 2 => f.lt a b
    | 3 => f.lt b a
    | 4 => f.le a b
    | _ => f.le b a
  if within? 0x41 0x46 op then some (32, family (op - 0x41))
  else if within? 0x47 0x4C op then some (64, family (op - 0x47))
  else none

def floatUnary (op : Nat) : Option (Nat × (FloatFormat → Nat → Nat)) :=
  match op with
  | 0x67 => some (32, fun f a => f.integral .ceil a)
  | 0x68 => some (32, fun f a => f.integral .floor a)
  | 0x69 => some (32, fun f a => f.integral .trunc a)
  | 0x6A => some (32, fun f a => f.integral .nearest a)
  | 0x74 => some (64, fun f a => f.integral .ceil a)
  | 0x75 => some (64, fun f a => f.integral .floor a)
  | 0x7A => some (64, fun f a => f.integral .trunc a)
  | 0x94 => some (64, fun f a => f.integral .nearest a)
  | 0xE0 => some (32, FloatFormat.abs)
  | 0xE1 => some (32, FloatFormat.negate)
  | 0xE3 => some (32, FloatFormat.sqrt)
  | 0xEC => some (64, FloatFormat.abs)
  | 0xED => some (64, FloatFormat.negate)
  | 0xEF => some (64, FloatFormat.sqrt)
  | _ => none

/-- Conversions between integer and float lanes and between formats; two results fill the
low half, the high half zero. -/
def convert (op a : Nat) : Option Nat :=
  match op with
  | 0xF8 | 0xF9 => some (join 32 ((split 32 a).map (truncSaturating .single (op == 0xF8) 32)))
  | 0xFA | 0xFB => some (join 32 ((split 32 a).map (intToFloat .single (op == 0xFA) 32)))
  | 0xFC | 0xFD => some (join 32 ((split 64 a).map (truncSaturating .double (op == 0xFC) 32)))
  | 0xFE | 0xFF => some (join 64 (((split 32 a).take 2).map (intToFloat .double (op == 0xFE) 32)))
  | 0x5E => some (join 32 ((split 64 a).map (FloatFormat.convert .double .single)))
  | 0x5F => some (join 64 (((split 32 a).take 2).map (FloatFormat.convert .single .double)))
  | _ => none

def intCompare (op : Nat) : Option (Nat × (Nat → Nat → Nat → Bool)) :=
  let family (base w : Nat) : Option (Nat × (Nat → Nat → Nat → Bool)) :=
    match op - base with
    | 0 => some (w, fun _ a b => a == b)
    | 1 => some (w, fun _ a b => a != b)
    | 2 => some (w, fun w a b => signedLane w a < signedLane w b)
    | 3 => some (w, fun _ a b => a < b)
    | 4 => some (w, fun w a b => signedLane w a > signedLane w b)
    | 5 => some (w, fun _ a b => a > b)
    | 6 => some (w, fun w a b => signedLane w a ≤ signedLane w b)
    | 7 => some (w, fun _ a b => a ≤ b)
    | 8 => some (w, fun w a b => signedLane w a ≥ signedLane w b)
    | _ => some (w, fun _ a b => a ≥ b)
  if within? 0x23 0x2C op then family 0x23 8
  else if within? 0x2D 0x36 op then family 0x2D 16
  else if within? 0x37 0x40 op then family 0x37 32
  else match op with
    | 0xD6 => some (64, fun _ a b => a == b)
    | 0xD7 => some (64, fun _ a b => a != b)
    | 0xD8 => some (64, fun w a b => signedLane w a < signedLane w b)
    | 0xD9 => some (64, fun w a b => signedLane w a > signedLane w b)
    | 0xDA => some (64, fun w a b => signedLane w a ≤ signedLane w b)
    | 0xDB => some (64, fun w a b => signedLane w a ≥ signedLane w b)
    | _ => none

def mask (width : Nat) (c : Bool) : Nat := if c then Nat.pow 2 width - 1 else 0

def binary (op a b : Nat) : Option Nat :=
  match op with
  | 0x4E => some (a &&& b)
  | 0x4F => some (a &&& (Nat.pow 2 128 - 1 - b))
  | 0x50 => some (a ||| b)
  | 0x51 => some (a ^^^ b)
  | 0x0E =>
    let bytes := split 8 a
    some (join 8 ((split 8 b).map fun i => if i < 16 then bytes.getD i 0 else 0))
  | 0x65 => some (narrow 16 true a b)
  | 0x66 => some (narrow 16 false a b)
  | 0x85 => some (narrow 32 true a b)
  | 0x86 => some (narrow 32 false a b)
  | 0x82 => some (q15 a b)
  | 0xBA => some (dot a b)
  | _ =>
    match intCompare op, floatCompare op, floatBinary op, wideningProduct op with
    | some (w, f), _, _, _ => some (join w ((split w a).zipWith (fun x y => mask w (f w x y)) (split w b)))
    | _, some (w, f), _, _ =>
      some (join w ((split w a).zipWith (fun x y => mask w (f (formatOf w) x y)) (split w b)))
    | _, _, some (w, f), _ => some (join w ((split w a).zipWith (f (formatOf w)) (split w b)))
    | _, _, _, some (w, high, signed) =>
      some (ofInts w ((halves w high signed a).zipWith (· * ·) (halves w high signed b)))
    | _, _, _, _ =>
      match intBinary op with
      | some f => let w := laneWidth op; some (join w ((split w a).zipWith (f w) (split w b)))
      | none => none

def unary (op a : Nat) : Option Nat :=
  match op with
  | 0x4D => some (Nat.pow 2 128 - 1 - a)
  | 0x60 | 0x80 | 0xA0 | 0xC0 =>
    let w := laneWidth op
    some (join w ((split w a).map fun l => (signedLane w l).natAbs))
  | 0x61 | 0x81 | 0xA1 | 0xC1 =>
    let w := laneWidth op
    some (join w ((split w a).map fun l => Nat.pow 2 w - l))
  | 0x62 => some (join 8 ((split 8 a).map fun l => ((List.range 8).filter fun i => l / Nat.pow 2 i % 2 == 1).length))
  | 0x7C => some (pairwise 16 true a)
  | 0x7D => some (pairwise 16 false a)
  | 0x7E => some (pairwise 32 true a)
  | 0x7F => some (pairwise 32 false a)
  | _ =>
    match widening op, floatUnary op with
    | some (w, high, signed), _ => some (ofInts w (halves w high signed a))
    | _, some (w, f) => some (join w ((split w a).map (f (formatOf w))))
    | _, _ => convert op a

def test (op a : Nat) : Option Nat :=
  let all := fun (w : Nat) => if (split w a).all (· != 0) then 1 else 0
  let bits := fun (w : Nat) =>
    ((split w a).zip (List.range (128 / w))).foldl (fun acc (l, i) => acc + (l / Nat.pow 2 (w - 1)) * Nat.pow 2 i) 0
  match op with
  | 0x53 => some (if a != 0 then 1 else 0)
  | 0x63 => some (all 8)
  | 0x83 => some (all 16)
  | 0xA3 => some (all 32)
  | 0xC3 => some (all 64)
  | 0x64 => some (bits 8)
  | 0x84 => some (bits 16)
  | 0xA4 => some (bits 32)
  | 0xC4 => some (bits 64)
  | _ => none

/-- Shifts every lane by a count modulo the lane width. -/
def shift (op a count : Nat) : Option Nat :=
  let w := laneWidth op
  let k := count % w
  match op % 0x20 with
  | 0x0B => some (join w ((split w a).map fun l => l * Nat.pow 2 k))
  | 0x0C => some (join w ((split w a).map fun l => (Int.fdiv (signedLane w l) (Nat.pow 2 k) % Nat.pow 2 w).toNat))
  | 0x0D => some (join w ((split w a).map fun l => l / Nat.pow 2 k))
  | _ => none

end Lanes

def scalarBits : Value → Nat
  | .i32 v => v.toNat
  | .i64 v => v.toNat
  | .f32 v => v.toNat
  | .f64 v => v.toNat
  | _ => 0

def vectorBits : Value → Nat
  | .v128 v => v
  | _ => 0

/-- Runs a vector instruction that does not touch memory. -/
def vectorOp (op : Nat) (args : List Nat) (stack : Array Value) : Except Trap (Array Value) :=
  let top := stack.back!
  let replaceTop := fun (v : Value) => Except.ok (stack.set! (stack.size - 1) v)
  let arg := args.getD 0 0
  match vecShape op with
  | some .const => .ok (stack.push (.v128 arg))
  | some (.splat t) =>
    let w := match t with
      | .i64 | .f64 => 64
      | .i32 | .f32 => if op == 0x0F then 8 else if op == 0x10 then 16 else 32
      | _ => 32
    replaceTop (.v128 (Lanes.join w (List.replicate (128 / w) (scalarBits top))))
  | some (.extract lanes _) =>
    let w := 128 / lanes
    let l := vectorBits top / Nat.pow 2 (w * arg) % Nat.pow 2 w
    match op with
    | 0x15 | 0x18 => replaceTop (.i32 (UInt32.ofInt (Lanes.signedLane w l)))
    | 0x16 | 0x19 | 0x1B => replaceTop (.i32 (UInt32.ofNat l))
    | 0x1D => replaceTop (.i64 (UInt64.ofNat l))
    | 0x1F => replaceTop (.f32 (UInt32.ofNat l))
    | _ => replaceTop (.f64 (UInt64.ofNat l))
  | some (.replace lanes _) =>
    let w := 128 / lanes
    let x := scalarBits top % Nat.pow 2 w
    let stack := stack.pop
    let v := vectorBits stack.back!
    let cleared := v - (v / Nat.pow 2 (w * arg) % Nat.pow 2 w) * Nat.pow 2 (w * arg)
    .ok (stack.set! (stack.size - 1) (.v128 (cleared + x * Nat.pow 2 (w * arg))))
  | some .shuffle =>
    let b := vectorBits top
    let stack := stack.pop
    let a := vectorBits stack.back!
    let bytes := Lanes.split 8 a ++ Lanes.split 8 b
    .ok (stack.set! (stack.size - 1) (.v128 (Lanes.join 8 (args.map fun i => bytes.getD i 0))))
  | some .test =>
    match Lanes.test op (vectorBits top) with
    | some r => replaceTop (.i32 (UInt32.ofNat r))
    | none => .error (.unsupported (vectorName op))
  | some .shift =>
    let count := scalarBits top
    let stack := stack.pop
    match Lanes.shift op (vectorBits stack.back!) count with
    | some r => .ok (stack.set! (stack.size - 1) (.v128 r))
    | none => .error (.unsupported (vectorName op))
  | some .unary =>
    match Lanes.unary op (vectorBits top) with
    | some r => replaceTop (.v128 r)
    | none => .error (.unsupported (vectorName op))
  | some .binary =>
    let b := vectorBits top
    let stack := stack.pop
    match Lanes.binary op (vectorBits stack.back!) b with
    | some r => .ok (stack.set! (stack.size - 1) (.v128 r))
    | none => .error (.unsupported (vectorName op))
  | some .ternary =>
    let c := vectorBits top
    let stack := stack.pop
    let b := vectorBits stack.back!
    let stack := stack.pop
    let a := vectorBits stack.back!
    .ok (stack.set! (stack.size - 1) (.v128 ((a &&& c) ||| (b &&& (Nat.pow 2 128 - 1 - c)))))
  | _ => .error (.unsupported (vectorName op))

end Wasm

end InferenceBroker
