/-!
# Letter case

Settings keys compare without case by Unicode's simple case mappings: `lower` maps one
character to one, and texts are equal up to case when of one length with each pair in one
case orbit (`k`, `K`, Kelvin sign). The tables cover the cased alphabets, the letter-like
symbols, and the cased scripts beyond the basic plane.
-/

namespace InferenceBroker

namespace Fold

/-- `n` in `[lo, hi]` with the parity of `lo`: alphabets whose capitals and smalls alternate. -/
def alternating (lo hi n : Nat) : Bool := lo ≤ n && n ≤ hi && (n - lo) % 2 == 0

def singles : List (Nat × Nat) :=
  [(0x130, 0x69), (0x178, 0xFF), (0x181, 0x253), (0x186, 0x254), (0x189, 0x256), (0x18A, 0x257),
   (0x18E, 0x1DD), (0x18F, 0x259), (0x190, 0x25B), (0x193, 0x260), (0x194, 0x263), (0x196, 0x269),
   (0x197, 0x268), (0x19C, 0x26F), (0x19D, 0x272), (0x19F, 0x275), (0x1A6, 0x280), (0x1A9, 0x283),
   (0x1AE, 0x288), (0x1B1, 0x28A), (0x1B2, 0x28B), (0x1B7, 0x292), (0x1C4, 0x1C6), (0x1C5, 0x1C6),
   (0x1C7, 0x1C9), (0x1C8, 0x1C9), (0x1CA, 0x1CC), (0x1CB, 0x1CC), (0x1F1, 0x1F3), (0x1F2, 0x1F3),
   (0x1F6, 0x195), (0x1F7, 0x1BF), (0x220, 0x19E), (0x23A, 0x2C65), (0x23D, 0x19A), (0x23E, 0x2C66),
   (0x243, 0x180), (0x244, 0x289), (0x245, 0x28C), (0x37F, 0x3F3), (0x386, 0x3AC), (0x38C, 0x3CC),
   (0x38E, 0x3CD), (0x38F, 0x3CE), (0x3CF, 0x3D7), (0x3F4, 0x3B8), (0x3F9, 0x3F2), (0x4C0, 0x4CF),
   (0x1E9E, 0xDF), (0x1FBC, 0x1FB3), (0x1FCC, 0x1FC3), (0x1FEC, 0x1FE5), (0x1FFC, 0x1FF3),
   (0x2126, 0x3C9), (0x212A, 0x6B), (0x212B, 0xE5), (0x2132, 0x214E), (0x2C62, 0x26B),
   (0x2C63, 0x1D7D), (0x2C64, 0x27D), (0x2C6D, 0x251), (0x2C6E, 0x271), (0x2C6F, 0x250),
   (0x2C70, 0x252), (0xA77D, 0x1D79), (0xA78D, 0x265), (0xA7AA, 0x266), (0xA7AB, 0x25C),
   (0xA7AC, 0x261), (0xA7AD, 0x26C), (0xA7AE, 0x26A), (0xA7B0, 0x29E), (0xA7B1, 0x287),
   (0xA7B2, 0x29D), (0xA7B3, 0xAB53), (0xA7C4, 0xA794), (0xA7C5, 0x282), (0xA7C6, 0x1D8E),
   (0xA7CB, 0x264), (0xA7DC, 0x19B)]

/-- A capital and the small letter right after it, outside the alternating runs. -/
def pairs : List Nat :=
  [0x182, 0x184, 0x187, 0x18B, 0x191, 0x198, 0x1A0, 0x1A2, 0x1A4, 0x1A7, 0x1AC, 0x1AF, 0x1B3, 0x1B5,
   0x1B8, 0x1BC, 0x1F4, 0x23B, 0x241, 0x370, 0x372, 0x376, 0x3F7, 0x3FA, 0x1C89, 0x2183, 0x2C60,
   0x2C67, 0x2C69, 0x2C6B, 0x2C72, 0x2C75, 0x2CEB, 0x2CED, 0x2CF2, 0xA779, 0xA77B, 0xA78B, 0xA790,
   0xA792, 0xA7C7, 0xA7C9, 0xA7CC, 0xA7CE, 0xA7DA, 0xA7F5]

/-- Runs of capitals at a fixed distance from their smalls: first, last, distance. -/
def shifts : List (Nat × Nat × Int) :=
  [(0x41, 0x5A, 32), (0xC0, 0xD6, 32), (0xD8, 0xDE, 32), (0x388, 0x38A, 37), (0x391, 0x3A1, 32),
   (0x3A3, 0x3AB, 32), (0x3FD, 0x3FF, -130), (0x400, 0x40F, 80), (0x410, 0x42F, 32),
   (0x531, 0x556, 48), (0x10A0, 0x10C5, 7264), (0x10C7, 0x10C7, 7264), (0x10CD, 0x10CD, 7264),
   (0x13A0, 0x13EF, 38864), (0x13F0, 0x13F5, 8), (0x1C90, 0x1CBA, -3008), (0x1CBD, 0x1CBF, -3008),
   (0x1F08, 0x1F0F, -8), (0x1F18, 0x1F1D, -8), (0x1F28, 0x1F2F, -8), (0x1F38, 0x1F3F, -8),
   (0x1F48, 0x1F4D, -8), (0x1F59, 0x1F59, -8), (0x1F5B, 0x1F5B, -8), (0x1F5D, 0x1F5D, -8),
   (0x1F5F, 0x1F5F, -8), (0x1F68, 0x1F6F, -8), (0x1F88, 0x1F8F, -8), (0x1F98, 0x1F9F, -8),
   (0x1FA8, 0x1FAF, -8), (0x1FB8, 0x1FB9, -8), (0x1FBA, 0x1FBB, -74), (0x1FC8, 0x1FCB, -86),
   (0x1FD8, 0x1FD9, -8), (0x1FDA, 0x1FDB, -100), (0x1FE8, 0x1FE9, -8), (0x1FEA, 0x1FEB, -112),
   (0x1FF8, 0x1FF9, -128), (0x1FFA, 0x1FFB, -126), (0x2160, 0x216F, 16), (0x24B6, 0x24CF, 26),
   (0x2C00, 0x2C2F, 48), (0x2C7E, 0x2C7F, -10815), (0xFF21, 0xFF3A, 32), (0x10400, 0x10427, 40),
   (0x104B0, 0x104D3, 40), (0x10570, 0x10595, 39), (0x10C80, 0x10CB2, 64), (0x10D50, 0x10D65, 32),
   (0x118A0, 0x118BF, 32), (0x16E40, 0x16E5F, 32), (0x16EA0, 0x16EB8, 27), (0x1E900, 0x1E921, 34)]

def runs : List (Nat × Nat) :=
  [(0x100, 0x12F), (0x132, 0x137), (0x139, 0x148), (0x14A, 0x177), (0x179, 0x17E), (0x1CD, 0x1DC),
   (0x1DE, 0x1EF), (0x1F8, 0x21F), (0x222, 0x233), (0x246, 0x24F), (0x3D8, 0x3EF), (0x460, 0x481),
   (0x48A, 0x4BF), (0x4C1, 0x4CE), (0x4D0, 0x52F), (0x1E00, 0x1E95), (0x1EA0, 0x1EFF),
   (0x2C80, 0x2CE3), (0xA640, 0xA66D), (0xA680, 0xA69B), (0xA722, 0xA72F), (0xA732, 0xA76F),
   (0xA77E, 0xA787), (0xA796, 0xA7A9), (0xA7B4, 0xA7C3), (0xA7D0, 0xA7D9)]

def lowerCode (n : Nat) : Nat :=
  if n < 0x41 then n
  else if n ≤ 0x5A then n + 32
  else if n < 0xC0 then n
  else match singles.lookup n with
    | some m => m
    | none =>
      if pairs.contains n then n + 1
      else match shifts.find? fun (lo, hi, _) => lo ≤ n && n ≤ hi with
        | some (_, _, d) => (n + d).toNat
        | none => if runs.any fun (lo, hi) => alternating lo hi n then n + 1 else n

def lower (c : Char) : Char := Char.ofNat (lowerCode c.toNat)

/-- Lower-case forms sharing an orbit with another letter: long s, Greek symbol forms and
final sigma, Cyrillic variants, prosgegrammeni. -/
def variants : List (Nat × Nat) :=
  [(0x17F, 0x73), (0xB5, 0x3BC), (0x345, 0x3B9), (0x3C2, 0x3C3), (0x3D0, 0x3B2), (0x3D1, 0x3B8),
   (0x3D5, 0x3C6), (0x3D6, 0x3C0), (0x3F0, 0x3BA), (0x3F1, 0x3C1), (0x3F5, 0x3B5), (0x1E9B, 0x1E61),
   (0x1FBE, 0x3B9), (0x1C80, 0x432), (0x1C81, 0x434), (0x1C82, 0x43E), (0x1C83, 0x441),
   (0x1C84, 0x442), (0x1C85, 0x442), (0x1C86, 0x44A), (0x1C87, 0x463), (0x1C88, 0xA64B)]

/-- One character of each case orbit; dotted capital I and dotless small i are alone. -/
def canonical (c : Char) : Nat :=
  let n := c.toNat
  if n == 0x130 || n == 0x131 then n
  else
    let m := lowerCode n
    (variants.lookup m).getD m

def lowerText (s : String) : String := String.map lower s

def equalFold (a b : String) : Bool :=
  a.length == b.length && (a.toList.zip b.toList).all fun (x, y) => canonical x == canonical y

theorem lowerCode_A : lowerCode 0x41 = 0x61 := by decide

theorem lowerCode_kelvin : lowerCode 0x212A = 0x6B := by decide

end Fold

end InferenceBroker
