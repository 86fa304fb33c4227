import InferenceBroker.Core.Bytes

/-!
# Base64

The standard alphabet with `=` padding. Decoding reads four characters at a time, skipping
line breaks; a bad character, padding or trailing text fails at the offset where the input
stops making sense (`illegal base64 data at input byte N`); leftover bits are ignored.
-/

namespace InferenceBroker

namespace Base64

def alphabet : List Char :=
  "ABCDEFGHIJKLMNOPQRSTUVWXYZabcdefghijklmnopqrstuvwxyz0123456789+/".toList

def digit (n : Nat) : Char := alphabet.getD n 'A'

def encode : Bytes → String
  | [] => ""
  | [a] =>
    let n := a.toNat * 65536
    String.ofList [digit (n / 262144 % 64), digit (n / 4096 % 64), '=', '=']
  | [a, b] =>
    let n := a.toNat * 65536 + b.toNat * 256
    String.ofList [digit (n / 262144 % 64), digit (n / 4096 % 64), digit (n / 64 % 64), '=']
  | a :: b :: c :: rest =>
    let n := a.toNat * 65536 + b.toNat * 256 + c.toNat
    String.ofList [digit (n / 262144 % 64), digit (n / 4096 % 64), digit (n / 64 % 64),
      digit (n % 64)] ++ encode rest

def value? (b : UInt8) : Option Nat :=
  let n := b.toNat
  if 65 ≤ n ∧ n ≤ 90 then some (n - 65)
  else if 97 ≤ n ∧ n ≤ 122 then some (n - 71)
  else if 48 ≤ n ∧ n ≤ 57 then some (n + 4)
  else if n == 43 then some 62
  else if n == 47 then some 63
  else none

def isBreak (b : UInt8) : Bool := b == 10 || b == 13

def illegalAt (i : Nat) : String := s!"illegal base64 data at input byte {i}"

/-- The bytes of one group of 2 to 4 six-bit values. -/
def groupBytes (vals : List Nat) : Bytes :=
  let v := vals ++ List.replicate (4 - vals.length) 0
  let n := v.foldl (fun acc x => acc * 64 + x) 0
  let all := [UInt8.ofNat (n / 65536 % 256), UInt8.ofNat (n / 256 % 256), UInt8.ofNat (n % 256)]
  all.take (vals.length - 1)

def skipBreaks (bs : Bytes) (i : Nat) : Bytes × Nat :=
  let skipped := bs.takeWhile isBreak
  (bs.drop skipped.length, i + skipped.length)

/-- One group from offset `i`, `vals` read so far: the bytes, the rest with its offset, and
whether the input ended. -/
def group : Nat → Bytes → Nat → List Nat → Except String (Bytes × Bytes × Nat × Bool)
  | 0, _, _, _ => .error (illegalAt 0)
  | fuel + 1, bs, i, vals =>
    if vals.length = 4 then .ok (groupBytes vals, bs, i, false)
    else match bs with
    | [] =>
      if vals.isEmpty then .ok ([], [], i, true)
      else .error (illegalAt (i - vals.length))
    | b :: rest =>
      match value? b with
      | some v => group fuel rest (i + 1) (vals ++ [v])
      | none =>
        if isBreak b then group fuel rest (i + 1) vals
        else if b != 61 then .error (illegalAt i)
        else
          -- padding after `vals.length` values
          if vals.length < 2 then .error (illegalAt i)
          else
            let (rest, i') := if vals.length = 2 then
                let (r, k) := skipBreaks rest (i + 1)
                (r, k)
              else (rest, i + 1)
            if vals.length = 2 then
              match rest with
              | [] => .error (illegalAt i')
              | p :: more =>
                if p != 61 then .error (illegalAt (i' - 1))
                else
                  let (more, i'') := skipBreaks more (i' + 1)
                  if more.isEmpty then .ok (groupBytes vals, [], i'', true)
                  else .error (illegalAt i'')
            else
              let (more, i'') := skipBreaks rest i'
              if more.isEmpty then .ok (groupBytes vals, [], i'', true)
              else .error (illegalAt i'')

def decodeGroups : Nat → Bytes → Nat → Except String Bytes
  | 0, _, _ => .ok []
  | fuel + 1, bs, i => do
    let (out, rest, i', done) ← group (bs.length + 5) bs i []
    if done then pure out
    else do
      let tail ← decodeGroups fuel rest i'
      pure (out ++ tail)

def decode (bs : Bytes) : Except String Bytes := decodeGroups (bs.length + 1) bs 0

end Base64

end InferenceBroker
