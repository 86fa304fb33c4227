import InferenceBroker.Core.Bytes

/-!
# UTF-8 sequences

Byte strings that are mostly text: where a valid UTF-8 sequence starts and how long it
is. A byte that starts no valid sequence (a stray continuation byte, an overlong or
surrogate form, a sequence cut short) stands alone; printers replace or escape it.
-/

namespace InferenceBroker

namespace Utf8

/-- The length of the valid UTF-8 sequence at the head of the input, if one starts
there (0 when the first byte starts none). -/
def width (bs : Bytes) : Nat :=
  match bs with
  | [] => 0
  | b :: rest =>
    let n := b.toNat
    let need := if n < 0x80 then 0
      else if n ≥ 0xC2 ∧ n < 0xE0 then 1
      else if n ≥ 0xE0 ∧ n < 0xF0 then 2
      else if n ≥ 0xF0 ∧ n < 0xF5 then 3 else 4
    if need = 0 then 1
    else if need = 4 then 0
    else match Bytes.utf8? (b :: rest.take need) with
      | some _ => if rest.length ≥ need then need + 1 else 0
      | none => 0

/-- The characters of a valid UTF-8 sequence. -/
def decodeValid (bs : Bytes) : List Char :=
  match Bytes.utf8? bs with
  | some s => s.toList
  | none => []

/-- Splits bytes into valid characters and stray bytes, in order. -/
def pieces (bs : Bytes) : List (Char ⊕ UInt8) :=
  go bs
where
  go : Bytes → List (Char ⊕ UInt8)
    | [] => []
    | b :: rest =>
      let w := width (b :: rest)
      if _hw : w = 0 then .inr b :: go rest
      else (decodeValid ((b :: rest).take w)).map .inl ++ go ((b :: rest).drop w)
  termination_by bs => bs.length
  decreasing_by
    all_goals simp_wf
    all_goals omega

/-- The text of bytes, a stray byte read as the replacement character. -/
def lossy (bs : Bytes) : String :=
  String.ofList ((pieces bs).map fun
    | .inl c => c
    | .inr _ => Char.ofNat 0xFFFD)

end Utf8

end InferenceBroker
