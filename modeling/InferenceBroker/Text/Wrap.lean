/-!
# Wrapping help text

Help texts are cut into words at blank characters (ASCII blanks and the Unicode space
separators) and refilled greedily: a word goes on the current line when the line with
one more space and the word stays within 50 bytes, otherwise it starts a new line. A
word longer than the limit stands alone on its line.
-/

namespace InferenceBroker

namespace Wrap

def width : Nat := 50

/-- ASCII blanks, next line, no-break space and the Unicode space separators. -/
def isBlank (c : Char) : Bool :=
  let n := c.toNat
  (9 ≤ n && n ≤ 13) || n == 32 || n == 0x85 || n == 0xA0 || n == 0x1680 ||
  (0x2000 ≤ n && n ≤ 0x200A) || n == 0x2028 || n == 0x2029 || n == 0x202F ||
  n == 0x205F || n == 0x3000

/-- The words of a text: maximal runs of non-blank characters. -/
def words (s : String) : List String :=
  let step := fun (acc : List String × List Char) (c : Char) =>
    if isBlank c then
      if acc.2.isEmpty then acc else (String.ofList acc.2.reverse :: acc.1, [])
    else (acc.1, c :: acc.2)
  let (done, cur) := s.toList.foldl step ([], [])
  (if cur.isEmpty then done else String.ofList cur.reverse :: done).reverse

/-- Fills words into lines: the finished lines (latest first) and the current line. -/
def fill (acc : List String × String) (w : String) : List String × String :=
  let (lines, cur) := acc
  if cur.isEmpty then (lines, w)
  else if cur.utf8ByteSize + 1 + w.utf8ByteSize > width then (cur :: lines, w)
  else (lines, cur ++ " " ++ w)

def wrap (text : String) : String :=
  let (lines, cur) := (words text).foldl fill ([], "")
  "\n".intercalate (if cur.isEmpty then lines.reverse else (cur :: lines).reverse)

end Wrap

end InferenceBroker
