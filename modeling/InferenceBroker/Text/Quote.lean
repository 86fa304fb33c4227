import InferenceBroker.Text.Utf8
import InferenceBroker.Text.Printable

/-!
# Quoted text

The double-quoted form of failures and logs: printable characters as themselves, the usual
controls as one-letter escapes, others `\xNN`, non-printable ones beyond ASCII `\uNNNN` or
`\UNNNNNNNN`; a byte starting no valid UTF-8 sequence `\xNN`. A byte alone is quoted between
apostrophes, as syntax errors name it.
-/

namespace InferenceBroker

namespace Quote

/-- `n` in exactly `width` lowercase hexadecimal digits. -/
def hexWidth (width n : Nat) : String :=
  String.ofList ((List.range width).reverse.map fun i => Nat.digitChar (n / Nat.pow 16 i % 16))

def nonPrintable (n : Nat) : Bool := !Printable.isPrint n

/-- The escape of a character inside a string delimited by `quote`. -/
def escapeChar (quote : Char) (c : Char) : String :=
  let n := c.toNat
  if c == quote || c == '\\' then String.ofList ['\\', c]
  else if n == 7 then "\\a"
  else if n == 8 then "\\b"
  else if n == 12 then "\\f"
  else if n == 10 then "\\n"
  else if n == 13 then "\\r"
  else if n == 9 then "\\t"
  else if n == 11 then "\\v"
  else if n < 0x20 || n == 0x7F then "\\x" ++ hexWidth 2 n
  else if n < 0x80 then String.singleton c
  else if nonPrintable n then
    if n < 0x10000 then "\\u" ++ hexWidth 4 n else "\\U" ++ hexWidth 8 n
  else String.singleton c

def string (s : String) : String :=
  "\"" ++ String.join (s.toList.map (escapeChar '"')) ++ "\""

/-- Bytes read as text: a byte starting no valid UTF-8 sequence is `\xNN`. -/
def bytes (bs : Bytes) : String :=
  "\"" ++ String.join ((Utf8.pieces bs).map fun
    | .inl c => escapeChar '"' c
    | .inr b => "\\x" ++ hexWidth 2 b.toNat) ++ "\""

/-- An ASCII byte as its character (an apostrophe escaped), any other as `\xNN`. -/
def byteChar (b : UInt8) : String :=
  let c := Char.ofNat b.toNat
  if c == '"' then "'\"'"
  else if b.toNat ≥ 0x80 then "'\\x" ++ hexWidth 2 b.toNat ++ "'"
  else "'" ++ escapeChar '\'' c ++ "'"

end Quote

end InferenceBroker
