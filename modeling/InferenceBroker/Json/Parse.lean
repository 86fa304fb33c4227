import InferenceBroker.Json.Value
import InferenceBroker.Text.Quote

/-!
# Reading JSON

`Json.parse` reads one document from bytes. A document that breaks the grammar is refused
at its first offending character, named between apostrophes (a byte that starts no UTF-8
sequence as `\xNN`) with where it stands (`invalid character 'x' after object key`), or with
`unexpected end of JSON input`; a malformed escape is named whole. Only space, tab, CR and LF
are blank. Strings are decoded as read: a surrogate pair becomes one character, a lone
surrogate or invalid byte U+FFFD.
-/

namespace InferenceBroker

namespace Json

/-- The head character between apostrophes, escaped as a quoted character, or `\xNN`. -/
def runeChar (bs : Bytes) : String :=
  match Utf8.pieces (bs.take 4) with
  | .inl c :: _ => "'" ++ Quote.escapeChar '\'' c ++ "'"
  | .inr b :: _ => "'\\x" ++ Quote.hexWidth 2 b.toNat ++ "'"
  | [] => "''"

def invalidAt (bs : Bytes) (context : String) : String :=
  s!"invalid character {runeChar bs} {context}"

def isSpace (n : Nat) : Bool :=
  (9 ≤ n && n ≤ 13) || n == 32 || n == 0x85 || n == 0xA0 || n == 0x1680 ||
  (0x2000 ≤ n && n ≤ 0x200A) || n == 0x2028 || n == 0x2029 || n == 0x202F || n == 0x205F || n == 0x3000

def badEscape (what : Bytes) : String :=
  let odd := (Utf8.pieces what).any fun
    | .inl c => c.toNat == 96 || c.toNat == 0xFFFD || isSpace c.toNat || Quote.nonPrintable c.toNat ||
        c.toNat < 32 || c.toNat == 127
    | .inr _ => true
  if odd then s!"invalid escape sequence {Quote.bytes what} in string"
  else "invalid escape sequence " ++ String.singleton (Char.ofNat 96) ++ Utf8.lossy what ++
    String.singleton (Char.ofNat 96) ++ " in string"

def unexpectedEnd : String := "unexpected end of JSON input"

def isBlank (b : UInt8) : Bool := b == 32 || b == 9 || b == 10 || b == 13

def skipBlank (bs : Bytes) : Bytes := bs.dropWhile isBlank

theorem length_skipBlank_le (bs : Bytes) : (skipBlank bs).length ≤ bs.length := by
  unfold skipBlank
  induction bs with
  | nil => simp
  | cons b rest ih =>
    rw [List.dropWhile_cons]
    split
    · simp; omega
    · simp

def byte (c : Char) : UInt8 := UInt8.ofNat c.toNat

def isHexByte (b : UInt8) : Bool :=
  (b ≥ 48 && b ≤ 57) || (b ≥ 97 && b ≤ 102) || (b ≥ 65 && b ≤ 70)

def isDigitByte (b : UInt8) : Bool := b ≥ 48 && b ≤ 57

/-- In plain text, after a backslash, or in a `\u` escape with `n` hex digits to come; an
escape keeps the input from its backslash. -/
inductive StringScan where
  | plain
  | escape (start : Bytes)
  | hex (n : Nat) (start : Bytes)

/-- Scans a string body after its opening quote: the raw bytes and the rest after the closing quote. -/
def scanString : StringScan → Bytes → Bytes → Except String (Bytes × Bytes)
  | _, [], _ => .error unexpectedEnd
  | .plain, b :: rest, acc =>
    if b == 34 then .ok (acc.reverse, rest)
    else if b == 92 then scanString (.escape (b :: rest)) rest (b :: acc)
    else if b < 32 then .error (invalidAt (b :: rest) "in string")
    else scanString .plain rest (b :: acc)
  | .escape start, e :: rest, acc =>
    if e == 117 then scanString (.hex 4 start) rest (e :: acc)
    else if [34, 92, 47, 98, 102, 110, 114, 116].contains e.toNat then
      scanString .plain rest (e :: acc)
    else .error (badEscape (start.take 2))
  | .hex n start, h :: rest, acc =>
    if isHexByte h then scanString (if n ≤ 1 then .plain else .hex (n - 1) start) rest (h :: acc)
    else .error (badEscape (start.take 6))

def hexValue (b : UInt8) : Nat :=
  if b ≥ 97 then b.toNat - 87 else if b ≥ 65 then b.toNat - 55 else b.toNat - 48

def hex4? : Bytes → Option (Nat × Bytes)
  | a :: b :: c :: d :: rest =>
    if isHexByte a && isHexByte b && isHexByte c && isHexByte d then
      some (((hexValue a * 16 + hexValue b) * 16 + hexValue c) * 16 + hexValue d, rest)
    else none
  | _ => none

def replacement : Char := Char.ofNat 0xFFFD

/-- Decodes a raw string body, invalid UTF-8 replaced byte by byte; a step consumes a byte, so
`fuel` at least the length suffices. -/
def unescape : Nat → Bytes → List Char
  | 0, _ => []
  | _ + 1, [] => []
  | fuel + 1, 92 :: e :: rest =>
    if e == 117 then
      match hex4? rest with
      | none => replacement :: unescape fuel rest
      | some (r, rest') =>
        if 0xD800 ≤ r ∧ r < 0xE000 then
          match rest' with
          | 92 :: 117 :: more =>
            match hex4? more with
            | some (r2, rest'') =>
              if 0xD800 ≤ r ∧ r < 0xDC00 ∧ 0xDC00 ≤ r2 ∧ r2 < 0xE000 then
                Char.ofNat (0x10000 + (r - 0xD800) * 0x400 + (r2 - 0xDC00)) ::
                  unescape fuel rest''
              else replacement :: unescape fuel rest'
            | none => replacement :: unescape fuel rest'
          | _ => replacement :: unescape fuel rest'
        else Char.ofNat r :: unescape fuel rest'
    else
      let c := match e with
        | 98 => '\x08' | 102 => '\x0c' | 110 => '\n' | 114 => '\r' | 116 => '\t'
        | _ => Char.ofNat e.toNat
      c :: unescape fuel rest
  | fuel + 1, b :: rest =>
    let w := Utf8.width (b :: rest)
    if w = 0 then replacement :: unescape fuel rest
    else Utf8.decodeValid ((b :: rest).take w) ++ unescape fuel ((b :: rest).drop w)

def decodeString (raw : Bytes) : String := String.ofList (unescape (raw.length + 1) raw)

def scanDigits (bs : Bytes) : Bytes × Bytes := (bs.takeWhile isDigitByte, bs.dropWhile isDigitByte)

def scanNumber (bs : Bytes) : Except String (Bytes × Bytes) := do
  let (sign, rest) := match bs with
    | 45 :: rest => ([(45 : UInt8)], rest)
    | _ => ([], bs)
  let (intPart, rest) ← match rest with
    | [] => .error unexpectedEnd
    | 48 :: more => pure ([(48 : UInt8)], more)
    | d :: more =>
      if isDigitByte d && d != 48 then
        let (ds, more') := scanDigits more
        pure (d :: ds, more')
      else .error (invalidAt (d :: more) "in numeric literal")
  let (frac, rest) ← match rest with
    | 46 :: more =>
      match more with
      | [] => .error unexpectedEnd
      | d :: _ =>
        if isDigitByte d then
          let (ds, more') := scanDigits more
          pure (46 :: ds, more')
        else .error (invalidAt more "in numeric literal")
    | _ => pure ([], rest)
  let (expo, rest) ← match rest with
    | e :: more =>
      if e == 101 || e == 69 then
        let (sgn, more) := match more with
          | s :: m => if s == 43 || s == 45 then ([s], m) else ([], more)
          | [] => ([], more)
        match more with
        | [] => .error unexpectedEnd
        | d :: _ =>
          if isDigitByte d then
            let (ds, more') := scanDigits more
            pure (e :: sgn ++ ds, more')
          else .error (invalidAt more "in numeric literal")
      else pure ([], rest)
    | [] => pure ([], rest)
  pure (sign ++ intPart ++ frac ++ expo, rest)

def scanKeyword (word : String) : List Char → Bytes → Except String Bytes
  | [], rest => .ok rest
  | _ :: _, [] => .error unexpectedEnd
  | c :: cs, b :: rest =>
    if b == byte c then scanKeyword word cs rest
    else .error (invalidAt (b :: rest) s!"in literal {word} (expecting {Quote.byteChar (byte c)})")

def bytesText (bs : Bytes) : String := String.ofList (bs.map fun b => Char.ofNat b.toNat)

/-- The most objects and arrays open at once. -/
def maxDepth : Nat := 10000

mutual
/-- Reads a value at the head (blanks skipped), with a step budget set from the input length,
inside `depth` open objects and arrays. -/
def parseValue : Nat → Nat → Bytes → Except String (JsonValue × Bytes)
  | 0, _, _ => .error unexpectedEnd
  | fuel + 1, depth, bs =>
    match skipBlank bs with
    | [] => .error unexpectedEnd
    | b :: rest =>
      if (b == 123 || b == 91) && depth ≥ maxDepth then .error "exceeded max depth"
      else if b == 123 then parseObject fuel (depth + 1) rest []
      else if b == 91 then parseArray fuel (depth + 1) rest []
      else if b == 34 then do
        let (raw, rest) ← scanString .plain rest []
        pure (.string (decodeString raw), rest)
      else if b == 116 then do
        let rest ← scanKeyword "true" "rue".toList rest
        pure (.bool true, rest)
      else if b == 102 then do
        let rest ← scanKeyword "false" "alse".toList rest
        pure (.bool false, rest)
      else if b == 110 then do
        let rest ← scanKeyword "null" "ull".toList rest
        pure (.null, rest)
      else if b == 45 || isDigitByte b then do
        let (lit, rest) ← scanNumber (b :: rest)
        pure (.number (bytesText lit), rest)
      else .error (invalidAt (b :: rest) "looking for beginning of value")

/-- Reads an object's members after `{` or `,`, those so far reversed. -/
def parseObject : Nat → Nat → Bytes → List (String × JsonValue) → Except String (JsonValue × Bytes)
  | 0, _, _, _ => .error unexpectedEnd
  | fuel + 1, depth, bs, acc =>
    match skipBlank bs with
    | [] => .error unexpectedEnd
    | b :: rest =>
      if b == 125 && acc.isEmpty then .ok (.object [], rest)
      else if b == 34 then do
        let (raw, rest) ← scanString .plain rest []
        match skipBlank rest with
        | [] => .error unexpectedEnd
        | c :: rest =>
          if c != 58 then .error (invalidAt (c :: rest) "after object key")
          else do
            let (v, rest) ← parseValue fuel depth rest
            let acc := (decodeString raw, v) :: acc
            match skipBlank rest with
            | [] => .error unexpectedEnd
            | d :: rest =>
              if d == 44 then parseObject fuel depth rest acc
              else if d == 125 then .ok (.object acc.reverse, rest)
              else .error (invalidAt (d :: rest) "after object key:value pair")
      else .error (invalidAt (b :: rest) "looking for beginning of object key string")

/-- Reads an array's items after `[` or `,`, those so far reversed. -/
def parseArray : Nat → Nat → Bytes → List JsonValue → Except String (JsonValue × Bytes)
  | 0, _, _, _ => .error unexpectedEnd
  | fuel + 1, depth, bs, acc =>
    match skipBlank bs with
    | [] => .error unexpectedEnd
    | b :: rest =>
      if b == 93 && acc.isEmpty then .ok (.array [], rest)
      else do
        let (v, rest) ← parseValue fuel depth (b :: rest)
        let acc := v :: acc
        match skipBlank rest with
        | [] => .error unexpectedEnd
        | d :: rest =>
          if d == 44 then parseArray fuel depth rest acc
          else if d == 93 then .ok (.array acc.reverse, rest)
          else .error (invalidAt (d :: rest) "after array element")
end

/-- Reads a whole document: one value, blanks around it and nothing else. -/
def parse (bs : Bytes) : Except String JsonValue := do
  let (v, rest) ← parseValue (2 * bs.length + 2) 0 bs
  match skipBlank rest with
  | [] => pure v
  | b :: more => .error (invalidAt (b :: more) "after top-level value")

end Json

end InferenceBroker
