import InferenceBroker.Core.Bytes
import InferenceBroker.Text.Utf8

/-!
# TOML documents: expressions

A document is read one expression at a time: a key with its value, a table header `[a.b]` or
an array-of-tables header `[[a.b]]`, each after the first starting after a line break. The
reader works on bytes: strings are decoded as read, numbers and dates kept as written and
read only when stored, so a malformed number fails after everything before it, and one that
stops early (`07` reads as `0`) leaves its rest to fail as the next expression. A character
in a failure shows as `U+0037 '7'`, the quoted character only when printable.
-/

namespace InferenceBroker

namespace Toml

/-- A value as written: strings decoded, numbers and dates kept as their bytes. -/
inductive Value where
  | str (s : String)
  | bool (b : Bool)
  | integer (raw : Bytes)
  | float (raw : Bytes)
  /-- A date and time with an offset from UTC. -/
  | dateTime (raw : Bytes)
  | localDate (raw : Bytes)
  | localDateTime (raw : Bytes)
  | localTime (raw : Bytes)
  | array (items : List Value)
  /-- the keys (each its dotted parts) and values -/
  | inlineTable (entries : List (List String × Value))
  deriving Repr, Inhabited

inductive Expr where
  | keyValue (key : List String) (value : Value)
  | table (key : List String)
  | arrayTable (key : List String)
  deriving Repr, Inhabited

def fail {α : Type} (msg : String) : Except String α := .error ("toml: " ++ msg)

def byteOf (c : Char) : UInt8 := c.toNat.toUInt8

def charOf (b : UInt8) : String := String.singleton (Char.ofNat b.toNat)

/-- `U+0037 '7'`: four or more upper-case hex digits, then the character if printable. -/
def codePoint (n : Nat) : String :=
  let h := String.ofList ((Nat.toDigits 16 n).map Char.toUpper)
  let printable := (0x20 ≤ n && n ≤ 0x7E) || (0xA1 ≤ n && n ≤ 0xFF && n != 0xAD)
  "U+" ++ String.ofList (List.replicate (4 - h.length) '0') ++ h ++
    (if printable then " '" ++ String.singleton (Char.ofNat n) ++ "'" else "")

def follows (b : Bytes) (s : String) : Bool := b.take s.length == s.toList.map byteOf

def isBlank (c : UInt8) : Bool := c == 32 || c == 9

def skipBlanks (b : Bytes) : Bytes := b.dropWhile isBlank

def isDigit (c : UInt8) : Bool := 48 ≤ c && c ≤ 57

def isBareKeyByte (c : UInt8) : Bool :=
  (65 ≤ c && c ≤ 90) || (97 ≤ c && c ≤ 122) || isDigit c || c == 45 || c == 95

/-- Control bytes text may not hold: below a space but tab, LF and CR, and delete. -/
def isForbidden (c : UInt8) : Bool := (c < 32 && c != 9 && c != 10 && c != 13) || c == 127

/-- The length of the allowed character at the head, 0 when none starts there. -/
def charWidth (b : Bytes) : Nat :=
  match b with
  | [] => 0
  | c :: _ => if c < 128 then (if isForbidden c then 0 else 1) else Utf8.width b

def allAllowed : Nat → Bytes → Bool
  | _, [] => true
  | 0, _ => false
  | fuel + 1, b =>
    let w := charWidth b
    w != 0 && allAllowed fuel (b.drop w)

/-- Consumes a line feed, or a carriage return and a line feed. -/
def newline (b : Bytes) : Except String Bytes :=
  match b with
  | [] => .ok []
  | c :: rest =>
    if c == 10 then .ok rest
    else if c == 13 then
      match rest with
      | [] => fail "windows new line expected"
      | d :: more => if d == 10 then .ok more else fail "windows new line should be \\r\\n"
    else fail s!"expected newline but got {codePoint c.toNat}"

def skipComment (b : Bytes) : Except String Bytes :=
  go (b.drop 1)
where
  go : Bytes → Except String Bytes
    | [] => .ok []
    | c :: rest =>
      if c == 10 then .ok (c :: rest)
      else if c == 13 then
        (if rest.head? == some 10 then .ok rest else fail "invalid character in comment")
      else
        let w := charWidth (c :: rest)
        if _hw : w = 0 then fail "invalid character in comment" else go ((c :: rest).drop w)
  termination_by b => b.length
  decreasing_by simp only [List.length_drop, List.length_cons]; omega

/-- Blanks, comments and line breaks, as between the items of an array. -/
def skipGap : Nat → Bytes → Except String Bytes
  | 0, b => .ok b
  | fuel + 1, b => do
    let b := skipBlanks b
    let b ← if b.head? == some 35 then skipComment b else pure b
    match b with
    | [] => pure []
    | c :: _ => if c == 10 || c == 13 then skipGap fuel (← newline b) else pure b

/-! ## Strings -/

def hexValue (c : UInt8) : Option Nat :=
  if isDigit c then some (c.toNat - 48)
  else if 97 ≤ c && c ≤ 102 then some (c.toNat - 87)
  else if 65 ≤ c && c ≤ 70 then some (c.toNat - 55)
  else none

/-- The code point of the `length` hex digits of a `\u` or `\U` escape. -/
def escapedPoint (b : Bytes) (length : Nat) : Except String Nat :=
  if b.length < length then fail s!"unicode point needs {length} character, not {b.length}"
  else
    let step := fun (acc : Except String Nat) (c : UInt8) => acc.bind fun r =>
      match hexValue c with
      | some d => .ok (r * 16 + d)
      | none => fail s!"unexpected character {codePoint c.toNat}"
    match (b.take length).foldl step (.ok 0) with
    | .error e => .error e
    | .ok r =>
      if r > 0x10FFFF || (0xD800 ≤ r && r < 0xE000) then
        fail "escape sequence is invalid Unicode code point"
      else .ok r

def pointBytes (r : Nat) : Bytes := (String.singleton (Char.ofNat r)).toUTF8.toList

def escapeByte (d : UInt8) : Option UInt8 :=
  if d == 34 || d == 92 then some d
  else if d == 98 then some 8
  else if d == 102 then some 12
  else if d == 110 then some 10
  else if d == 114 then some 13
  else if d == 116 then some 9
  else if d == 101 then some 27
  else none

/-- Whether only blanks stand between a backslash and the line break. -/
def endsLine (b : Bytes) : Bool :=
  let r := skipBlanks b
  r.head? == some 10 || (r.head? == some 13 && (r.drop 1).head? == some 10)

/-- Decodes the escapes of a basic string's body. In a multi-line string a backslash ending
its line drops the break and the blanks and breaks after it; a `\u` may reach into the
closing quotes. -/
def unescape (multiline : Bool) : Nat → Bytes → Bytes → Except String Bytes
  | _, [], acc => .ok acc.reverse
  | 0, _, acc => .ok acc.reverse
  | fuel + 1, c :: rest, acc =>
    if c == 92 then
      if multiline && endsLine rest then
        unescape multiline fuel (rest.dropWhile fun x => x == 10 || x == 13 || isBlank x) acc
      else
        match rest with
        | [] => .ok acc.reverse
        | d :: more =>
          match escapeByte d with
          | some e => unescape multiline fuel more (e :: acc)
          | none =>
            if d == 117 || d == 85 then
              let n := if d == 117 then 4 else 8
              let seen := if multiline then (more ++ [34, 34, 34]).take n else more
              match escapedPoint seen n with
              | .error e => .error e
              | .ok r => unescape multiline fuel (more.drop n) ((pointBytes r).reverse ++ acc)
            else fail s!"invalid escaped character {codePoint d.toNat}"
    else
      let w := charWidth (c :: rest)
      if w == 0 then fail s!"invalid character {codePoint c.toNat}"
      else unescape multiline fuel ((c :: rest).drop w) (((c :: rest).take w).reverse ++ acc)

/-- A string body's text: without escapes only allowed characters, with them decoded. -/
def bodyText (multiline escaped : Bool) (body : Bytes) : Except String String :=
  if escaped then (unescape multiline (body.length + 1) body []).map Utf8.lossy
  else if allAllowed body.length body then .ok (Utf8.lossy body)
  else fail "invalid UTF-8"

/-- Splits a one-line basic string at its opening quote into body, whether it holds escapes,
and the bytes after. -/
def scanBasic (b : Bytes) : Except String (Bytes × Bool × Bytes) :=
  go (b.drop 1) [] false
where
  go : Bytes → Bytes → Bool → Except String (Bytes × Bool × Bytes)
    | [], _, _ => fail "basic string not terminated by \""
    | c :: rest, acc, esc =>
      if c == 34 then .ok (acc.reverse, esc, rest)
      else if c == 10 || c == 13 then fail "basic strings cannot have new lines"
      else if c == 92 then
        match rest with
        | [] => fail "need a character after \\"
        | d :: more => go more (d :: c :: acc) true
      else go rest (c :: acc) esc

/-- The closing delimiter of a multi-line string may be followed by one or two more `q`,
which belong to the body; a sixth is refused. -/
def closeMultiline (q : UInt8) (after : Bytes) (refusal : String) : Except String (Bytes × Bytes) :=
  match after with
  | c :: more =>
    if c != q then .ok ([], after)
    else
      match more with
      | d :: rest =>
        if d != q then .ok ([q], more)
        else if rest.head? == some q then fail refusal
        else .ok ([q, q], rest)
      | [] => .ok ([q], [])
  | [] => .ok ([], [])

def dropFirstBreak (body : Bytes) : Bytes :=
  match body with
  | 10 :: rest => rest
  | 13 :: 10 :: rest => rest
  | _ => body

/-- Splits a multi-line basic string at its opening `"""` like `scanBasic`. -/
def scanMultiBasic (b : Bytes) : Except String (Bytes × Bool × Bytes) :=
  go (b.drop 3) [] false
where
  go : Bytes → Bytes → Bool → Except String (Bytes × Bool × Bytes)
    | [], _, _ => fail "multiline basic string not terminated by \"\"\""
    | c :: rest, acc, esc =>
      if c == 34 && follows rest "\"\"" then do
        let (extra, after) ← closeMultiline 34 (rest.drop 2)
          "\"\"\" not allowed in multiline basic string"
        pure (acc.reverse ++ extra, esc, after)
      else if c == 92 then
        match rest with
        | [] => fail "need a character after \\"
        | d :: more => go more (d :: c :: acc) true
      else if c == 13 then
        match rest with
        | d :: more => if d == 10 then go more (d :: c :: acc) esc else fail "need a \\n after \\r"
        | [] => fail "need a \\n after \\r"
      else go rest (c :: acc) esc

/-- Splits a one-line literal string at its apostrophe into body and the bytes after. -/
def scanLiteral (b : Bytes) : Except String (Bytes × Bytes) :=
  go (b.drop 1) []
where
  go : Bytes → Bytes → Except String (Bytes × Bytes)
    | [], _ => fail "unterminated literal string"
    | c :: rest, acc =>
      if c == 39 then .ok (acc.reverse, rest)
      else if c == 10 || c == 13 then fail "literal strings cannot have new lines"
      else
        let w := charWidth (c :: rest)
        if _hw : w = 0 then fail "invalid character"
        else go ((c :: rest).drop w) (((c :: rest).take w).reverse ++ acc)
  termination_by b => b.length
  decreasing_by simp only [List.length_drop, List.length_cons]; omega

/-- Splits a multi-line literal string at its opening `'''` into body and the bytes after. -/
def scanMultiLiteral (b : Bytes) : Except String (Bytes × Bytes) :=
  go (b.drop 3) []
where
  go : Bytes → Bytes → Except String (Bytes × Bytes)
    | [], _ => fail "multiline literal string not terminated by '''"
    | c :: rest, acc =>
      if c == 39 && follows rest "''" then do
        let (extra, after) ← closeMultiline 39 (rest.drop 2) "''' not allowed in multiline literal string"
        pure (acc.reverse ++ extra, after)
      else if c == 13 then
        match rest with
        | d :: more => if d == 10 then go more (d :: c :: acc) else fail "need a \\n after \\r"
        | [] => fail "need a \\n after \\r"
      else
        let w := charWidth (c :: rest)
        if _hw : w = 0 then fail "invalid character"
        else go ((c :: rest).drop w) (((c :: rest).take w).reverse ++ acc)
  termination_by b => b.length
  decreasing_by all_goals simp only [List.length_drop, List.length_cons]; omega

def basicString (b : Bytes) : Except String (String × Bytes) := do
  let (body, escaped, rest) ← scanBasic b
  let s ← bodyText false escaped body
  pure (s, rest)

def literalString (b : Bytes) : Except String (String × Bytes) := do
  let (body, rest) ← scanLiteral b
  pure (Utf8.lossy body, rest)

def stringValue (b : Bytes) : Except String (String × Bytes) :=
  if follows b "\"\"\"" then do
    let (body, escaped, rest) ← scanMultiBasic b
    let s ← bodyText true escaped (dropFirstBreak body)
    pure (s, rest)
  else if follows b "'''" then do
    let (body, rest) ← scanMultiLiteral b
    pure (Utf8.lossy (dropFirstBreak body), rest)
  else if follows b "\"" then basicString b
  else literalString b

/-! ## Keys -/

def simpleKey (b : Bytes) : Except String (String × Bytes) :=
  match b with
  | [] => fail "expected key but found none"
  | c :: _ =>
    if c == 39 then literalString b
    else if c == 34 then basicString b
    else if isBareKeyByte c then .ok (Utf8.lossy (b.takeWhile isBareKeyByte), b.dropWhile isBareKeyByte)
    else fail s!"invalid character at start of key: {charOf c}"

/-- Reads a dotted key, blanks allowed around the dots and consumed after it; each part takes
two bytes or more, so `fuel` at least the bytes left suffices. -/
def dottedKey (fuel : Nat) (b : Bytes) : Except String (List String × Bytes) := do
  let (k, rest) ← simpleKey b
  go fuel [k] rest
where
  go : Nat → List String → Bytes → Except String (List String × Bytes)
    | 0, ks, b => .ok (ks, b)
    | fuel + 1, ks, b =>
      let b := skipBlanks b
      if b.head? == some 46 then do
        let (k, rest) ← simpleKey (skipBlanks (b.drop 1))
        go fuel (ks ++ [k]) rest
      else .ok (ks, b)

def expectByte (x : UInt8) (b : Bytes) : Except String Bytes :=
  match b with
  | [] => fail s!"expected character {charOf x} but the document ended here"
  | c :: rest => if c == x then .ok rest else fail s!"expected character {charOf x}"

/-! ## Numbers and dates -/

def isHexByte (c : UInt8) : Bool := (hexValue c).isSome || c == 95

def isOctalByte (c : UInt8) : Bool := (48 ≤ c && c ≤ 55) || c == 95

def isBinaryByte (c : UInt8) : Bool := c == 48 || c == 49 || c == 95

/-- The length of a decimal number (digits, signs, underscores, points, exponent letters; a
float when a point or exponent is among them), or a float ending in `inf` or `nan`. -/
def numberRun : Bytes → Nat → Bool → Except String (Nat × Bool)
  | [], i, isFloat => .ok (i, isFloat)
  | c :: rest, i, isFloat =>
    if isDigit c || c == 43 || c == 45 || c == 95 then numberRun rest (i + 1) isFloat
    else if c == 46 || c == 101 || c == 69 then numberRun rest (i + 1) true
    else if c == 105 then
      if follows (c :: rest) "inf" then .ok (i + 3, true)
      else fail "unexpected character 'i' while scanning for a number"
    else if c == 110 then
      if follows (c :: rest) "nan" then .ok (i + 3, true)
      else fail "unexpected character 'n' while scanning for a number"
    else .ok (i, isFloat)

/-- Reads a number. A `0` followed by neither a point nor an exponent, with over two bytes
left, is a number of its own unless a base letter `x`, `o` or `b` follows. -/
def scanNumber (b : Bytes) : Except String (Value × Bytes) :=
  match b with
  | c0 :: c1 :: _ :: _ =>
    if c0 == 48 && c1 != 46 && c1 != 101 && c1 != 69 then
      let based := fun (ok : UInt8 → Bool) =>
        let n := 2 + ((b.drop 2).takeWhile ok).length
        Except.ok (Value.integer (b.take n), b.drop n)
      if c1 == 120 then based isHexByte
      else if c1 == 111 then based isOctalByte
      else if c1 == 98 then based isBinaryByte
      else .ok (.integer [48], b.drop 1)
    else decimal
  | _ => decimal
where
  decimal : Except String (Value × Bytes) := do
    let (n, isFloat) ← numberRun b 0 false
    if n == 0 then fail "incomplete number"
    else if isFloat then pure (.float (b.take n), b.drop n)
    else pure (.integer (b.take n), b.drop n)

/-- The length of a date or time: digits, `-`, `T`, `:`, `.`, `+`, `Z` (either case), and at
most one space before a digit, taken with the two bytes after it unlooked. Also whether a
date, a time and an offset were seen. -/
def dateRun : Bytes → Nat → Bool → Bool → Bool → Bool → Nat × Bool × Bool × Bool
  | [], i, d, t, z, _ => (i, d, t, z)
  | c :: rest, i, d, t, z, space =>
    if isDigit c then dateRun rest (i + 1) d t z space
    else if c == 45 then dateRun rest (i + 1) true t (z || i ≥ 8) space
    else if c == 84 || c == 116 || c == 58 || c == 46 then dateRun rest (i + 1) d true z space
    else if c == 43 then dateRun rest (i + 1) d t true space
    else if c == 90 || c == 122 then (i + 1, d, t, true)
    else if c == 32 && !space then
      match rest with
      | digit :: [] => if isDigit digit then (i + 2, d, true, z) else (i, d, t, z)
      | digit :: _ :: more => if isDigit digit then dateRun more (i + 3) d true z true else (i, d, t, z)
      | [] => (i, d, t, z)
    else (i, d, t, z)

def scanDate (b : Bytes) : Value × Bytes :=
  let (n, hasDate, hasTime, hasZone) := dateRun b 0 false false false false
  let raw := b.take n
  let v :=
    if hasTime then
      if hasDate then (if hasZone then Value.dateTime raw else .localDateTime raw)
      else .localTime raw
    else .localDate raw
  (v, b.drop n)

/-- Whether a value starts like a date (a `-` fifth) or a time (a `:` third). -/
def startsLikeDate (b : Bytes) : Bool :=
  go 0 (b.take 5)
where
  go : Nat → Bytes → Bool
    | _, [] => false
    | i, c :: rest =>
      if isDigit c then go (i + 1) rest
      else (i == 2 && c == 58) || (i == 4 && c == 45)

def scalarValue (b : Bytes) : Except String (Value × Bytes) :=
  match b with
  | [] => scanNumber b
  | c :: _ =>
    if c == 105 then
      (if follows b "inf" then .ok (.float (b.take 3), b.drop 3) else fail "expected 'inf'")
    else if c == 110 then
      (if follows b "nan" then .ok (.float (b.take 3), b.drop 3) else fail "expected 'nan'")
    else if c == 43 || c == 45 || (b.take 3).length < 3 then scanNumber b
    else if startsLikeDate b then .ok (scanDate b)
    else scanNumber b

/-! ## Values and expressions -/

mutual

def readValue : Nat → Bytes → Except String (Value × Bytes)
  | 0, _ => fail "document nested too deeply"
  | fuel + 1, b =>
    match b with
    | [] => fail "expected value, not eof"
    | c :: rest =>
      if c == 34 || c == 39 then do
        let (s, after) ← stringValue b
        pure (.str s, after)
      else if c == 116 then
        if follows b "true" then .ok (.bool true, b.drop 4) else fail "expected 'true'"
      else if c == 102 then
        if follows b "false" then .ok (.bool false, b.drop 5) else fail "expected 'false'"
      else if c == 91 then readArray fuel rest true []
      else if c == 123 then readInline fuel rest true []
      else scalarValue b

/-- Reads an array's items after `[`: commas between, gaps around, a trailing comma allowed. -/
def readArray : Nat → Bytes → Bool → List Value → Except String (Value × Bytes)
  | 0, _, _, _ => fail "document nested too deeply"
  | _ + 1, [], _, _ => fail "expected character ] but the document ended here"
  | fuel + 1, b, first, items => do
    let b ← skipGap fuel b
    match b with
    | [] => fail "array is incomplete"
    | c :: rest =>
      if c == 93 then pure (.array items.reverse, rest)
      else do
        let b ← if c == 44 then
            (if first then fail "array cannot start with comma" else skipGap fuel rest)
          else if !first then fail "array elements must be separated by commas"
          else pure b
        match b with
        | 93 :: after => pure (.array items.reverse, after)
        | _ => do
          let (v, b) ← readValue fuel b
          let b ← skipGap fuel b
          readArray fuel b false (v :: items)

/-- Reads an inline table's entries after `{`: on one line, no comma after the last. -/
def readInline : Nat → Bytes → Bool → List (List String × Value) → Except String (Value × Bytes)
  | 0, _, _, _ => fail "document nested too deeply"
  | _ + 1, [], _, _ => fail "expected character \x7d but the document ended here"
  | fuel + 1, b, first, entries =>
    match skipBlanks b with
    | [] => fail "inline table is incomplete"
    | c :: rest =>
      if c == 125 then .ok (.inlineTable entries.reverse, rest)
      else do
        let b ← if first then pure (c :: rest) else do
          let r ← expectByte 44 (c :: rest)
          pure (skipBlanks r)
        let (entry, b) ← readKeyValue fuel b
        readInline fuel b false (entry :: entries)

def readKeyValue : Nat → Bytes → Except String ((List String × Value) × Bytes)
  | 0, _ => fail "document nested too deeply"
  | fuel + 1, b => do
    let (key, b) ← dottedKey fuel b
    let b := skipBlanks b
    if b.isEmpty then fail "expected = after a key, but the document ends there"
    else do
      let b ← expectByte 61 b
      let (v, b) ← readValue fuel (skipBlanks b)
      pure ((key, v), b)

end

def readHeader (fuel : Nat) (b : Bytes) : Except String (Expr × Bytes) := do
  if (b.drop 1).head? == some 91 then
    let (key, r) ← dottedKey fuel (skipBlanks (b.drop 2))
    let r ← expectByte 93 (skipBlanks r)
    let r ← expectByte 93 r
    pure (.arrayTable key, r)
  else
    let (key, r) ← dottedKey fuel (skipBlanks (b.drop 1))
    let r ← expectByte 93 (skipBlanks r)
    pure (.table key, r)

/-- Reads a line up to its break: nothing, a comment, or an expression and a comment. A value
takes at most three steps of `fuel` per byte and as many for its gaps, so four times the
bytes left and a few suffice. -/
def readLine (fuel : Nat) (b : Bytes) : Except String (Option Expr × Bytes) := do
  let b := skipBlanks b
  match b with
  | [] => pure (none, [])
  | c :: _ =>
    if c == 35 then
      let r ← skipComment b
      pure (none, r)
    else if c == 10 || c == 13 then pure (none, b)
    else do
      let (e, r) ← if c == 91 then readHeader fuel b else do
        let ((k, v), r) ← readKeyValue fuel b
        pure (Expr.keyValue k v, r)
      let r := skipBlanks r
      if r.head? == some 35 then
        let after ← skipComment r
        pure (some e, after)
      else pure (some e, r)

/-- The next expression and the bytes after it; `first` says nothing was read yet. `bound`
is the fuel of one expression, `fuel` bounds the lines skipped. -/
def nextExpression (bound : Nat) : Nat → Bytes → Bool → Except String (Option (Expr × Bytes))
  | 0, _, _ => .ok none
  | fuel + 1, b, first =>
    if b.isEmpty then .ok none
    else do
      let b ← if first then pure b else newline b
      if b.isEmpty then pure none
      else
        let (e, rest) ← readLine bound b
        match e with
        | some e => pure (some (e, rest))
        | none => nextExpression bound fuel rest false

theorem skipBlanks_length_le (b : Bytes) : (skipBlanks b).length ≤ b.length :=
  (List.dropWhile_sublist _).length_le

theorem newline_lf (rest : Bytes) : newline (10 :: rest) = .ok rest := rfl

theorem expectByte_same (x : UInt8) (rest : Bytes) : expectByte x (x :: rest) = .ok rest := by
  simp [expectByte]

theorem codePoint_seven : codePoint 55 = "U+0037 '7'" := by decide

theorem startsLikeDate_date : startsLikeDate [49, 57, 55, 57, 45] = true := by decide

end Toml

end InferenceBroker
