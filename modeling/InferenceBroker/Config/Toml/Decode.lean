import InferenceBroker.Config.Toml.Seen
import InferenceBroker.Config.Value
import InferenceBroker.Text.Timestamp

/-!
# TOML documents: values and tables

The expressions of a document are stored into one table in order, each checked against the
keys defined before its value is read. Integers are 64-bit, decimal without a leading zero
or prefixed `0x`, `0o`, `0b`, underscores only between digits; floats have digits on both
sides of a point, or are `inf`/`nan`; a date-time with an offset is a point in time (shown
`1979-05-27 07:32:00 +0000 UTC`), without one a local date, time or both, shown as written.
A table header fills its table from then on; an array-of-tables header appends a table, and
a path through an array of tables goes into its last table.
-/

namespace InferenceBroker

namespace Toml

open Timestamp

/-! ## Numbers -/

/-- Removes an integer's underscores: each between two digits, none first or last. -/
def dropUnderscores (b : Bytes) : Except String Bytes :=
  let start := if b.head? == some 43 || b.head? == some 45 then 1 else 0
  match b.drop start with
  | [] => .ok b
  | c :: _ =>
    if c == 95 then fail "number cannot start with underscore"
    else if b.getLast? == some 95 then fail "number cannot end with underscore"
    else if !b.contains 95 then .ok b
    else
      let front := b.takeWhile (· != 95)
      go (b.drop (front.length + 1)) false front.reverse
where
  go : Bytes → Bool → Bytes → Except String Bytes
    | [], _, acc => .ok acc.reverse
    | c :: rest, before, acc =>
      if c == 95 then
        (if before then go rest false acc else fail "number must have at least one digit between underscores")
      else go rest true (c :: acc)

def baseValue (base : Nat) (b : Bytes) : Except String Int :=
  let text := Utf8.lossy b
  let digit := fun (c : UInt8) => Numeral.digitValue (Char.ofNat c.toNat)
  if b.isEmpty || b.any (fun c => digit c ≥ base) then
    .error (Numeral.Refusal.malformed.text "ParseInt" text)
  else
    let n := b.foldl (fun acc c => acc * base + digit c) 0
    if n ≥ Nat.pow 2 63 then .error (Numeral.Refusal.range.text "ParseInt" text) else .ok n

def readInteger (raw : Bytes) : Except String Int :=
  match raw with
  | 48 :: c :: _ :: _ =>
    if c == 120 then based 16 "hexadecimal"
    else if c == 98 then based 2 "binary"
    else if c == 111 then based 8 "octal"
    else decimal
  | _ => decimal
where
  based (base : Nat) (word : String) : Except String Int := do
    let cleaned ← dropUnderscores (raw.drop 2)
    match baseValue base cleaned with
    | .ok n => pure n
    | .error e => fail s!"couldn't parse {word} number: {e}"
  decimal : Except String Int := do
    let cleaned ← dropUnderscores raw
    let start := if cleaned.head? == some 43 || cleaned.head? == some 45 then 1 else 0
    if cleaned.length > start + 1 && cleaned.getD start 0 == 48 then
      fail "leading zero not allowed on decimal number"
    else
      match Numeral.parseInt false 64 (Utf8.lossy cleaned) with
      | .ok n => pure n
      | .error e => fail s!"couldn't parse decimal number: {e}"

/-- Removes a float's underscores: each between two digits. -/
def floatUnderscores (b : Bytes) : Except String Bytes :=
  if b.head? == some 95 then fail "number cannot start with underscore"
  else if b.getLast? == some 95 then fail "number cannot end with underscore"
  else if !b.contains 95 then .ok b
  else go b none false []
where
  go : Bytes → Option UInt8 → Bool → Bytes → Except String Bytes
    | [], _, _, acc => .ok acc.reverse
    | c :: rest, prev, before, acc =>
      let next := rest.head?
      if c == 95 then
        if !before then fail "number must have at least one digit between underscores"
        else if next == some 101 || next == some 69 then fail "cannot have underscore before exponent"
        else go rest (some c) false acc
      else if c == 43 || c == 45 then go rest (some c) false (c :: acc)
      else if c == 101 || c == 69 then
        if next == some 95 then fail "cannot have underscore after exponent"
        else go rest (some c) before (c :: acc)
      else if c == 46 then
        if next == some 95 then fail "cannot have underscore after decimal point"
        else if prev == some 95 then fail "cannot have underscore before decimal point"
        else go rest (some c) before (c :: acc)
      else go rest (some c) true (c :: acc)

/-- At most one point, with a digit on each side. -/
def checkPoints : Option UInt8 → Bool → Bytes → Except String Unit
  | _, _, [] => .ok ()
  | prev, seen, c :: rest =>
    if c == 46 then
      if seen then fail "float can have at most one decimal point"
      else if !(prev.map isDigit).getD false then fail "float decimal point must be preceded by a digit"
      else if !(rest.head?.map isDigit).getD false then fail "float decimal point must be followed by a digit"
      else checkPoints (some c) true rest
    else checkPoints (some c) seen rest

/-- A decimal float: a sign, digits with at most one point, an exponent with sign and digits. -/
def decimalShape (cs : List Char) : Bool :=
  let body := match cs with
    | '+' :: r => r
    | '-' :: r => r
    | r => r
  let mant := body.takeWhile fun c => c.isDigit || c == '.'
  let rest := body.drop mant.length
  let exponent := match rest with
    | [] => true
    | c :: r =>
      (c == 'e' || c == 'E') &&
        (let ds := match r with
          | '+' :: d => d
          | '-' :: d => d
          | d => d
         !ds.isEmpty && ds.all Char.isDigit)
  mant.any Char.isDigit && mant.count '.' ≤ 1 && exponent

/-- A float's literal without a leading `+`, or `+Inf`, `-Inf`, `NaN`. -/
def readFloat (raw : Bytes) : Except String String := do
  if raw.length == 4 && (raw.head? == some 43 || raw.head? == some 45) && follows (raw.drop 1) "nan" then
    return "NaN"
  let cleaned ← floatUnderscores raw
  if cleaned.head? == some 46 then fail "float cannot start with a dot"
  if cleaned.getLast? == some 46 then fail "float cannot end with a dot"
  checkPoints none false cleaned
  let start := if cleaned.head? == some 43 || cleaned.head? == some 45 then 1 else 0
  if cleaned.getD start 0 == 48 && cleaned.length > start + 1 && isDigit (cleaned.getD (start + 1) 0) then
    fail "float integer part cannot have leading zeroes"
  let text := Utf8.lossy cleaned
  let cs := text.toList
  let (neg, body) := match cs with
    | '-' :: r => (true, r)
    | '+' :: r => (false, r)
    | r => (false, r)
  let refuse := fun (why : String) =>
    fail s!"unable to parse float: strconv.ParseFloat: parsing {Quote.string text}: {why}"
  if body == ['i', 'n', 'f'] then return (if neg then "-Inf" else "+Inf")
  if cs == ['n', 'a', 'n'] then return "NaN"
  if !decimalShape cs then refuse "invalid syntax"
  else
    let lit := String.ofList (if cs.head? == some '+' then cs.drop 1 else cs)
    match Decimal.literalValue? lit with
    | some _ => pure lit
    | none => refuse "value out of range"

/-! ## Dates and times -/

def digitsValue (b : Bytes) : Except String Nat :=
  b.foldl (fun acc c => acc.bind fun v =>
    if isDigit c then .ok (v * 10 + (c.toNat - 48)) else fail "expected digit (0-9)") (.ok 0)

/-- A time of day, with the number of fraction digits written (at most nine). -/
structure Clock where
  hour : Nat
  minute : Nat
  second : Nat
  nanos : Nat
  precision : Nat
  deriving Repr, Inhabited

def readDate (b : Bytes) : Except String (Nat × Nat × Nat) := do
  if b.length != 10 || b.getD 4 0 != 45 || b.getD 7 0 != 45 then
    fail "dates are expected to have the format YYYY-MM-DD"
  let y ← digitsValue (b.take 4)
  let m ← digitsValue ((b.drop 5).take 2)
  let d ← digitsValue ((b.drop 8).take 2)
  if m > 0 && m < 13 && d > 0 && d ≤ daysIn m y then pure (y, m, d) else fail "impossible date"

/-- Reads `HH:MM:SS` with an optional fraction; a second of 60 is allowed, digits past the
ninth dropped. -/
def readClock (b : Bytes) : Except String (Clock × Bytes) := do
  if b.length < 8 then fail "times are expected to have the format HH:MM:SS[.NNNNNN]"
  let h ← digitsValue (b.take 2)
  if h > 23 then fail "hour cannot be greater 23"
  if b.getD 2 0 != 58 then fail "expecting colon between hours and minutes"
  let mi ← digitsValue ((b.drop 3).take 2)
  if mi > 59 then fail "minutes cannot be greater 59"
  if b.getD 5 0 != 58 then fail "expecting colon between minutes and seconds"
  let s ← digitsValue ((b.drop 6).take 2)
  if s > 60 then fail "seconds cannot be greater 60"
  match b.drop 8 with
  | 46 :: after =>
    let ds := after.takeWhile isDigit
    if ds.isEmpty then
      if after.isEmpty then fail "nanoseconds need at least one digit"
      else fail "need at least one digit after fraction point"
    else
      let kept := ds.take 9
      let frac ← digitsValue kept
      pure (⟨h, mi, s, frac * Nat.pow 10 (9 - kept.length), kept.length⟩, after.drop ds.length)
  | rest => pure (⟨h, mi, s, 0, 0⟩, rest)

/-- Reads a date and a time separated by `T`, `t` or a space. -/
def readDateTime (b : Bytes) : Except String ((Nat × Nat × Nat) × Clock × Bytes) := do
  if b.length < 11 then
    fail "local datetimes are expected to have the format YYYY-MM-DDTHH:MM:SS[.NNNNNNNNN]"
  let date ← readDate (b.take 10)
  let sep := b.getD 10 0
  if sep != 84 && sep != 32 && sep != 116 then fail "datetime separator is expected to be T or a space"
  let (clock, rest) ← readClock (b.drop 11)
  pure (date, clock, rest)

/-- Reads `Z` or `+hh:mm` in seconds (`none` for UTC and for a zero offset). -/
def readOffset (b : Bytes) : Except String (Option Int × Bytes) :=
  match b with
  | [] => fail "date time should have a timezone"
  | z :: more =>
    if z == 90 || z == 122 then .ok (none, more)
    else do
      if b.length != 6 then fail "invalid date-time timezone"
      let dir : Int ← if z == 45 then pure (-1) else if z == 43 then pure 1
        else fail "invalid timezone offset character"
      if b.getD 3 0 != 58 then fail "expected a : separator"
      let hh ← digitsValue ((b.drop 1).take 2)
      if hh > 23 then fail "invalid timezone offset hours"
      let mm ← digitsValue ((b.drop 4).take 2)
      if mm > 59 then fail "invalid timezone offset minutes"
      let secs := dir * ((hh * 3600 + mm * 60 : Nat) : Int)
      pure (if secs == 0 then none else some secs, b.drop 6)

def readZoned (b : Bytes) : Except String Stamp := do
  let ((y, mo, d), c, rest) ← readDateTime b
  let (offset, rest) ← readOffset rest
  if !rest.isEmpty then fail "extra bytes at the end of the timezone"
  pure (Stamp.carrySecond ⟨y, mo, d, c.hour, c.minute, c.second, c.nanos, offset⟩)

def dateText (y m d : Nat) : String := s!"{pad 4 y}-{pad 2 m}-{pad 2 d}"

/-- A local time with as many fraction digits as were written. -/
def Clock.text (c : Clock) : String :=
  s!"{pad 2 c.hour}:{pad 2 c.minute}:{pad 2 c.second}" ++
    (if c.precision > 0 then "." ++ String.ofList ((pad 9 c.nanos).toList.take c.precision) else "")

/-! ## Tables -/

abbrev Members := List (String × ConfigValue)

def setMember (k : String) (v : ConfigValue) (ms : Members) : Members :=
  if ms.any (·.1 == k) then ms.map fun m => if m.1 == k then (k, v) else m else ms ++ [(k, v)]

def setPath : List String → ConfigValue → Members → Members
  | [], _, ms => ms
  | [k], v, ms => setMember k v ms
  | k :: more, v, ms =>
    match ms.lookup k with
    | some (.table inner) => setMember k (.table (setPath more v inner)) ms
    | _ => setMember k (.table (setPath more v [])) ms

/-- Changes the table at a path, making missing tables; through an array of tables it goes
into the last table. -/
def atTable : List String → (Members → Members) → Members → Members
  | [], f, ms => f ms
  | k :: more, f, ms =>
    match ms.lookup k with
    | some (.table inner) => setMember k (.table (atTable more f inner)) ms
    | some (.list items) =>
      match items.getLast? with
      | some (.table inner) => setMember k (.list (items.dropLast ++ [.table (atTable more f inner)])) ms
      | _ => ms
    | some _ => ms
    | none => setMember k (.table (atTable more f [])) ms

def appendTable (k : String) (ms : Members) : Members :=
  match ms.lookup k with
  | some (.list items) => setMember k (.list (items ++ [.table []])) ms
  | _ => setMember k (.list [.table []]) ms

mutual

def decodeValue : Nat → Value → Except String ConfigValue
  | 0, _ => .ok .null
  | fuel + 1, v =>
    match v with
    | .str s => .ok (.text s)
    | .bool b => .ok (.bool b)
    | .integer raw => (readInteger raw).map (ConfigValue.int · "int64")
    | .float raw => (readFloat raw).map ConfigValue.float
    | .dateTime raw => (readZoned raw).map fun s => .time "time.Time" s.text
    | .localDate raw => (readDate raw).map fun (y, m, d) => .time "toml.LocalDate" (dateText y m d)
    | .localDateTime raw => do
      let ((y, m, d), c, rest) ← readDateTime raw
      if !rest.isEmpty then fail "extra characters at the end of a local date time"
      pure (.time "toml.LocalDateTime" (dateText y m d ++ "T" ++ c.text))
    | .localTime raw => do
      let (c, rest) ← readClock raw
      if !rest.isEmpty then fail "extra characters at the end of a local time"
      pure (.time "toml.LocalTime" c.text)
    | .array items => (decodeItems fuel items).map .list
    | .inlineTable entries => (decodeEntries fuel entries []).map .table

def decodeItems : Nat → List Value → Except String (List ConfigValue)
  | 0, _ => .ok []
  | _ + 1, [] => .ok []
  | fuel + 1, v :: more => do
    let x ← decodeValue fuel v
    let rest ← decodeItems fuel more
    pure (x :: rest)

def decodeEntries : Nat → List (List String × Value) → Members → Except String Members
  | 0, _, ms => .ok ms
  | _ + 1, [], ms => .ok ms
  | fuel + 1, (key, v) :: more, ms => do
    let x ← decodeValue fuel v
    decodeEntries fuel more (setPath key x ms)

end

/-- The root table's members read so far, and the keys defined. -/
structure Reading where
  root : Members
  seen : Seen
  deriving Inhabited

/-- Stores an expression after checking it; `fuel` bounds its value's nesting. -/
def Reading.store (r : Reading) (fuel : Nat) : Expr → Except String Reading
  | .keyValue key v => do
    let seen ← r.seen.keyValue fuel key v
    let x ← decodeValue fuel v
    pure ⟨atTable r.seen.current (setPath key x) r.root, seen⟩
  | .table key => do
    let seen ← r.seen.table key
    pure ⟨atTable key id r.root, seen⟩
  | .arrayTable key => do
    let seen ← r.seen.arrayTable key
    pure ⟨atTable key.dropLast (appendTable (key.getLastD "")) r.root, seen⟩

/-- Reads and stores a document's expressions; `bound` on its bytes is the fuel of every step. -/
def readExpressions (bound : Nat) : Nat → Bytes → Bool → Reading → Except String Reading
  | 0, _, _, r => .ok r
  | fuel + 1, b, first, r =>
    match nextExpression bound bound b first with
    | .error e => .error e
    | .ok none => .ok r
    | .ok (some (e, rest)) => do
      let r ← r.store bound e
      readExpressions bound fuel rest false r

def decodeDocument (text : String) : Except String ConfigValue :=
  let b := Bytes.ofString text
  let n := b.length
  (readExpressions (8 * n + 16) (n + 1) b true ⟨[], Seen.empty⟩).map fun r => .table r.root

theorem lookup_setMember (k : String) (v : ConfigValue) (ms : Members) :
    (setMember k v ms).lookup k = some v := by
  unfold setMember
  split
  · rename_i hany
    induction ms with
    | nil => simp at hany
    | cons m rest ih =>
      obtain ⟨a, b⟩ := m
      by_cases h : a = k
      · subst h; simp
      · have hk : (k == a) = false := by simp [Ne.symm h]
        have hrest : rest.any (·.1 == k) = true := by simp_all
        have hak : ¬(a == k) = true := by simpa using h
        rw [List.map_cons, if_neg hak]
        simp only [List.lookup_cons, hk]
        simpa using ih hrest
  · rename_i hany
    induction ms with
    | nil => simp
    | cons m rest ih =>
      obtain ⟨a, b⟩ := m
      have h : a ≠ k := by
        intro e; subst e; simp at hany
      have hk : (k == a) = false := by simp [Ne.symm h]
      have hrest : ¬ rest.any (·.1 == k) = true := by simp_all
      simp [List.lookup_cons, hk, ih hrest]

theorem readInteger_hex : (readInteger [48, 120, 49, 48]).toOption = some 16 := by decide

theorem dateText_pads : dateText 979 5 7 = "0979-05-07" := by decide

end Toml

end InferenceBroker
