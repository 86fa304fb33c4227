import InferenceBroker.Text.Utf8

/-!
# JSON documents

Numbers keep their literal text, so a reader decides per target type whether it fits;
objects keep their members in order, duplicates included. The printer writes the compact
form, escaping `<`, `>`, `&`, U+2028, U+2029 and controls; a byte that starts no valid UTF-8
sequence becomes U+FFFD.
-/

namespace InferenceBroker

inductive JsonValue where
  | null
  | bool (b : Bool)
  | number (literal : String)
  | string (s : String)
  | array (items : List JsonValue)
  | object (members : List (String × JsonValue))
deriving Inhabited, Repr

namespace Json

/-- The lowercase hexadecimal digit of a value below 16. -/
def hexDigit (n : Nat) : Char := Nat.digitChar n

def unitEscape (n : Nat) : String :=
  "\\u" ++ String.ofList [hexDigit (n / 4096 % 16), hexDigit (n / 256 % 16),
    hexDigit (n / 16 % 16), hexDigit (n % 16)]

/-- The escape of an ASCII byte inside a string, if it needs one. -/
def asciiEscape (escapeHtml : Bool) (b : Nat) : Option String :=
  if b == 0x5C then some "\\\\"
  else if b == 0x22 then some "\\\""
  else if b == 0x08 then some "\\b"
  else if b == 0x0C then some "\\f"
  else if b == 0x0A then some "\\n"
  else if b == 0x0D then some "\\r"
  else if b == 0x09 then some "\\t"
  else if b < 0x20 then some (unitEscape b)
  else if escapeHtml && (b == 0x3C || b == 0x3E || b == 0x26) then some (unitEscape b)
  else none

/-- The quoted form of a string given as bytes. -/
def quoteBytes (escapeHtml : Bool) (bs : Bytes) : String :=
  "\"" ++ go bs "" ++ "\""
where
  go : Bytes → String → String
    | [], acc => acc
    | b :: rest, acc =>
      if b.toNat < 0x80 then
        match asciiEscape escapeHtml b.toNat with
        | some e => go rest (acc ++ e)
        | none => go rest (acc.push (Char.ofNat b.toNat))
      else
        let w := Utf8.width (b :: rest)
        if _hw : w = 0 then go rest (acc.push (Char.ofNat 0xFFFD))
        else
          let cs := Utf8.decodeValid ((b :: rest).take w)
          let text := match cs with
            | [c] => if c.toNat == 0x2028 || c.toNat == 0x2029 then unitEscape c.toNat
                     else String.ofList cs
            | _ => String.ofList cs
          go ((b :: rest).drop w) (acc ++ text)
  termination_by bs => bs.length
  decreasing_by
    all_goals simp_wf
    all_goals omega

def quote (escapeHtml : Bool) (s : String) : String := quoteBytes escapeHtml (Bytes.ofString s)

mutual
/-- The compact text, escaping HTML characters in strings. -/
def render : JsonValue → String
  | .null => "null"
  | .bool b => if b then "true" else "false"
  | .number lit => lit
  | .string s => quote true s
  | .array items => "[" ++ ",".intercalate (renderList items) ++ "]"
  | .object members => "\x7b" ++ ",".intercalate (renderMembers members) ++ "\x7d"

def renderList : List JsonValue → List String
  | [] => []
  | v :: rest => render v :: renderList rest

def renderMembers : List (String × JsonValue) → List String
  | [] => []
  | (k, v) :: rest => (quote true k ++ ":" ++ render v) :: renderMembers rest
end

mutual
/-- One member or item per line, `step` more per level; empty containers `[]` and `{}`. -/
def renderIndented (step : String) (indent : String) : JsonValue → String
  | .array [] => "[]"
  | .object [] => "\x7b\x7d"
  | .array items =>
    "[\n" ++ ",\n".intercalate (renderIndentedList step (indent ++ step) items) ++
      "\n" ++ indent ++ "]"
  | .object members =>
    "\x7b\n" ++ ",\n".intercalate (renderIndentedMembers step (indent ++ step) members) ++
      "\n" ++ indent ++ "\x7d"
  | v => render v

def renderIndentedList (step indent : String) : List JsonValue → List String
  | [] => []
  | v :: rest => (indent ++ renderIndented step indent v) :: renderIndentedList step indent rest

def renderIndentedMembers (step indent : String) : List (String × JsonValue) → List String
  | [] => []
  | (k, v) :: rest =>
    (indent ++ quote true k ++ ": " ++ renderIndented step indent v) ::
      renderIndentedMembers step indent rest
end

/-- The member under a key, the last when repeated. -/
def JsonValue.field? (v : JsonValue) (key : String) : Option JsonValue :=
  match v with
  | .object members => (members.filter (·.1 == key)).getLast?.map (·.2)
  | _ => none

end Json

end InferenceBroker
