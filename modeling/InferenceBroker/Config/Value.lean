import InferenceBroker.Text.Numeral
import InferenceBroker.Text.Decimal
import InferenceBroker.Text.Duration
import InferenceBroker.Text.Wrap
import InferenceBroker.Text.Fold

/-!
# Loosely typed setting values

A setting's value is nothing, a truth value, an integer, a float (as written), a text, a
list or a table. A reader asks for a type and gets the nearest value of it, else its zero:
text shows truth values and plain decimals; integers take floats towards zero, numerals of
any base (a trailing `.0…` allowed) and truth values as `1`/`0`; truth values take numerals
and "not zero"; durations take nanoseconds or duration texts; lists of texts split a text
into words.
-/

namespace InferenceBroker

inductive ConfigValue where
  | null
  | bool (b : Bool)
  /-- an integer and the integer type its format reads it as -/
  | int (n : Int) (type : String)
  /-- as written, or `+Inf`, `-Inf`, `NaN` -/
  | float (lit : String)
  | text (s : String)
  /-- a point in time or date, with its type's name and its text -/
  | time (type : String) (shown : String)
  | list (items : List ConfigValue)
  | table (members : List (String × ConfigValue))
  deriving Repr, Inhabited

namespace ConfigValue

def trimZeroFraction (s : String) : String :=
  let cs := s.toList.reverse
  let zeros := cs.takeWhile (· == '0')
  match cs.drop zeros.length with
  | '.' :: rest => if zeros.isEmpty then s else String.ofList rest.reverse
  | _ => s

/-- A float literal towards zero when it fits, else the smallest 64-bit integer. -/
def floatToInt64 (lit : String) : Int :=
  match Decimal.literalTruncated? lit with
  | some n => if -Nat.pow 2 63 ≤ n ∧ n < Nat.pow 2 63 then n else -Nat.pow 2 63
  | none => -Nat.pow 2 63

def toText : ConfigValue → String
  | .null => ""
  | .bool b => if b then "true" else "false"
  | .int n _ => toString n
  | .float lit => (Decimal.literalPlain? lit).getD lit
  | .text s => s
  | .time _ shown => shown
  | .list _ => ""
  | .table _ => ""

def toInt : ConfigValue → Int
  | .bool b => if b then 1 else 0
  | .int n _ => n
  | .float lit => floatToInt64 lit
  | .text s =>
    match Numeral.parseInt true 64 (trimZeroFraction s) with
    | .ok n => n
    | .error _ => 0
  | _ => 0

def toBool : ConfigValue → Bool
  | .bool b => b
  | .int n _ => n != 0
  | .float lit =>
    match Decimal.literalValue? lit with
    | some (_, none) => false
    | _ => true
  | .text s =>
    match Numeral.parseBool s with
    | .ok b => b
    | .error _ => false
  | _ => false

def toDuration : ConfigValue → Duration
  | .int n _ => ⟨n⟩
  | .float lit => ⟨(Decimal.literalTruncated? lit).getD 0⟩
  | .text s =>
    let withUnit := s.toList.any fun c => "nsuµmh".toList.contains c
    match Duration.parse (if withUnit then s else s ++ "ns") with
    | .ok d => d
    | .error _ => ⟨0⟩
  | _ => ⟨0⟩

def toTexts : ConfigValue → List String
  | .list items => items.map toText
  | .text s => Wrap.words s
  | _ => []

def member? (v : ConfigValue) (key : String) : Option ConfigValue :=
  match v with
  | .table ms => (ms.lookup key)
  | _ => none

/-- The member a structure field reads: the one under its name, else the first equal up to case. -/
def field? (v : ConfigValue) (name : String) : Option ConfigValue :=
  match v with
  | .table ms =>
    match ms.lookup name with
    | some x => some x
    | none => (ms.find? fun m => Fold.equalFold m.1 name).map (·.2)
  | _ => none

/-- Adds a member, replacing an earlier one of its key in place. -/
def putMember (acc : List (String × ConfigValue)) (k : String) (v : ConfigValue) : List (String × ConfigValue) :=
  if acc.any (·.1 == k) then acc.map (fun m => if m.1 == k then (k, v) else m) else acc ++ [(k, v)]

mutual
/-- The keys of all tables, also inside lists, in lower case. -/
def lowerKeys : ConfigValue → ConfigValue
  | .table ms => .table ((lowerMembers ms).foldl (fun acc (k, v) => putMember acc k v) [])
  | .list items => .list (lowerItems items)
  | v => v

def lowerMembers : List (String × ConfigValue) → List (String × ConfigValue)
  | [] => []
  | (k, v) :: rest => (Fold.lowerText k, lowerKeys v) :: lowerMembers rest

def lowerItems : List ConfigValue → List ConfigValue
  | [] => []
  | v :: rest => lowerKeys v :: lowerItems rest
end

theorem toText_int (n : Int) (t : String) : (ConfigValue.int n t).toText = toString n := rfl

theorem toInt_int (n : Int) (t : String) : (ConfigValue.int n t).toInt = n := rfl

end ConfigValue

end InferenceBroker
