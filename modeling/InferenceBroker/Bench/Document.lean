import InferenceBroker.Json.Value
import InferenceBroker.Core.Failure

/-!
# Bench documents

A bench runs a JSON script of steps against parts of the broker and reports a JSON
document: bytes as text (or `{"hex": …}` when not UTF-8), failures as
`{"error": <code>, "message": <text>}`, refused steps as failures of kind `driver`, and
every `127.0.0.1:<number>` as `127.0.0.1:<port>`.
-/

namespace InferenceBroker

namespace Bench

/-- The member under a key, the last when repeated. -/
def member (j : JsonValue) (k : String) : Option JsonValue :=
  match j with
  | .object ms => (ms.filter (·.1 == k)).getLast?.map (·.2)
  | _ => none

def has (j : JsonValue) (k : String) : Bool :=
  match member j k with
  | none | some .null => false
  | _ => true

def textOr (j : JsonValue) (k : String) (d : String) : String :=
  match member j k with
  | some (.string s) => s
  | _ => d

def intOr (j : JsonValue) (k : String) (d : Int) : Int :=
  match member j k with
  | some (.number lit) => lit.toInt?.getD d
  | some (.bool b) => if b then 1 else 0
  | _ => d

def flag (j : JsonValue) (k : String) : Bool :=
  match member j k with
  | some (.bool b) => b
  | _ => false

def items (j : JsonValue) (k : String) : List JsonValue :=
  match member j k with
  | some (.array xs) => xs
  | _ => []

def part (j : JsonValue) (k : String) : JsonValue :=
  match member j k with
  | some o@(.object _) => o
  | _ => .object []

/-- A step's `text`, or its `hex` digits. -/
def payload (j : JsonValue) : Bytes :=
  match member j "text" with
  | some (.string s) => Bytes.ofString s
  | _ => (Bytes.ofHex? (textOr j "hex" "")).getD []

def textValue (bs : Bytes) : JsonValue :=
  match Bytes.utf8? bs with
  | some s => .string s
  | none => .object [("hex", .string bs.hex)]

def hexValue : Option Bytes → JsonValue
  | some bs => .string bs.hex
  | none => .null

def num (n : Int) : JsonValue := .number (toString n)

def failureValue (f : Failure) : JsonValue :=
  .object [("error", .string f.code.name), ("message", .string f.message)]

def outcomeValue : Except Failure Unit → JsonValue
  | .ok () => .null
  | .error f => failureValue f

def refusal (msg : String) : JsonValue :=
  .object [("error", .string "driver"), ("message", .string msg)]

def quoted (s : String) : String := Json.quote false s

def maskPorts (s : String) : String :=
  let mark := "127.0.0.1:"
  match s.splitOn mark with
  | [] => s
  | first :: rest =>
    first ++ String.join (rest.map fun piece =>
      let digits := piece.toList.takeWhile Char.isDigit
      if digits.isEmpty then mark ++ piece
      else mark ++ "<port>" ++ String.ofList (piece.toList.dropWhile Char.isDigit))

mutual
def maskValue : JsonValue → JsonValue
  | .string s => .string (maskPorts s)
  | .array xs => .array (maskItems xs)
  | .object ms => .object (maskMembers ms)
  | v => v

def maskItems : List JsonValue → List JsonValue
  | [] => []
  | v :: rest => maskValue v :: maskItems rest

def maskMembers : List (String × JsonValue) → List (String × JsonValue)
  | [] => []
  | (k, v) :: rest => (k, maskValue v) :: maskMembers rest
end

/-- Runs the steps of a script, one report per step. -/
def runSteps {σ : Type} (step : σ → JsonValue → JsonValue × σ) (s : σ) (steps : List JsonValue) :
    List JsonValue × σ :=
  let (rs, s) := steps.foldl (fun (acc, s) j => let (r, s) := step s j; (r :: acc, s)) ([], s)
  (rs.reverse, s)

end Bench

end InferenceBroker
