import InferenceBroker.Json.Parse
import InferenceBroker.Message.Json
import InferenceBroker.Text.Decimal

/-!
# Engine statistics as a client reads them

A client reads the broker's JSON array of engine records into `StatsEntry` values as a typed
JSON reader does: members select fields exactly or up to case, unknown members are ignored,
null leaves a field alone. A member whose JSON type does not fit is skipped and the first
mismatch is reported after the whole document, naming the record type, the field path and
its type (`json: cannot unmarshal string into Go struct field EngineStats.refCount of type int`).
-/

namespace InferenceBroker

/-- One engine's statistics; the mean payload is the JSON text of the binary64 read. -/
structure StatsEntry where
  algorithm : String := ""
  version : Int := 0
  mode : String := ""
  state : String := ""
  refCount : Int := 0
  threadId : Nat := 0
  queueLen : Int := 0
  queueCap : Int := 0
  submitted : Int := 0
  rejected : Int := 0
  processed : Int := 0
  failed : Int := 0
  timeouts : Int := 0
  meanWait : Int := 0
  meanProcess : Int := 0
  p99Process : Int := 0
  meanPayload : String := "0"
  maxPayload : Int := 0
  uptime : Int := 0
  deriving Repr, Inhabited

namespace StatsEntry

inductive Slot where
  | text
  | signed (bits : Nat)
  | unsigned
  | float
  deriving Repr, DecidableEq

def fields : List (String × Slot × String) :=
  [("mode", .text, "plugin.InferMode"), ("state", .text, "string"),
   ("refCount", .signed 64, "int"), ("threadId", .unsigned, "uint64"),
   ("queueLen", .signed 64, "int"), ("queueCap", .signed 64, "int"),
   ("submitted", .signed 64, "int64"), ("rejected", .signed 64, "int64"),
   ("processed", .signed 64, "int64"), ("failed", .signed 64, "int64"),
   ("timeouts", .signed 64, "int64"), ("meanWait", .signed 64, "time.Duration"),
   ("meanProcess", .signed 64, "time.Duration"), ("p99Process", .signed 64, "time.Duration"),
   ("meanPayload", .float, "float64"), ("maxPayload", .signed 64, "int64"),
   ("uptime", .signed 64, "time.Duration")]

/-- The field a member name selects: an exact match first, then one up to case. -/
def select (names : List String) (key : String) : Option String :=
  if names.contains key then some key
  else names.find? fun f => JsonCodec.fold f == JsonCodec.fold key

def mismatch (what record path goType : String) : Failure :=
  .note s!"json: cannot unmarshal {what} into Go struct field {record}.{path} of type {goType}"

/-- A text, an integer, a float text, or the word a mismatch names the value by. -/
inductive Read where
  | text (s : String)
  | int (n : Int)
  | float (s : String)
  | skip
  | wrong (what : String)

def readSlot (slot : Slot) (v : JsonValue) : Read :=
  match slot, v with
  | _, .null => .skip
  | .text, .string s => .text s
  | .text, .number _ => .wrong "number"
  | .signed bits, .number lit =>
    match JsonCodec.intLiteral? lit with
    | some n => if -Nat.pow 2 (bits - 1) ≤ n ∧ n < Nat.pow 2 (bits - 1) then .int n else .wrong s!"number {lit}"
    | none => .wrong s!"number {lit}"
  | .unsigned, .number lit =>
    match JsonCodec.intLiteral? lit with
    | some n => if 0 ≤ n ∧ n < Nat.pow 2 64 then .int n else .wrong s!"number {lit}"
    | none => .wrong s!"number {lit}"
  | .float, .number lit =>
    match Decimal.literalText? lit with
    | some t => .float t
    | none => .wrong s!"number {lit}"
  | _, other => .wrong (JsonCodec.typeWord other)

def assign (e : StatsEntry) (field : String) : Read → StatsEntry
  | .text s =>
    match field with
    | "mode" => { e with mode := s }
    | "state" => { e with state := s }
    | _ => e
  | .int n =>
    match field with
    | "refCount" => { e with refCount := n }
    | "threadId" => { e with threadId := n.toNat }
    | "queueLen" => { e with queueLen := n }
    | "queueCap" => { e with queueCap := n }
    | "submitted" => { e with submitted := n }
    | "rejected" => { e with rejected := n }
    | "processed" => { e with processed := n }
    | "failed" => { e with failed := n }
    | "timeouts" => { e with timeouts := n }
    | "meanWait" => { e with meanWait := n }
    | "meanProcess" => { e with meanProcess := n }
    | "p99Process" => { e with p99Process := n }
    | "maxPayload" => { e with maxPayload := n }
    | "uptime" => { e with uptime := n }
    | _ => e
  | .float s => if field == "meanPayload" then { e with meanPayload := s } else e
  | _ => e

def readKey (e : StatsEntry) (saved : Option Failure) : List (String × JsonValue) →
    StatsEntry × Option Failure
  | [] => (e, saved)
  | (k, v) :: rest =>
    match select ["AlgorithmID", "Version"] k with
    | some "AlgorithmID" =>
      match readSlot .text v with
      | .text s => readKey { e with algorithm := s } saved rest
      | .wrong w => readKey e (saved <|> some (mismatch w "EngineKey" "key.AlgorithmID" "string")) rest
      | _ => readKey e saved rest
    | some _ =>
      match readSlot (.signed 64) v with
      | .int n => readKey { e with version := n } saved rest
      | .wrong w => readKey e (saved <|> some (mismatch w "EngineKey" "key.Version" "int64")) rest
      | _ => readKey e saved rest
    | none => readKey e saved rest

def readMembers (e : StatsEntry) (saved : Option Failure) : List (String × JsonValue) →
    StatsEntry × Option Failure
  | [] => (e, saved)
  | (k, v) :: rest =>
    match select ("key" :: fields.map (·.1)) k with
    | some "key" =>
      match v with
      | .object ms => let (e, saved) := readKey e saved ms; readMembers e saved rest
      | .null => readMembers e saved rest
      | other => readMembers e (saved <|> some (mismatch (JsonCodec.typeWord other)
          "EngineStats" "key" "core.EngineKey")) rest
    | some field =>
      match fields.lookup field with
      | some (slot, goType) =>
        match readSlot slot v with
        | .wrong w => readMembers e (saved <|> some (mismatch w "EngineStats" field goType)) rest
        | r => readMembers (e.assign field r) saved rest
      | none => readMembers e saved rest
    | none => readMembers e saved rest

def decode (data : Bytes) : Except Failure (List StatsEntry) :=
  match Json.parse data with
  | .error e => .error (.note e)
  | .ok .null => .ok []
  | .ok (.array items) =>
    let (entries, saved) := items.foldl (fun (acc, saved) item =>
      match item with
      | .object ms => let (e, saved) := readMembers {} saved ms; (acc ++ [e], saved)
      | .null => (acc ++ [{}], saved)
      | other => (acc ++ [{}], saved <|> some (.note
          s!"json: cannot unmarshal {JsonCodec.typeWord other} into Go value of type engine.EngineStats")))
      ([], none)
    match saved with
    | some e => .error e
    | none => .ok entries
  | .ok other =>
    .error (.note s!"json: cannot unmarshal {JsonCodec.typeWord other} into Go value of type []engine.EngineStats")

end StatsEntry

end InferenceBroker
