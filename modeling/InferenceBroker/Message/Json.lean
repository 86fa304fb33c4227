import InferenceBroker.Message.Basic
import InferenceBroker.Json.Parse
import InferenceBroker.Text.Base64

/-!
# The JSON message encoding

A message is an object of its members in field order: `msg_type` always (by name), other
fields only when not zero, the value as base64, the return code by name. Reading starts
from the empty message; names match a field exactly or up to case (`fold`). An unknown type
or return code name stops the read at once; a member whose JSON type does not fit is skipped
and the first such mismatch reported after the whole object; members of no field are ignored.
-/

namespace InferenceBroker

namespace JsonCodec

/-- The JSON type word of a value, as mismatches name it. -/
def typeWord : JsonValue → String
  | .null => "null"
  | .bool _ => "bool"
  | .number _ => "number"
  | .string _ => "string"
  | .array _ => "array"
  | .object _ => "object"

/-- The members in field order, absent ones omitted. -/
def members (m : Message) : List (String × JsonValue) :=
  let num := fun (n : Int) => JsonValue.number (toString n)
  [("msg_type", some (JsonValue.string m.kind.name)),
   ("transaction_id", if m.transactionId != 0 then some (num m.transactionId.toNat) else none),
   ("request_id", if m.requestId != 0 then some (num m.requestId.toNat) else none),
   ("algorithm_id", if m.algorithmId.isEmpty then none else some (.string m.algorithmId.text)),
   ("version", if m.version != 0 then some (num m.version.toInt) else none),
   ("algorithm_type", if m.algorithmType != 0 then some (num m.algorithmType.toInt) else none),
   ("client_uid", if m.clientUid.isEmpty then none else some (.string m.clientUid.text)),
   ("operation_id", if m.operationId != 0 then some (num m.operationId.toInt) else none),
   ("option_type", if m.optionType != 0 then some (num m.optionType.toInt) else none),
   ("value", match m.value with
      | some v => if v.isEmpty then none else some (.string (Base64.encode v))
      | none => none),
   ("ret_code", if m.retCode != Code.ok then some (.string m.retCode.name) else none),
   ("err", if m.err.isEmpty then none else some (.string m.err.text))].filterMap
    fun (k, v) => v.map (k, ·)

/-- A string member's text, from its bytes (invalid UTF-8 as U+FFFD). -/
def memberText : String × JsonValue → Message → String
  | ("algorithm_id", _), m => Json.quoteBytes true m.algorithmId
  | ("client_uid", _), m => Json.quoteBytes true m.clientUid
  | ("err", _), m => Json.quoteBytes true m.err
  | (_, v), _ => Json.render v

def encode (m : Message) : Except Failure Bytes :=
  if m.kind.valid then
    let body := (members m).map fun p => Json.quote true p.1 ++ ":" ++ memberText p m
    .ok (Bytes.ofString ("\x7b" ++ ",".intercalate body ++ "\x7d"))
  else .error (.within s!"message type {m.kind.val.toNat}" Failure.invalidArgument)

/-! ## Reading -/

/-- Upper-cases ASCII and folds long s and the Kelvin sign, whose case partners are ASCII. -/
def fold (s : String) : String :=
  String.ofList (s.toList.map fun c =>
    if 'a' ≤ c ∧ c ≤ 'z' then Char.ofNat (c.toNat - 32)
    else if c.toNat == 0x17F then 'S'
    else if c.toNat == 0x212A then 'K'
    else c)

def fieldNames : List String :=
  ["msg_type", "transaction_id", "request_id", "algorithm_id", "version", "algorithm_type",
   "client_uid", "operation_id", "option_type", "value", "ret_code", "err"]

/-- The field a name selects: an exact match first, then one up to case. -/
def fieldOf? (key : String) : Option String :=
  if fieldNames.contains key then some key
  else fieldNames.find? fun f => fold f == fold key

def mismatch (what : String) (field goType : String) : Failure :=
  .note s!"json: cannot unmarshal {what} into Go struct field Message.{field} of type {goType}"

def digitsValue (ds : List Char) : Nat := ds.foldl (fun acc c => acc * 10 + (c.toNat - 48)) 0

/-- A decimal integer literal: an optional minus and digits only. -/
def intLiteral? (lit : String) : Option Int :=
  match lit.toList with
  | '-' :: ds => if !ds.isEmpty && ds.all Char.isDigit then some (-(digitsValue ds : Int)) else none
  | ds => if !ds.isEmpty && ds.all Char.isDigit then some (digitsValue ds) else none

def itemMismatch (what : String) (field : String) (i : Nat) (goType : String) : Failure :=
  .note s!"json: cannot unmarshal {what} into Message.{field}.{i} of type {goType}"

/-- Whether a literal fits `[lo, hi]`; a field without negative values refuses any minus,
`-0` included. -/
def fits (lo hi n : Int) (lit : String) : Bool := lo ≤ n && n ≤ hi && !(lo == 0 && lit.startsWith "-")

def readInt (field goType : String) (lo hi : Int) (v : JsonValue) :
    Except Failure (Option Int) :=
  match v with
  | .null => .ok none
  | .number lit =>
    match intLiteral? lit with
    | some n => if fits lo hi n lit then .ok (some n)
                else .error (mismatch s!"number {lit}" field goType)
    | none => .error (mismatch s!"number {lit}" field goType)
  | other => .error (mismatch (typeWord other) field goType)

def readString (field : String) (v : JsonValue) : Except Failure (Option String) :=
  match v with
  | .null => .ok none
  | .string s => .ok (some s)
  | other => .error (mismatch (typeWord other) field "string")

/-! ## Reusing the value's bytes

The value field is a byte array with spare room after its bytes. A later `value` member of
the same document refills it: an array of numbers writes its items from the start into the
spare cells, which keep what they held, growing only when full; a `null` or out-of-range
item leaves its cell. Base64 text and `null` replace the array; `[]` gives one without room. -/

/-- The sizes memory is handed out in, up to 32 KiB; larger requests take whole 8 KiB pages. -/
def allocationSizes : List Nat :=
  [8, 16, 24, 32, 48, 64, 80, 96, 112, 128, 144, 160, 176, 192, 208, 224, 240, 256, 288, 320,
   352, 384, 416, 448, 480, 512, 576, 640, 704, 768, 896, 1024, 1152, 1280, 1408, 1536, 1792,
   2048, 2304, 2688, 3072, 3200, 3456, 4096, 4864, 5376, 6144, 6528, 6784, 6912, 8192, 9472,
   9728, 10240, 10880, 12288, 13568, 14336, 16384, 18432, 19072, 20480, 21760, 24576, 27264,
   28672, 32768]

def allocationFor (n : Nat) : Nat :=
  if n ≤ 32760 then (allocationSizes.find? (· ≥ n)).getD n
  else (n + 8191) / 8192 * 8192

/-- What a full byte array of capacity `c` grows to for one more byte: one when empty, double
below 256, else a quarter more plus 192, rounded up to the memory handed out. -/
def grownCapacity (c : Nat) : Nat :=
  let wanted := if c == 0 then 1 else if c < 256 then 2 * c else c + (c + 768) / 4
  allocationFor wanted

/-- The value field while reading: its bytes (`none` when absent) and the spare cells. -/
structure ValueSlot where
  bytes : Option Bytes
  spare : Bytes
  deriving Inhabited

/-- One item of a byte array: a byte, `none` for `null` (the cell keeps its byte), or a mismatch. -/
def byteItem (v : JsonValue) (i : Nat) : Except Failure (Option UInt8) :=
  match v with
  | .number lit =>
    match intLiteral? lit with
    | some n =>
      if fits 0 255 n lit then .ok (some (UInt8.ofNat n.toNat))
      else .error (itemMismatch s!"number {lit}" "value" i "uint8")
    | none => .error (itemMismatch s!"number {lit}" "value" i "uint8")
  | .null => .ok none
  | other => .error (itemMismatch (typeWord other) "value" i "uint8")

/-- Writes an array's items over the bytes from the start: the bytes, the spare cells after
them, and the first mismatch. -/
def fillBytes (items : List JsonValue) (cur spare : Bytes) : Bytes × Bytes × Option Failure :=
  let step := fun (acc : Bytes × Bytes × Option Failure) (item : JsonValue × Nat) =>
    let (cur, spare, err) := acc
    let i := item.2
    let cap := cur.length + spare.length
    let spare := if i ≥ cap then spare ++ List.replicate (grownCapacity cap - cap) 0 else spare
    let (cur, spare) := if i ≥ cur.length then (cur ++ spare.take 1, spare.drop 1) else (cur, spare)
    match byteItem item.1 i with
    | .ok (some b) => (cur.set i b, spare, err)
    | .ok none => (cur, spare, err)
    | .error e => (cur, spare, err <|> some e)
  let (cur, spare, err) := items.zipIdx.foldl step (cur, spare, none)
  let n := items.length
  (cur.take n, cur.drop n ++ spare, err)

def readValue (slot : ValueSlot) (v : JsonValue) : Except Failure ValueSlot × Option Failure :=
  match v with
  | .null => (.ok ⟨none, []⟩, none)
  | .string s =>
    let raw := Bytes.ofString s
    match Base64.decode raw with
    | .ok bs => (.ok ⟨some bs, List.replicate (raw.length / 4 * 3 - bs.length) 0⟩, none)
    | .error e => (.error (.note s!"json: cannot unmarshal string into Go struct field Message.value of type []uint8: {e}"), none)
  | .array [] => (.ok ⟨some [], []⟩, none)
  | .array items =>
    let (bs, spare, err) := fillBytes items (slot.bytes.getD []) slot.spare
    (.ok ⟨some bs, spare⟩, err)
  | other => (.error (mismatch (typeWord other) "value" "[]uint8"), none)

/-- A type or return code name as a string target reads it: a string, or `null` as empty. -/
def nameOf (v : JsonValue) : Except Failure String :=
  match v with
  | .null => .ok ""
  | .string s => .ok s
  | other => .error (.note s!"json: cannot unmarshal {typeWord other} into Go value of type string")

/-- Reading one member: the message after it, a mismatch to remember, or a failure that stops. -/
inductive MemberRead where
  | next (m : Message) (spare : Bytes) (mismatch : Option Failure)
  | stop (m : Message) (err : Failure)

def readMember (m : Message) (spare : Bytes) (key : String) (v : JsonValue) : MemberRead :=
  let int := fun (field goType : String) (lo hi : Int) (set : Int → Message) =>
    match readInt field goType lo hi v with
    | .ok (some n) => MemberRead.next (set n) spare none
    | .ok none => .next m spare none
    | .error e => .next m spare (some e)
  let str := fun (field : String) (set : Bytes → Message) =>
    match readString field v with
    | .ok (some s) => MemberRead.next (set (Bytes.ofString s)) spare none
    | .ok none => .next m spare none
    | .error e => .next m spare (some e)
  match fieldOf? key with
  | none => .next m spare none
  | some "msg_type" =>
    match nameOf v with
    | .error e => .stop m e
    | .ok s => match MessageType.ofName? s with
      | some t => .next { m with kind := t } spare none
      | none => .stop m (.note s!"unknown message type: {s}")
  | some "ret_code" =>
    match nameOf v with
    | .error e => .stop m e
    | .ok s => match Code.ofName? s with
      | some c => .next { m with retCode := c } spare none
      | none => .stop m (.note s!"unknown error code: {s}")
  | some "transaction_id" =>
    int "transaction_id" "uint64" 0 (Nat.pow 2 64 - 1) fun n => { m with transactionId := UInt64.ofNat n.toNat }
  | some "request_id" =>
    int "request_id" "uint64" 0 (Nat.pow 2 64 - 1) fun n => { m with requestId := UInt64.ofNat n.toNat }
  | some "version" =>
    int "version" "int64" (-Nat.pow 2 63) (Nat.pow 2 63 - 1) fun n => { m with version := Int64.ofInt n }
  | some "algorithm_type" =>
    int "algorithm_type" "int32" (-Nat.pow 2 31) (Nat.pow 2 31 - 1) fun n => { m with algorithmType := Int32.ofInt n }
  | some "operation_id" =>
    int "operation_id" "int32" (-Nat.pow 2 31) (Nat.pow 2 31 - 1) fun n => { m with operationId := Int32.ofInt n }
  | some "option_type" =>
    int "option_type" "int32" (-Nat.pow 2 31) (Nat.pow 2 31 - 1) fun n => { m with optionType := Int32.ofInt n }
  | some "algorithm_id" => str "algorithm_id" fun b => { m with algorithmId := b }
  | some "client_uid" => str "client_uid" fun b => { m with clientUid := b }
  | some "err" => str "err" fun b => { m with err := b }
  | some "value" =>
    match readValue ⟨m.value, spare⟩ v with
    | (.ok slot, e) => .next { m with value := slot.bytes } slot.spare e
    | (.error e, _) => .next m spare (some e)
  | some _ => .next m spare none

/-- Reads the members in order, keeping the first mismatch. -/
def readMembers : List (String × JsonValue) → Message → Bytes → Option Failure → Message × Option Failure
  | [], m, _, saved => (m, saved)
  | (k, v) :: rest, m, spare, saved =>
    match readMember m spare k v with
    | .next m' spare' e => readMembers rest m' spare' (saved <|> e)
    | .stop m' e => (m', some e)

/-- Decodes a document into the empty message; syntax errors leave it empty. -/
def decode (data : Bytes) : Message × Option Failure :=
  match Json.parse data with
  | .error e => ({}, some (.note e))
  | .ok doc =>
    match doc with
    | .object ms => readMembers ms {} [] none
    | .null => ({}, none)
    | other => ({}, some (.note s!"json: cannot unmarshal {typeWord other} into Go value of type common.Message"))

def decodeCode (data : Bytes) : Except Failure Code :=
  match Json.parse data with
  | .error e => .error (.note e)
  | .ok v =>
    match nameOf v with
    | .error e => .error e
    | .ok s => match Code.ofName? s with
      | some c => .ok c
      | none => .error (.note s!"unknown error code: {s}")

def decodeType (data : Bytes) : Except Failure MessageType :=
  match Json.parse data with
  | .error e => .error (.note e)
  | .ok v =>
    match nameOf v with
    | .error e => .error e
    | .ok s => match MessageType.ofName? s with
      | some t => .ok t
      | none => .error (.note s!"unknown message type: {s}")

end JsonCodec

end InferenceBroker
