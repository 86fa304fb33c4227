import InferenceBroker.Message.Basic

/-!
# The self-describing binary message encoding

A stream of length-prefixed records, each starting with a type id: `-t` defines type `t`,
a non-negative id carries a value. A message is the definition of its struct type (id 64,
`Message`, twelve fields) followed by the value. Unsigned integers below 128 are one byte,
larger ones their big-endian bytes after the negated count; signed ones fold into unsigned
(`2n` or `2(-n) - 1`). A struct value is (field-number increment, value) pairs ended by a zero
increment, zero fields left out. Reading is in `Message.GobDecode`.
-/

namespace InferenceBroker

namespace Gob

/-! ## Writing -/

/-- The minimal big-endian bytes of a positive number. -/
def minimalBytes (n : Nat) : Bytes :=
  (Bytes.beBytes 8 n).dropWhile (· == 0)

def putUint (n : Nat) : Bytes :=
  if n < 128 then [UInt8.ofNat n]
  else
    let bs := minimalBytes n
    UInt8.ofNat (256 - bs.length) :: bs

def putInt (i : Int) : Bytes :=
  putUint (if 0 ≤ i then 2 * i.toNat else 2 * (-i - 1).toNat + 1)

def putBytes (bs : Bytes) : Bytes := putUint bs.length ++ bs

/-- The ids of the basic types. -/
def tBool : Int := 1
def tInt : Int := 2
def tUint : Int := 3
def tFloat : Int := 4
def tBytes : Int := 5
def tString : Int := 6
def tComplex : Int := 7
def tInterface : Int := 8

def messageTypeId : Int := 64

/-- The message struct's fields: name and basic type id, in field order. -/
def messageFields : List (String × Int) :=
  [("MsgType", tUint), ("TransactionID", tUint), ("RequestID", tUint),
   ("AlgorithmID", tString), ("Version", tInt), ("AlgorithmType", tInt),
   ("ClientUID", tString), ("OperationID", tInt), ("OptionType", tInt),
   ("Value", tBytes), ("RetCode", tUint), ("Err", tString)]

def record (body : Bytes) : Bytes := putUint body.length ++ body

def messageDefinition : Bytes :=
  let common := [1] ++ putBytes (Bytes.ofString "Message") ++ [1] ++ putInt messageTypeId ++ [0]
  let field := fun (p : String × Int) => [1] ++ putBytes (Bytes.ofString p.1) ++ [1] ++ putInt p.2 ++ [0]
  let struct := [1] ++ common ++ [1] ++ putUint messageFields.length ++
    messageFields.flatMap field ++ [0]
  record (putInt (-messageTypeId) ++ [3] ++ struct ++ [0])

/-- The encoded value of each message field, `none` when it is zero. -/
def fieldValues (m : Message) : List (Option Bytes) :=
  [if m.kind.val != 0 then some (putUint m.kind.val.toNat) else none,
   if m.transactionId != 0 then some (putUint m.transactionId.toNat) else none,
   if m.requestId != 0 then some (putUint m.requestId.toNat) else none,
   if m.algorithmId.isEmpty then none else some (putBytes m.algorithmId),
   if m.version != 0 then some (putInt m.version.toInt) else none,
   if m.algorithmType != 0 then some (putInt m.algorithmType.toInt) else none,
   if m.clientUid.isEmpty then none else some (putBytes m.clientUid),
   if m.operationId != 0 then some (putInt m.operationId.toInt) else none,
   if m.optionType != 0 then some (putInt m.optionType.toInt) else none,
   match m.value with
   | some v => if v.isEmpty then none else some (putBytes v)
   | none => none,
   if m.retCode.val != 0 then some (putUint m.retCode.val.toNat) else none,
   if m.err.isEmpty then none else some (putBytes m.err)]

/-- The struct value: increments and values of the non-zero fields, then zero. -/
def structValue (vals : List (Option Bytes)) : Bytes :=
  let present := vals.zipIdx.filterMap fun (v, i) => v.map (i, ·)
  let step := fun (acc : Bytes × Int) (p : Nat × Bytes) =>
    (acc.1 ++ putUint (p.1 - acc.2).toNat ++ p.2, (p.1 : Int))
  (present.foldl step ([], -1)).1 ++ [0]

/-- Encodes a message of a valid type: the definition record, then the value record. -/
def encode (m : Message) : Except Failure Bytes :=
  if m.kind.valid then
    .ok (messageDefinition ++ record (putInt messageTypeId ++ structValue (fieldValues m)))
  else .error (.within s!"message type {m.kind.val.toNat}" Failure.invalidArgument)

end Gob

end InferenceBroker
