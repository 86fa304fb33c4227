import InferenceBroker.Message.Basic

/-!
# The binary message encoding

A message is its type octet, a 16-bit big-endian flag word, then the fields whose flag is
set, in order: transaction id, request id (8 bytes each), algorithm id (length-prefixed),
version (8), algorithm type, client uid (prefixed), operation id, option type (4 each),
value (prefixed), return code (1), error text (prefixed). A field is written when not zero,
the value whenever present. Unknown flag bits are ignored. Reading stops at the first field
the input is too short for, which names the failure; later fields read as zero.
-/

namespace InferenceBroker

namespace Binary

def invalidType (t : MessageType) : Failure :=
  .within s!"message type {t.val.toNat}" Failure.invalidArgument

def lengthPrefixed (bs : Bytes) : Bytes := Bytes.beBytes 4 bs.length ++ bs

/-- A field of the encoding; its flag is set when it is written. -/
structure Field where
  present : Bool
  image : Bytes

def fields (m : Message) : List Field :=
  [⟨m.transactionId != 0, Bytes.beBytes 8 m.transactionId.toNat⟩,
   ⟨m.requestId != 0, Bytes.beBytes 8 m.requestId.toNat⟩,
   ⟨!m.algorithmId.isEmpty, lengthPrefixed m.algorithmId⟩,
   ⟨m.version != 0, Bytes.beBytes 8 m.version.toUInt64.toNat⟩,
   ⟨m.algorithmType != 0, Bytes.beBytes 4 m.algorithmType.toUInt32.toNat⟩,
   ⟨!m.clientUid.isEmpty, lengthPrefixed m.clientUid⟩,
   ⟨m.operationId != 0, Bytes.beBytes 4 m.operationId.toUInt32.toNat⟩,
   ⟨m.optionType != 0, Bytes.beBytes 4 m.optionType.toUInt32.toNat⟩,
   ⟨m.value.isSome, lengthPrefixed (m.value.getD [])⟩,
   ⟨m.retCode != Code.ok, [m.retCode.val]⟩,
   ⟨!m.err.isEmpty, lengthPrefixed m.err⟩]

def flagWord (fs : List Field) : Nat :=
  (fs.zipIdx.filter (·.1.present)).foldl (fun acc p => acc + Nat.pow 2 p.2) 0

def encode (m : Message) : Except Failure Bytes :=
  if m.kind.valid then
    let fs := fields m
    .ok (m.kind.val :: Bytes.beBytes 2 (flagWord fs) ++
      (fs.filter (·.present)).flatMap (·.image))
  else .error (invalidType m.kind)

/-- A cursor; once a read comes up short it names that field and later reads yield nothing. -/
structure Reader where
  rest : Bytes
  short : Option String := none

namespace Reader

def take (r : Reader) (n : Nat) (field : String) : Option Bytes × Reader :=
  match r.short with
  | some _ => (none, r)
  | none =>
    if n ≤ r.rest.length then (some (r.rest.take n), { r with rest := r.rest.drop n })
    else (none, { r with short := some field })

def word (r : Reader) (n : Nat) (field : String) : Nat × Reader :=
  let (b, r) := r.take n field
  ((b.map Bytes.beValue).getD 0, r)

/-- A length-prefixed string: nothing when the length is short, empty when the bytes are. -/
def lengthPrefixed (r : Reader) (field : String) : Option Bytes × Reader :=
  let (len, r) := r.word 4 (field ++ " length")
  match r.short with
  | some _ => (none, r)
  | none =>
    let (b, r) := r.take len field
    (some (b.getD []), r)

end Reader

/-- Reads the fields `flags` selects into `m`, the others set to zero. -/
def readFields (flags : Nat) (m : Message) (r : Reader) : Message × Reader :=
  let bit := fun i => flags.testBit i
  let (tx, r) := if bit 0 then r.word 8 "transaction id" else (0, r)
  let (rq, r) := if bit 1 then r.word 8 "request id" else (0, r)
  let (aid, r) := if bit 2 then r.lengthPrefixed "algorithm id" else (none, r)
  let (ver, r) := if bit 3 then r.word 8 "version" else (0, r)
  let (aty, r) := if bit 4 then r.word 4 "algorithm type" else (0, r)
  let (uid, r) := if bit 5 then r.lengthPrefixed "client uid" else (none, r)
  let (op, r) := if bit 6 then r.word 4 "operation id" else (0, r)
  let (opt, r) := if bit 7 then r.word 4 "option type" else (0, r)
  let (val, r) := if bit 8 then
      let (v, r) := r.lengthPrefixed "value"
      (some (v.getD []), r)
    else (none, r)
  let (rc, r) := if bit 9 then r.word 1 "ret code" else (0, r)
  let (er, r) := if bit 10 then r.lengthPrefixed "error" else (none, r)
  ({ m with transactionId := UInt64.ofNat tx, requestId := UInt64.ofNat rq,
            algorithmId := aid.getD [], version := (UInt64.ofNat ver).toInt64,
            algorithmType := (UInt32.ofNat aty).toInt32, clientUid := uid.getD [],
            operationId := (UInt32.ofNat op).toInt32, optionType := (UInt32.ofNat opt).toInt32,
            value := val, retCode := ⟨UInt8.ofNat rc⟩, err := er.getD [] }, r)

/-- Decodes `data` into `into`: the message and the failure, if any; a short header leaves
`into` as it is, an invalid type sets only the type. -/
def decodeInto (data : Bytes) (into : Message) : Message × Option Failure :=
  match data with
  | t :: f1 :: f2 :: rest =>
    let kind : MessageType := ⟨t⟩
    let m := { into with kind }
    if kind.valid then
      let (m, r) := readFields (f1.toNat * 256 + f2.toNat) m { rest }
      (m, r.short.map fun field => .note s!"data too short for {field}")
    else (m, some (invalidType kind))
  | _ => (into, some (.note "data too short for message header"))

end Binary

end InferenceBroker
