import InferenceBroker.Message.Binary
import InferenceBroker.Message.Json
import InferenceBroker.Message.GobDecode

/-!
# Message encodings

The three encodings a broker and its clients can agree on. Each refuses to write a
message of an invalid type. Reading with the binary encoding writes into a given message
field by field; the other two start from the empty message, and judge the type after
reading.
-/

namespace InferenceBroker

/-- An encoding of messages. -/
inductive Format where
  | binary
  | json
  | gob
deriving DecidableEq, Repr, Inhabited

namespace Format

/-- The encoding with this name. -/
def ofName? : String → Option Format
  | "binary" => some .binary
  | "json" => some .json
  | "gob" => some .gob
  | _ => none

/-- The name of an encoding. -/
def name : Format → String
  | .binary => "binary"
  | .json => "json"
  | .gob => "gob"

/-- Writes a message. -/
def encode : Format → Message → Except Failure Bytes
  | .binary, m => Binary.encode m
  | .json, m => JsonCodec.encode m
  | .gob, m => Gob.encode m

/-- Reads after a start from the empty message, then judges the type. -/
def judged (read : Message × Option Failure) : Message × Option Failure :=
  match read with
  | (m, some e) => (m, some e)
  | (m, none) => if m.kind.valid then (m, none) else (m, some (Binary.invalidType m.kind))

/-- Reads `data` into `into`: the message afterwards and the failure, if any. -/
def decodeInto : Format → Bytes → Message → Message × Option Failure
  | .binary, data, into => Binary.decodeInto data into
  | .json, data, _ => judged (JsonCodec.decode data)
  | .gob, data, _ => judged (Gob.decode data)

/-- Reads a message. -/
def decode (f : Format) (data : Bytes) : Except Failure Message :=
  match f.decodeInto data {} with
  | (m, none) => .ok m
  | (_, some e) => .error e

end Format

end InferenceBroker
