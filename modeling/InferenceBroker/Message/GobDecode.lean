import InferenceBroker.Message.Gob

/-!
# Reading the self-describing binary encoding

A reader keeps a cursor over the current record, the records after it and the type
descriptions received, and fails with the decoder's texts. Definition records (negative id,
32-bit wrapping) are read as descriptions until a value record; the value's type must be a
struct, builtin or defined; the reader is compiled field by field, a field named like a
message field needing its basic type and any other skipped, so its type must be skippable;
then the value is read. The message keeps the fields read before a failure.
-/

namespace InferenceBroker

namespace Gob

/-! ## Primitive reads -/

def unfold (x : Nat) : Int := if x % 2 == 1 then -((x / 2 : Nat) : Int) - 1 else (x / 2 : Nat)

/-- An unsigned integer from a record: `EOF` on an empty one. -/
def getUint : Bytes → Except String (Nat × Bytes)
  | [] => .error "EOF"
  | b :: rest =>
    if b.toNat ≤ 0x7F then .ok (b.toNat, rest)
    else
      let n := 256 - b.toNat
      if n > 8 then .error "gob: encoded unsigned integer out of range"
      else if rest.length < n then
        .error s!"gob: invalid uint data length {n}: exceeds input size {rest.length}"
      else .ok (Bytes.beValue (rest.take n), rest.drop n)

/-- An unsigned integer as from a stream: `EOF` when nothing is left, `unexpected EOF` when
the bytes stop inside it. -/
def streamUint : Bytes → Except String (Nat × Bytes)
  | [] => .error "EOF"
  | b :: rest =>
    if b.toNat ≤ 0x7F then .ok (b.toNat, rest)
    else
      let n := 256 - b.toNat
      if n > 8 then .error "gob: encoded unsigned integer out of range"
      else if rest.length < n then .error "unexpected EOF"
      else .ok (Bytes.beValue (rest.take n), rest.drop n)

/-- Counts and lengths from this size on are refused. -/
def tooBig : Nat := Nat.pow 2 33

def takeRecord (stream : Bytes) : Except String (Bytes × Bytes) := do
  let (n, rest) ← streamUint stream
  if n ≥ tooBig then .error "invalid message length"
  else if rest.length < n then .error "unexpected EOF"
  else pure (rest.take n, rest.drop n)

/-- A 32-bit type id: the low 32 bits, signed. -/
def typeId (i : Int) : Int := (i + Nat.pow 2 31) % Nat.pow 2 32 - Nat.pow 2 31

def asInt64 (n : Nat) : Int := if n < Nat.pow 2 63 then n else (n : Int) - Nat.pow 2 64

def errRange : String := "gob: bad data: field numbers out of bounds"

def outOfRange (name : String) : String := s!"value for \"{name}\" out of range"

/-! ## Type descriptions -/

/-- A received type description; it names one kind. -/
structure WireType where
  array : Option (Int × Int) := none
  slice : Option Int := none
  struct : Option (String × List (String × Int)) := none
  map : Option (Int × Int) := none
  /-- a type that encodes itself as a byte string -/
  encoded : Bool := false

/-- The types every stream knows: basic types and the structs describing types. -/
inductive Builtin where
  | basic (name : String)
  | struct (name : String) (fields : List (String × Int))
  | slice (name : String) (elem : Int)

def builtinAt : Nat → Option Builtin
  | 1 => some (.basic "bool")
  | 2 => some (.basic "int")
  | 3 => some (.basic "uint")
  | 4 => some (.basic "float")
  | 5 => some (.basic "bytes")
  | 6 => some (.basic "string")
  | 7 => some (.basic "complex")
  | 8 => some (.basic "interface")
  | 16 => some (.struct "wireType" [("ArrayT", 17), ("SliceT", 19), ("StructT", 20), ("MapT", 23),
      ("GobEncoderT", 24), ("BinaryMarshalerT", 24), ("TextMarshalerT", 24)])
  | 17 => some (.struct "arrayType" [("CommonType", 18), ("Elem", 2), ("Len", 2)])
  | 18 => some (.struct "CommonType" [("Name", 6), ("Id", 2)])
  | 19 => some (.struct "sliceType" [("CommonType", 18), ("Elem", 2)])
  | 20 => some (.struct "structType" [("CommonType", 18), ("Field", 22)])
  | 21 => some (.struct "fieldType" [("Name", 6), ("Id", 2)])
  | 22 => some (.slice "[]gob.fieldType" 21)
  | 23 => some (.struct "mapType" [("CommonType", 18), ("Key", 2), ("Elem", 2)])
  | 24 => some (.struct "gobEncoderType" [("CommonType", 18)])
  | n => if 9 ≤ n ∧ n ≤ 15 then some (.basic "_reserved1_") else none

def builtin (id : Int) : Option Builtin := if id < 0 then none else builtinAt id.toNat

mutual
/-- The text of a type, spelling out each struct the first time. -/
def typeText : Nat → List Int → Int → String × List Int
  | 0, seen, _ => ("", seen)
  | fuel + 1, seen, id =>
    match builtin id with
    | none => ("<nil>", seen)
    | some (.basic name) => (name, seen)
    | some (.slice name elem) =>
      if seen.contains id then (name, seen)
      else
        let (s, seen) := typeText fuel (id :: seen) elem
        ("[]" ++ s, seen)
    | some (.struct name fields) =>
      if seen.contains id then (name, seen)
      else
        let (s, seen) := fieldsText fuel (id :: seen) fields
        (name ++ " = struct \x7b " ++ s ++ "\x7d", seen)

def fieldsText : Nat → List Int → List (String × Int) → String × List Int
  | 0, seen, _ => ("", seen)
  | _ + 1, seen, [] => ("", seen)
  | fuel + 1, seen, (name, id) :: rest =>
    let (s, seen) := typeText fuel seen id
    let (r, seen) := fieldsText fuel seen rest
    (name ++ " " ++ s ++ "; " ++ r, seen)
end

/-- The text of a type id in failures: only builtin types have one. -/
def typeName (id : Int) : String := (typeText 100 [] id).1

/-! ## Reading descriptions -/

/-- The rest of the current record, the records after it, the descriptions received, and a
failure noted while reading went on. -/
structure Cursor where
  buf : Bytes
  stream : Bytes
  defined : List (Int × WireType) := []
  noted : Option String := none

abbrev Dec := StateT Cursor (Except String)

def uint : Dec Nat := fun c => do
  let (n, rest) ← getUint c.buf
  pure (n, { c with buf := rest })

def int : Dec Int := do return unfold (← uint)

def length : Dec (Option Nat) := do
  let n ← uint
  let c ← get
  return if Nat.pow 2 63 ≤ n ∨ c.buf.length < n ∨ tooBig ≤ n then none else some n

def take (n : Nat) : Dec Bytes := fun c => .ok (c.buf.take n, { c with buf := c.buf.drop n })

def atEnd : Dec Bool := return (← get).buf.isEmpty

/-- The shape by which a description value is read. -/
inductive Shape where
  /-- a signed integer of `bits` bits; out of range is refused -/
  | int (bits : Nat)
  | string
  | struct (fields : List (String × Shape))
  | slice (elem : String) (size : Nat) (item : Shape)

inductive Node where
  | num (n : Int)
  | text (s : Bytes)
  | fields (set : List (Nat × Node))
  | items (xs : List Node)
deriving Inhabited

/-- The name and id every description starts with, also the shape of a struct field. -/
def nameId : Shape := .struct [("Name", .string), ("Id", .int 32)]

/-- A type description: array, slice, struct, map and three self-encoding kinds, each behind
a name and id. -/
def wireShape : Shape :=
  let common := ("CommonType", nameId)
  let encoded := Shape.struct [common]
  .struct [("ArrayT", .struct [common, ("Elem", .int 32), ("Len", .int 64)]),
           ("SliceT", .struct [common, ("Elem", .int 32)]),
           ("StructT", .struct [common, ("Field", .slice "gob.fieldType" 24 nameId)]),
           ("MapT", .struct [common, ("Key", .int 32), ("Elem", .int 32)]),
           ("GobEncoderT", encoded), ("BinaryMarshalerT", encoded), ("TextMarshalerT", encoded)]

mutual
def readShape : Nat → String → Shape → Dec Node
  | 0, _, _ => throw "gob: bad data"
  | fuel + 1, name, shape =>
    match shape with
    | .int bits => do
      let n ← int
      if bits < 64 ∧ (n < -Nat.pow 2 (bits - 1) ∨ Nat.pow 2 (bits - 1) ≤ n) then throw (outOfRange name)
      pure (.num n)
    | .string => do
      match ← length with
      | some n => return .text (← take n)
      | none => throw "gob: bad string slice length: 0"
    | .struct fs => readFields fuel fs (-1) []
    | .slice elem size item => do
      let u ← uint
      let bytes := u * size % Nat.pow 2 64
      if Nat.pow 2 63 ≤ u ∨ tooBig < bytes ∨ (size > 0 ∧ bytes / size ≠ u) then
        throw s!"gob: {elem} slice too big: {u} elements of {size} bytes"
      readItems fuel u item u []

/-- Reads a struct's fields after field number `last`, up to a zero increment or the record's end. -/
def readFields : Nat → List (String × Shape) → Int → List (Nat × Node) → Dec Node
  | 0, _, _, _ => throw "gob: bad data"
  | fuel + 1, fs, last, acc => do
    if ← atEnd then return .fields acc.reverse
    let delta ← uint
    if Nat.pow 2 63 ≤ delta then throw "gob: decode: corrupted data: negative delta"
    if delta == 0 then return .fields acc.reverse
    if last ≥ (fs.length : Int) - delta then throw errRange
    let idx := (last + delta).toNat
    match fs[idx]? with
    | none => throw errRange
    | some (name, shape) =>
      let v ← readShape fuel name shape
      readFields fuel fs idx ((idx, v) :: acc)

def readItems : Nat → Nat → Shape → Nat → List Node → Dec Node
  | 0, _, _, _, _ => throw "gob: bad data"
  | _ + 1, _, _, 0, acc => return .items acc.reverse
  | fuel + 1, total, item, left + 1, acc => do
    if ← atEnd then
      throw s!"gob: decoding array or slice: length exceeds input size ({total} elements)"
    let v ← readShape fuel "" item
    readItems fuel total item left (v :: acc)
end

def Node.field (n : Node) (i : Nat) : Option Node :=
  match n with
  | .fields set => (set.find? (·.1 == i)).map (·.2)
  | _ => none

def nodeInt (n : Option Node) : Int :=
  match n with
  | some (.num k) => k
  | _ => 0

def nodeBytes (n : Option Node) : Bytes :=
  match n with
  | some (.text s) => s
  | _ => []

def Node.nameId (n : Node) : String × Int := ((nodeBytes (n.field 0)).text, nodeInt (n.field 1))

def toWireType (n : Node) : WireType :=
  { array := (n.field 0).map fun a => (nodeInt (a.field 1), nodeInt (a.field 2))
    slice := (n.field 1).map fun s => nodeInt (s.field 1)
    struct := (n.field 2).map fun s =>
      let name := ((s.field 0).map fun c => c.nameId.1).getD ""
      let fields := match s.field 1 with
        | some (.items xs) => xs.map Node.nameId
        | _ => []
      (name, fields)
    map := (n.field 3).map fun m => (nodeInt (m.field 1), nodeInt (m.field 2))
    encoded := (n.field 4).isSome || (n.field 5).isSome || (n.field 6).isSome }

/-- Reads the description of type `t`; builtin and already defined ids are refused. -/
def receiveType (fuel : Nat) (t : Int) : Dec Unit := do
  let c ← get
  if t < 64 ∨ (c.defined.lookup t).isSome then throw "gob: duplicate type received"
  let node ← readShape fuel "" wireShape
  modify fun c => { c with defined := (t, toWireType node) :: c.defined }

def nextRecord : Dec Unit := fun c => do
  let (body, rest) ← takeRecord c.stream
  pure ((), { c with buf := body, stream := rest })

def recordUint : Dec Nat := fun c => do
  let (n, rest) ← streamUint c.buf
  pure (n, { c with buf := rest })

/-- Reads definitions up to a value and gives its type id. Inside an interface a definition
may be followed by a skipped count, and a failed id read is noted and taken as 0. The stream
may end before the first record, not after a definition. -/
def typeSequence : Nat → Bool → Bool → Dec Int
  | 0, _, _ => throw "gob: bad data"
  | fuel + 1, inside, first => do
    if inside then
      if let some e := (← get).noted then throw e
    if ← atEnd then
      tryCatch nextRecord fun e => throw (if !first && e == "EOF" then "unexpected EOF" else e)
    let read : Dec Int := do pure (typeId (unfold (← recordUint)))
    let id ← if inside then
        tryCatch read fun e => do
          modify fun c => { c with noted := some e }
          pure 0
      else read
    if 0 ≤ id then return id
    receiveType fuel (typeId (-id))
    if !(← atEnd) then
      if !inside then throw "extra data in buffer"
      discard recordUint
    typeSequence fuel inside false

/-! ## Skipping values -/

mutual
/-- Checks that values of type `id` can be skipped: every type reached is defined and has a
kind. `way` holds the types on the way here, `done` the structs checked; both are returned. -/
def checkSkip : Nat → List (Int × WireType) → Int → List Int × List Int →
    Except String (List Int × List Int)
  | 0, _, _, st => .ok st
  | fuel + 1, defs, id, (way, done) =>
    if way.contains id || (1 ≤ id && id ≤ 7) then .ok (way, done)
    else
      let way := id :: way
      if id == 8 then .ok (way, done)
      else
        match defs.lookup id with
        | none => .error s!"gob: bad data: undefined type {typeName id}"
        | some w =>
          match w.array, w.map, w.slice, w.struct with
          | some (elem, _), _, _, _ => checkSkip fuel defs elem (way, done)
          | none, some (k, v), _, _ => do
            let st ← checkSkip fuel defs k (way, done)
            checkSkip fuel defs v st
          | none, none, some elem, _ => checkSkip fuel defs elem (way, done)
          | none, none, none, some (name, fields) =>
            if done.contains id then .ok (way, done)
            else do
              let done ← checkFields fuel defs name fields (id :: done)
              .ok (way, done)
          | none, none, none, none =>
            if w.encoded then .ok (way, done)
            else .error s!"gob: bad data: ignore can't handle type {typeName id}"

def checkFields : Nat → List (Int × WireType) → String → List (String × Int) → List Int →
    Except String (List Int)
  | 0, _, _, _, done => .ok done
  | _ + 1, _, _, [], done => .ok done
  | fuel + 1, defs, name, (field, id) :: rest, done => do
    if field.isEmpty then .error s!"gob: empty name for remote field of type {name}"
    else
      let (_, done) ← checkSkip fuel defs id ([], done)
      checkFields fuel defs name rest done
end

mutual
def skipValue : Nat → Int → Dec Unit
  | 0, _ => throw "gob: bad data"
  | fuel + 1, id =>
    if id == 1 || id == 2 || id == 3 || id == 4 then discard uint
    else if id == 7 then do
      discard uint
      discard uint
    else if id == 5 || id == 6 then do
      match ← length with
      | some n => discard (take n)
      | none => throw "gob: slice length too large"
    else if id == 8 then skipInterface fuel
    else do
      match (← get).defined.lookup id with
      | none => throw s!"gob: bad data: undefined type {typeName id}"
      | some w =>
        match w.array, w.map, w.slice, w.struct with
        | some (elem, len), _, _, _ => do
          let n ← uint
          if n != (len % Nat.pow 2 64).toNat then throw "gob: length mismatch in ignoreArray"
          skipItems fuel "array or slice" len [elem] len.toNat
        | none, some (k, v), _, _ => do
          let n := asInt64 (← uint)
          skipItems fuel "map" n [k, v] n.toNat
        | none, none, some elem, _ => do
          let n := asInt64 (← uint)
          skipItems fuel "array or slice" n [elem] n.toNat
        | none, none, none, some (_, fields) => skipStruct fuel (fields.map (·.2)) (-1)
        | none, none, none, none =>
          if w.encoded then do
            match ← length with
            | some n => discard (take n)
            | none => throw "gob: GobDecoder: length too large for buffer"
          else throw s!"gob: bad data: ignore can't handle type {typeName id}"

/-- Skips the `left` remaining items of an array, slice or map, a value of each of `ids` per item. -/
def skipItems : Nat → String → Int → List Int → Nat → Dec Unit
  | 0, _, _, _, _ => throw "gob: bad data"
  | _ + 1, _, _, _, 0 => pure ()
  | fuel + 1, what, total, ids, left + 1 => do
    if ← atEnd then throw s!"gob: decoding {what}: length exceeds input size ({total} elements)"
    skipEach fuel ids
    skipItems fuel what total ids left

def skipEach : Nat → List Int → Dec Unit
  | 0, _ => throw "gob: bad data"
  | _ + 1, [] => pure ()
  | fuel + 1, id :: ids => do
    skipValue fuel id
    skipEach fuel ids

def skipStruct : Nat → List Int → Int → Dec Unit
  | 0, _, _ => throw "gob: bad data"
  | fuel + 1, ids, last => do
    if ← atEnd then return
    let delta ← uint
    if Nat.pow 2 63 ≤ delta then throw "gob: ignore decode: corrupted data: negative delta"
    if delta == 0 then return
    let idx := last + delta
    if idx ≥ ids.length then throw errRange
    skipValue fuel (ids.getD idx.toNat 0)
    skipStruct fuel ids idx

/-- Skips an interface value: its type's name, the definitions after it, and a counted byte string. -/
def skipInterface : Nat → Dec Unit
  | 0 => throw "gob: bad data"
  | fuel + 1 => do
    match ← length with
    | some n => discard (take n)
    | none => throw "gob: bad interface encoding: name too large for buffer"
    discard (typeSequence fuel true true)
    match ← length with
    | some n => discard (take n)
    | none => throw "gob: bad interface encoding: data length too large for buffer"
end

/-! ## Reading the message -/

/-- How a received field is read: into a message field, or skipped by its type. -/
inductive Slot where
  | into (field : String)
  | skipped (id : Int)

def Slot.isInto : Slot → Bool
  | .into _ => true
  | .skipped _ => false

/-- A message field's local type, as mismatches name it, with the wire type it accepts. -/
def localType : String → Option (String × Int)
  | "MsgType" => some ("common.MessageType", 3)
  | "TransactionID" => some ("uint64", 3)
  | "RequestID" => some ("uint64", 3)
  | "AlgorithmID" => some ("string", 6)
  | "Version" => some ("int64", 2)
  | "AlgorithmType" => some ("int32", 2)
  | "ClientUID" => some ("string", 6)
  | "OperationID" => some ("int32", 2)
  | "OptionType" => some ("int32", 2)
  | "Value" => some ("[]uint8", 5)
  | "RetCode" => some ("core.Code", 3)
  | "Err" => some ("string", 6)
  | _ => none

def nonStruct : String := "gob: type mismatch in decoder: want struct type common.Message; got non-struct"

def structOf (defs : List (Int × WireType)) (id : Int) : Except String (String × List (String × Int)) :=
  match builtin id with
  | some (.struct name fields) => .ok (name, fields)
  | some _ => .error nonStruct
  | none =>
    match defs.lookup id with
    | none => .error "gob: unknown type id or corrupted data"
    | some w =>
      match w.struct with
      | some s => .ok s
      | none => .error nonStruct

/-- Compiles the reading of a value of type `id`: a slot per received field, in order. -/
def compile (fuel : Nat) (defs : List (Int × WireType)) (id : Int) : Except String (List Slot) := do
  let (name, fields) ← structOf defs id
  let (slots, _) ← fields.foldlM (fun (acc : List Slot × List Int) (field, fid) => do
    let (slots, done) := acc
    if field.isEmpty then throw s!"gob: empty name for remote field of type {name}"
    match localType field with
    | none =>
      let (_, done) ← checkSkip fuel defs fid ([], done)
      pure (slots ++ [.skipped fid], done)
    | some (goType, want) =>
      if fid == want then pure (slots ++ [.into field], done)
      else throw s!"gob: wrong type ({goType}) for received field {name}.{field}") ([], [])
  if !(slots.any Slot.isInto) && (defs.lookup id).isSome && !fields.isEmpty then
    throw "gob: type mismatch: no fields matched compiling decoder for Message"
  pure slots

/-- Reads one message field. An empty byte string leaves an absent value absent and empties
a present one. -/
def readInto (m : Message) (name : String) : Dec Message :=
  let uint8 := fun (set : Nat → Message) => do
    let n ← uint
    if n ≥ 256 then throw (outOfRange name) else pure (set n)
  let int32 := fun (set : Int → Message) => do
    let n ← int
    if n < -Nat.pow 2 31 ∨ Nat.pow 2 31 ≤ n then throw (outOfRange name) else pure (set n)
  let text := fun (goType : String) (set : Bytes → Message) => do
    match ← length with
    | some n => return set (← take n)
    | none => throw s!"gob: bad {goType} slice length: 0"
  match name with
  | "MsgType" => uint8 fun n => { m with kind := ⟨UInt8.ofNat n⟩ }
  | "TransactionID" => do return { m with transactionId := UInt64.ofNat (← uint) }
  | "RequestID" => do return { m with requestId := UInt64.ofNat (← uint) }
  | "AlgorithmID" => text "string" fun b => { m with algorithmId := b }
  | "Version" => do return { m with version := Int64.ofInt (← int) }
  | "AlgorithmType" => int32 fun n => { m with algorithmType := Int32.ofInt n }
  | "ClientUID" => text "string" fun b => { m with clientUid := b }
  | "OperationID" => int32 fun n => { m with operationId := Int32.ofInt n }
  | "OptionType" => int32 fun n => { m with optionType := Int32.ofInt n }
  | "Value" => text "[]uint8" fun b =>
      { m with value := if b.isEmpty then m.value.map fun _ => [] else some b }
  | "RetCode" => uint8 fun n => { m with retCode := ⟨UInt8.ofNat n⟩ }
  | "Err" => text "string" fun b => { m with err := b }
  | _ => pure m

/-- Reads a message's struct value after field number `last` into `m`: the message, the
failure if any, and the cursor afterwards. -/
def readMessage (skipFuel : Nat) : Nat → List Slot → Int → Message → Cursor →
    Message × Option String × Cursor
  | 0, _, _, m, c => (m, none, c)
  | fuel + 1, slots, last, m, c =>
    if c.buf.isEmpty then (m, none, c)
    else
      match uint.run c with
      | .error e => (m, some e, c)
      | .ok (delta, c) =>
        if Nat.pow 2 63 ≤ delta then (m, some "gob: decode: corrupted data: negative delta", c)
        else if delta == 0 then (m, none, c)
        else if last ≥ (slots.length : Int) - delta then (m, some errRange, c)
        else
          let idx := last + delta
          match slots[idx.toNat]? with
          | none => (m, some errRange, c)
          | some (.skipped id) =>
            match (skipValue skipFuel id).run c with
            | .ok ((), c) => readMessage skipFuel fuel slots idx m c
            | .error e => (m, some e, c)
          | some (.into name) =>
            match (readInto m name).run c with
            | .ok (m, c) => readMessage skipFuel fuel slots idx m c
            | .error e => (m, some e, c)

/-- Decodes one message from a stream: the message read and the failure, if any. -/
def decode (data : Bytes) : Message × Option Failure :=
  let fuel := 4 * data.length + 64
  let start : Cursor := { buf := [], stream := data }
  let (m, err) : Message × Option String :=
    match (typeSequence fuel false true).run start with
    | .error e => ({}, some e)
    | .ok (id, c) =>
      match compile fuel c.defined id with
      | .error e => ({}, some e)
      | .ok slots =>
        let (m, err, c) := readMessage fuel fuel slots (-1) {} c
        (m, err <|> c.noted)
  (m, err.map Failure.note)

end Gob

end InferenceBroker
