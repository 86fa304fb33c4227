import Mathlib
import InferenceBroker.Message.Binary

/-!
# Reading back the binary encoding

A message of a valid type is always written, and one whose byte strings each fit a four-byte
length reads back from its image, whatever message the reader writes into: every field is
either written and read back, or left out and reset to zero, and the value keeps the
difference between absent and empty (`decodeInto_encode_roundtrip`). The encoder refuses
exactly the messages of an invalid type, with an `invalid argument` failure.

The flag word is the number whose binary digits are the fields' presence flags
(`flagWord_eq_bitsValue`), so its bit `i` says whether field `i` was written
(`testBit_bitsValue`). Each field is then one step of the reader (`Reader.word_field`,
`Reader.prefixed_field`, `Reader.value_field`, `Reader.code_field`).
-/

namespace InferenceBroker

namespace Binary

/-- The number whose binary digits, least significant first, are the given flags. -/
def bitsValue : List Bool → Nat
  | [] => 0
  | b :: bs => b.toNat + 2 * bitsValue bs

theorem bitsValue_lt (bs : List Bool) : bitsValue bs < 2 ^ bs.length := by
  induction bs with
  | nil => simp [bitsValue]
  | cons b bs ih => cases b <;> simp [bitsValue, Nat.pow_succ] <;> omega

theorem testBit_bitsValue (bs : List Bool) (i : Nat) : (bitsValue bs).testBit i = bs.getD i false := by
  induction bs generalizing i with
  | nil => simp [bitsValue]
  | cons b bs ih =>
    cases i with
    | zero => cases b <;> simp [bitsValue, Nat.testBit_zero]
    | succ i =>
      have half : (b.toNat + 2 * bitsValue bs) / 2 = bitsValue bs := by cases b <;> simp; omega
      rw [bitsValue, Nat.testBit_succ, half, ih]
      rfl

/-- The powers of the positions of the written fields, counted from `k`, add up to the flags'
number shifted by `k`. -/
theorem foldl_zipIdx (fs : List Field) (k a : Nat) :
    ((fs.zipIdx k).filter (·.1.present)).foldl (fun acc p => acc + 2 ^ p.2) a =
      a + 2 ^ k * bitsValue (fs.map (·.present)) := by
  induction fs generalizing k a with
  | nil => simp [bitsValue]
  | cons f fs ih =>
    rw [List.zipIdx_cons, List.filter_cons]
    cases h : f.present
    · simp [ih, bitsValue, h, Nat.pow_succ]; ring
    · simp [ih, bitsValue, h, Nat.pow_succ]; ring

theorem flagWord_eq_bitsValue (fs : List Field) : flagWord fs = bitsValue (fs.map (·.present)) := by
  simp [flagWord, foldl_zipIdx]

/-- The bytes a field contributes to the image: its own when written, none otherwise. -/
def Field.written (f : Field) : Bytes := if f.present then f.image else []

theorem flatMap_filter_present (fs : List Field) :
    (fs.filter (·.present)).flatMap (·.image) = fs.flatMap Field.written := by
  induction fs with
  | nil => rfl
  | cons f fs ih =>
    rw [List.filter_cons, List.flatMap_cons, ← ih, Field.written]
    cases f.present <;> simp

/-- The two bytes of a flag word below `2 ^ 16` give it back. -/
theorem flag_bytes (w : Nat) (h : w < 2 ^ 16) :
    (UInt8.ofNat (w / 256 % 256)).toNat * 256 + (UInt8.ofNat (w % 256)).toNat = w := by
  simp only [UInt8.toNat_ofNat', Nat.reducePow]
  omega

/-! ## One field at a time

Each lemma reads one field from an input that starts with what the encoder wrote for it:
the reader takes the field's bytes when its flag is set and nothing otherwise. -/

namespace Reader

theorem word_field (p : Bool) {n x : Nat} (more : Bytes) (name : String)
    (absent : p = false → x = 0) (hx : x < 256 ^ n) :
    (if p = true then ({ rest := (if p = true then Bytes.beBytes n x else []) ++ more } : Reader).word n name
      else (0, ({ rest := (if p = true then Bytes.beBytes n x else []) ++ more } : Reader))) =
      (x, { rest := more }) := by
  cases p
  · simp [absent rfl]
  · simp [Reader.word, Reader.take, Bytes.beValue_beBytes, Nat.mod_eq_of_lt hx]

theorem word_uint64 (x : UInt64) (more : Bytes) (name : String) :
    (if (x != 0) = true then ({ rest := (if (x != 0) = true then Bytes.beBytes 8 x.toNat else []) ++ more } : Reader).word 8 name
      else (0, ({ rest := (if (x != 0) = true then Bytes.beBytes 8 x.toNat else []) ++ more } : Reader))) =
      (x.toNat, { rest := more }) :=
  word_field _ more name (fun h => by simp [show x = 0 by simpa using h]) (by simpa using x.toNat_lt)

theorem word_int64 (x : Int64) (more : Bytes) (name : String) :
    (if (x != 0) = true then
        ({ rest := (if (x != 0) = true then Bytes.beBytes 8 x.toUInt64.toNat else []) ++ more } : Reader).word 8 name
      else (0, ({ rest := (if (x != 0) = true then Bytes.beBytes 8 x.toUInt64.toNat else []) ++ more } : Reader))) =
      (x.toUInt64.toNat, { rest := more }) :=
  word_field _ more name (fun h => by rw [show x = 0 by simpa using h]; rfl) (by simpa using x.toUInt64.toNat_lt)

theorem word_int32 (x : Int32) (more : Bytes) (name : String) :
    (if (x != 0) = true then
        ({ rest := (if (x != 0) = true then Bytes.beBytes 4 x.toUInt32.toNat else []) ++ more } : Reader).word 4 name
      else (0, ({ rest := (if (x != 0) = true then Bytes.beBytes 4 x.toUInt32.toNat else []) ++ more } : Reader))) =
      (x.toUInt32.toNat, { rest := more }) :=
  word_field _ more name (fun h => by rw [show x = 0 by simpa using h]; rfl) (by simpa using x.toUInt32.toNat_lt)

theorem lengthPrefixed_append (bs more : Bytes) (name : String) (h : bs.length < 2 ^ 32) :
    ({ rest := Binary.lengthPrefixed bs ++ more } : Reader).lengthPrefixed name = (some bs, { rest := more }) := by
  have fits : bs.length % 4294967296 = bs.length := Nat.mod_eq_of_lt (by simpa using h)
  simp [Reader.lengthPrefixed, Binary.lengthPrefixed, Reader.word, Reader.take, Bytes.beValue_beBytes, fits]

theorem prefixed_field (bs more : Bytes) (name : String) (h : bs.length < 2 ^ 32) :
    (if (!bs.isEmpty) = true then
        ({ rest := (if (!bs.isEmpty) = true then Binary.lengthPrefixed bs else []) ++ more } : Reader).lengthPrefixed name
      else (none, ({ rest := (if (!bs.isEmpty) = true then Binary.lengthPrefixed bs else []) ++ more } : Reader))) =
      (if (!bs.isEmpty) = true then some bs else none, { rest := more }) := by
  cases bs with
  | nil => rfl
  | cons b bs => simp [lengthPrefixed_append _ _ _ h]

theorem value_field (v : Option Bytes) (more : Bytes) (h : (v.getD []).length < 2 ^ 32) :
    (if v.isSome = true then
        (some ((({ rest := (if v.isSome = true then Binary.lengthPrefixed (v.getD []) else []) ++ more } : Reader).lengthPrefixed
            "value").1.getD []),
          (({ rest := (if v.isSome = true then Binary.lengthPrefixed (v.getD []) else []) ++ more } : Reader).lengthPrefixed
            "value").2)
      else (none, ({ rest := (if v.isSome = true then Binary.lengthPrefixed (v.getD []) else []) ++ more } : Reader))) =
      (v, { rest := more }) := by
  cases v with
  | none => rfl
  | some bs => simp [lengthPrefixed_append bs more "value" (by simpa using h)]

theorem code_field (c : Code) (more : Bytes) (name : String) :
    (if (c != Code.ok) = true then ({ rest := (if (c != Code.ok) = true then [c.val] else []) ++ more } : Reader).word 1 name
      else (0, ({ rest := (if (c != Code.ok) = true then [c.val] else []) ++ more } : Reader))) =
      (c.val.toNat, { rest := more }) := by
  by_cases h : (c != Code.ok) = true
  · simp [h, Reader.word, Reader.take, Bytes.beValue]
  · -- a code left out is `ok`, whose octet is zero
    have ok : c = Code.ok := by simpa using h
    simp [ok, Code.ok]

end Reader

theorem getD_written (bs : Bytes) : (if (!bs.isEmpty) = true then some bs else none).getD [] = bs := by
  cases bs <;> rfl

/-! ## The whole message -/

/-- The byte strings of a message each fit a four-byte length prefix. -/
def Fits (m : Message) : Prop :=
  m.algorithmId.length < 2 ^ 32 ∧ m.clientUid.length < 2 ^ 32 ∧ (m.value.getD []).length < 2 ^ 32 ∧
    m.err.length < 2 ^ 32

/-- Reading the fields written for `m`, under the flags of `m`, gives back every field of `m`
and consumes the input. -/
theorem readFields_written {m : Message} (fits : Fits m) (into : Message) :
    readFields (bitsValue ((fields m).map (·.present))) into { rest := (fields m).flatMap Field.written } =
      ({ m with kind := into.kind }, { rest := [] }) := by
  obtain ⟨ha, hu, hv, he⟩ := fits
  -- the flags become the fields' presences, and the input the fields' images in order
  simp only [readFields, testBit_bitsValue, fields, List.map_cons, List.map_nil, List.flatMap_cons,
    List.flatMap_nil, List.getD_cons_zero, List.getD_cons_succ, Field.written]
  -- then every field is read in turn, innermost first
  simp only [Reader.word_uint64, Reader.word_int64, Reader.word_int32, Reader.code_field,
    Reader.prefixed_field _ _ _ ha, Reader.prefixed_field _ _ _ hu, Reader.value_field _ _ hv,
    Reader.prefixed_field _ _ _ he, getD_written]
  simp [UInt64.ofNat_toNat, UInt8.ofNat_toNat]

/-- The image of a message of a valid type, with its flag word in two bytes. -/
theorem encode_valid {m : Message} (valid : m.kind.valid = true) :
    encode m = .ok (m.kind.val :: UInt8.ofNat (flagWord (fields m) / 256 % 256) ::
      UInt8.ofNat (flagWord (fields m) % 256) :: (fields m).flatMap Field.written) := by
  simp [encode, valid, Bytes.beBytes, flatMap_filter_present]

theorem encode_invalid {m : Message} (invalid : m.kind.valid = false) :
    encode m = .error (invalidType m.kind) := by
  simp [encode, invalid]

theorem invalidType_isOf (t : MessageType) : (invalidType t).isOf Failure.invalidArgument = true := by
  simp [invalidType, Failure.isOf, Failure.statuses, Failure.statusMatches, Failure.firstStatus?,
    Failure.invalidArgument]

/-- A message of a valid type whose byte strings fit their length prefixes is written, and reads
back whole from its image, into any message. -/
theorem decodeInto_encode_of_fits {m : Message} (valid : m.kind.valid = true) (fits : Fits m) :
    ∃ bs, encode m = .ok bs ∧ ∀ into, decodeInto bs into = (m, none) := by
  refine ⟨_, encode_valid valid, fun into => ?_⟩
  -- the flag word has one bit per field, so its two bytes carry it whole
  have small : flagWord (fields m) < 2 ^ 16 := by
    rw [flagWord_eq_bitsValue]
    exact lt_of_lt_of_le (bitsValue_lt _) (by simp [fields])
  have kind : MessageType.valid ⟨m.kind.val⟩ = true := valid
  simp only [decodeInto, kind, if_true]
  rw [flag_bytes _ small, flagWord_eq_bitsValue, readFields_written fits]
  rfl

/-- A message of a valid type is written, and when its byte strings fit their length prefixes it
reads back whole from its image, into any message; the encoder fails exactly on an invalid
type, and then with an `invalid argument` failure. -/
theorem decodeInto_encode_roundtrip (m : Message) :
    (m.kind.valid = true → Fits m → ∃ bs, encode m = .ok bs ∧ ∀ into, decodeInto bs into = (m, none)) ∧
    ((∃ e, encode m = .error e) ↔ m.kind.valid = false) ∧
    (∀ e, encode m = .error e → e.isOf Failure.invalidArgument = true) := by
  refine ⟨fun valid fits => decodeInto_encode_of_fits valid fits, ⟨?_, ?_⟩, ?_⟩
  · rintro ⟨e, failed⟩
    cases valid : m.kind.valid
    · rfl
    · rw [encode_valid valid] at failed
      cases failed
  · intro invalid
    exact ⟨_, encode_invalid invalid⟩
  · intro e failed
    cases valid : m.kind.valid
    · rw [encode_invalid valid] at failed
      cases failed
      exact invalidType_isOf m.kind
    · rw [encode_valid valid] at failed
      cases failed

/-- A direct request's answer with every kind of field: a negative version, an empty value and a
coded failure. -/
def sampleAnswer : Message :=
  { kind := .syncExecute, transactionId := 7, requestId := 1, algorithmId := [0x65], version := -1,
    operationId := -3, value := some [], retCode := Code.notFound, err := [0x78] }

theorem sampleAnswer_roundtrip :
    sampleAnswer.kind.valid = true ∧ Fits sampleAnswer ∧
      ∃ bs, encode sampleAnswer = .ok bs ∧ ∀ into, decodeInto bs into = (sampleAnswer, none) := by
  have valid : sampleAnswer.kind.valid = true := by decide
  have fits : Fits sampleAnswer := by simp [Fits, sampleAnswer]
  exact ⟨valid, fits, (decodeInto_encode_roundtrip sampleAnswer).1 valid fits⟩

end Binary

end InferenceBroker
