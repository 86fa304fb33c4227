import Mathlib.Data.Nat.Digits.Defs
import InferenceBroker.Proofs.Remote.Refinement
import InferenceBroker.Proofs.Message.Grammar

/-!
# The broker answers every request with a well-formed message

Whatever arrives on whatever channel, in whatever state, the broker's answer has a valid type,
so writing it never fails and the handler's fallback is never taken (`handle_eq_reply`); the
bytes decode again to a message of the answer's type. A request of the nine served types is
answered in its own type; other channels, undecodable bytes and answer-only types get an error
with a code other than `ok` and a text. The main statement is `handle_well_formed`.

A string of `2 ^ 32` bytes or more is written with its length cut to 32 bits. An answer has at
most two string fields, value and error text, and after a cut string the reader has at least
`2 ^ 32` of its bytes left, more than the next string can ask beyond its own image
(`cutFields_written`). So an answer always decodes and keeps its type (`decode_blank`); an error
text is short and comes back exactly (`Message.errorResponse_sendable`).
-/

namespace InferenceBroker

namespace Binary

/-! ## Reading what was written -/

namespace Shape

/-- The most a read takes: its width, or a four-byte length and the longest string it announces. -/
def most : Shape → Nat
  | fixed n => n
  | prefixed => 4 + (2 ^ 32 - 1)

@[simp] theorem most_fixed (n : Nat) : (fixed n).most = n := rfl

@[simp] theorem most_prefixed : prefixed.most = 4 + (2 ^ 32 - 1) := rfl

theorem cut_of_room {sh : Shape} {bs : Bytes} (room : sh.most ≤ bs.length) :
    ∃ w rest, sh.cut bs = some (w, rest) ∧ bs.length ≤ rest.length + sh.most := by
  cases sh with
  | fixed n =>
    refine ⟨bs.take n, bs.drop n, by simp [cut, Bytes.take?, show n ≤ bs.length from room], ?_⟩
    simp only [List.length_drop, most]
    omega
  | prefixed =>
    -- the four length bytes announce fewer than `2 ^ 32` bytes, and that many are there
    have announced : Bytes.beValue (bs.take 4) < 2 ^ 32 := by
      have := Bytes.beValue_lt (bs.take 4)
      simp only [List.length_take] at this
      rw [Nat.min_eq_left (by simp [most] at room; omega)] at this
      simpa using this
    have there : Bytes.beValue (bs.take 4) ≤ (bs.drop 4).length := by
      simp only [List.length_drop, most] at room ⊢
      omega
    refine ⟨bs.take 4 ++ (bs.drop 4).take (Bytes.beValue (bs.take 4)), (bs.drop 4).drop (Bytes.beValue (bs.take 4)),
      ?_, ?_⟩
    · simp [cut, Bytes.take?, show 4 ≤ bs.length by simp [most] at room; omega]
      simpa using there
    · simp only [List.length_drop, most]
      omega

theorem cut_fixed {w more : Bytes} {n : Nat} (sized : w.length = n) : (fixed n).cut (w ++ more) = some (w, more) :=
  take?_eq_some.2 ⟨sized, rfl⟩

/-- A string written behind its length is cut off as far as the low 32 bits of the length reach. -/
theorem cut_lengthPrefixed (s more : Bytes) :
    prefixed.cut (lengthPrefixed s ++ more) =
      some (Bytes.beBytes 4 s.length ++ s.take (s.length % 2 ^ 32), s.drop (s.length % 2 ^ 32) ++ more) := by
  have announced : Bytes.beValue (Bytes.beBytes 4 s.length) = s.length % 2 ^ 32 := by
    rw [Bytes.beValue_beBytes]
    norm_num
  have short : s.length % 2 ^ 32 ≤ s.length := Nat.mod_le _ _
  have split : s ++ more = s.take (s.length % 2 ^ 32) ++ (s.drop (s.length % 2 ^ 32) ++ more) := by
    rw [← List.append_assoc, List.take_append_drop]
  simp only [cut, lengthPrefixed, List.append_assoc, take?_eq_some.2 ⟨Bytes.length_beBytes 4 s.length, rfl⟩,
    Option.bind_some, announced]
  rw [take?_eq_some.2 ⟨by rw [List.length_take]; exact Nat.min_eq_left short, split⟩]
  rfl

end Shape

/-- As wide as the shape, or a string of any length behind its four-byte length. -/
def Shape.Written : Shape → Bytes → Prop
  | .fixed n, w => w.length = n
  | .prefixed, w => ∃ s, w = lengthPrefixed s

theorem cutFields_of_room {flags : Nat} (fs : List (Shape × Nat)) {bs : Bytes}
    (room : ((fs.filter fun p => flags.testBit p.2).map fun p => p.1.most).sum ≤ bs.length) :
    (cutFields flags fs bs).isSome := by
  induction fs generalizing bs with
  | nil => rfl
  | cons p fs ih =>
    obtain ⟨sh, i⟩ := p
    by_cases bit : flags.testBit i = true
    · simp only [List.filter_cons, bit, if_true, List.map_cons, List.sum_cons] at room
      obtain ⟨w, rest, cut, left⟩ := Shape.cut_of_room (show sh.most ≤ bs.length by omega)
      simp only [cutFields, bit, if_true, cut, Option.bind_some]
      exact ih (by omega)
    · simp only [List.filter_cons, bit, Bool.false_eq_true, if_false] at room
      simp only [cutFields, bit, Bool.false_eq_true, if_false]
      exact ih room

def writtenStrings (fs : List (Shape × Nat)) (xs : List Field) : Nat :=
  ((fs.zip xs).filter fun q => q.2.present && q.1.1 == .prefixed).length

/-- The reads take at most `2 ^ 32 - 1` bytes beyond each written string, nothing for a word. -/
theorem most_le_written {flags : Nat} {fs : List (Shape × Nat)} {xs : List Field}
    (shaped : List.Forall₂ (fun p f => p.1.Written f.image) fs xs) (bits : ∀ q ∈ fs.zip xs, flags.testBit q.1.2 = q.2.present) :
    ((fs.filter fun p => flags.testBit p.2).map fun p => p.1.most).sum ≤
      (xs.flatMap Field.written).length + writtenStrings fs xs * (2 ^ 32 - 1) := by
  induction shaped with
  | nil => simp [writtenStrings]
  | @cons p f fs xs image _ ih =>
    have rest := ih fun q hq => bits q (List.mem_cons_of_mem _ hq)
    have bit : flags.testBit p.2 = f.present := bits (p, f) (by simp)
    obtain ⟨sh, i⟩ := p
    simp only [writtenStrings, List.zip_cons_cons, List.filter_cons, List.flatMap_cons, List.length_append] at rest ⊢
    cases present : f.present
    · simp only [bit, present, Bool.false_eq_true, if_false, Bool.false_and, Field.written]
      simpa using rest
    · cases sh with
      | fixed n =>
        simp only [bit, present, if_true, List.map_cons, List.sum_cons, Shape.most_fixed, Field.written,
          Bool.true_and, beq_iff_eq, reduceCtorEq, if_false]
        have : f.image.length = n := image
        omega
      | prefixed =>
        obtain ⟨s, written⟩ : ∃ s, f.image = lengthPrefixed s := image
        simp only [bit, present, if_true, List.map_cons, List.sum_cons, Shape.most_prefixed, Field.written,
          Bool.true_and, beq_self_eq_true, List.length_cons, written, lengthPrefixed, List.length_append,
          Bytes.length_beBytes]
        rw [Nat.succ_mul]
        omega

/-- Fields with at most two written strings are cut off one after another, even after a
string whose length was cut: what is left of it exceeds what the next string can ask. -/
theorem cutFields_written {flags : Nat} {fs : List (Shape × Nat)} {xs : List Field}
    (shaped : List.Forall₂ (fun p f => p.1.Written f.image) fs xs) (bits : ∀ q ∈ fs.zip xs, flags.testBit q.1.2 = q.2.present)
    (few : writtenStrings fs xs ≤ 2) (more : Bytes) :
    (cutFields flags fs (xs.flatMap Field.written ++ more)).isSome := by
  induction shaped with
  | nil => rfl
  | @cons p f fs xs image _ ih =>
    have bit : flags.testBit p.2 = f.present := bits (p, f) (by simp)
    have bits' : ∀ q ∈ fs.zip xs, flags.testBit q.1.2 = q.2.present := fun q hq => bits q (List.mem_cons_of_mem _ hq)
    obtain ⟨sh, i⟩ := p
    cases present : f.present
    · have few' : writtenStrings fs xs ≤ 2 := by
        simpa [writtenStrings, present] using few
      simp only [cutFields, bit, present, Bool.false_eq_true, if_false, List.flatMap_cons, Field.written,
        List.nil_append]
      exact ih bits' few'
    · cases sh with
      | fixed n =>
        have few' : writtenStrings fs xs ≤ 2 := by
          simpa [writtenStrings, present] using few
        simp only [cutFields, bit, present, if_true, List.flatMap_cons, Field.written, List.append_assoc,
          Shape.cut_fixed (show f.image.length = n from image), Option.bind_some]
        exact ih bits' few'
      | prefixed =>
        obtain ⟨s, written⟩ : ∃ s, f.image = lengthPrefixed s := image
        have few' : writtenStrings fs xs ≤ 1 := by
          simp only [writtenStrings, List.zip_cons_cons, List.filter_cons, present, Bool.true_and, beq_self_eq_true,
            if_true, List.length_cons] at few
          exact Nat.le_of_succ_le_succ few
        simp only [cutFields, bit, present, if_true, List.flatMap_cons, Field.written, written, List.append_assoc,
          Shape.cut_lengthPrefixed, Option.bind_some]
        by_cases whole : s.length < 2 ^ 32
        · -- the string came back whole: the reader is where the next image starts
          rw [Nat.mod_eq_of_lt whole, List.drop_length, List.nil_append]
          exact ih bits' (by omega)
        · -- the rest of the string gives room for every later read
          apply cutFields_of_room
          have taken := most_le_written ‹_› bits'
          have left : 2 ^ 32 ≤ (s.drop (s.length % 2 ^ 32)).length := by
            rw [List.length_drop]
            have := Nat.mod_lt s.length (show 0 < 2 ^ 32 by decide)
            omega
          simp only [List.length_append]
          have : writtenStrings fs xs * (2 ^ 32 - 1) ≤ 2 ^ 32 - 1 := by
            calc writtenStrings fs xs * (2 ^ 32 - 1) ≤ 1 * (2 ^ 32 - 1) := Nat.mul_le_mul_right _ few'
              _ = 2 ^ 32 - 1 := Nat.one_mul _
          omega

/-! ## Decoding a message's image -/

theorem testBit_flagWord (m : Message) (i : Nat) :
    (flagWord (fields m)).testBit i = ((fields m).map (·.present)).getD i false := by
  rw [flagWord_eq_bitsValue, testBit_bitsValue]

/-- A valid message's image decodes to its type once the reader gets through its fields. -/
theorem decodeInto_image_of_cuts {m : Message} (valid : m.kind.valid = true) (into : Message)
    (cuts : (cutFields (flagWord (fields m)) shapes.zipIdx ((fields m).flatMap Field.written)).isSome) :
    (decodeInto (m.kind.val :: UInt8.ofNat (flagWord (fields m) / 256 % 256) ::
        UInt8.ofNat (flagWord (fields m) % 256) :: (fields m).flatMap Field.written) into).2 = none ∧
      (decodeInto (m.kind.val :: UInt8.ofNat (flagWord (fields m) / 256 % 256) ::
        UInt8.ofNat (flagWord (fields m) % 256) :: (fields m).flatMap Field.written) into).1.kind = m.kind := by
  have small : flagWord (fields m) < 2 ^ 16 := by
    rw [flagWord_eq_bitsValue]
    exact Nat.lt_of_lt_of_le (bitsValue_lt _) (by simp [fields])
  have kind : MessageType.valid ⟨m.kind.val⟩ = true := valid
  -- the reader stops short exactly when a cut fails
  have through : (passAll (flagWord (fields m)) { rest := (fields m).flatMap Field.written }).short = none := by
    have left := Reader.left_isSome (passAll (flagWord (fields m)) { rest := (fields m).flatMap Field.written })
    rw [left_passAll, cuts] at left
    exact Option.isNone_iff_eq_none.1 left.symm
  simp only [decodeInto, kind, if_true]
  rw [flag_bytes _ small, readFields_reader, through]
  exact ⟨rfl, rfl⟩

theorem fields_written (m : Message) :
    List.Forall₂ (fun p f => p.1.Written f.image) shapes.zipIdx (fields m) := by
  simp only [numbered, fields, List.forall₂_cons, List.Forall₂.nil, and_true, Shape.Written,
    Bytes.length_beBytes, List.length_singleton]
  exact ⟨trivial, trivial, ⟨_, rfl⟩, trivial, trivial, ⟨_, rfl⟩, trivial, trivial, ⟨_, rfl⟩, trivial, ⟨_, rfl⟩⟩

theorem testBit_fields (m : Message) :
    ∀ q ∈ shapes.zipIdx.zip (fields m), (flagWord (fields m)).testBit q.1.2 = q.2.present := by
  intro q hq
  rw [testBit_flagWord]
  -- the pairs are the eleven fields with their numbers; each flag bit is its field's presence
  conv at hq => rw [numbered]
  simp only [fields, List.zip_cons_cons, List.zip_nil_right, List.mem_cons, List.not_mem_nil, or_false] at hq
  rcases hq with h | h | h | h | h | h | h | h | h | h | h <;> subst h <;> rfl

theorem writtenStrings_le {m : Message} (noAlgorithm : m.algorithmId = []) (noClient : m.clientUid = []) :
    writtenStrings shapes.zipIdx (fields m) ≤ 2 := by
  simp only [writtenStrings, numbered, fields, noAlgorithm, noClient, List.zip_cons_cons, List.zip_nil_right,
    List.filter_cons, List.filter_nil]
  cases m.value.isSome <;> cases m.err.isEmpty <;> simp

/-- Without algorithm id and client uid, the image always decodes to a message of its type. -/
theorem decode_blank {m : Message} {bs : Bytes} (noAlgorithm : m.algorithmId = []) (noClient : m.clientUid = [])
    (encoded : encode m = .ok bs) : ∃ r, Format.binary.decode bs = .ok r ∧ r.kind = m.kind := by
  cases valid : m.kind.valid
  · rw [encode_invalid valid] at encoded
    cases encoded
  · rw [encode_valid valid] at encoded
    cases encoded
    have cuts := cutFields_written (fields_written m) (testBit_fields m) (writtenStrings_le noAlgorithm noClient) []
    rw [List.append_nil] at cuts
    obtain ⟨read, kind⟩ := decodeInto_image_of_cuts valid {} cuts
    refine ⟨_, ?_, kind⟩
    simp only [Format.decode, Format.decodeInto]
    generalize decodeInto _ {} = p at read ⊢
    obtain ⟨r, e⟩ := p
    cases read
    rfl

/-! ## What the decoder refuses -/

theorem Reader.short_take (r : Reader) (n : Nat) (field : String) {s : String}
    (stopped : (r.take n field).2.short = some s) : r.short = some s ∨ s = field := by
  obtain ⟨rest, _ | _⟩ := r
  · by_cases room : n ≤ rest.length <;> simp [Reader.take, room] at stopped ⊢
    exact stopped.symm
  · exact .inl stopped

theorem Reader.short_lengthPrefixed (r : Reader) (field : String) {s : String}
    (stopped : (r.lengthPrefixed field).2.short = some s) : r.short = some s ∨ s = field ++ " length" ∨ s = field := by
  unfold Reader.lengthPrefixed at stopped
  rcases read : r.word 4 (field ++ " length") with ⟨len, r'⟩
  have same : (r.take 4 (field ++ " length")).2 = r' := by
    simpa [Reader.word] using congrArg Prod.snd read
  have word : r'.short = some s → r.short = some s ∨ s = field ++ " length" := fun h =>
    Reader.short_take r 4 _ (same ▸ h)
  simp only [read] at stopped
  cases first : r'.short with
  | some s' =>
    simp only [first] at stopped
    exact (word (first.trans stopped)).imp id .inl
  | none =>
    simp only [first] at stopped
    rcases Reader.short_take r' len field stopped with before | here
    · rw [first] at before
      cases before
    · exact .inr (.inr here)

/-- The names under which a read reports input too short for it. -/
def Read.names : Read → List String
  | .word _ name => [name]
  | .prefixed name => [name ++ " length", name]
  | .value => ["value length", "value"]

theorem Read.short_pass (r : Reader) (selected : Bool) (rd : Read) {name : String}
    (stopped : (rd.pass r selected).short = some name) : r.short = some name ∨ name ∈ rd.names := by
  cases selected
  · cases rd <;> exact .inl stopped
  · cases rd with
    | word n field => simpa [names] using Reader.short_take r n field stopped
    | prefixed field => simpa [names] using Reader.short_lengthPrefixed r field stopped
    | value => simpa [names] using Reader.short_lengthPrefixed r "value" stopped

theorem short_foldl_pass (flags : Nat) (rds : List (Read × Nat)) (r : Reader) {name : String}
    (stopped : (rds.foldl (fun r p => p.1.pass r (flags.testBit p.2)) r).short = some name) :
    r.short = some name ∨ ∃ p ∈ rds, name ∈ p.1.names := by
  induction rds generalizing r with
  | nil => exact .inl stopped
  | cons p rds ih =>
    rcases ih _ stopped with before | later
    · rcases Read.short_pass _ _ _ before with earlier | here
      · exact .inl earlier
      · exact .inr ⟨p, by simp, here⟩
    · obtain ⟨q, mem, named⟩ := later
      exact .inr ⟨q, by simp [mem], named⟩

theorem short_passAll (flags : Nat) (bs : Bytes) {name : String} (stopped : (passAll flags { rest := bs }).short = some name) :
    name ∈ reads.flatMap Read.names := by
  rcases short_foldl_pass flags _ _ stopped with before | ⟨⟨rd, i⟩, mem, named⟩
  · cases before
  · exact List.mem_flatMap.2 ⟨rd, List.fst_mem_of_mem_zipIdx mem, named⟩

/-- The decoder refuses a short header, a type out of range, or a field too short. -/
theorem decode_refused {data : Bytes} {e : Failure} (refused : Format.binary.decode data = .error e) :
    e = .note "data too short for message header" ∨ (∃ t : UInt8, e = invalidType ⟨t⟩) ∨
      ∃ name ∈ reads.flatMap Read.names, e = .note s!"data too short for {name}" := by
  have stopped : (decodeInto data {}).2 = some e := by
    simp only [Format.decode, Format.decodeInto] at refused
    rcases read : decodeInto data {} with ⟨m, _ | e'⟩ <;> rw [read] at refused <;> cases refused
    rfl
  unfold decodeInto at stopped
  split at stopped
  · rename_i t f1 f2 rest
    dsimp only at stopped
    split at stopped
    · generalize fields : readFields _ _ _ = p at stopped
      obtain ⟨m, r⟩ := p
      have reader := readFields_reader (f1.toNat * 256 + f2.toNat) {kind := ⟨t⟩} { rest := rest }
      rw [fields] at reader
      dsimp only at reader
      simp only [Option.map_eq_some_iff] at stopped
      obtain ⟨field, short, rfl⟩ := stopped
      exact .inr (.inr ⟨field, short_passAll _ _ (reader ▸ short), rfl⟩)
    · cases stopped
      exact .inr (.inl ⟨_, rfl⟩)
  · cases stopped
    exact .inl rfl

theorem decode_valid {data : Bytes} {m : Message} (decoded : Format.binary.decode data = .ok m) : m.kind.valid = true := by
  have read : decodeInto data {} = (m, none) := by
    simp only [Format.decode, Format.decodeInto] at decoded
    rcases read : decodeInto data {} with ⟨m', _ | e⟩ <;> rw [read] at decoded <;> cases decoded
    rfl
  unfold decodeInto at read
  split at read
  · rename_i t f1 f2 rest
    dsimp only at read
    split at read
    · rename_i valid
      generalize fields : readFields _ _ _ = p at read
      obtain ⟨m', r⟩ := p
      have kind : (readFields (f1.toNat * 256 + f2.toNat) {kind := ⟨t⟩} { rest := rest }).1.kind = ⟨t⟩ := rfl
      rw [fields] at kind
      simp only [Prod.mk.injEq] at read
      rw [← read.1, kind]
      exact valid
    · cases read
  · cases read

end Binary

namespace MessageType

/-- Starting and stopping an engine, executing directly and asynchronously, setting and
reading an option, installing and removing a listener, and statistics. -/
def requests : List MessageType :=
  [startEngine, stopEngine, syncExecute, asyncExecute, setOption, getOption, registerListener, unregisterListener,
    stats]

/-- Success, error, and the reply pushed for an asynchronous request. -/
def answers : List MessageType := [success, error, asyncReply]

theorem mem_requests (t : MessageType) : t ∈ requests ↔ t.val.toNat ∈ [3, 4, 5, 6, 8, 9, 10, 11, 12] := by
  obtain ⟨v⟩ := t
  simp only [requests, startEngine, stopEngine, syncExecute, asyncExecute, setOption, getOption, registerListener,
    unregisterListener, stats, List.mem_cons, mk.injEq, List.mem_nil_iff, or_false, ← UInt8.toNat_inj]
  simp

theorem mem_answers (t : MessageType) : t ∈ answers ↔ t.val.toNat ∈ [1, 2, 7] := by
  obtain ⟨v⟩ := t
  simp only [answers, success, error, asyncReply, List.mem_cons, mk.injEq, List.mem_nil_iff, or_false,
    ← UInt8.toNat_inj]
  simp

theorem valid_iff (t : MessageType) : t.valid = true ↔ t ∈ requests ∨ t ∈ answers := by
  rw [mem_requests, mem_answers]
  simp only [valid, Bool.and_eq_true, decide_eq_true_eq, List.mem_cons, List.mem_nil_iff, or_false]
  omega

theorem not_request_of_answer {t : MessageType} (answer : t ∈ answers) : t ∉ requests := by
  rw [mem_answers] at answer
  rw [mem_requests]
  simp only [List.mem_cons, List.mem_nil_iff, or_false] at answer ⊢
  omega

theorem eq_of_toNat {t : MessageType} {n : Nat} (h : t.val.toNat = n) : t = ⟨UInt8.ofNat n⟩ := by
  obtain ⟨v⟩ := t
  subst h
  simp

end MessageType

/-! ## Texts short enough to send back -/

theorem utf8ByteSize_ofList_le (l : List Char) : (String.ofList l).utf8ByteSize ≤ 4 * l.length := by
  have size : (String.ofList l).utf8ByteSize = (l.flatMap String.utf8EncodeChar).length := by
    simp [String.ofList, String.utf8ByteSize, List.utf8Encode]
  rw [size]
  clear size
  induction l with
  | nil => rfl
  | cons c l ih =>
    simp only [List.flatMap_cons, List.length_append, String.length_utf8EncodeChar, List.length_cons]
    have := Char.utf8Size_le_four c
    omega

theorem utf8ByteSize_toString_le {n k : Nat} (pos : 0 < k) (small : n < 10 ^ k) : (toString n).utf8ByteSize ≤ 4 * k :=
  calc (toString n).utf8ByteSize = (String.ofList (Nat.toDigits 10 n)).utf8ByteSize := rfl
    _ ≤ 4 * (Nat.toDigits 10 n).length := utf8ByteSize_ofList_le _
    _ ≤ 4 * k := Nat.mul_le_mul_left 4 (Nat.toDigits_length 10 n k pos small)

namespace Failure

@[simp] theorem code_note (s : String) : (note s).code = Code.operationFailed := by
  simp [code, firstStatus?, statuses]

theorem utf8ByteSize_message_within (lead : String) (cause : Failure) :
    (within lead cause).message.utf8ByteSize = lead.utf8ByteSize + cause.message.utf8ByteSize + 2 := by
  have sep : ": ".utf8ByteSize = 2 := by decide
  simp only [message_within, String.utf8ByteSize_append, sep]
  omega

/-- A failure led by a text goes whole when its cause has a code and both texts are short. -/
theorem code_invalidArgument : invalidArgument.code = Code.invalidArgument := by
  simp [invalidArgument, code, firstStatus?, statuses]

theorem utf8ByteSize_invalidArgument : invalidArgument.message.utf8ByteSize = 16 := by
  simp only [invalidArgument, message]
  decide

theorem sendable_within {lead : String} {cause : Failure} (coded : cause.code ≠ Code.ok)
    (short : lead.utf8ByteSize + cause.message.utf8ByteSize + 2 < 2 ^ 32) : (within lead cause).sendable = true := by
  simpa [sendable, code_within, coded, utf8ByteSize_message_within] using short

end Failure

namespace MessageType

theorem name_mem (t : MessageType) : t.name ∈ "unknown" :: names := by
  unfold name
  split
  · rw [List.getD_eq_getElem?_getD]
    rcases Nat.lt_or_ge (t.val.toNat - 1) names.length with inside | beyond
    · rw [List.getElem?_eq_getElem inside, Option.getD_some]
      exact List.mem_cons_of_mem _ (List.getElem_mem inside)
    · rw [List.getElem?_eq_none beyond, Option.getD_none]
      exact List.mem_cons_self
  · exact List.mem_cons_self

theorem utf8ByteSize_name_le (t : MessageType) : t.name.utf8ByteSize ≤ 18 := by
  have all : ∀ s ∈ "unknown" :: names, s.utf8ByteSize ≤ 18 := by decide
  exact all _ (name_mem t)

end MessageType

namespace Message

variable (m : Message) (e : Option Failure)

@[simp] theorem kind_withOutcome : (m.withOutcome e).kind = m.kind := by cases e <;> rfl

@[simp] theorem algorithmId_withOutcome : (m.withOutcome e).algorithmId = m.algorithmId := by cases e <;> rfl

@[simp] theorem clientUid_withOutcome : (m.withOutcome e).clientUid = m.clientUid := by cases e <;> rfl

@[simp] theorem value_withOutcome : (m.withOutcome e).value = m.value := by cases e <;> rfl

theorem syncExecuteResponse_blank (r : Option Response) (e : Option Failure) :
    (syncExecuteResponse r e).kind = .syncExecute ∧ (syncExecuteResponse r e).algorithmId = [] ∧
      (syncExecuteResponse r e).clientUid = [] := by
  cases r <;> simp [syncExecuteResponse]

theorem errorResponse_blank (e : Option Failure) :
    (errorResponse e).kind = .error ∧ (errorResponse e).algorithmId = [] ∧ (errorResponse e).clientUid = [] ∧
      (errorResponse e).value = none := by
  unfold errorResponse
  dsimp only
  split <;> simp

/-- A code other than `ok` and a text, and its image reads back whole. -/
theorem errorResponse_sendable {f : Failure} (sendable : f.sendable = true) :
    Binary.Fits (errorResponse (some f)) ∧ (errorResponse (some f)).retCode ≠ Code.ok ∧
      (errorResponse (some f)).err ≠ [] := by
  simp only [Failure.sendable, Bool.and_eq_true, bne_iff_ne, ne_eq, decide_eq_true_eq] at sendable
  obtain ⟨coded, short⟩ := sendable
  unfold errorResponse
  dsimp only
  split
  · -- a failure without a text is reported as `unknown error`
    have named : (Bytes.ofString "unknown error").length = 13 := by
      rw [Bytes.length_ofString]
      decide
    refine ⟨by simp [Binary.Fits, named], show Code.operationFailed ≠ Code.ok by decide, fun none => ?_⟩
    have empty : Bytes.ofString "unknown error" = [] := none
    simp [empty] at named
  · rename_i texted
    refine ⟨by simpa [Binary.Fits, withOutcome] using short, by simpa [withOutcome] using coded, ?_⟩
    simpa using texted

end Message

namespace Broker

/-- The message a broker answers bytes on a channel with, before it is written. -/
def reply (conn channel : Nat) (data : Bytes) : StateM Broker Message := do
  let b ← get
  if channel != callChannel then
    pure (Message.errorResponse (some (.within s!"channel {channel} does not accept requests" Failure.invalidArgument)))
  else match b.format.decode data with
    | .error e => pure (Message.errorResponse (some (.within "failed to deserialize request" e)))
    | .ok m => answer conn m

variable {b : Broker} {conn channel : Nat} {data : Bytes}

theorem reply_other (other : channel ≠ callChannel) :
    (reply conn channel data).run b =
      (Message.errorResponse (some (.within s!"channel {channel} does not accept requests" Failure.invalidArgument)), b) := by
  have other' : (channel != callChannel) = true := by simpa using other
  simp only [reply, run_bind, run_get, other', if_true]
  rfl

theorem reply_undecoded {e : Failure} (call : channel = callChannel) (undecoded : b.format.decode data = .error e) :
    (reply conn channel data).run b = (Message.errorResponse (some (.within "failed to deserialize request" e)), b) := by
  simp only [reply, run_bind, run_get, call, bne_self_eq_false, Bool.false_eq_true, if_false, undecoded]
  rfl

theorem reply_decoded {m : Message} (call : channel = callChannel) (decoded : b.format.decode data = .ok m) :
    (reply conn channel data).run b = (answer conn m).run b := by
  simp only [reply, run_bind, run_get, call, bne_self_eq_false, Bool.false_eq_true, if_false, decoded]

/-- Once the answer is written, the handler returns its bytes and nothing else happens. -/
theorem handle_eq_reply {out : Bytes} (written : b.format.encode ((reply conn channel data).run b).1 = .ok out) :
    (handle conn channel data).run b = (out, ((reply conn channel data).run b).2) := by
  unfold handle
  rw [run_bind, run_get]
  -- the handler writes the answer in each of its three branches
  by_cases call : channel = callChannel
  · have call' : (channel != callChannel) = false := by simpa using call
    cases decoded : b.format.decode data with
    | error e =>
      rw [reply_undecoded call decoded] at written ⊢
      simp only [call', Bool.false_eq_true, if_false, run_bind, run_pure, written]
    | ok m =>
      rw [reply_decoded call decoded] at written ⊢
      simp only [call', Bool.false_eq_true, if_false, run_bind, written]
      rfl
  · rw [reply_other call] at written ⊢
    have other : (channel != callChannel) = true := by simpa using call
    simp only [other, if_true, run_bind, run_pure, written]

/-- Answered in its own type, with no algorithm id and no client uid. -/
theorem answer_served {m : Message} (served : m.kind ∈ MessageType.requests) (b : Broker) :
    ((answer conn m).run b).1.kind = m.kind ∧ ((answer conn m).run b).1.algorithmId = [] ∧
      ((answer conn m).run b).1.clientUid = [] := by
  rw [MessageType.mem_requests] at served
  simp only [List.mem_cons, List.mem_nil_iff, or_false] at served
  rcases served with k | k | k | k | k | k | k | k | k <;>
    rw [MessageType.eq_of_toNat k] <;> simp only [answer, k, run_bind, run_lift, run_get, run_pure] <;>
    repeat' split
  all_goals first
    | exact ⟨rfl, rfl, rfl⟩
    | exact Message.syncExecuteResponse_blank _ _
    | simp [Message.unregisterListenerResponse, MessageType.unregisterListener]

/-- Refused as unsupported, the broker unchanged. -/
theorem answer_unserved {m : Message} (unserved : m.kind ∉ MessageType.requests) (b : Broker) :
    (answer conn m).run b = (Message.errorResponse (some (.within
      s!"RPC BrokerAdapter - unsupported message type {m.kind.name}" Failure.invalidArgument)), b) := by
  rw [MessageType.mem_requests] at unserved
  unfold answer
  split <;> first | rfl | (exfalso; apply unserved; simp [*])

/-! ## The answer to every call -/

theorem sendable_channel (channel : UInt64) :
    (Failure.within s!"channel {channel.toNat} does not accept requests" Failure.invalidArgument).sendable = true := by
  have digits := utf8ByteSize_toString_le (n := channel.toNat) (k := 20) (by decide)
    (by have := channel.toNat_lt; omega)
  apply Failure.sendable_within (by rw [Failure.code_invalidArgument]; decide)
  simp only [String.utf8ByteSize_append, Failure.utf8ByteSize_invalidArgument]
  have lead : "channel ".utf8ByteSize + " does not accept requests".utf8ByteSize = 33 := by decide
  simp only [toString] at digits ⊢
  omega

theorem sendable_undecoded {data : Bytes} {e : Failure} (refused : Format.binary.decode data = .error e) :
    (Failure.within "failed to deserialize request" e).sendable = true := by
  have lead : "failed to deserialize request".utf8ByteSize < 100 := by decide
  rcases Binary.decode_refused refused with rfl | ⟨t, rfl⟩ | ⟨name, named, rfl⟩
  · apply Failure.sendable_within (by rw [Failure.code_note]; decide)
    have header : (Failure.note "data too short for message header").message.utf8ByteSize < 100 := by
      simp only [Failure.message]
      decide
    omega
  · apply Failure.sendable_within (by rw [Binary.invalidType, Failure.code_within, Failure.code_invalidArgument]; decide)
    have digits := utf8ByteSize_toString_le (n := t.toNat) (k := 3) (by decide) (by have := t.toNat_lt; omega)
    have kind : "message type ".utf8ByteSize < 100 := by decide
    simp only [Binary.invalidType, Failure.utf8ByteSize_message_within, String.utf8ByteSize_append,
      Failure.utf8ByteSize_invalidArgument]
    simp only [toString] at digits ⊢
    omega
  · apply Failure.sendable_within (by rw [Failure.code_note]; decide)
    have short : ∀ name ∈ Binary.reads.flatMap Binary.Read.names, (s!"data too short for {name}").utf8ByteSize < 100 := by
      decide
    have := short name named
    simp only [Failure.message]
    omega

theorem sendable_unsupported (t : MessageType) :
    (Failure.within s!"RPC BrokerAdapter - unsupported message type {t.name}" Failure.invalidArgument).sendable = true := by
  apply Failure.sendable_within (by rw [Failure.code_invalidArgument]; decide)
  have name := MessageType.utf8ByteSize_name_le t
  have lead : "RPC BrokerAdapter - unsupported message type ".utf8ByteSize < 100 := by decide
  simp only [String.utf8ByteSize_append, Failure.utf8ByteSize_invalidArgument]
  simp only [toString] at name ⊢
  omega

/-- A request of one of the nine served types, decoded from the call channel. -/
def Served (channel : Nat) (data : Bytes) (m : Message) : Prop :=
  channel = callChannel ∧ Format.binary.decode data = .ok m ∧ m.kind ∈ MessageType.requests

/-- Bytes on another channel, undecodable bytes, or an answer-only type. -/
def Refused (channel : Nat) (data : Bytes) : Prop :=
  channel ≠ callChannel ∨ (∃ e, Format.binary.decode data = .error e) ∨
    ∃ m, Format.binary.decode data = .ok m ∧ m.kind ∈ MessageType.answers

theorem served_or_refused (channel : Nat) (data : Bytes) : (∃ m, Served channel data m) ∨ Refused channel data := by
  by_cases call : channel = callChannel
  · cases decoded : Format.binary.decode data with
    | error e => exact .inr (.inr (.inl ⟨e, decoded⟩))
    | ok m =>
      rcases (MessageType.valid_iff m.kind).1 (Binary.decode_valid decoded) with request | answer
      · exact .inl ⟨m, call, decoded, request⟩
      · exact .inr (.inr (.inr ⟨m, decoded, answer⟩))
  · exact .inr (.inl call)

/-- What `r`, read back from the answer to `data` on `channel`, says: a served request is
answered in its type; a refused call gets an error with a code other than `ok` and a text;
only a served request is answered with no failure. -/
structure Answers (channel : Nat) (data : Bytes) (r : Message) : Prop where
  served : ∀ m, Served channel data m → r.kind = m.kind
  refused : Refused channel data → r.kind = .error ∧ r.retCode ≠ Code.ok ∧ r.err ≠ []
  silent : r.failure? = none → ∃ m, Served channel data m

theorem reply_blank : ((reply conn channel data).run b).1.kind.valid = true ∧
    ((reply conn channel data).run b).1.algorithmId = [] ∧ ((reply conn channel data).run b).1.clientUid = [] := by
  have error : ∀ e, ((Message.errorResponse e).kind.valid = true ∧ (Message.errorResponse e).algorithmId = [] ∧
      (Message.errorResponse e).clientUid = []) := fun e => by
    obtain ⟨kind, noAlgorithm, noClient, -⟩ := Message.errorResponse_blank e
    exact ⟨by rw [kind]; rfl, noAlgorithm, noClient⟩
  by_cases call : channel = callChannel
  · cases decoded : b.format.decode data with
    | error e => rw [reply_undecoded call decoded]; exact error _
    | ok m =>
      rw [reply_decoded call decoded]
      by_cases request : m.kind ∈ MessageType.requests
      · obtain ⟨kind, noAlgorithm, noClient⟩ := answer_served request b
        exact ⟨by rw [kind]; exact (MessageType.valid_iff _).2 (.inl request), noAlgorithm, noClient⟩
      · rw [answer_unserved request]
        exact error _
  · rw [reply_other call]
    exact error _

theorem reply_refused (binary : b.format = .binary) (channel : UInt64) (refused : Refused channel.toNat data) :
    ∃ f, f.sendable = true ∧ ((reply conn channel.toNat data).run b).1 = Message.errorResponse (some f) := by
  by_cases call : channel.toNat = callChannel
  · rcases refused with other | ⟨e, undecoded⟩ | ⟨m, decoded, answer⟩
    · exact absurd call other
    · rw [reply_undecoded call (binary ▸ undecoded)]
      exact ⟨_, sendable_undecoded undecoded, rfl⟩
    · rw [reply_decoded call (binary ▸ decoded), answer_unserved (MessageType.not_request_of_answer answer)]
      exact ⟨_, sendable_unsupported m.kind, rfl⟩
  · rw [reply_other call]
    exact ⟨_, sendable_channel channel, rfl⟩

/-- For any bytes on any channel, in any state, the answer is written, the handler returns
its bytes, and they read back as a message answering the call. -/
theorem handle_well_formed (b : Broker) (binary : b.format = .binary) (conn : Nat) (channel : UInt64) (data : Bytes) :
    ∃ out r, Binary.encode ((reply conn channel.toNat data).run b).1 = .ok out ∧
      (handle conn channel.toNat data).run b = (out, ((reply conn channel.toNat data).run b).2) ∧
      Format.binary.decode out = .ok r ∧ Answers channel.toNat data r := by
  obtain ⟨valid, noAlgorithm, noClient⟩ : ((reply conn channel.toNat data).run b).1.kind.valid = true ∧
      ((reply conn channel.toNat data).run b).1.algorithmId = [] ∧ ((reply conn channel.toNat data).run b).1.clientUid = [] :=
    reply_blank
  obtain ⟨out, written⟩ : ∃ out, Binary.encode ((reply conn channel.toNat data).run b).1 = .ok out :=
    ⟨_, Binary.encode_valid valid⟩
  obtain ⟨r, decoded, kind⟩ := Binary.decode_blank noAlgorithm noClient written
  have handled := handle_eq_reply
    (show b.format.encode ((reply conn channel.toNat data).run b).1 = .ok out by rw [binary]; exact written)
  -- a refused call's answer reads back whole
  have refusedAnswer : Refused channel.toNat data → r.kind = .error ∧ r.retCode ≠ Code.ok ∧ r.err ≠ [] := by
    intro refused
    obtain ⟨f, sendable, answered⟩ : ∃ f, f.sendable = true ∧
        ((reply conn channel.toNat data).run b).1 = Message.errorResponse (some f) :=
      reply_refused binary channel refused
    obtain ⟨fits, coded, texted⟩ := Message.errorResponse_sendable sendable
    obtain ⟨error, -⟩ := Message.errorResponse_blank (some f)
    rw [answered] at written
    rw [Binary.decode_image (by rw [error]; rfl) fits written] at decoded
    cases decoded
    exact ⟨error, coded, texted⟩
  refine ⟨out, r, written, handled, decoded, ⟨fun m served => ?_, refusedAnswer, fun silent => ?_⟩⟩
  · obtain ⟨call, decodedData, request⟩ := served
    rw [kind, reply_decoded call (binary ▸ decodedData)]
    exact (answer_served request b).1
  · -- only a served call is answered without a failure
    rcases served_or_refused channel.toNat data with served | refused
    · exact served
    · obtain ⟨-, coded, -⟩ := refusedAnswer refused
      simp [Message.failure?, coded] at silent

/-- Undecodable bytes on the call channel of a broker over the echo plugin. -/
theorem handle_well_formed_echo :
    (Broker.ofLoader {} .binary Dispatcher.echoLoader).format = .binary ∧
      ∃ out r, Binary.encode ((reply 1 (1 : UInt64).toNat [0]).run (Broker.ofLoader {} .binary Dispatcher.echoLoader)).1 =
          .ok out ∧
        (handle 1 (1 : UInt64).toNat [0]).run (Broker.ofLoader {} .binary Dispatcher.echoLoader) =
          (out, ((reply 1 (1 : UInt64).toNat [0]).run (Broker.ofLoader {} .binary Dispatcher.echoLoader)).2) ∧
        Format.binary.decode out = .ok r ∧ Answers (1 : UInt64).toNat [0] r :=
  ⟨rfl, handle_well_formed _ rfl 1 1 [0]⟩

end Broker

end InferenceBroker
