import InferenceBroker.Proofs.Transport.Exchange

/-!
# Frames over a stream

Frames of at most 256 MiB each read back from their bytes in order, each after exactly its 20
header bytes and data, then `EOF`. A stream cut inside a further frame gives the frames before
it and fails (`unexpected EOF`, or `EOF` right after a header); a header announcing more than
256 MiB ends the stream before its data. The buffers read into decide only where bytes go
(`readInto_read`). The main statement is `frames_read_back`.
-/

namespace InferenceBroker

namespace Frame

/-! ## Reading into a buffer -/

theorem takeFull_ok {n : Nat} {bs taken rest : Bytes} (h : takeFull n bs = .ok (taken, rest)) :
    taken.length = n ∧ taken ++ rest = bs := by
  unfold takeFull at h
  split at h
  · cases h
    exact ⟨by simp; omega, List.take_append_drop n bs⟩
  · split at h <;> cases h

theorem fill_fields (buf : Bytes) {header : Bytes} (h : header.length = 20) :
    (fill buf header).take 8 = header.take 8 ∧ ((fill buf header).drop 8).take 8 = (header.drop 8).take 8 ∧
      ((fill buf header).drop 16).take 4 = header.drop 16 := by
  unfold fill
  refine ⟨List.take_append_of_le_length (by omega), ?_, ?_⟩
  · rw [List.drop_append_of_le_length (by omega), List.take_append_of_le_length (by simp; omega)]
  · rw [List.drop_append_of_le_length (by omega), List.take_left' (by simp; omega)]

theorem take_fill (buf data : Bytes) : (fill buf data).take data.length = data := by
  simp [fill]

/-- The buffer decides where the bytes go, never what is read. -/
theorem readInto_read (buf bs : Bytes) : (readInto buf bs).map (fun r => (r.1, r.2.1)) = read bs := by
  unfold readInto read
  cases hh : takeFull 20 bs with
  | error e => rfl
  | ok p =>
    obtain ⟨header, rest⟩ := p
    -- the fields are read from the buffer the header went into, which starts with the header
    obtain ⟨c, r, l⟩ := fill_fields (if 20 ≤ buf.length then buf else List.replicate 20 0) (takeFull_ok hh).1
    simp only [bind, Except.bind, decide_eq_true_eq, c, r, l]
    generalize Bytes.beValue (List.drop 16 header) = len
    split
    · rfl
    · split
      · rfl
      · cases taken : takeFull len rest with
        | error e => rfl
        | ok q =>
          obtain ⟨data, rest'⟩ := q
          obtain ⟨sized, -⟩ := takeFull_ok taken
          simp only [pure, Except.pure, Except.map]
          rw [← sized, take_fill]

theorem readAllInto_eq (pick : Nat → Bytes → Bytes) (fuel n : Nat) (left bs : Bytes) :
    readAllInto pick fuel n left bs = readAll fuel bs := by
  induction fuel generalizing n left bs with
  | zero => rfl
  | succ fuel ih =>
    have same := readInto_read (pick n left) bs
    unfold readAllInto readAll
    cases h : readInto (pick n left) bs with
    | error e =>
      rw [h] at same
      rw [← same]
      rfl
    | ok r =>
      obtain ⟨f, rest, left'⟩ := r
      rw [h] at same
      rw [← same]
      simp only [Except.map, ih]

theorem readInto_ok {buf bs rest : Bytes} {f : Frame} (h : read bs = .ok (f, rest)) :
    ∃ left, readInto buf bs = .ok (f, rest, left) := by
  have same := readInto_read buf bs
  rw [h] at same
  cases into : readInto buf bs with
  | error e =>
    rw [into] at same
    cases same
  | ok r =>
    obtain ⟨f', rest', left⟩ := r
    rw [into] at same
    cases same
    exact ⟨left, rfl⟩

theorem readStreamInto_eq (pick : Nat → Bytes → Bytes) (buf bs : Bytes) :
    readStreamInto pick buf bs = readStream bs :=
  readAllInto_eq pick _ 0 buf bs

/-! ## One frame -/

theorem takeFull_short {n : Nat} {bs : Bytes} (short : bs.length < n) :
    takeFull n bs = .error (if bs = [] then .eof else .truncated) := by
  unfold takeFull
  rw [if_neg (by omega)]
  by_cases empty : bs = []
  · simp [empty]
  · simp [empty, List.isEmpty_iff]

def header (f : Frame) : Bytes :=
  Bytes.beBytes 8 f.channel.toNat ++ Bytes.beBytes 8 f.requestId.toNat ++ Bytes.beBytes 4 f.data.length

theorem encode_eq (f : Frame) : f.encode = f.header ++ f.data := by
  simp [encode, header]

@[simp] theorem length_header (f : Frame) : f.header.length = 20 := by
  simp [header]

theorem header_length_field (f : Frame) (small : f.data.length ≤ maxData) :
    Bytes.beValue (f.header.drop 16) = f.data.length := by
  have fits : f.data.length < Nat.pow 256 4 := Nat.lt_of_le_of_lt small (by decide)
  rw [header, List.drop_left' (by simp), Bytes.beValue_beBytes, Nat.mod_eq_of_lt fits]

theorem read_tooLarge {header : Bytes} (rest : Bytes) (sized : header.length = 20)
    (big : maxData < Bytes.beValue (header.drop 16)) :
    read (header ++ rest) = .error (.tooLarge (Bytes.beValue (header.drop 16))) := by
  have taken := takeFull_append rest sized
  have nonzero : (Bytes.beValue (header.drop 16) == 0) = false := by
    simp only [beq_eq_false_iff_ne]; omega
  simp only [read, taken, bind, Except.bind, nonzero, big]
  rfl

/-- After a header announcing data that fits, a stream ending early fails: `EOF` with no data
byte, else `unexpected EOF`. -/
theorem read_short_data {header : Bytes} {rest : Bytes} (sized : header.length = 20)
    (pos : 0 < Bytes.beValue (header.drop 16)) (small : Bytes.beValue (header.drop 16) ≤ maxData)
    (short : rest.length < Bytes.beValue (header.drop 16)) :
    read (header ++ rest) = .error (if rest = [] then .eof else .truncated) := by
  have taken := takeFull_append rest sized
  have nonzero : (Bytes.beValue (header.drop 16) == 0) = false := by
    simp only [beq_eq_false_iff_ne]; omega
  simp only [read, taken, bind, Except.bind, nonzero, Bool.false_eq_true, if_false, gt_iff_lt,
    Nat.not_lt.2 small, takeFull_short short]

theorem read_short_header {bs : Bytes} (short : bs.length < 20) :
    read bs = .error (if bs = [] then .eof else .truncated) := by
  simp only [read, takeFull_short short, bind, Except.bind]

theorem read_cut (f : Frame) (small : f.data.length ≤ maxData) {k : Nat} (pos : 0 < k)
    (short : k < f.encode.length) : read (f.encode.take k) = .error (if k = 20 then .eof else .truncated) := by
  rw [encode_eq] at short ⊢
  simp only [List.length_append, length_header] at short
  rcases Nat.lt_or_ge k 20 with inside | past
  · have length : (f.header ++ f.data).take k = f.header.take k := List.take_append_of_le_length (by simp; omega)
    have nonempty : f.header.take k ≠ [] := by
      rw [Ne, List.take_eq_nil_iff, not_or]
      exact ⟨by omega, List.ne_nil_of_length_pos (by simp)⟩
    rw [length, read_short_header (by simp; omega), if_neg nonempty, if_neg (by omega)]
  · have split : (f.header ++ f.data).take k = f.header ++ f.data.take (k - 20) := by
      rw [List.take_append, List.take_of_length_le (by simp; omega), length_header]
    have field := header_length_field f small
    have begun : f.data.take (k - 20) = [] ↔ k = 20 := by
      rw [List.take_eq_nil_iff]
      have : f.data ≠ [] := List.ne_nil_of_length_pos (by omega)
      constructor
      · rintro (none | empty)
        · omega
        · exact absurd empty this
      · intro at20
        exact .inl (by omega)
    rw [split, read_short_data (length_header f) (by omega) (by omega) (by simp; omega)]
    simp only [begun]

/-! ## Streams of frames -/

theorem readAll_nil (fuel : Nat) : readAll fuel [] = ([], .eof) := by
  cases fuel <;> rfl

theorem readAll_flatMap (fs : List Frame) (small : ∀ f ∈ fs, f.data.length ≤ maxData) (tail : Bytes) (fuel : Nat) :
    readAll (fs.length + fuel) (fs.flatMap encode ++ tail) = (fs ++ (readAll fuel tail).1, (readAll fuel tail).2) := by
  induction fs with
  | nil => simp
  | cons f fs ih =>
    rw [List.length_cons, Nat.add_right_comm, List.flatMap_cons, List.append_assoc]
    simp only [readAll, read_encode f _ (small f (List.mem_cons_self ..)),
      ih (fun g hg => small g (List.mem_cons_of_mem f hg)), List.cons_append]

theorem readAll_error {bs : Bytes} {e : End} (failed : read bs = .error e) (fuel : Nat) :
    readAll (fuel + 1) bs = ([], e) := by
  simp [readAll, failed]

theorem length_le_flatMap (fs : List Frame) : fs.length ≤ (fs.flatMap encode).length := by
  induction fs with
  | nil => simp
  | cons f fs ih =>
    simp only [List.length_cons, List.flatMap_cons, List.length_append, encode_eq, length_header]
    omega

theorem readStream_frames {fs : List Frame} (small : ∀ f ∈ fs, f.data.length ≤ maxData) {tail : Bytes} {e : End}
    (stops : ∀ fuel, readAll (fuel + 1) tail = ([], e)) : readStream (fs.flatMap encode ++ tail) = (fs, e) := by
  have enough := length_le_flatMap fs
  have fuel : (fs.flatMap encode ++ tail).length + 1 =
      fs.length + ((fs.flatMap encode ++ tail).length - fs.length + 1) := by
    simp only [List.length_append] at enough ⊢
    omega
  rw [readStream, fuel, readAll_flatMap fs small, stops, List.append_nil]

/-- What a reader gives back of the bytes written for frames, into any buffers. -/
structure ReadsBack (fs : List Frame) : Prop where
  /-- each frame reads back whole, after exactly its 20 header bytes and its data -/
  each : ∀ f ∈ fs, ∀ buf rest : Bytes, (∃ left, readInto buf (f.encode ++ rest) = .ok (f, rest, left)) ∧
    f.encode.length = 20 + f.data.length
  /-- the stream reads back as the frames in order, then `EOF` -/
  whole : ∀ pick buf, readStreamInto pick buf (fs.flatMap encode) = (fs, .eof)
  /-- a stream cut inside a further frame gives the frames before the cut, then fails -/
  cut : ∀ f : Frame, f.data.length ≤ maxData → ∀ k, 0 < k → k < f.encode.length → ∀ pick buf,
    readStreamInto pick buf (fs.flatMap encode ++ f.encode.take k) = (fs, if k = 20 then .eof else .truncated)
  /-- a header announcing more than the limit ends the stream before its data is read -/
  tooLarge : ∀ header rest : Bytes, header.length = 20 → maxData < Bytes.beValue (header.drop 16) → ∀ pick buf,
    readStreamInto pick buf (fs.flatMap encode ++ (header ++ rest)) =
      (fs, .tooLarge (Bytes.beValue (header.drop 16)))

/-- Frames of at most 256 MiB each read back into any buffers: in order, each after its own
bytes, then `EOF`; a cut or an oversized header fails after the whole frames before it. -/
theorem frames_read_back (fs : List Frame) (small : ∀ f ∈ fs, f.data.length ≤ maxData) : ReadsBack fs where
  each f hf _ rest := ⟨readInto_ok (read_encode f rest (small f hf)), by simp [encode_eq]⟩
  whole pick buf := by
    rw [readStreamInto_eq, ← List.append_nil (fs.flatMap encode)]
    exact readStream_frames small fun fuel => readAll_nil (fuel + 1)
  cut f fits k pos short pick buf := by
    rw [readStreamInto_eq]
    exact readStream_frames small (readAll_error (read_cut f fits pos short))
  tooLarge header rest sized big pick buf := by
    rw [readStreamInto_eq]
    exact readStream_frames small (readAll_error (read_tooLarge rest sized big))

example : readStream ([⟨1, 7, [0x61]⟩].flatMap encode ++ [0, 0]) = ([⟨1, 7, [0x61]⟩], .truncated) := by
  decide

/-- A request frame and an empty notification, read back. -/
theorem frames_read_back_notify :
    (∀ f ∈ [(⟨1, 7, [0x61]⟩ : Frame), ⟨2, 0, []⟩], f.data.length ≤ maxData) ∧
      ReadsBack [(⟨1, 7, [0x61]⟩ : Frame), ⟨2, 0, []⟩] :=
  ⟨by decide, frames_read_back _ (by decide)⟩

end Frame

end InferenceBroker
