import InferenceBroker.Proofs.Message.RoundTrip
import InferenceBroker.Proofs.Transport.Records

/-!
# What the binary decoder accepts

After a type octet and a flag word, the decoder reads for each selected field, in wire order,
an image of its shape: fixed bytes, or a four-byte length and that many bytes (`Shape`). The
grammar says this without the decoder (`Accepts`). `Shape.cut` finds an image exactly when the
input begins with one (`Shape.cut_eq_some`); the reader moves as these cuts do
(`Read.left_pass`) and stops short exactly when one does not fit (`left_passAll`). On an
accepted input it writes each field as its image read (`readFields_images`). Writing back gives
the input exactly when it is `Canonical` (no flag bit above 10, no blank field but the value,
nothing trailing); every encoding is canonical (`encode_canonical`). The main statement is
`decodeInto_grammar`.
-/

namespace InferenceBroker

namespace Binary

/-! ## The grammar -/

/-- A fixed number of bytes, or a four-byte length and that many bytes. -/
inductive Shape where
  | fixed (n : Nat)
  | prefixed
  deriving DecidableEq, Repr

def shapes : List Shape :=
  [.fixed 8, .fixed 8, .prefixed, .fixed 8, .fixed 4, .prefixed, .fixed 4, .fixed 4, .prefixed, .fixed 1,
    .prefixed]

namespace Shape

/-- As many bytes as it fixes, or fewer than `2 ^ 32` bytes after their four-byte length. -/
def Image : Shape → Bytes → Prop
  | fixed n, w => w.length = n
  | prefixed, w => ∃ s : Bytes, s.length < 2 ^ 32 ∧ w = lengthPrefixed s

/-- An image whose decoded content is zero or empty. -/
def Blank : Shape → Bytes → Prop
  | fixed _, w => Bytes.beValue w = 0
  | prefixed, w => w = lengthPrefixed []

def cut : Shape → Bytes → Option (Bytes × Bytes)
  | fixed n, bs => Bytes.take? n bs
  | prefixed, bs => (Bytes.take? 4 bs).bind fun (len, more) =>
      (Bytes.take? (Bytes.beValue len) more).map fun (s, rest) => (len ++ s, rest)

end Shape

/-- One image of its shape for each selected field, none for the others. -/
def Selects (flags : Nat) (fs : List (Shape × Nat)) (imgs : List (Option Bytes)) : Prop :=
  List.Forall₂ (fun p img => flags.testBit p.2 = img.isSome ∧ ∀ w ∈ img, p.1.Image w) fs imgs

def laid (imgs : List (Option Bytes)) : Bytes := imgs.flatMap (·.getD [])

def flagsOf (hi lo : UInt8) : Nat := hi.toNat * 256 + lo.toNat

/-- A valid type, a flag word, the images of the fields it selects, and anything after. -/
def Accepts (data : Bytes) : Prop :=
  ∃ t hi lo imgs trailing, (⟨t⟩ : MessageType).valid = true ∧ Selects (flagsOf hi lo) shapes.zipIdx imgs ∧
    data = t :: hi :: lo :: (laid imgs ++ trailing)

/-- No flag bit above 10, no selected field but the value (field 8) blank, nothing after. -/
def Canonical (data : Bytes) : Prop :=
  ∃ t hi lo imgs, (⟨t⟩ : MessageType).valid = true ∧ flagsOf hi lo < 2 ^ 11 ∧
    Selects (flagsOf hi lo) shapes.zipIdx imgs ∧
    List.Forall₂ (fun p img => ∀ w ∈ img, p.2 = 8 ∨ ¬ p.1.Blank w) shapes.zipIdx imgs ∧
    data = t :: hi :: lo :: laid imgs

/-! ## Cutting images off the input -/

theorem take?_eq_some {n : Nat} {bs w rest : Bytes} : Bytes.take? n bs = some (w, rest) ↔ w.length = n ∧ bs = w ++ rest := by
  constructor
  · intro h
    unfold Bytes.take? at h
    split at h
    next fits =>
      cases h
      exact ⟨by simpa using fits, (List.take_append_drop n bs).symm⟩
    next => cases h
  · rintro ⟨rfl, rfl⟩
    exact Bytes.take?_append w rest

theorem Shape.cut_eq_some {sh : Shape} {bs w rest : Bytes} : sh.cut bs = some (w, rest) ↔ sh.Image w ∧ bs = w ++ rest := by
  cases sh with
  | fixed n => exact take?_eq_some
  | prefixed =>
    constructor
    · intro h
      simp only [cut, Option.bind_eq_some_iff, Option.map_eq_some_iff, Prod.exists, Prod.mk.injEq] at h
      obtain ⟨len, more, took, s, rest', cut, rfl, rfl⟩ := h
      obtain ⟨four, rfl⟩ := take?_eq_some.1 took
      obtain ⟨sized, rfl⟩ := take?_eq_some.1 cut
      -- the four length bytes are the length of the string they announce
      have bound : s.length < 2 ^ 32 := by
        have := Bytes.beValue_lt len
        rw [four] at this
        omega
      refine ⟨⟨s, bound, ?_⟩, (List.append_assoc _ _ _).symm⟩
      rw [lengthPrefixed, sized, ← four, Bytes.beBytes_beValue]
    · rintro ⟨⟨s, bound, rfl⟩, rfl⟩
      have len : Bytes.beValue (Bytes.beBytes 4 s.length) = s.length := by
        rw [Bytes.beValue_beBytes, Nat.mod_eq_of_lt (by simpa using bound)]
      simp only [cut, lengthPrefixed, List.append_assoc,
        take?_eq_some.2 ⟨Bytes.length_beBytes 4 s.length, rfl⟩, Option.bind_some, len,
        take?_eq_some.2 ⟨rfl, rfl⟩, Option.map_some]

def cutFields (flags : Nat) : List (Shape × Nat) → Bytes → Option Bytes
  | [], bs => some bs
  | (sh, i) :: fs, bs =>
    if flags.testBit i then (sh.cut bs).bind fun (_, rest) => cutFields flags fs rest
    else cutFields flags fs bs

theorem cutFields_eq_some {flags : Nat} (fs : List (Shape × Nat)) {bs trailing : Bytes} :
    cutFields flags fs bs = some trailing ↔ ∃ imgs, Selects flags fs imgs ∧ bs = laid imgs ++ trailing := by
  induction fs generalizing bs with
  | nil =>
    simp only [cutFields, Option.some.injEq, Selects, List.forall₂_nil_left_iff, exists_eq_left, laid,
      List.flatMap_nil, List.nil_append]
  | cons p fs ih =>
    obtain ⟨sh, i⟩ := p
    simp only [Selects, List.forall₂_cons_left_iff] at ih ⊢
    by_cases bit : flags.testBit i = true
    · simp only [cutFields, bit, if_true, Option.bind_eq_some_iff, Prod.exists, Shape.cut_eq_some, ih]
      constructor
      · rintro ⟨w, rest, ⟨image, rfl⟩, imgs, sel, rfl⟩
        exact ⟨some w :: imgs, ⟨some w, imgs, ⟨by simp, fun v hv => by cases hv; exact image⟩, sel, rfl⟩,
          by simp [laid]⟩
      · rintro ⟨_, ⟨img, imgs, ⟨present, shaped⟩, sel, rfl⟩, rfl⟩
        obtain ⟨w, rfl⟩ := Option.isSome_iff_exists.1 present.symm
        exact ⟨w, laid imgs ++ trailing, ⟨shaped w rfl, by simp [laid]⟩, imgs, sel, rfl⟩
    · simp only [cutFields, bit, Bool.false_eq_true, if_false, ih]
      constructor
      · rintro ⟨imgs, sel, rfl⟩
        exact ⟨none :: imgs, ⟨none, imgs, ⟨by simp, fun v hv => by cases hv⟩, sel, rfl⟩, by simp [laid]⟩
      · rintro ⟨_, ⟨img, imgs, ⟨present, -⟩, sel, rfl⟩, rfl⟩
        have absent : img = none := by simpa [bit] using present.symm
        subst absent
        exact ⟨imgs, sel, by simp [laid]⟩

/-! ## The reader, field by field -/

def Reader.left (r : Reader) : Option Bytes :=
  match r.short with
  | none => some r.rest
  | some _ => none

theorem Reader.left_take (r : Reader) (n : Nat) (name : String) :
    (r.take n name).2.left = r.left.bind fun bs => ((Shape.fixed n).cut bs).map (·.2) := by
  obtain ⟨rest, _ | _⟩ := r
  · by_cases fits : n ≤ rest.length <;> simp [Reader.take, Reader.left, fits, Shape.cut, Bytes.take?]
  · rfl

theorem Reader.left_word (r : Reader) (n : Nat) (name : String) :
    (r.word n name).2.left = r.left.bind fun bs => ((Shape.fixed n).cut bs).map (·.2) :=
  r.left_take n name

theorem Reader.left_lengthPrefixed (r : Reader) (name : String) :
    (r.lengthPrefixed name).2.left = r.left.bind fun bs => (Shape.prefixed.cut bs).map (·.2) := by
  obtain ⟨rest, _ | _⟩ := r
  · by_cases four : 4 ≤ rest.length
    · by_cases room : Bytes.beValue (rest.take 4) ≤ rest.length - 4 <;>
        simp [Reader.lengthPrefixed, Reader.word, Reader.take, four, room, Reader.left, Shape.cut, Bytes.take?]
    · simp [Reader.lengthPrefixed, Reader.word, Reader.take, four, Reader.left, Shape.cut, Bytes.take?]
  · rfl

theorem Reader.left_isSome (r : Reader) : r.left.isSome = r.short.isNone := by
  obtain ⟨rest, _ | _⟩ := r <;> rfl

/-! ## The decoder as a sequence of reads -/

/-- A word of `n` bytes, a length-prefixed string, or the value, present and empty when short. -/
inductive Read where
  | word (n : Nat) (name : String)
  | prefixed (name : String)
  | value

namespace Read

def pass (r : Reader) (selected : Bool) : Read → Reader
  | word n name => (if selected then r.word n name else (0, r)).2
  | prefixed name => (if selected then r.lengthPrefixed name else (none, r)).2
  | value => (if selected then
      let (v, r) := r.lengthPrefixed "value"
      (some (v.getD []), r)
    else (none, r)).2

def shape : Read → Shape
  | word n _ => .fixed n
  | prefixed _ => .prefixed
  | value => .prefixed

theorem left_pass (r : Reader) (selected : Bool) (rd : Read) :
    (rd.pass r selected).left = if selected then r.left.bind fun bs => (rd.shape.cut bs).map (·.2) else r.left := by
  cases selected <;> cases rd <;> simp [pass, shape, Reader.left_word, Reader.left_lengthPrefixed]

end Read

def reads : List Read :=
  [.word 8 "transaction id", .word 8 "request id", .prefixed "algorithm id", .word 8 "version",
    .word 4 "algorithm type", .prefixed "client uid", .word 4 "operation id", .word 4 "option type", .value,
    .word 1 "ret code", .prefixed "error"]

def passAll (flags : Nat) (r : Reader) : Reader :=
  reads.zipIdx.foldl (fun r p => p.1.pass r (flags.testBit p.2)) r

theorem readFields_reader (flags : Nat) (m : Message) (r : Reader) : (readFields flags m r).2 = passAll flags r := by
  simp only [readFields, passAll, reads, List.zipIdx_cons, List.zipIdx_nil, List.foldl_cons, List.foldl_nil, Read.pass]

theorem left_foldl_pass (flags : Nat) (rds : List (Read × Nat)) (r : Reader) :
    (rds.foldl (fun r p => p.1.pass r (flags.testBit p.2)) r).left =
      r.left.bind (cutFields flags (rds.map fun p => (p.1.shape, p.2))) := by
  induction rds generalizing r with
  | nil => simp [cutFields]
  | cons p rds ih =>
    obtain ⟨rd, i⟩ := p
    rw [List.foldl_cons, ih, Read.left_pass]
    cases bit : flags.testBit i <;> cases r.left <;> simp [cutFields, bit, Option.bind_map]

theorem left_passAll (flags : Nat) (bs : Bytes) : (passAll flags { rest := bs }).left = cutFields flags shapes.zipIdx bs := by
  rw [passAll, left_foldl_pass]
  rfl

/-! ## Acceptance -/

theorem accepts_header {t hi lo : UInt8} {rest : Bytes} :
    Accepts (t :: hi :: lo :: rest) ↔
      (⟨t⟩ : MessageType).valid = true ∧ ∃ trailing, cutFields (flagsOf hi lo) shapes.zipIdx rest = some trailing := by
  simp only [Accepts, List.cons.injEq, cutFields_eq_some]
  constructor
  · rintro ⟨_, _, _, imgs, trailing, valid, sel, rfl, rfl, rfl, rfl⟩
    exact ⟨valid, trailing, imgs, sel, rfl⟩
  · rintro ⟨valid, trailing, imgs, sel, rfl⟩
    exact ⟨t, hi, lo, imgs, trailing, valid, sel, rfl, rfl, rfl, rfl⟩

theorem not_accepts_short {data : Bytes} (short : data.length < 3) : ¬ Accepts data := by
  rintro ⟨_, _, _, _, _, _, _, rfl⟩
  simp only [List.length_cons] at short
  omega

theorem decodeInto_eq_none_iff (data : Bytes) (into : Message) : (decodeInto data into).2 = none ↔ Accepts data := by
  match data with
  | t :: hi :: lo :: rest =>
    rw [accepts_header]
    by_cases valid : (⟨t⟩ : MessageType).valid = true
    · -- the decoder fails exactly when its reader stops short
      have stops : (decodeInto (t :: hi :: lo :: rest) into).2 = none ↔ (passAll (flagsOf hi lo) { rest }).left.isSome := by
        simp [decodeInto, valid, readFields_reader, Reader.left_isSome, flagsOf]
      rw [stops, left_passAll, Option.isSome_iff_exists]
      simp [valid]
    · simp [decodeInto, valid]
  | [] | [_] | [_, _] => exact iff_of_false (by simp [decodeInto]) (not_accepts_short (by simp))

/-! ## What the decoder writes -/

def number (img : Option Bytes) : Nat := (img.map Bytes.beValue).getD 0

def content (img : Option Bytes) : Option Bytes := img.map (·.drop 4)

def fromImages (m : Message) : List (Option Bytes) → Message
  | [tx, rq, aid, ver, aty, uid, op, opt, val, rc, er] =>
    { m with transactionId := UInt64.ofNat (number tx), requestId := UInt64.ofNat (number rq),
             algorithmId := (content aid).getD [], version := (UInt64.ofNat (number ver)).toInt64,
             algorithmType := (UInt32.ofNat (number aty)).toInt32, clientUid := (content uid).getD [],
             operationId := (UInt32.ofNat (number op)).toInt32,
             optionType := (UInt32.ofNat (number opt)).toInt32, value := content val,
             retCode := ⟨UInt8.ofNat (number rc)⟩, err := (content er).getD [] }
  | _ => m

theorem drop_lengthPrefixed (s : Bytes) : (lengthPrefixed s).drop 4 = s :=
  List.drop_left' (Bytes.length_beBytes 4 s.length)

namespace Reader

theorem word_image {n : Nat} (img : Option Bytes) (more : Bytes) (name : String) (sized : ∀ w ∈ img, w.length = n) :
    (if img.isSome = true then ({ rest := img.getD [] ++ more } : Reader).word n name
      else (0, ({ rest := img.getD [] ++ more } : Reader))) = (number img, { rest := more }) := by
  cases img with
  | none => rfl
  | some w =>
    obtain rfl := sized w rfl
    simp [Reader.word, Reader.take, number]

theorem prefixed_image (img : Option Bytes) (more : Bytes) (name : String)
    (shaped : ∀ w ∈ img, Shape.prefixed.Image w) :
    (if img.isSome = true then ({ rest := img.getD [] ++ more } : Reader).lengthPrefixed name
      else (none, ({ rest := img.getD [] ++ more } : Reader))) = (content img, { rest := more }) := by
  cases img with
  | none => rfl
  | some w =>
    obtain ⟨s, bound, rfl⟩ := shaped w rfl
    simp [lengthPrefixed_append s more name bound, content, drop_lengthPrefixed]

theorem value_image (img : Option Bytes) (more : Bytes) (shaped : ∀ w ∈ img, Shape.prefixed.Image w) :
    (if img.isSome = true then
        (some ((({ rest := img.getD [] ++ more } : Reader).lengthPrefixed "value").1.getD []),
          (({ rest := img.getD [] ++ more } : Reader).lengthPrefixed "value").2)
      else (none, ({ rest := img.getD [] ++ more } : Reader))) = (content img, { rest := more }) := by
  cases img with
  | none => rfl
  | some w =>
    obtain ⟨s, bound, rfl⟩ := shaped w rfl
    simp [lengthPrefixed_append s more "value" bound, content, drop_lengthPrefixed]

end Reader

theorem numbered : shapes.zipIdx =
    [(.fixed 8, 0), (.fixed 8, 1), (.prefixed, 2), (.fixed 8, 3), (.fixed 4, 4), (.prefixed, 5), (.fixed 4, 6),
      (.fixed 4, 7), (.prefixed, 8), (.fixed 1, 9), (.prefixed, 10)] :=
  rfl

theorem selects_eleven {flags : Nat} {imgs : List (Option Bytes)} (sel : Selects flags shapes.zipIdx imgs) :
    ∃ i0 i1 i2 i3 i4 i5 i6 i7 i8 i9 i10, imgs = [i0, i1, i2, i3, i4, i5, i6, i7, i8, i9, i10] := by
  simp only [Selects, numbered, List.forall₂_cons_left_iff, List.forall₂_nil_left_iff] at sel
  obtain ⟨i0, _, -, ⟨i1, _, -, ⟨i2, _, -, ⟨i3, _, -, ⟨i4, _, -, ⟨i5, _, -, ⟨i6, _, -, ⟨i7, _, -, ⟨i8, _, -,
    ⟨i9, _, -, ⟨i10, _, -, rfl, rfl⟩, rfl⟩, rfl⟩, rfl⟩, rfl⟩, rfl⟩, rfl⟩, rfl⟩, rfl⟩, rfl⟩, rfl⟩ := sel
  exact ⟨i0, i1, i2, i3, i4, i5, i6, i7, i8, i9, i10, rfl⟩

/-- On an accepted input each field is its image read, the reader after the last one. -/
theorem readFields_images {flags : Nat} {imgs : List (Option Bytes)} (sel : Selects flags shapes.zipIdx imgs)
    (m : Message) (trailing : Bytes) :
    readFields flags m { rest := laid imgs ++ trailing } = (fromImages m imgs, { rest := trailing }) := by
  obtain ⟨i0, i1, i2, i3, i4, i5, i6, i7, i8, i9, i10, rfl⟩ := selects_eleven sel
  simp only [Selects, numbered, List.forall₂_cons, List.Forall₂.nil, and_true] at sel
  obtain ⟨⟨b0, s0⟩, ⟨b1, s1⟩, ⟨b2, s2⟩, ⟨b3, s3⟩, ⟨b4, s4⟩, ⟨b5, s5⟩, ⟨b6, s6⟩, ⟨b7, s7⟩, ⟨b8, s8⟩, ⟨b9, s9⟩,
    ⟨b10, s10⟩⟩ := sel
  -- the flags become the images' presences, and the input the images in order
  simp only [readFields, laid, List.flatMap_cons, List.flatMap_nil, List.append_nil, List.append_assoc,
    b0, b1, b2, b3, b4, b5, b6, b7, b8, b9, b10]
  simp only [Reader.word_image _ _ _ s0, Reader.word_image _ _ _ s1, Reader.prefixed_image _ _ _ s2,
    Reader.word_image _ _ _ s3, Reader.word_image _ _ _ s4, Reader.prefixed_image _ _ _ s5,
    Reader.word_image _ _ _ s6, Reader.word_image _ _ _ s7, Reader.value_image _ _ s8,
    Reader.word_image _ _ _ s9, Reader.prefixed_image _ _ _ s10]
  rfl

theorem decodeInto_accepted {t hi lo : UInt8} {imgs : List (Option Bytes)} {trailing : Bytes}
    (valid : (⟨t⟩ : MessageType).valid = true) (sel : Selects (flagsOf hi lo) shapes.zipIdx imgs) (into : Message) :
    decodeInto (t :: hi :: lo :: (laid imgs ++ trailing)) into = (fromImages { into with kind := ⟨t⟩ } imgs, none) := by
  simp only [decodeInto, valid, if_true]
  rw [show hi.toNat * 256 + lo.toNat = flagsOf hi lo from rfl, readFields_images sel]
  rfl

theorem kind_fromImages (m : Message) (imgs : List (Option Bytes)) : (fromImages m imgs).kind = m.kind := by
  unfold fromImages
  split <;> rfl

theorem content_fits {img : Option Bytes} (shaped : ∀ w ∈ img, Shape.prefixed.Image w) :
    ((content img).getD []).length < 2 ^ 32 := by
  cases img with
  | none => simp [content]
  | some w =>
    obtain ⟨s, bound, rfl⟩ := shaped w rfl
    simpa [content, drop_lengthPrefixed] using bound

theorem fits_fromImages {flags : Nat} {imgs : List (Option Bytes)} (sel : Selects flags shapes.zipIdx imgs)
    (m : Message) : Fits (fromImages m imgs) := by
  obtain ⟨i0, i1, i2, i3, i4, i5, i6, i7, i8, i9, i10, rfl⟩ := selects_eleven sel
  simp only [Selects, numbered, List.forall₂_cons, List.Forall₂.nil, and_true] at sel
  obtain ⟨-, -, ⟨-, s2⟩, -, -, ⟨-, s5⟩, -, -, ⟨-, s8⟩, -, ⟨-, s10⟩⟩ := sel
  exact ⟨content_fits s2, content_fits s5, content_fits s8, content_fits s10⟩

theorem content_within_laid {img : Option Bytes} {imgs : List (Option Bytes)} (mem : img ∈ imgs) :
    (content img).getD [] <:+: laid imgs := by
  cases img with
  | none => exact List.nil_infix
  | some w => exact (List.drop_suffix 4 w).isInfix.trans (List.infix_of_mem_flatten (List.mem_map_of_mem mem))

theorem strings_fromImages {flags : Nat} {imgs : List (Option Bytes)} (sel : Selects flags shapes.zipIdx imgs)
    (m : Message) :
    ∀ s ∈ [(fromImages m imgs).algorithmId, (fromImages m imgs).clientUid, ((fromImages m imgs).value).getD [],
      (fromImages m imgs).err], s <:+: laid imgs := by
  obtain ⟨i0, i1, i2, i3, i4, i5, i6, i7, i8, i9, i10, rfl⟩ := selects_eleven sel
  simp only [fromImages, List.forall_mem_cons, List.not_mem_nil, IsEmpty.forall_iff, implies_true, and_true]
  exact ⟨content_within_laid (by simp), content_within_laid (by simp), content_within_laid (by simp), content_within_laid (by simp)⟩

/-! ## Which fields are written -/

theorem uint64_bne_zero (x : UInt64) : (x != 0) = true ↔ x.toNat ≠ 0 := by
  rw [bne_iff_ne, ne_eq, ne_eq, ← UInt64.toNat_inj, UInt64.toNat_zero]

theorem int64_bne_zero (x : Int64) : (x != 0) = true ↔ x.toUInt64.toNat ≠ 0 := by
  have zero : x = 0 ↔ x.toUInt64 = 0 :=
    ⟨fun h => by rw [h]; rfl, fun h => by rw [← Int64.toInt64_toUInt64 x, h]; rfl⟩
  rw [bne_iff_ne, ne_eq, ne_eq, zero, ← UInt64.toNat_inj, UInt64.toNat_zero]

theorem int32_bne_zero (x : Int32) : (x != 0) = true ↔ x.toUInt32.toNat ≠ 0 := by
  have zero : x = 0 ↔ x.toUInt32 = 0 :=
    ⟨fun h => by rw [h]; rfl, fun h => by rw [← Int32.toInt32_toUInt32 x, h]; rfl⟩
  rw [bne_iff_ne, ne_eq, ne_eq, zero, ← UInt32.toNat_inj, UInt32.toNat_zero]

theorem code_bne_ok (c : Code) : (c != Code.ok) = true ↔ c.val.toNat ≠ 0 := by
  obtain ⟨b⟩ := c
  rw [bne_iff_ne, ne_eq, ne_eq, Code.ok, Code.mk.injEq, ← UInt8.toNat_inj, UInt8.toNat_zero]

theorem beBytes_one (b : UInt8) : Bytes.beBytes 1 b.toNat = [b] := by
  simp [Bytes.beBytes]

def Field.shown (f : Field) : Option Bytes := if f.present then some f.image else none

theorem Field.present_eq_isSome (f : Field) : f.present = f.shown.isSome := by
  unfold Field.shown
  cases f.present <;> rfl

theorem laid_shown (fs : List Field) : laid (fs.map Field.shown) = fs.flatMap Field.written := by
  induction fs with
  | nil => rfl
  | cons f fs ih =>
    rw [List.map_cons, laid, List.flatMap_cons, ← laid, ih, List.flatMap_cons, Field.shown, Field.written]
    cases f.present <;> rfl

/-! ## Every encoding is canonical -/

theorem selects_shown {flags k : Nat} {shs : List Shape} {fs : List Field}
    (shaped : List.Forall₂ (fun sh f => sh.Image f.image) shs fs)
    (bits : ∀ j, flags.testBit (k + j) = (fs.map (·.present)).getD j false) :
    Selects flags (shs.zipIdx k) (fs.map Field.shown) := by
  induction shaped generalizing k with
  | nil => exact List.Forall₂.nil
  | @cons sh f shs fs image _ ih =>
    simp only [Selects, List.zipIdx_cons, List.map_cons, List.forall₂_cons]
    refine ⟨⟨?_, ?_⟩, ih fun j => ?_⟩
    · simpa [← Field.present_eq_isSome] using bits 0
    · intro w hw
      simp only [Field.shown] at hw
      split at hw
      · cases hw
        exact image
      · cases hw
    · simpa [Nat.add_assoc, Nat.add_comm 1 j] using bits (j + 1)

theorem fields_shaped {m : Message} (fits : Fits m) :
    List.Forall₂ (fun sh f => sh.Image f.image) shapes (fields m) := by
  obtain ⟨ha, hu, hv, he⟩ := fits
  simp only [shapes, fields, List.forall₂_cons, List.Forall₂.nil, and_true]
  exact ⟨Bytes.length_beBytes _ _, Bytes.length_beBytes _ _, ⟨_, ha, rfl⟩, Bytes.length_beBytes _ _,
    Bytes.length_beBytes _ _, ⟨_, hu, rfl⟩, Bytes.length_beBytes _ _, Bytes.length_beBytes _ _, ⟨_, hv, rfl⟩, rfl,
    ⟨_, he, rfl⟩⟩

theorem plain_word {p : Bool} {n x : Nat} (nonzero : p = true → x ≠ 0) (hx : x < 256 ^ n) :
    ∀ w ∈ Field.shown ⟨p, Bytes.beBytes n x⟩, ¬ (Shape.fixed n).Blank w := by
  intro w hw
  cases present : p
  · simp [Field.shown, present] at hw
  · simp only [Field.shown, present, if_true, Option.mem_def, Option.some.injEq] at hw
    subst hw
    simpa [Shape.Blank, Bytes.beValue_beBytes, Nat.mod_eq_of_lt hx] using nonzero present

theorem plain_string (s : Bytes) : ∀ w ∈ Field.shown ⟨!s.isEmpty, lengthPrefixed s⟩, ¬ Shape.prefixed.Blank w := by
  intro w hw blank
  cases s with
  | nil => simp [Field.shown] at hw
  | cons b bs =>
    simp only [Field.shown, List.isEmpty_cons, Bool.not_false, if_true, Option.mem_def, Option.some.injEq] at hw
    subst hw
    have lengths := congrArg List.length blank
    simp [lengthPrefixed] at lengths

theorem fields_plain (m : Message) :
    List.Forall₂ (fun p img => ∀ w ∈ img, p.2 = 8 ∨ ¬ p.1.Blank w) shapes.zipIdx ((fields m).map Field.shown) := by
  simp only [numbered, fields, List.map_cons, List.map_nil, List.forall₂_cons, List.Forall₂.nil, and_true]
  refine ⟨?_, ?_, ?_, ?_, ?_, ?_, ?_, ?_, fun _ _ => .inl trivial, ?_, ?_⟩ <;> refine fun w hw => .inr ?_
  · exact plain_word (uint64_bne_zero _).1 (by simpa using m.transactionId.toNat_lt) w hw
  · exact plain_word (uint64_bne_zero _).1 (by simpa using m.requestId.toNat_lt) w hw
  · exact plain_string _ w hw
  · exact plain_word (int64_bne_zero _).1 (by simpa using m.version.toUInt64.toNat_lt) w hw
  · exact plain_word (int32_bne_zero _).1 (by simpa using m.algorithmType.toUInt32.toNat_lt) w hw
  · exact plain_string _ w hw
  · exact plain_word (int32_bne_zero _).1 (by simpa using m.operationId.toUInt32.toNat_lt) w hw
  · exact plain_word (int32_bne_zero _).1 (by simpa using m.optionType.toUInt32.toNat_lt) w hw
  · rw [← beBytes_one] at hw
    exact plain_word (code_bne_ok _).1 (by simpa using m.retCode.val.toNat_lt) w hw
  · exact plain_string _ w hw

theorem encode_canonical {m : Message} {data : Bytes} (fits : Fits m) (enc : encode m = .ok data) :
    Canonical data := by
  cases valid : m.kind.valid
  · rw [encode_invalid valid] at enc
    cases enc
  · rw [encode_valid valid] at enc
    cases enc
    -- the flag word has a bit for each of the eleven fields, and the header's two bytes carry it
    have small : flagWord (fields m) < 2 ^ 11 := by
      rw [flagWord_eq_bitsValue]
      simpa [fields] using bitsValue_lt ((fields m).map (·.present))
    have header : flagsOf (UInt8.ofNat (flagWord (fields m) / 256 % 256)) (UInt8.ofNat (flagWord (fields m) % 256)) =
        flagWord (fields m) :=
      flag_bytes _ (by omega)
    refine ⟨m.kind.val, _, _, (fields m).map Field.shown, valid, header ▸ small, ?_, fields_plain m,
      by rw [laid_shown]⟩
    rw [header]
    exact selects_shown (fields_shaped fits) fun j => by rw [Nat.zero_add, flagWord_eq_bitsValue, testBit_bitsValue]

/-! ## A canonical input is the encoding of what it decodes to -/

theorem number_lt {n : Nat} {img : Option Bytes} (sized : ∀ w ∈ img, w.length = n) : number img < 256 ^ n := by
  cases img with
  | none => simp [number]
  | some w => simpa [number, sized w rfl] using Bytes.beValue_lt w

theorem shown_word {p : Bool} {n x : Nat} {img : Option Bytes} (sized : ∀ w ∈ img, w.length = n)
    (plain : ∀ w ∈ img, ¬ (Shape.fixed n).Blank w) (value : x = number img) (present : p = true ↔ x ≠ 0) :
    Field.shown ⟨p, Bytes.beBytes n x⟩ = img := by
  subst value
  cases img with
  | none =>
    have absent : p = false := by simpa [number] using present
    simp [Field.shown, absent]
  | some w =>
    have written : p = true := present.2 (plain w rfl)
    simp [Field.shown, written, number, ← sized w rfl, Bytes.beBytes_beValue]

theorem shown_uint64 {img : Option Bytes} (sized : ∀ w ∈ img, w.length = 8)
    (plain : ∀ w ∈ img, ¬ (Shape.fixed 8).Blank w) :
    Field.shown ⟨UInt64.ofNat (number img) != 0, Bytes.beBytes 8 (UInt64.ofNat (number img)).toNat⟩ = img := by
  have bound := number_lt sized
  exact shown_word sized plain (by simp; omega) (uint64_bne_zero _)

theorem shown_int64 {img : Option Bytes} (sized : ∀ w ∈ img, w.length = 8)
    (plain : ∀ w ∈ img, ¬ (Shape.fixed 8).Blank w) :
    Field.shown ⟨(UInt64.ofNat (number img)).toInt64 != 0,
      Bytes.beBytes 8 (UInt64.ofNat (number img)).toInt64.toUInt64.toNat⟩ = img := by
  have bound := number_lt sized
  exact shown_word sized plain (by simp; omega) (int64_bne_zero _)

theorem shown_int32 {img : Option Bytes} (sized : ∀ w ∈ img, w.length = 4)
    (plain : ∀ w ∈ img, ¬ (Shape.fixed 4).Blank w) :
    Field.shown ⟨(UInt32.ofNat (number img)).toInt32 != 0,
      Bytes.beBytes 4 (UInt32.ofNat (number img)).toInt32.toUInt32.toNat⟩ = img := by
  have bound := number_lt sized
  exact shown_word sized plain (by simp; omega) (int32_bne_zero _)

theorem shown_code {img : Option Bytes} (sized : ∀ w ∈ img, w.length = 1)
    (plain : ∀ w ∈ img, ¬ (Shape.fixed 1).Blank w) :
    Field.shown ⟨(⟨UInt8.ofNat (number img)⟩ : Code) != Code.ok, [UInt8.ofNat (number img)]⟩ = img := by
  have bound := number_lt sized
  rw [← beBytes_one]
  exact shown_word sized plain (by simp; omega) (code_bne_ok _)

theorem shown_string {img : Option Bytes} (shaped : ∀ w ∈ img, Shape.prefixed.Image w)
    (plain : ∀ w ∈ img, ¬ Shape.prefixed.Blank w) :
    Field.shown ⟨!((content img).getD []).isEmpty, lengthPrefixed ((content img).getD [])⟩ = img := by
  cases img with
  | none => rfl
  | some w =>
    obtain ⟨s, -, rfl⟩ := shaped _ rfl
    have filled : s ≠ [] := fun empty => plain _ rfl (by rw [empty]; rfl)
    simp [Field.shown, content, drop_lengthPrefixed, filled]

theorem shown_value {img : Option Bytes} (shaped : ∀ w ∈ img, Shape.prefixed.Image w) :
    Field.shown ⟨(content img).isSome, lengthPrefixed ((content img).getD [])⟩ = img := by
  cases img with
  | none => rfl
  | some w =>
    obtain ⟨s, -, rfl⟩ := shaped _ rfl
    simp [Field.shown, content, drop_lengthPrefixed]

theorem shown_fromImages {flags : Nat} {imgs : List (Option Bytes)} (sel : Selects flags shapes.zipIdx imgs)
    (plain : List.Forall₂ (fun p img => ∀ w ∈ img, p.2 = 8 ∨ ¬ p.1.Blank w) shapes.zipIdx imgs) (m : Message) :
    (fields (fromImages m imgs)).map Field.shown = imgs := by
  obtain ⟨i0, i1, i2, i3, i4, i5, i6, i7, i8, i9, i10, rfl⟩ := selects_eleven sel
  simp only [Selects, numbered, List.forall₂_cons, List.Forall₂.nil, and_true] at sel plain
  obtain ⟨⟨-, s0⟩, ⟨-, s1⟩, ⟨-, s2⟩, ⟨-, s3⟩, ⟨-, s4⟩, ⟨-, s5⟩, ⟨-, s6⟩, ⟨-, s7⟩, ⟨-, s8⟩, ⟨-, s9⟩,
    ⟨-, s10⟩⟩ := sel
  simp only [Nat.reduceEqDiff, false_or, true_or, implies_true, true_and] at plain
  obtain ⟨p0, p1, p2, p3, p4, p5, p6, p7, p9, p10⟩ := plain
  simp only [fromImages, fields, List.map_cons, List.map_nil, shown_uint64 s0 p0, shown_uint64 s1 p1,
    shown_string s2 p2, shown_int64 s3 p3, shown_int32 s4 p4, shown_string s5 p5, shown_int32 s6 p6,
    shown_int32 s7 p7, shown_value s8, shown_code s9 p9, shown_string s10 p10]

theorem Selects.testBit_eq {flags k : Nat} {shs : List Shape} {imgs : List (Option Bytes)}
    (sel : Selects flags (shs.zipIdx k) imgs) (j : Nat) (hj : j < imgs.length) :
    flags.testBit (k + j) = (imgs.map Option.isSome).getD j false := by
  induction shs generalizing k imgs j with
  | nil =>
    simp only [Selects, List.zipIdx_nil, List.forall₂_nil_left_iff] at sel
    simp [sel] at hj
  | cons sh shs ih =>
    simp only [Selects, List.zipIdx_cons, List.forall₂_cons_left_iff] at sel
    obtain ⟨img, imgs, ⟨present, -⟩, sel, rfl⟩ := sel
    cases j with
    | zero => simpa using present
    | succ j =>
      have := ih sel j (by simpa using hj)
      simpa [Nat.add_assoc, Nat.add_comm 1 j] using this

theorem bitsValue_selected {flags : Nat} {imgs : List (Option Bytes)} (sel : Selects flags shapes.zipIdx imgs)
    (small : flags < 2 ^ 11) : bitsValue (imgs.map Option.isSome) = flags := by
  have eleven : imgs.length = 11 := (List.Forall₂.length_eq sel).symm.trans rfl
  apply Nat.eq_of_testBit_eq
  intro i
  rw [testBit_bitsValue]
  by_cases field : i < 11
  · simpa using (sel.testBit_eq i (by omega)).symm
  · -- past the eleventh bit both are clear
    have high : flags.testBit i = false :=
      Nat.testBit_lt_two_pow (lt_of_lt_of_le small (Nat.pow_le_pow_right (by omega) (by omega)))
    rw [high, List.getD_eq_getElem?_getD, List.getElem?_eq_none (by simp [eleven]; omega)]
    rfl

theorem header_bytes (hi lo : UInt8) :
    UInt8.ofNat (flagsOf hi lo / 256 % 256) = hi ∧ UInt8.ofNat (flagsOf hi lo % 256) = lo := by
  have high := hi.toNat_lt
  have low := lo.toNat_lt
  constructor <;> rw [← UInt8.toNat_inj, UInt8.toNat_ofNat', flagsOf] <;> omega

theorem encode_fromImages {t hi lo : UInt8} {imgs : List (Option Bytes)} (valid : (⟨t⟩ : MessageType).valid = true)
    (small : flagsOf hi lo < 2 ^ 11) (sel : Selects (flagsOf hi lo) shapes.zipIdx imgs)
    (plain : List.Forall₂ (fun p img => ∀ w ∈ img, p.2 = 8 ∨ ¬ p.1.Blank w) shapes.zipIdx imgs) (into : Message) :
    encode (fromImages { into with kind := ⟨t⟩ } imgs) = .ok (t :: hi :: lo :: laid imgs) := by
  have shown := shown_fromImages sel plain { into with kind := ⟨t⟩ }
  have kind : (fromImages { into with kind := ⟨t⟩ } imgs).kind = ⟨t⟩ := kind_fromImages _ _
  generalize fromImages { into with kind := ⟨t⟩ } imgs = d at shown kind ⊢
  -- the flags written are the presences of the images, which are the flags read
  have flags : flagWord (fields d) = flagsOf hi lo := by
    rw [flagWord_eq_bitsValue, ← bitsValue_selected sel small, ← shown, List.map_map]
    exact congrArg bitsValue (List.map_congr_left fun f _ => Field.present_eq_isSome f)
  have written : d.kind.valid = true := by rw [kind]; exact valid
  rw [encode_valid written, kind, flags, (header_bytes hi lo).1, (header_bytes hi lo).2, ← laid_shown, shown]

/-- The decoder accepts exactly its grammar, every string it writes is a slice of the input,
and writing back gives the input exactly when it is canonical. -/
theorem decodeInto_grammar (data : Bytes) (into : Message) :
    ((decodeInto data into).2 = none ↔ Accepts data) ∧
    ((decodeInto data into).2 = none →
      (∀ s ∈ [(decodeInto data into).1.algorithmId, (decodeInto data into).1.clientUid,
        ((decodeInto data into).1.value).getD [], (decodeInto data into).1.err], s <:+: data) ∧
      (encode (decodeInto data into).1 = .ok data ↔ Canonical data)) := by
  refine ⟨decodeInto_eq_none_iff data into, fun accepted => ?_⟩
  obtain ⟨t, hi, lo, imgs, trailing, valid, sel, rfl⟩ := (decodeInto_eq_none_iff _ into).1 accepted
  rw [decodeInto_accepted valid sel]
  refine ⟨fun s mem => ?_, fun enc => encode_canonical (fits_fromImages sel _) enc, fun canonical => ?_⟩
  · -- the images lie in the input after its header
    have laidIn : laid imgs <:+: t :: hi :: lo :: (laid imgs ++ trailing) :=
      ((List.prefix_append _ _).isInfix.trans (List.suffix_cons _ _).isInfix).trans
        ((List.suffix_cons _ _).isInfix.trans (List.suffix_cons _ _).isInfix)
    exact (strings_fromImages sel _ s mem).trans laidIn
  · -- a canonical input decodes along its own images, with nothing after them
    obtain ⟨t', hi', lo', imgs', valid', small, sel', plain, same⟩ := canonical
    have decoded : decodeInto (t' :: hi' :: lo' :: (laid imgs' ++ [])) into = _ := decodeInto_accepted valid' sel' into
    rw [List.append_nil, ← same, decodeInto_accepted valid sel] at decoded
    rw [(Prod.mk.inj decoded).1, encode_fromImages valid' small sel' plain, same]

end Binary

end InferenceBroker
