import Mathlib.Data.String.Basic
import InferenceBroker.Core.Key

/-!
# The order of engine keys

Keys compare by their algorithm ids, then by their versions as signed 64-bit integers. Texts
compare character by character, and UTF-8 is built so that this is the same as comparing
their bytes: a character's encoding is at most four bytes, its first byte tells how many,
and a larger character has a larger first byte or shares it and is larger in the bytes
after. So the key order is the lexicographic order on (id bytes, signed version)
(`EngineKey.compare_eq_lex`).

The order is a total order: `EngineKey.compare` is transitive and oriented, and tells keys
apart (the `Std.TransCmp` and `Std.LawfulEqCmp` instances). Its signed form `compareSign`
is `-1`, `0` or `1`, flips sign when the keys are swapped, is `0` only for equal keys, and
`lt` is its negative half.
-/

namespace InferenceBroker

namespace Utf8

theorem compare_byte (a b : UInt8) : compare a b = compare a.toNat b.toNat := by
  simp only [compare, compareOfLessAndEq, UInt8.lt_iff_toNat_lt, ← UInt8.toNat_inj]

theorem then_eq_lt (a b : Nat) (r : Ordering) : (compare a b).then r = .lt ↔ a < b ∨ a = b ∧ r = .lt := by
  rcases Nat.lt_trichotomy a b with h | rfl | h
  · simp [Nat.compare_eq_lt.2 h, h]
  · simp
  · simp [Nat.compare_eq_gt.2 h, Nat.not_lt.2 h.le, Nat.ne_of_gt h]

theorem byte_toNat {n : Nat} (h : n < 256) : (UInt8.ofNat n).toNat = n := UInt8.toNat_ofNat_of_lt' h

/-- The encoding of a smaller character sorts first, whatever follows either. -/
theorem compare_encode_of_lt {c d : Char} (h : c < d) (x y : List UInt8) :
    compare (String.utf8EncodeChar c ++ x) (String.utf8EncodeChar d ++ y) = .lt := by
  have hc := c.valid
  have hd := d.valid
  rw [Char.lt_def] at h
  simp only [UInt32.isValidChar, Nat.isValidChar, UInt32.lt_iff_toNat_lt] at h hc hd
  simp only [String.utf8EncodeChar]
  generalize compare x y = rest
  -- the base-64 digits of each character, for the bytes after the first
  have c1 : c.val.toNat / 64 = c.val.toNat / 4096 * 64 + c.val.toNat / 64 % 64 := by omega
  have c2 : c.val.toNat / 4096 = c.val.toNat / 262144 * 64 + c.val.toNat / 4096 % 64 := by omega
  have d1 : d.val.toNat / 64 = d.val.toNat / 4096 * 64 + d.val.toNat / 64 % 64 := by omega
  have d2 : d.val.toNat / 4096 = d.val.toNat / 262144 * 64 + d.val.toNat / 4096 % 64 := by omega
  -- one case per pair of encoding lengths; every byte is below 256, so each compares as its value
  split_ifs <;>
    simp (disch := omega) only [List.cons_append, List.nil_append, List.compare_cons_cons, compare_byte,
      byte_toNat, Nat.mod_eq_of_lt, then_eq_lt] <;>
    omega

theorem compare_append_same (p x y : List UInt8) : compare (p ++ x) (p ++ y) = compare x y := by
  induction p with
  | nil => rfl
  | cons b p ih => simp [ih]

/-- Encodings followed by anything compare as their characters, then as what follows. -/
theorem compare_encode (c d : Char) (x y : List UInt8) :
    compare (String.utf8EncodeChar c ++ x) (String.utf8EncodeChar d ++ y) = (compare c d).then (compare x y) := by
  rcases lt_trichotomy c d with lt | rfl | gt
  · rw [compare_encode_of_lt lt, show compare c d = .lt from compareOfLessAndEq_eq_lt.2 lt]
    rfl
  · rw [compare_append_same, Std.ReflOrd.compare_self]
    rfl
  · rw [Std.OrientedOrd.eq_swap, compare_encode_of_lt gt, Std.OrientedOrd.eq_swap (a := c),
      show compare d c = .lt from compareOfLessAndEq_eq_lt.2 gt]
    rfl

theorem compareOfLessAndEq_cons (c d : Char) (cs ds : List Char) :
    compareOfLessAndEq (c :: cs) (d :: ds) = (compare c d).then (compareOfLessAndEq cs ds) := by
  rcases lt_trichotomy c d with lt | rfl | gt
  · rw [compareOfLessAndEq_eq_lt.2 (List.cons_lt_cons_iff.2 (.inl lt)),
      show compare c d = .lt from compareOfLessAndEq_eq_lt.2 lt]
    rfl
  · simp [compareOfLessAndEq, Std.ReflOrd.compare_self]
  · have after : compare c d = .gt := by
      rw [Std.OrientedOrd.eq_swap, show compare d c = .lt from compareOfLessAndEq_eq_lt.2 gt]
      rfl
    simp [compareOfLessAndEq, List.cons_lt_cons_iff, not_lt_of_gt gt, ne_of_gt gt, after]

/-- Lists of characters compare as their encodings. -/
theorem compareOfLessAndEq_encode (xs ys : List Char) :
    compareOfLessAndEq xs ys = compare (xs.flatMap String.utf8EncodeChar) (ys.flatMap String.utf8EncodeChar) := by
  induction xs generalizing ys with
  | nil =>
    cases ys with
    | nil => rfl
    | cons d ds =>
      obtain ⟨b, bs, hb⟩ := List.exists_cons_of_ne_nil (String.utf8EncodeChar_ne_nil (c := d))
      simp [compareOfLessAndEq, hb]
  | cons c cs ih =>
    cases ys with
    | nil =>
      obtain ⟨b, bs, hb⟩ := List.exists_cons_of_ne_nil (String.utf8EncodeChar_ne_nil (c := c))
      simp [compareOfLessAndEq, hb]
    | cons d ds => rw [compareOfLessAndEq_cons, ih, List.flatMap_cons, List.flatMap_cons, compare_encode]

theorem toUTF8_toList (s : String) : s.toUTF8.data.toList = s.toList.flatMap String.utf8EncodeChar := by
  rw [String.toUTF8_eq_toByteArray, ← String.utf8Encode_toList, List.utf8Encode, List.toList_data_toByteArray]

/-- Texts compare as their UTF-8 bytes. -/
theorem compare_string (s t : String) : compare s t = compare s.toUTF8.data.toList t.toUTF8.data.toList := by
  rw [toUTF8_toList, toUTF8_toList, ← compareOfLessAndEq_encode]
  show compareOfLessAndEq s t = _
  simp only [compareOfLessAndEq, String.lt_iff, ← String.toList_inj]

end Utf8

namespace EngineKey

theorem compare_version (a b : Int64) : Ord.compare a.toInt b.toInt = Ord.compare a b := by
  simp only [Ord.compare, compareOfLessAndEq, Int64.lt_iff_toInt_lt, Int64.toInt_inj]

/-- The order of keys: ids first, then versions as signed integers. -/
theorem compare_eq_then (a b : EngineKey) :
    a.compare b = (Ord.compare a.algorithm b.algorithm).then (Ord.compare a.version b.version) := by
  rw [← compare_version, compare]
  cases Ord.compare a.algorithm b.algorithm <;> rfl

/-- Ids compare by their UTF-8 bytes. -/
theorem compare_eq_lex (a b : EngineKey) :
    a.compare b = (Ord.compare a.algorithm.toUTF8.data.toList b.algorithm.toUTF8.data.toList).then
      (Ord.compare a.version b.version) := by
  rw [compare_eq_then, Utf8.compare_string]

theorem compare_eq_compareLex :
    EngineKey.compare = compareLex (compareOn (·.algorithm)) (compareOn (·.version)) := by
  funext a b
  exact compare_eq_then a b

instance : Std.TransCmp EngineKey.compare := by
  rw [compare_eq_compareLex]
  infer_instance

instance : Std.LawfulEqCmp EngineKey.compare where
  eq_of_compare {a b} same := by
    rw [compare_eq_then, Ordering.then_eq_eq, Std.LawfulEqOrd.compare_eq_iff_eq,
      Std.LawfulEqOrd.compare_eq_iff_eq] at same
    obtain ⟨algorithm, version⟩ := same
    cases a
    cases b
    simp only at algorithm version
    rw [algorithm, version]

section Sign

variable (a b c : EngineKey)

theorem compareSign_neg_iff : a.compareSign b < 0 ↔ a.compare b = .lt := by
  unfold compareSign
  cases a.compare b <;> decide

theorem compareSign_cases : a.compareSign b = -1 ∨ a.compareSign b = 0 ∨ a.compareSign b = 1 := by
  unfold compareSign
  cases a.compare b <;> simp

theorem compareSign_swap : a.compareSign b = -b.compareSign a := by
  unfold compareSign
  rw [(Std.OrientedCmp.eq_swap : a.compare b = (b.compare a).swap)]
  cases b.compare a <;> rfl

theorem compareSign_eq_zero_iff : a.compareSign b = 0 ↔ a = b := by
  rw [← (Std.LawfulEqCmp.compare_eq_iff_eq : a.compare b = .eq ↔ a = b)]
  unfold compareSign
  cases a.compare b <;> decide

variable {a b c} in
theorem compareSign_trans (hab : a.compareSign b < 0) (hbc : b.compareSign c < 0) : a.compareSign c < 0 := by
  rw [compareSign_neg_iff] at hab hbc ⊢
  exact Std.TransCmp.lt_trans hab hbc

theorem lt_iff_compareSign : a.lt b = true ↔ a.compareSign b < 0 := by
  rw [compareSign_neg_iff, lt, beq_iff_eq]

end Sign

end EngineKey

end InferenceBroker
