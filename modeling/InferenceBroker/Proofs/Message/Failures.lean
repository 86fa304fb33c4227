import InferenceBroker.Proofs.Message.RoundTrip
import Mathlib.Data.List.Infix

/-!
# Failures across the wire

A broker sends a failure as a code and a text, and the receiving side rebuilds one status from
the two. For a failure made from statuses of one code by leads (`lead: cause`) and pairs
(`first: second`) alone, whose status messages hold no `": "`, nothing that matching needs is
lost: its text splits at `": "` into the texts of its leads and statuses (`segments_sep`), so
every status message is one of the text's segments (`mem_segments_message`), and the rebuilt
status, with the failure's code and text, matches every target the failure matched
(`isOf_rebuilt`). Both a request's answer and the asynchronous reply of a failed response
cross the binary encoding whole (`Failure.wire_identity`).

Texts travel as their UTF-8 bytes and read back unchanged (`Bytes.text_ofString`).
-/

namespace InferenceBroker

namespace Bytes

theorem toList_loop (bs : ByteArray) (i : Nat) (r : List UInt8) :
    ByteArray.toList.loop bs i r = r.reverse ++ bs.data.toList.drop i := by
  fun_induction ByteArray.toList.loop bs i r with
  | case1 i r lt ih =>
    rw [ih, List.drop_eq_getElem_cons (i := i) (by simpa using lt)]
    simp [ByteArray.get!, lt]
  | case2 i r ge =>
    have : bs.data.toList.drop i = [] := List.drop_eq_nil_of_le (by simpa using ge)
    simp [this]

theorem toList_data (bs : ByteArray) : bs.toList = bs.data.toList := by
  simp [ByteArray.toList, toList_loop]

theorem utf8?_ofString (s : String) : utf8? (ofString s) = some s := by
  simp only [utf8?, ofString, toList_data, Array.toArray_toList]
  unfold String.fromUTF8?
  rw [String.toUTF8_eq_toByteArray, dif_pos s.isValidUTF8]
  rfl

@[simp] theorem text_ofString (s : String) : (ofString s).text = s := by
  simp [Bytes.text, utf8?_ofString]

@[simp] theorem length_ofString (s : String) : (ofString s).length = s.utf8ByteSize := by
  simp [ofString, toList_data]

end Bytes

namespace Failure

/-! ## Segments of joined texts -/

/-- Where no `": "` stands, the scan splits nothing off. -/
theorem segmentsAux_plain (cs acc : List Char) (plain : ¬ [':', ' '] <:+: cs) :
    segmentsAux cs acc = [String.ofList (acc.reverse ++ cs)] := by
  induction cs generalizing acc with
  | nil => simp [segmentsAux]
  | cons c rest ih =>
    have notSep : ∀ rest', c = ':' → rest = ' ' :: rest' → False := by
      rintro rest' rfl rfl
      exact plain ⟨[], rest', rfl⟩
    rw [segmentsAux.eq_3 _ _ _ notSep, ih _ (fun h => plain (List.infix_cons h))]
    simp

/-- Text joined at `": "` splits into the segments of its two sides, whatever they end or start
with: a `:` that ends the left side is followed by another `:`, so it starts no separator. -/
theorem segmentsAux_sep (xs ys acc : List Char) :
    segmentsAux (xs ++ ':' :: ' ' :: ys) acc = segmentsAux xs acc ++ segmentsAux ys [] := by
  induction xs, acc using segmentsAux.induct with
  | case1 acc => simp [segmentsAux]
  | case2 rest acc ih => simp [segmentsAux, ih]
  | case3 c rest acc notSep ih =>
    have notSep' : ∀ rest', c = ':' → rest ++ ':' :: ' ' :: ys = ' ' :: rest' → False := by
      rintro rest' colon joined
      cases rest with
      | nil => simp at joined
      | cons d ds =>
        obtain ⟨rfl, -⟩ := List.cons_eq_cons.1 joined
        exact notSep ds colon rfl
    rw [List.cons_append, segmentsAux.eq_3 _ _ _ notSep', ih, segmentsAux.eq_3 _ _ _ notSep]

theorem segments_sep (a b : String) : segments (a ++ ": " ++ b) = segments a ++ segments b := by
  simp only [segments, String.toList_append]
  rw [List.append_assoc]
  exact segmentsAux_sep _ _ _

theorem segments_plain (m : String) (plain : ¬ [':', ' '] <:+: m.toList) : segments m = [m] := by
  simp [segments, segmentsAux_plain _ _ plain]

/-! ## Failures wrapped from statuses -/

/-- Made from statuses by leads and pairs alone: the failures that `: `-joined wraps of coded
failures build. -/
def wrapped : Failure → Bool
  | status _ _ => true
  | note _ => false
  | within _ c => c.wrapped
  | pair a b => a.wrapped && b.wrapped
  | several _ => false

/-- Every status message of a wrapped failure whose status messages hold no `": "` is a
segment of its text. -/
theorem mem_segments_message :
    ∀ {f : Failure}, f.wrapped = true → (∀ p ∈ f.statuses, ¬ [':', ' '] <:+: p.2.toList) →
      ∀ p ∈ f.statuses, p.2 ∈ segments f.message
  | status c m, _, plain, p, hp => by
    obtain rfl : p = (c, m) := by simpa [statuses] using hp
    simp [message, segments_plain m (plain (c, m) (by simp [statuses]))]
  | within l c, w, plain, p, hp => by
    simp only [statuses] at plain hp
    rw [message, segments_sep]
    exact List.mem_append_right _ (mem_segments_message (f := c) w plain p hp)
  | pair a b, w, plain, p, hp => by
    simp only [wrapped, Bool.and_eq_true] at w
    simp only [statuses, List.mem_append] at plain hp
    rw [message, segments_sep]
    rcases hp with ha | hb
    · exact List.mem_append_left _ (mem_segments_message w.1 (fun q hq => plain q (.inl hq)) p ha)
    · exact List.mem_append_right _ (mem_segments_message w.2 (fun q hq => plain q (.inr hq)) p hb)

theorem statuses_ne_nil : ∀ {f : Failure}, f.wrapped = true → f.statuses ≠ []
  | status _ _, _ => by simp [statuses]
  | within _ c, w => by simpa [statuses] using statuses_ne_nil (f := c) w
  | pair a b, w => by
    simp only [wrapped, Bool.and_eq_true] at w
    simp [statuses, statuses_ne_nil w.1]

/-- A wrapped failure whose statuses share one code reports that code. -/
theorem code_of_statuses {f : Failure} {c : Code} (w : f.wrapped = true)
    (coded : ∀ p ∈ f.statuses, p.1 = c) : f.code = c := by
  obtain ⟨p, rest, split⟩ := List.exists_cons_of_ne_nil (statuses_ne_nil w)
  have first : p.1 = c := coded p (by simp [split])
  simp [code, firstStatus?, split, first]

/-- The status rebuilt from the code and the text of a wrapped failure, whose statuses share
that code and hold no `": "` in their messages, matches every target the failure matched. -/
theorem isOf_rebuilt {f : Failure} {c : Code} (w : f.wrapped = true) (coded : ∀ p ∈ f.statuses, p.1 = c)
    (plain : ∀ p ∈ f.statuses, ¬ [':', ' '] <:+: p.2.toList) (target : Failure) (matched : f.isOf target = true) :
    (status c f.message).isOf target = true := by
  obtain ⟨⟨pc, pm⟩, hp, hm⟩ := List.any_eq_true.1 matched
  simp only [statusMatches] at hm
  cases first : target.firstStatus? with
  | none => simp [first] at hm
  | some t =>
    obtain ⟨tc, tm⟩ := t
    -- the matching status's message has no separator, so the target's message is that message
    have one : segments pm = [pm] := segments_plain pm (plain _ hp)
    simp only [first, one, Bool.and_eq_true, beq_iff_eq, Bool.or_eq_true, List.contains_cons,
      List.contains_nil, Bool.or_false] at hm
    obtain ⟨rfl, same⟩ := hm
    have tm_eq : tm = pm := by rcases same with h | h <;> simp_all
    have seg : tm ∈ segments f.message := tm_eq ▸ mem_segments_message w plain _ hp
    have pc_eq : pc = c := coded _ hp
    simp [isOf, statuses, statusMatches, first, pc_eq, seg]

end Failure

/-! ## Across the wire -/

theorem Message.failure?_withOutcome {m : Message} {f : Failure} (notOk : f.code ≠ Code.ok) :
    (m.withOutcome (some f)).failure? = some (.status f.code f.message) := by
  simp [Message.withOutcome, Message.failure?, notOk]

theorem Response.failure?_failure {req : Request} {f : Failure} (notOk : f.code ≠ Code.ok) :
    (Response.failure req (some f)).failure? = some (.status f.code f.message) := by
  simp [Response.failure, Response.failure?, Failure.codeOf, notOk]

/-- A failure of statuses of one code other than `ok`, wrapped by leads and pairs, whose status
messages hold no `": "` and whose text fits a four-byte length: the status a receiver rebuilds
from its code and text has the failure's code and text and matches every target the failure
matched; and it is what the receiver rebuilds, both from a request's answer (any message of a
valid type whose byte strings fit, carrying the failure) and from the asynchronous reply of a
response that failed with it, each read back whole from its binary image into any message. -/
theorem Failure.wire_identity {e : Failure} {c : Code} (w : e.wrapped = true)
    (coded : ∀ p ∈ e.statuses, p.1 = c) (notOk : c ≠ Code.ok)
    (plain : ∀ p ∈ e.statuses, ¬ [':', ' '] <:+: p.2.toList) (short : e.message.utf8ByteSize < 2 ^ 32) :
    e.code = c ∧ (∀ s, e.isOf s = true → (Failure.status c e.message).isOf s = true) ∧
      (∀ (m into : Message), m.kind.valid = true → Binary.Fits m →
        ∃ bs, Binary.encode (m.withOutcome (some e)) = .ok bs ∧
          Binary.decodeInto bs into = (m.withOutcome (some e), none) ∧
          (m.withOutcome (some e)).failure? = some (.status c e.message)) ∧
      (∀ (req : Request) (into : Message),
        ∃ bs, Binary.encode (Message.asyncReply (Response.failure req (some e))) = .ok bs ∧
          Binary.decodeInto bs into = (Message.asyncReply (Response.failure req (some e)), none) ∧
          (Message.asyncReply (Response.failure req (some e))).response.failure? = some (.status c e.message)) := by
  have code : e.code = c := Failure.code_of_statuses w coded
  refine ⟨code, Failure.isOf_rebuilt w coded plain, fun m into valid fits => ?_, fun req into => ?_⟩
  · -- the answer keeps the message's fields and sets the code and the text
    obtain ⟨ha, hu, hv, -⟩ := fits
    have fits' : Binary.Fits (m.withOutcome (some e)) := ⟨ha, hu, hv, by simpa [Message.withOutcome] using short⟩
    obtain ⟨bs, enc, dec⟩ := Binary.decodeInto_encode_of_fits (m := m.withOutcome (some e)) valid fits'
    exact ⟨bs, enc, dec into, code ▸ Message.failure?_withOutcome (code ▸ notOk)⟩
  · -- the reply carries the response's fields, and the text as the error
    have fits' : Binary.Fits (Message.asyncReply (Response.failure req (some e))) := by
      simpa [Binary.Fits, Message.asyncReply, Response.failure] using short
    obtain ⟨bs, enc, dec⟩ := Binary.decodeInto_encode_of_fits rfl fits'
    refine ⟨bs, enc, dec into, ?_⟩
    have back : (Message.asyncReply (Response.failure req (some e))).response = Response.failure req (some e) := rfl
    rw [back, ← code]
    exact Response.failure?_failure (code ▸ notOk)

/-- The failure of a request for transaction 9 that has no engine, as the dispatcher reports it:
`engine not found: transaction 9: no such engine`. -/
def unboundNine : Failure := .pair Failure.engineNotFound (.within "transaction 9" Failure.noSuchEngine)

theorem unboundNine_wire_identity :
    unboundNine.wrapped = true ∧ (∀ p ∈ unboundNine.statuses, p.1 = Code.notFound) ∧ Code.notFound ≠ Code.ok ∧
      (∀ p ∈ unboundNine.statuses, ¬ [':', ' '] <:+: p.2.toList) ∧ unboundNine.message.utf8ByteSize < 2 ^ 32 ∧
      (unboundNine.code = Code.notFound ∧
        (∀ s, unboundNine.isOf s = true → (Failure.status Code.notFound unboundNine.message).isOf s = true) ∧
        (∀ (m into : Message), m.kind.valid = true → Binary.Fits m →
          ∃ bs, Binary.encode (m.withOutcome (some unboundNine)) = .ok bs ∧
            Binary.decodeInto bs into = (m.withOutcome (some unboundNine), none) ∧
            (m.withOutcome (some unboundNine)).failure? = some (.status Code.notFound unboundNine.message)) ∧
        (∀ (req : Request) (into : Message),
          ∃ bs, Binary.encode (Message.asyncReply (Response.failure req (some unboundNine))) = .ok bs ∧
            Binary.decodeInto bs into = (Message.asyncReply (Response.failure req (some unboundNine)), none) ∧
            (Message.asyncReply (Response.failure req (some unboundNine))).response.failure? =
              some (.status Code.notFound unboundNine.message))) := by
  have w : unboundNine.wrapped = true := rfl
  have coded : ∀ p ∈ unboundNine.statuses, p.1 = Code.notFound := by
    simp [unboundNine, Failure.statuses, Failure.engineNotFound, Failure.noSuchEngine]
  have notOk : Code.notFound ≠ Code.ok := by decide
  have plain : ∀ p ∈ unboundNine.statuses, ¬ [':', ' '] <:+: p.2.toList := by
    simp [unboundNine, Failure.statuses, Failure.engineNotFound, Failure.noSuchEngine]
    decide
  have short : unboundNine.message.utf8ByteSize < 2 ^ 32 := by
    simp [unboundNine, Failure.message, Failure.engineNotFound, Failure.noSuchEngine]
    decide
  exact ⟨w, coded, notOk, plain, short, Failure.wire_identity w coded notOk plain short⟩

end InferenceBroker
