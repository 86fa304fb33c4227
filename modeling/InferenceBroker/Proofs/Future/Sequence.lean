import Mathlib.Data.List.Nodup
import Mathlib.Logic.Function.Iterate
import InferenceBroker.Future.Table

/-!
# Sequence numbers of the future table

A new future gets the first free sequence number from the cursor on, counting up and
wrapping after `maxSeq`. While fewer futures are pending than there are sequence numbers,
the number it gets is free (`create_fresh`): from a cursor between 1 and `maxSeq` the
numbers visited are distinct (`advance_iterate`), and more of them are visited than
futures are pending.

The table's operations on what it has pending and on its counts: a create adds one future
under a free number, a release of that number takes it back, a response removes the
future it names and counts it as completed, and closing drops every future.
-/

namespace InferenceBroker

namespace FutureTable

variable {L : Type} {t : FutureTable L}

/-- The cursor moved `k` times from a number between 1 and `maxSeq` counts up modulo
`maxSeq`. -/
theorem advance_iterate {x : Nat} (lo : 1 ≤ x) (hi : x ≤ t.maxSeq) (k : Nat) :
    t.advance^[k] x = (x - 1 + k) % t.maxSeq + 1 := by
  induction k with
  | zero =>
    rw [Function.iterate_zero_apply, Nat.add_zero, Nat.mod_eq_of_lt (by omega)]
    omega
  | succ k ih =>
    rw [Function.iterate_succ_apply', ih]
    have pos : 0 < t.maxSeq := by omega
    have parts := Nat.mod_add_div (x - 1 + k) t.maxSeq
    have below := Nat.mod_lt (x - 1 + k) pos
    unfold advance
    split
    next wrap =>
      -- the cursor wraps: one more step reaches a multiple of `maxSeq`
      have multiple : x - 1 + (k + 1) = t.maxSeq * ((x - 1 + k) / t.maxSeq + 1) := by
        rw [Nat.mul_add_one]
        omega
      rw [multiple, Nat.mul_mod_right]
    next stay =>
      have step : x - 1 + (k + 1) = ((x - 1 + k) % t.maxSeq + 1) + t.maxSeq * ((x - 1 + k) / t.maxSeq) := by
        omega
      rw [step, Nat.add_mul_mod_self_left, Nat.mod_eq_of_lt (a := (x - 1 + k) % t.maxSeq + 1) (by omega)]

/-- Fewer than `maxSeq` moves of the cursor visit distinct numbers. -/
theorem advance_iterate_injective {x i j : Nat} (lo : 1 ≤ x) (hi : x ≤ t.maxSeq) (hj : j < t.maxSeq)
    (lt : i < j) : t.advance^[i] x ≠ t.advance^[j] x := by
  rw [advance_iterate lo hi, advance_iterate lo hi]
  intro same
  have congruent : (x - 1 + j) % t.maxSeq = (x - 1 + i) % t.maxSeq := by omega
  have divides := Nat.dvd_of_mod_eq_zero (Nat.sub_mod_eq_zero_of_mod_eq congruent)
  rw [show x - 1 + j - (x - 1 + i) = j - i by omega] at divides
  exact absurd (Nat.le_of_dvd (by omega) divides) (by omega)

/-- The cursor stays between 1 and `maxSeq`. -/
theorem advance_bounds (seq : Nat) (pos : 1 ≤ t.maxSeq) : 1 ≤ t.advance seq ∧ t.advance seq ≤ t.maxSeq := by
  unfold advance
  split <;> omega

/-- The number `freeFrom` settles on is one the cursor reaches within its fuel. -/
theorem freeFrom_iterate (fuel x : Nat) : ∃ k ≤ fuel, t.freeFrom fuel x = t.advance^[k] x := by
  induction fuel generalizing x with
  | zero => exact ⟨0, Nat.le_refl 0, rfl⟩
  | succ fuel ih =>
    unfold freeFrom
    split
    · obtain ⟨k, hk, same⟩ := ih (t.advance x)
      exact ⟨k + 1, by omega, by rw [same, Function.iterate_succ_apply]⟩
    · exact ⟨0, by omega, rfl⟩

/-- A number `freeFrom` settles on is free unless every number it visited was taken. -/
theorem used_freeFrom (fuel x : Nat) (h : t.used (t.freeFrom fuel x) = true) :
    ∀ k ≤ fuel, t.used (t.advance^[k] x) = true := by
  induction fuel generalizing x with
  | zero =>
    intro k hk
    rw [Nat.le_zero.1 hk]
    exact h
  | succ fuel ih =>
    unfold freeFrom at h
    split at h
    next first =>
      intro k hk
      cases k with
      | zero => exact first
      | succ k =>
        rw [Function.iterate_succ_apply]
        exact ih (t.advance x) h k (by omega)
    next first => exact absurd h (by simpa using first)

/-- The cursor of a table made by `make`, or moved by `create`, lies between 1 and
`maxSeq`; the table never holds more futures than there are numbers. -/
structure Sized (t : FutureTable L) : Prop where
  capacity : t.capacity ≤ t.maxSeq
  cursor : 1 ≤ t.nextSeq ∧ t.nextSeq ≤ t.maxSeq

/-- A table with room for one more future hands out a number no pending future has. -/
theorem freeFrom_fresh (sized : t.Sized) (room : t.pending.length < t.capacity) :
    t.used (t.freeFrom (t.pending.length + 1) t.nextSeq) = false := by
  by_contra taken
  have all := used_freeFrom _ _ (Bool.not_eq_false _ ▸ taken)
  -- the first `length + 1` numbers visited are distinct and all pending
  let visited := (List.range (t.pending.length + 1)).map fun k => t.advance^[k] t.nextSeq
  have distinct : visited.Nodup := by
    refine List.Nodup.map_on (fun i hi j hj same => ?_) List.nodup_range
    by_contra ne
    rw [List.mem_range] at hi hj
    rcases Nat.lt_or_gt_of_ne ne with lt | gt
    · exact advance_iterate_injective sized.cursor.1 sized.cursor.2 (by have := sized.capacity; omega) lt same
    · exact advance_iterate_injective sized.cursor.1 sized.cursor.2 (by have := sized.capacity; omega) gt same.symm
  have inside : visited ⊆ t.pending.map (·.seq) := by
    intro s hs
    obtain ⟨k, hk, rfl⟩ := List.mem_map.1 hs
    have pending := all k (by rw [List.mem_range] at hk; omega)
    simpa [used] using pending
  have counted := distinct.length_le_of_subset inside
  simp only [visited, List.length_map, List.length_range] at counted
  omega

/-- A number `freeFrom` hands out lies between 1 and `maxSeq`. -/
theorem freeFrom_bounds (sized : t.Sized) (fuel : Nat) :
    1 ≤ t.freeFrom fuel t.nextSeq ∧ t.freeFrom fuel t.nextSeq ≤ t.maxSeq := by
  obtain ⟨k, -, same⟩ := t.freeFrom_iterate fuel t.nextSeq
  rw [same, advance_iterate sized.cursor.1 sized.cursor.2]
  have := Nat.mod_lt (t.nextSeq - 1 + k) (show 0 < t.maxSeq by have := sized.cursor; omega)
  omega

/-- A table made with at least one sequence number is sized. -/
theorem make_sized (capacity : Int) {maxSeq : Nat} (pos : 1 ≤ maxSeq) :
    (make capacity maxSeq : FutureTable L).Sized where
  capacity := Nat.min_le_right _ _
  cursor := ⟨Nat.le_refl 1, pos⟩

/-- What a create does: with room left, the number `freeFrom` finds becomes pending for the
transaction and the cursor moves past it. -/
theorem create_eq_ok {tx : UInt64} {seq : Nat} {t' : FutureTable L} (h : t.create tx = .ok (seq, t')) :
    t.pending.length < t.capacity ∧ seq = t.freeFrom (t.pending.length + 1) t.nextSeq ∧
      t' = { t with nextSeq := t.advance seq, pending := t.pending ++ [⟨seq, tx⟩] } := by
  unfold create at h
  split at h
  · cases h
  · cases h
    exact ⟨by omega, rfl, rfl⟩

theorem used_iff {seq : Nat} : t.used seq = true ↔ seq ∈ t.pending.map (·.seq) := by
  simp [used]

/-- A sized table creates a future under a number no pending future has, between 1 and
`maxSeq`, and stays sized. -/
theorem create_fresh (sized : t.Sized) {tx : UInt64} {seq : Nat} {t' : FutureTable L}
    (h : t.create tx = .ok (seq, t')) :
    seq ∉ t.pending.map (·.seq) ∧ 1 ≤ seq ∧ seq ≤ t.maxSeq ∧ t'.Sized := by
  obtain ⟨room, rfl, rfl⟩ := create_eq_ok h
  have bounds := freeFrom_bounds sized (t.pending.length + 1)
  have pos : 1 ≤ t.maxSeq := by have := sized.cursor; omega
  refine ⟨fun mem => ?_, bounds.1, bounds.2, sized.capacity, advance_bounds _ pos⟩
  simpa [used_iff.2 mem] using freeFrom_fresh sized room

/-- Releasing the number a create just handed out gives back the table it was made from,
with the cursor moved. -/
theorem release_created (sized : t.Sized) {tx : UInt64} {seq : Nat} {t' : FutureTable L}
    (h : t.create tx = .ok (seq, t')) : t'.release seq = .ok { t with nextSeq := t.advance seq } := by
  have absent := (create_fresh sized h).1
  obtain ⟨-, -, rfl⟩ := create_eq_ok h
  have others : t.pending.filter (·.seq != seq) = t.pending := by
    refine List.filter_eq_self.2 fun f hf => ?_
    simpa using fun same : f.seq = seq => absent (same ▸ List.mem_map_of_mem hf)
  unfold release
  rw [if_pos (by simp [used])]
  simp only [List.filter_append, others, List.filter_singleton, bne_self_eq_false, cond_false,
    List.append_nil]

/-- What a response does to the table: the future it names, if pending, is removed and
counted as completed. -/
theorem respond_table (ev : Event) (r : Response) :
    (t.respond ev (some r)).2 = if t.used r.requestId.toNat then
      { t with pending := t.pending.filter (·.seq != r.requestId.toNat), completed := t.completed + 1 }
      else t := by
  simp only [respond]
  split
  next absent =>
    rw [if_neg]
    simpa [used, List.find?_eq_none] using absent
  next f found =>
    have named : f.seq = r.requestId.toNat := by simpa using List.find?_some found
    rw [if_pos (used_iff.2 (named ▸ List.mem_map_of_mem (List.mem_of_find?_eq_some found)))]
    split <;> rfl

/-- A response that carries its future's transaction, or leaves it at zero, is routed by the
future's transaction. -/
theorem routed_transaction {f : PendingFuture} {r : Response}
    (carried : r.transactionId = f.transactionId ∨ r.transactionId = 0) :
    (if r.transactionId == 0 then f.transactionId else r.transactionId) = f.transactionId := by
  by_cases zero : r.transactionId = 0
  · simp [zero]
  · simp [carried.resolve_right zero]

/-- Removing the one future of a sequence number from pending futures with distinct numbers
takes one future away. -/
theorem length_filter_seq {l : List PendingFuture} {seq : Nat} (distinct : (l.map (·.seq)).Nodup)
    (mem : seq ∈ l.map (·.seq)) : (l.filter (·.seq != seq)).length + 1 = l.length := by
  have once : (l.map (·.seq)).count seq = 1 := List.count_eq_one_of_mem distinct mem
  rw [List.count_eq_countP, List.countP_map] at once
  have split := List.length_eq_countP_add_countP (fun f : PendingFuture => f.seq == seq) (l := l)
  have kept : (l.filter (·.seq != seq)).length = l.countP fun f => decide ¬(f.seq == seq) = true := by
    rw [List.countP_eq_length_filter]
    congr 1
    exact List.filter_congr fun f _ => by simp [bne, beq_eq_decide]
  rw [kept]
  simp only [Function.comp_def] at once
  omega

end FutureTable

end InferenceBroker
