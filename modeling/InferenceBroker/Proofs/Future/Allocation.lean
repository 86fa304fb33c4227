import InferenceBroker.Proofs.Future.Sequence
import InferenceBroker.Proofs.Dispatch.Workers

/-!
# Allocating sequence numbers over every run

A future table made for `maxSeq ≥ 1` numbers keeps through every run (`Allocating`): its
capacity is the requested one (`4096` below one) cut to `maxSeq`; pending numbers are distinct,
in `1..maxSeq` and at most that many; so is the cursor. A create fails with `future table full`
exactly when full, else hands out the first number not pending in the cyclic order from the
cursor, within `maxSeq` steps, and moves the cursor past it (`create_spec`). So the cursor walks
the cyclic order (`passedAlong_walk`), and a number comes back only after the cursor passed every
other (`reissued_after_full_turn`). The main statement is `allocation`.
-/

namespace InferenceBroker

namespace FutureTable

variable {L : Type} {t : FutureTable L}

/-! ## The cyclic order -/

/-- The `j`-th number of the cyclic order of `1, …, m` that starts at `a`. -/
def cyclic (m a j : Nat) : Nat := (a - 1 + j) % m + 1

def span (m a b : Nat) : List Nat := (List.range ((b + m - a) % m + 1)).map (cyclic m a)

theorem cyclic_zero {m a : Nat} (lo : 1 ≤ a) (hi : a ≤ m) : cyclic m a 0 = a := by
  unfold cyclic
  rw [Nat.add_zero, Nat.mod_eq_of_lt (by omega)]
  omega

theorem cyclic_bounds {m : Nat} (a j : Nat) (pos : 0 < m) : 1 ≤ cyclic m a j ∧ cyclic m a j ≤ m := by
  have := Nat.mod_lt (a - 1 + j) pos
  unfold cyclic
  omega

theorem cyclic_cyclic (m a i j : Nat) : cyclic m (cyclic m a i) j = cyclic m a (i + j) := by
  unfold cyclic
  rw [Nat.add_sub_cancel, Nat.mod_add_mod, Nat.add_assoc]

theorem cyclic_succ {m : Nat} (a j : Nat) : cyclic m a (j + 1) = cyclic m a j % m + 1 := by
  have step := cyclic_cyclic m a j 1
  unfold cyclic at step ⊢
  rw [← step, Nat.add_sub_cancel]

theorem advance_iterate_cyclic (sized : t.Sized) (k : Nat) :
    t.advance^[k] t.nextSeq = cyclic t.maxSeq t.nextSeq k :=
  advance_iterate sized.cursor.1 sized.cursor.2 k

theorem advance_eq {seq : Nat} (hi : seq ≤ t.maxSeq) : t.advance seq = seq % t.maxSeq + 1 := by
  unfold advance
  split
  next last => rw [show seq = t.maxSeq by omega, Nat.mod_self]
  next => rw [Nat.mod_eq_of_lt (by omega)]

theorem cyclic_distance {m a b : Nat} (lo : 1 ≤ a) (hi : a ≤ m) (lo' : 1 ≤ b) (hi' : b ≤ m) :
    cyclic m a ((b + m - a) % m) = b := by
  unfold cyclic
  rw [Nat.add_mod_mod, show a - 1 + (b + m - a) = (b - 1) + m by omega, Nat.add_mod_right,
    Nat.mod_eq_of_lt (by omega)]
  omega

theorem full_turn {m x j : Nat} (lo : 1 ≤ x) (hi : x ≤ m) (back : cyclic m (x % m + 1) j = x) :
    m - 1 ≤ j := by
  unfold cyclic at back
  rw [Nat.add_sub_cancel] at back
  by_contra short
  -- fewer than `m - 1` steps from the successor of `x` stay short of `x`
  rcases Nat.lt_or_ge x m with below | top
  · rw [Nat.mod_eq_of_lt below] at back
    rcases Nat.lt_or_ge (x + j) m with inside | wrapped
    · rw [Nat.mod_eq_of_lt inside] at back
      omega
    · rw [Nat.mod_eq_sub_mod wrapped, Nat.mod_eq_of_lt (by omega)] at back
      omega
  · rw [show x = m by omega, Nat.mod_self, Nat.zero_add, Nat.mod_eq_of_lt (by omega)] at back
    omega

theorem mem_walk {m a y D : Nat} (start : 1 ≤ a ∧ a ≤ m) (lo : 1 ≤ y) (hi : y ≤ m) (long : m ≤ D) :
    y ∈ (List.range D).map (cyclic m a) :=
  List.mem_map.2 ⟨(y + m - a) % m, List.mem_range.2 (Nat.lt_of_lt_of_le (Nat.mod_lt _ (by omega)) long),
    cyclic_distance start.1 start.2 lo hi⟩

/-! ## Creating a future -/

theorem freeFrom_first (fuel x : Nat) :
    ∃ k ≤ fuel, t.freeFrom fuel x = t.advance^[k] x ∧ ∀ j < k, t.used (t.advance^[j] x) = true := by
  induction fuel generalizing x with
  | zero => exact ⟨0, Nat.le_refl 0, rfl, fun j hj => absurd hj (Nat.not_lt_zero j)⟩
  | succ fuel ih =>
    unfold freeFrom
    split
    next taken =>
      obtain ⟨k, hk, same, before⟩ := ih (t.advance x)
      refine ⟨k + 1, by omega, by rw [same, Function.iterate_succ_apply], fun j hj => ?_⟩
      cases j with
      | zero => exact taken
      | succ j =>
        rw [Function.iterate_succ_apply]
        exact before j (by omega)
    next => exact ⟨0, Nat.zero_le _, rfl, fun j hj => absurd hj (Nat.not_lt_zero j)⟩

theorem walk_le_pending (sized : t.Sized) {k : Nat} (short : k ≤ t.maxSeq)
    (taken : ∀ j < k, t.used (t.advance^[j] t.nextSeq) = true) : k ≤ t.pending.length := by
  let visited := (List.range k).map fun j => t.advance^[j] t.nextSeq
  have distinct : visited.Nodup := by
    refine List.Nodup.map_on (fun i hi j hj same => ?_) List.nodup_range
    rw [List.mem_range] at hi hj
    by_contra ne
    rcases Nat.lt_or_gt_of_ne ne with lt | gt
    · exact advance_iterate_injective sized.cursor.1 sized.cursor.2 (by omega) lt same
    · exact advance_iterate_injective sized.cursor.1 sized.cursor.2 (by omega) gt same.symm
  have inside : visited ⊆ t.pending.map (·.seq) := by
    intro s hs
    obtain ⟨j, hj, rfl⟩ := List.mem_map.1 hs
    exact used_iff.1 (taken j (List.mem_range.1 hj))
  simpa [visited] using distinct.length_le_of_subset inside

def fullFailure (t : FutureTable L) : Failure :=
  .within s!"{t.pending.length} futures pending" Failure.futureTableFull

/-- Fails with `future table full` exactly when full; else hands out the first number not pending
in the cyclic order from the cursor, within `maxSeq` steps, registers the future and moves the
cursor to its successor. A failing create returns no table. -/
theorem create_spec (sized : t.Sized) (tx : UInt64) :
    (t.capacity ≤ t.pending.length ↔ t.create tx = .error t.fullFailure) ∧
    (t.pending.length < t.capacity → ∃ k < t.maxSeq,
      (∀ j < k, cyclic t.maxSeq t.nextSeq j ∈ t.pending.map (·.seq)) ∧
      cyclic t.maxSeq t.nextSeq k ∉ t.pending.map (·.seq) ∧
      t.create tx = .ok (cyclic t.maxSeq t.nextSeq k,
        { t with nextSeq := cyclic t.maxSeq t.nextSeq k % t.maxSeq + 1,
                 pending := t.pending ++ [⟨cyclic t.maxSeq t.nextSeq k, tx⟩] })) := by
  refine ⟨⟨fun full => by simp [create, full, fullFailure], fun failed => ?_⟩, fun room => ?_⟩
  · by_contra room
    simp [create, room] at failed
  · obtain ⟨k, hk, found, before⟩ := t.freeFrom_first (t.pending.length + 1) t.nextSeq
    have capacity := sized.capacity
    have first := walk_le_pending sized (by omega) before
    have free := freeFrom_fresh sized room
    rw [found, advance_iterate_cyclic sized] at free
    have bounds := cyclic_bounds t.nextSeq k (show 0 < t.maxSeq by have := sized.cursor; omega)
    refine ⟨k, by omega, fun j hj => ?_, fun mem => ?_, ?_⟩
    · rw [← advance_iterate_cyclic sized]
      exact used_iff.1 (before j hj)
    · simp [used_iff.2 mem] at free
    · rw [← advance_eq bounds.2, ← advance_iterate_cyclic sized, ← found]
      simp [create, Nat.not_le.2 room]

/-! ## Runs of calls -/

/-- Creating, delivering a response, releasing a number, installing or removing a listener,
closing. -/
inductive Call (L : Type) where
  | create (tx : UInt64)
  | respond (event : Event) (resp : Option Response)
  | release (seq : Nat)
  | register (tx : UInt64) (l : L)
  | unregister (tx : UInt64)
  | close

namespace Call

def apply : Call L → FutureTable L → FutureTable L
  | .create tx, t => match t.create tx with
    | .ok (_, t') => t'
    | .error _ => t
  | .respond ev r, t => (t.respond ev r).2
  | .release seq, t => match t.release seq with
    | .ok t' => t'
    | .error _ => t
  | .register tx l, t => t.register tx l
  | .unregister tx, t => (t.unregister tx).2
  | .close, t => t.close

/-- The numbers the cursor passes: for a create that hands one out, those from the cursor up to
it; none otherwise. -/
def passed : Call L → FutureTable L → List Nat
  | .create tx, t => match t.create tx with
    | .ok (seq, _) => span t.maxSeq t.nextSeq seq
    | .error _ => []
  | _, _ => []

end Call

def runCalls (t : FutureTable L) (calls : List (Call L)) : FutureTable L :=
  calls.foldl (fun t c => c.apply t) t

def passedAlong : FutureTable L → List (Call L) → List Nat
  | _, [] => []
  | t, c :: cs => c.passed t ++ passedAlong (c.apply t) cs

@[simp] theorem runCalls_nil : t.runCalls [] = t := rfl

@[simp] theorem runCalls_cons (c : Call L) (cs : List (Call L)) : t.runCalls (c :: cs) = (c.apply t).runCalls cs :=
  rfl

theorem passedAlong_append (cs ds : List (Call L)) :
    passedAlong t (cs ++ ds) = passedAlong t cs ++ passedAlong (t.runCalls cs) ds := by
  induction cs generalizing t with
  | nil => rfl
  | cons c cs ih => simp [passedAlong, ih, List.append_assoc]

/-! ## What every run keeps -/

/-- The request, or `4096` below one, cut down to `maxSeq`. -/
def effectiveCapacity (capacity : Int) (maxSeq : Nat) : Nat :=
  min (if capacity < 1 then defaultFutureCapacity else capacity.toNat) maxSeq

structure Allocating (capacity : Int) (maxSeq : Nat) (t : FutureTable L) : Prop where
  maxSeq_eq : t.maxSeq = maxSeq
  capacity_eq : t.capacity = effectiveCapacity capacity maxSeq
  inRange : ∀ f ∈ t.pending, 1 ≤ f.seq ∧ f.seq ≤ maxSeq
  distinct : (t.pending.map (·.seq)).Nodup
  bounded : t.pending.length ≤ t.capacity
  cursor : 1 ≤ t.nextSeq ∧ t.nextSeq ≤ maxSeq

section Allocating

variable {capacity : Int} {maxSeq : Nat}

theorem Allocating.sized (a : Allocating capacity maxSeq t) : t.Sized where
  capacity := by rw [a.capacity_eq, a.maxSeq_eq]; exact Nat.min_le_right _ _
  cursor := a.maxSeq_eq ▸ a.cursor

theorem allocating_make (pos : 1 ≤ maxSeq) : Allocating capacity maxSeq (make capacity maxSeq : FutureTable L) where
  maxSeq_eq := rfl
  capacity_eq := rfl
  inRange := fun _ none => absurd none List.not_mem_nil
  distinct := List.nodup_nil
  bounded := Nat.zero_le _
  cursor := ⟨Nat.le_refl 1, pos⟩

theorem Allocating.filter (a : Allocating capacity maxSeq t) (keep : PendingFuture → Bool) (completed : Nat) :
    Allocating capacity maxSeq { t with pending := t.pending.filter keep, completed := completed } where
  maxSeq_eq := a.maxSeq_eq
  capacity_eq := a.capacity_eq
  inRange := fun f hf => a.inRange f (List.mem_of_mem_filter hf)
  distinct := (List.filter_sublist.map _).nodup a.distinct
  bounded := Nat.le_trans (List.length_filter_le _ _) a.bounded
  cursor := a.cursor

theorem Allocating.listeners (a : Allocating capacity maxSeq t) (ls : List (UInt64 × L)) :
    Allocating capacity maxSeq { t with listeners := ls } :=
  ⟨a.maxSeq_eq, a.capacity_eq, a.inRange, a.distinct, a.bounded, a.cursor⟩

theorem Allocating.create (a : Allocating capacity maxSeq t) {tx : UInt64} {seq : Nat} {t' : FutureTable L}
    (h : t.create tx = .ok (seq, t')) : Allocating capacity maxSeq t' := by
  obtain ⟨fresh, lo, hi, sized'⟩ := create_fresh a.sized h
  obtain ⟨room, -, rfl⟩ := create_eq_ok h
  refine ⟨a.maxSeq_eq, a.capacity_eq, fun f hf => ?_, ?_, by simp; omega, a.maxSeq_eq ▸ sized'.cursor⟩
  · rcases List.mem_append.1 hf with old | new
    · exact a.inRange f old
    · rw [List.mem_singleton.1 new]
      exact ⟨lo, a.maxSeq_eq ▸ hi⟩
  · rw [List.map_append, List.map_singleton, List.nodup_append]
    refine ⟨a.distinct, List.nodup_singleton _, fun s hs s' hs' same => ?_⟩
    rw [List.mem_singleton] at hs'
    rw [same, hs'] at hs
    exact fresh hs

theorem Allocating.apply (a : Allocating capacity maxSeq t) (c : Call L) :
    Allocating capacity maxSeq (c.apply t) := by
  cases c with
  | create tx =>
    simp only [Call.apply]
    split
    next created => exact a.create created
    next => exact a
  | respond ev r =>
    cases r with
    | none => exact a
    | some r =>
      rw [Call.apply, respond_table]
      split
      next => exact a.filter _ _
      next => exact a
  | release seq =>
    simp only [Call.apply, release]
    split
    next released =>
      split at released
      next => cases released; exact a.filter _ t.completed
      next => cases released
    next => exact a
  | register tx l => exact a.listeners _
  | unregister tx => exact a.listeners _
  | close =>
    exact ⟨a.maxSeq_eq, a.capacity_eq, fun _ none => absurd none List.not_mem_nil, List.nodup_nil, Nat.zero_le _,
      a.cursor⟩

theorem Allocating.runCalls (a : Allocating capacity maxSeq t) (calls : List (Call L)) :
    Allocating capacity maxSeq (t.runCalls calls) := by
  induction calls generalizing t with
  | nil => exact a
  | cons c cs ih => exact ih (a.apply c)

end Allocating

/-! ## The cursor's walk -/

theorem passed_walk (sized : t.Sized) (c : Call L) :
    ∃ d, c.passed t = (List.range d).map (cyclic t.maxSeq t.nextSeq) ∧
      (c.apply t).nextSeq = cyclic t.maxSeq t.nextSeq d ∧ (c.apply t).maxSeq = t.maxSeq := by
  have still := cyclic_zero (m := t.maxSeq) sized.cursor.1 sized.cursor.2
  cases c with
  | create tx =>
    simp only [Call.passed, Call.apply]
    split
    next seq t' created =>
      obtain ⟨-, lo, hi, -⟩ := create_fresh sized created
      obtain ⟨-, -, rfl⟩ := create_eq_ok created
      have ends := cyclic_distance sized.cursor.1 sized.cursor.2 lo hi
      refine ⟨(seq + t.maxSeq - t.nextSeq) % t.maxSeq + 1, rfl, ?_, rfl⟩
      rw [cyclic_succ, ends, advance_eq hi]
    next => exact ⟨0, rfl, still.symm, rfl⟩
  | respond ev r =>
    refine ⟨0, rfl, ?_, ?_⟩
    · cases r with
      | none => exact still.symm
      | some r =>
        rw [Call.apply, respond_table]
        split <;> exact still.symm
    · cases r with
      | none => rfl
      | some r =>
        rw [Call.apply, respond_table]
        split <;> rfl
  | release seq =>
    simp only [Call.apply, release]
    split
    next released =>
      split at released
      next => cases released; exact ⟨0, rfl, still.symm, rfl⟩
      next => cases released
    next => exact ⟨0, rfl, still.symm, rfl⟩
  | register tx l => exact ⟨0, rfl, still.symm, rfl⟩
  | unregister tx => exact ⟨0, rfl, still.symm, rfl⟩
  | close => exact ⟨0, rfl, still.symm, rfl⟩

/-- The cursor walks the cyclic order: it passes its first `D` numbers and stops at the next. -/
theorem passedAlong_walk {capacity : Int} {maxSeq : Nat} (a : Allocating capacity maxSeq t)
    (calls : List (Call L)) :
    ∃ D, passedAlong t calls = (List.range D).map (cyclic maxSeq t.nextSeq) ∧
      (t.runCalls calls).nextSeq = cyclic maxSeq t.nextSeq D := by
  induction calls generalizing t with
  | nil => exact ⟨0, rfl, (cyclic_zero a.cursor.1 a.cursor.2).symm⟩
  | cons c cs ih =>
    obtain ⟨d, passed, moved, -⟩ := passed_walk a.sized c
    obtain ⟨D, rest, stops⟩ := ih (a.apply c)
    rw [moved, a.maxSeq_eq] at rest stops
    rw [a.maxSeq_eq] at passed
    refine ⟨d + D, ?_, by rw [runCalls_cons, stops, cyclic_cyclic]⟩
    rw [passedAlong, passed, rest, List.range_add, List.map_append, List.map_map]
    congr 1
    exact List.map_congr_left fun j _ => cyclic_cyclic maxSeq t.nextSeq d j

/-- Between two creates of one number, the calls and the second create's search take the cursor
once around all of `1, …, maxSeq`. -/
theorem reissued_after_full_turn {capacity : Int} {maxSeq : Nat} (a : Allocating capacity maxSeq t)
    {tx tx' : UInt64} {x : Nat} {t₁ t₂ : FutureTable L} (first : t.create tx = .ok (x, t₁))
    (calls : List (Call L)) (again : (t₁.runCalls calls).create tx' = .ok (x, t₂)) :
    ∀ y, 1 ≤ y → y ≤ maxSeq → y ∈ passedAlong t₁ (calls ++ [.create tx']) := by
  intro y lo hi
  have a₁ := a.create first
  have a₂ := a₁.runCalls calls
  obtain ⟨-, xlo, xhi, -⟩ := create_fresh a.sized first
  rw [a.maxSeq_eq] at xhi
  have cursor₁ : t₁.nextSeq = x % maxSeq + 1 := by
    obtain ⟨-, -, rfl⟩ := create_eq_ok first
    rw [← a.maxSeq_eq, ← advance_eq (a.maxSeq_eq ▸ xhi)]
  obtain ⟨D, along, stops⟩ := passedAlong_walk a₁ calls
  obtain ⟨D', whole, -⟩ := passedAlong_walk a₁ (calls ++ [.create tx'])
  -- the second create passes the numbers from where the calls left the cursor up to `x`
  have last : (Call.create tx').passed (t₁.runCalls calls) = span maxSeq (t₁.runCalls calls).nextSeq x := by
    simp [Call.passed, again, a₂.maxSeq_eq]
  have ends := cyclic_distance a₂.cursor.1 a₂.cursor.2 xlo xhi
  have split := passedAlong_append (t := t₁) calls [.create tx']
  rw [whole, along, passedAlong, passedAlong, List.append_nil, last, span] at split
  generalize (x + maxSeq - (t₁.runCalls calls).nextSeq) % maxSeq = dist at ends split
  have lengths : D' = D + (dist + 1) := by simpa using congrArg List.length split
  rw [stops, cyclic_cyclic, cursor₁] at ends
  have turn := full_turn xlo xhi ends
  rw [whole]
  exact mem_walk a₁.cursor lo hi (by omega)

/-- Allocating; a create fails exactly when full, else hands out the first number not pending
from the cursor, within `maxSeq` steps, and moves the cursor past it; a number handed out again
comes after the cursor passed every other. -/
structure Allocates (capacity : Int) (maxSeq : Nat) (t : FutureTable L) : Prop where
  allocating : Allocating capacity maxSeq t
  full : ∀ tx, t.capacity ≤ t.pending.length ↔ t.create tx = .error t.fullFailure
  firstFree : ∀ tx, t.pending.length < t.capacity → ∃ k < maxSeq,
    (∀ j < k, cyclic maxSeq t.nextSeq j ∈ t.pending.map (·.seq)) ∧
    cyclic maxSeq t.nextSeq k ∉ t.pending.map (·.seq) ∧
    t.create tx = .ok (cyclic maxSeq t.nextSeq k,
      { t with nextSeq := cyclic maxSeq t.nextSeq k % maxSeq + 1,
               pending := t.pending ++ [⟨cyclic maxSeq t.nextSeq k, tx⟩] })
  fullTurn : ∀ (tx tx' : UInt64) (x : Nat) (t₁ t₂ : FutureTable L) (more : List (Call L)),
    t.create tx = .ok (x, t₁) → (t₁.runCalls more).create tx' = .ok (x, t₂) →
      ∀ y, 1 ≤ y → y ≤ maxSeq → y ∈ passedAlong t₁ (more ++ [.create tx'])

theorem Allocating.allocates {capacity : Int} {maxSeq : Nat} (a : Allocating capacity maxSeq t) :
    Allocates capacity maxSeq t where
  allocating := a
  full tx := (create_spec a.sized tx).1
  firstFree tx := by simpa only [a.maxSeq_eq] using (create_spec a.sized tx).2
  fullTurn _ _ _ _ _ more first again := reissued_after_full_turn a first more again

end FutureTable

namespace Dispatcher

variable {L : Type}

theorem asyncRequest_stamps {d : Dispatcher L} {req sent : Request} {seq : Nat}
    (accepted : ((asyncRequest req).run d).1 = .ok (seq, sent)) :
    (∃ t, d.futures.create req.transactionId = .ok (seq, t)) ∧ sent = { req with requestId := UInt64.ofNat seq } := by
  rw [asyncRequest, run_bind, engineFor_run] at accepted
  split at accepted
  · cases accepted
  · rw [run_bind, run_get] at accepted
    dsimp only at accepted
    split at accepted
    · cases accepted
    · next seq' futures created =>
      rw [run_bind, run_set, run_bind] at accepted
      split at accepted
      · -- the engine refused the task: the request fails
        simp only [run_bind, run_get] at accepted
        split at accepted <;> simp at accepted
      · simp only [run_bind, run_pure] at accepted
        cases accepted
        exact ⟨⟨futures, created⟩, rfl⟩

end Dispatcher

namespace FutureTable

variable {L : Type}

/-- Every run keeps `Allocates`, and an asynchronous request goes out with its future's number
as its id. -/
theorem allocation (capacity : Int) {maxSeq : Nat} (pos : 1 ≤ maxSeq) (calls : List (Call L)) :
    Allocates capacity maxSeq ((make capacity maxSeq : FutureTable L).runCalls calls) ∧
    ∀ (d : Dispatcher L) (req sent : Request) (seq : Nat),
      ((Dispatcher.asyncRequest req).run d).1 = .ok (seq, sent) →
        (∃ t, d.futures.create req.transactionId = .ok (seq, t)) ∧
          sent = { req with requestId := UInt64.ofNat seq } :=
  ⟨((allocating_make pos).runCalls calls).allocates, fun _ _ _ _ accepted => Dispatcher.asyncRequest_stamps accepted⟩

/-- Three numbers, all handed out, the middle released: the cursor wrapped to 1, still pending,
and the next create hands out 2. -/
example : (((make 3 3 : FutureTable Nat).runCalls
    [.create 0, .create 0, .create 0, .release 2]).create 0).toOption.map (·.1) = some 2 := by
  decide

theorem allocation_wrapped :
    1 ≤ 3 ∧ Allocates 3 3 ((make 3 3 : FutureTable Nat).runCalls [.create 0, .create 0, .create 0, .release 2]) ∧
      ∀ (d : Dispatcher Nat) (req sent : Request) (seq : Nat),
        ((Dispatcher.asyncRequest req).run d).1 = .ok (seq, sent) →
          (∃ t, d.futures.create req.transactionId = .ok (seq, t)) ∧
            sent = { req with requestId := UInt64.ofNat seq } :=
  ⟨by decide, allocation 3 (by decide) _⟩

end FutureTable

end InferenceBroker
