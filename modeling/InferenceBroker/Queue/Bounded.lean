import InferenceBroker.Core.Failure

/-!
# Bounded queues

A first-in first-out queue that holds at most `capacity` items, never fewer than one.
Pushing onto a full queue and popping from an empty one fail at once instead of
waiting: `queue full` and `queue empty`.

The view of a queue is its list of items, oldest first; `items_push` and `pop_cons` say
what the two main operations do to it.
-/

namespace InferenceBroker

/-- A queue of at most `capacity` items, oldest first. -/
structure BoundedQueue (α : Type) where
  capacity : Nat
  items : List α
  deriving Repr, Inhabited

namespace BoundedQueue

variable {α : Type}

/-- The empty queue of a requested capacity; a capacity below one becomes one. -/
def make (capacity : Int) : BoundedQueue α := ⟨max 1 capacity.toNat, []⟩

/-- The number of queued items. -/
def count (q : BoundedQueue α) : Nat := q.items.length

/-- Whether nothing is queued. -/
def isEmpty (q : BoundedQueue α) : Bool := q.items.isEmpty

/-- Whether the queue holds `capacity` items. -/
def isFull (q : BoundedQueue α) : Bool := q.capacity ≤ q.count

/-- Appends an item, or fails with `queue full`. -/
def push (q : BoundedQueue α) (a : α) : Except Failure (BoundedQueue α) :=
  if q.isFull then .error Failure.queueFull else .ok { q with items := q.items ++ [a] }

/-- Takes the oldest item, if there is one. -/
def take? (q : BoundedQueue α) : Option (α × BoundedQueue α) :=
  match q.items with
  | [] => none
  | a :: rest => some (a, { q with items := rest })

/-- Takes the oldest item, or fails with `queue empty`. -/
def pop (q : BoundedQueue α) : Except Failure (α × BoundedQueue α) :=
  match q.take? with
  | some r => .ok r
  | none => .error Failure.queueEmpty

/-- Drops every queued item. -/
def reset (q : BoundedQueue α) : BoundedQueue α := { q with items := [] }

theorem items_push (q : BoundedQueue α) (a : α) (h : q.isFull = false) :
    q.push a = .ok { q with items := q.items ++ [a] } := by
  simp [push, h]

theorem pop_cons (q : BoundedQueue α) (a : α) (rest : List α) (h : q.items = a :: rest) :
    q.pop = .ok (a, { q with items := rest }) := by
  simp [pop, take?, h]

theorem count_le_capacity_push (q : BoundedQueue α) (a : α) (q' : BoundedQueue α)
    (h : q.push a = .ok q') : q'.count ≤ q'.capacity := by
  unfold push isFull at h
  by_cases hf : q.capacity ≤ q.count
  · simp [hf] at h
  · simp only [hf, decide_false, Bool.false_eq_true, if_false, Except.ok.injEq] at h
    subst h
    simp only [count, List.length_append, List.length_singleton] at *
    omega

end BoundedQueue

end InferenceBroker
