import InferenceBroker.Pool.Basic
import InferenceBroker.Queue.Bounded

/-!
# Pools of queues

A pool that lends bounded queues of one capacity. Queues are told apart by handles
1, 2, … in the order they are made; a queue returned to the pool keeps its contents.
-/

namespace InferenceBroker

/-- A pool of bounded queues: the lending state by handle and every queue made. -/
structure QueuePool (α : Type) where
  pool : Pool Nat
  queueCapacity : Int
  queues : List (Nat × BoundedQueue α) := []
  deriving Repr, Inhabited

namespace QueuePool

variable {α : Type}

/-- An empty pool of `capacity` queues of `queueCapacity` items each. -/
def make (capacity queueCapacity : Int) : QueuePool α :=
  { pool := Pool.make capacity, queueCapacity := queueCapacity }

/-- The queue of a handle. -/
def queue? (qp : QueuePool α) (h : Nat) : Option (BoundedQueue α) := qp.queues.lookup h

/-- Replaces the queue of a handle. -/
def setQueue (qp : QueuePool α) (h : Nat) (q : BoundedQueue α) : QueuePool α :=
  { qp with queues := qp.queues.map fun (k, old) => if k == h then (k, q) else (k, old) }

/-- Lends a queue: its handle. -/
def pop (qp : QueuePool α) : Except Failure (Nat × QueuePool α) := do
  let fresh := qp.queues.length + 1
  let (h, made, pool) ← qp.pool.pop fresh
  let queues := if made then qp.queues ++ [(fresh, BoundedQueue.make qp.queueCapacity)] else qp.queues
  pure (h, { qp with pool := pool, queues := queues })

/-- Takes a queue back. -/
def push (qp : QueuePool α) (h : Nat) : Except Failure (QueuePool α) :=
  (fun pool => { qp with pool := pool }) <$> qp.pool.push h

end QueuePool

end InferenceBroker
