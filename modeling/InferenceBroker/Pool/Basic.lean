import InferenceBroker.Core.Failure

/-!
# Pools of reusable items

A pool lends at most `capacity` items (at least one). Returned items wait idle and are lent
again, most recent first, before a new item is made. Returning an item not lent is refused
(`item does not belong to the pool`), asking when all are lent too (`N of M items busy: pool
exhausted`). A `reclaim`ed item is no longer lent but counts against the capacity until
`settle` makes it idle, as while its owner shuts it down.
-/

namespace InferenceBroker

/-- Its capacity, the idle items (most recent first), the lent ones, those being taken back. -/
structure Pool (α : Type) where
  capacity : Nat
  idle : List α := []
  busy : List α := []
  draining : List α := []
  deriving Repr, Inhabited

namespace Pool

variable {α : Type}

/-- The empty pool of a requested capacity, at least one. -/
def make (capacity : Int) : Pool α := { capacity := max 1 capacity.toNat }

/-- An idle item if any, else `fresh` while the capacity allows; the flag says whether
`fresh` was taken. -/
def pop (p : Pool α) (fresh : α) : Except Failure (α × Bool × Pool α) :=
  match p.idle with
  | a :: rest => .ok (a, false, { p with idle := rest, busy := p.busy ++ [a] })
  | [] =>
    if p.busy.length + p.draining.length < p.capacity then .ok (fresh, true, { p with busy := p.busy ++ [fresh] })
    else .error (.within s!"{p.busy.length} of {p.capacity} items busy" Failure.poolExhausted)

def push [DecidableEq α] (p : Pool α) (a : α) : Except Failure (Pool α) :=
  if a ∈ p.busy then .ok { p with busy := p.busy.erase a, idle := a :: p.idle }
  else .error Failure.notPooled

/-- It stops being lent but still counts against the capacity. -/
def reclaim [DecidableEq α] (p : Pool α) (a : α) : Except Failure (Pool α) :=
  if a ∈ p.busy then .ok { p with busy := p.busy.erase a, draining := a :: p.draining }
  else .error Failure.notPooled

/-- It becomes idle. -/
def settle [DecidableEq α] (p : Pool α) (a : α) : Pool α :=
  { p with draining := p.draining.erase a, idle := a :: p.idle }

def lent [DecidableEq α] (p : Pool α) (a : α) : Bool := decide (a ∈ p.busy)

theorem pop_idle (p : Pool α) (fresh a : α) (rest : List α) (h : p.idle = a :: rest) :
    p.pop fresh = .ok (a, false, { p with idle := rest, busy := p.busy ++ [a] }) := by
  simp [pop, h]

theorem push_busy [DecidableEq α] (p : Pool α) (a : α) (h : a ∈ p.busy) :
    p.push a = .ok { p with busy := p.busy.erase a, idle := a :: p.idle } := by
  simp [push, h]

end Pool

end InferenceBroker
