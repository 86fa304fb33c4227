import Mathlib.Logic.Function.Basic

/-!
# The lock-free outbox, one atomic step at a time

An unbounded queue with many producers and one consumer: producers append nodes to a linked
list by compare-and-swap; the queue's consumer thread moves the values, oldest first, onto
the channel receivers read, and closes it once the queue is closed and drained. `Channel` is
the same queue as one sequential object; here its algorithm is written out as threads.

Each thread is a deterministic step function over one sequentially consistent memory, and a
run is a schedule of threads. Each atomic access, each lock, unlock and signal, and each
hand-over is a step; the consumer's private accesses are folded into its neighbouring steps,
and a producer's backoff is left out. The state also keeps three records no step reads: the
nodes in link order, the nodes whose values went out, and the call that made each node.
-/

namespace InferenceBroker

namespace Outbox

/-- A node: its value and the node after it. Node `0` is the sentinel. -/
structure Node (α : Type) where
  value : α
  next : Option Nat := none

inductive Call (α : Type) where
  | push (v : α)
  | close
  deriving DecidableEq, Repr

/-- Where a client is in its call: a push carries its node `n`, the tail `t` it read and the
node `nx` after it; the wake-up of the consumer is shared by a push and a close (`none`). -/
inductive Client.Pc where
  | idle
  | loadTail (n : Nat)
  | loadNext (n t : Nat)
  | link (n t : Nat)
  | help (n t nx : Nat)
  | swing (n t : Nat)
  | count (n : Nat)
  | lock (n : Option Nat)
  | signal (n : Option Nat)
  | unlock (n : Option Nat)
  | recheck (n : Nat)
  deriving DecidableEq, Repr

/-- Where a client is, and what its finished calls returned: a push its verdict, a close `none`. -/
structure Client where
  pc : Client.Pc := .idle
  done : List (Option Bool) := []
  deriving DecidableEq, Repr

inductive Consumer (α : Type) where
  /-- reads the node after the head; `drained`: this round moved a value -/
  | scan (drained : Bool)
  /-- hands `v`, the value of the new head `n`, to the receiver -/
  | send (v : α) (n : Nat)
  /-- takes one off the length -/
  | uncount
  /-- reads the closed flag after a round that moved nothing -/
  | check
  /-- closed: reads the node after the head once more -/
  | final
  | lock
  /-- under the mutex: reads the node after the head, then the flag -/
  | waitNext
  | waitClosed
  /-- unlocks and joins the wait list, in one step -/
  | wait
  /-- signalled off the wait list, it locks again -/
  | asleep
  | unlock
  /-- returned, and closed the receive channel -/
  | exited
  deriving DecidableEq, Repr

/-- The consumer, and clients numbered from `0`. -/
inductive Thread where
  | consumer
  | client (i : Nat)
  deriving DecidableEq, Repr

/-- The shared memory, the threads, and three records no step reads: `links` (nodes in link
order), `sent` (nodes handed over) and `origin` (the client and call that made each node). -/
structure State (α : Type) where
  nodes : Nat → Node α
  fresh : Nat
  head : Nat
  tail : Nat
  closed : Bool
  size : Int
  holder : Option Thread
  /-- the consumer is on the condition variable's wait list -/
  waiting : Bool
  out : List α
  consumer : Consumer α
  clients : Nat → Client
  links : List Nat
  sent : List Nat
  origin : Nat → Option (Nat × Nat)

namespace State

variable {α : Type} (s : State α)

def next (x : Nat) : Option Nat := (s.nodes x).next

def goto (i : Nat) (pc : Client.Pc) : State α :=
  { s with clients := Function.update s.clients i { s.clients i with pc := pc } }

@[simp] theorem goto_self (i : Nat) (pc : Client.Pc) : (s.goto i pc).clients i = { s.clients i with pc := pc } := by
  simp [goto]

@[simp] theorem goto_other {i j : Nat} (pc : Client.Pc) (h : j ≠ i) : (s.goto i pc).clients j = s.clients j := by
  simp [goto, h]

def finish (i : Nat) (r : Option Bool) : State α :=
  { s with clients := Function.update s.clients i { pc := .idle, done := (s.clients i).done ++ [r] } }

@[simp] theorem finish_self (i : Nat) (r : Option Bool) :
    (s.finish i r).clients i = { pc := .idle, done := (s.clients i).done ++ [r] } := by
  simp [finish]

@[simp] theorem finish_other {i j : Nat} (r : Option Bool) (h : j ≠ i) : (s.finish i r).clients j = s.clients j := by
  simp [finish, h]

def alloc (v : α) (i k : Nat) : State α :=
  { s with nodes := Function.update s.nodes s.fresh { value := v }, fresh := s.fresh + 1,
           origin := Function.update s.origin s.fresh (some (i, k)) }

@[simp] theorem alloc_clients (v : α) (i k : Nat) : (s.alloc v i k).clients = s.clients := rfl

@[simp] theorem alloc_links (v : α) (i k : Nat) : (s.alloc v i k).links = s.links := rfl

/-- A successful compare-and-swap of the link after `t` from nothing to `n`. -/
def linkAfter (t n : Nat) : State α :=
  { s with nodes := Function.update s.nodes t { s.nodes t with next := some n }, links := s.links ++ [n] }

@[simp] theorem linkAfter_clients (t n : Nat) : (s.linkAfter t n).clients = s.clients := rfl

@[simp] theorem linkAfter_links (t n : Nat) : (s.linkAfter t n).links = s.links ++ [n] := rfl

def casTail (t n : Nat) : State α := if s.tail = t then { s with tail := n } else s

@[simp] theorem casTail_clients (t n : Nat) : (s.casTail t n).clients = s.clients := by
  unfold casTail; split <;> rfl

@[simp] theorem casTail_links (t n : Nat) : (s.casTail t n).links = s.links := by
  unfold casTail; split <;> rfl

/-- One step of client `i`. A push reads the closed flag, makes its node, and until a
compare-and-swap links it after the tail reads the tail and its next, helping a lagging tail;
then it swings the tail, counts the node, signals the consumer under the mutex, and returns
whether the queue is open. A close sets the flag and signals. -/
def clientStep (prog : List (Call α)) (i : Nat) : State α :=
  match (s.clients i).pc with
  | .idle =>
    match prog[(s.clients i).done.length]? with
    | none => s
    | some (.push v) =>
      if s.closed then s.finish i (some false)
      else (s.alloc v i (s.clients i).done.length).goto i (.loadTail s.fresh)
    | some .close => { s with closed := true }.goto i (.lock none)
  | .loadTail n => s.goto i (.loadNext n s.tail)
  | .loadNext n t =>
    match s.next t with
    | none => s.goto i (.link n t)
    | some nx => s.goto i (.help n t nx)
  | .link n t => if s.next t = none then (s.linkAfter t n).goto i (.swing n t) else s.goto i (.loadTail n)
  | .help n t nx => (s.casTail t nx).goto i (.loadTail n)
  | .swing n t => (s.casTail t n).goto i (.count n)
  | .count n => { s with size := s.size + 1 }.goto i (.lock (some n))
  | .lock o => if s.holder = none then { s with holder := some (.client i) }.goto i (.signal o) else s
  | .signal o => { s with waiting := false }.goto i (.unlock o)
  | .unlock (some n) => { s with holder := none }.goto i (.recheck n)
  | .unlock none => { s with holder := none }.finish i none
  | .recheck _ => s.finish i (some !s.closed)

/-- One step of the consumer: it moves the values after the head one by one; after a round
that moved nothing it reads the flag: closed, it returns once no node follows the head; open,
it waits, unless under the mutex it finds a node or the flag. -/
def consumerStep [Inhabited α] : State α :=
  match s.consumer with
  | .scan drained =>
    match s.next s.head with
    | some n => { s with head := n, consumer := .send (s.nodes n).value n }
    | none => { s with consumer := if drained then .scan false else .check }
  | .send v n => { s with out := s.out ++ [v], sent := s.sent ++ [n], consumer := .uncount }
  | .uncount =>
    { s with size := s.size - 1, consumer := .scan true,
             nodes := Function.update s.nodes s.head { s.nodes s.head with value := default } }
  | .check => { s with consumer := if s.closed then .final else .lock }
  | .final => { s with consumer := if s.next s.head = none then .exited else .scan false }
  | .lock => if s.holder = none then { s with holder := some .consumer, consumer := .waitNext } else s
  | .waitNext => { s with consumer := if s.next s.head = none then .waitClosed else .unlock }
  | .waitClosed => { s with consumer := if s.closed then .unlock else .wait }
  | .wait => { s with holder := none, waiting := true, consumer := .asleep }
  | .asleep =>
    if !s.waiting && s.holder = none then { s with holder := some .consumer, consumer := .unlock } else s
  | .unlock => { s with holder := none, consumer := .scan false }
  | .exited => s

end State

variable {α : Type} [Inhabited α]

def step (progs : Nat → List (Call α)) (s : State α) : Thread → State α
  | .consumer => s.consumerStep
  | .client i => s.clientStep (progs i) i

def run (progs : Nat → List (Call α)) (s : State α) (σ : List Thread) : State α :=
  σ.foldl (step progs) s

/-- A new outbox: the sentinel is head and tail, and the consumer has started. -/
def init : State α where
  nodes := fun _ => { value := default }
  fresh := 1
  head := 0
  tail := 0
  closed := false
  size := 0
  holder := none
  waiting := false
  out := []
  consumer := .scan false
  clients := fun _ => {}
  links := []
  sent := []
  origin := fun _ => none

inductive Reachable (progs : Nat → List (Call α)) : State α → Prop where
  | init : Reachable progs init
  | step {s : State α} (w : Thread) : Reachable progs s → Reachable progs (step progs s w)

theorem Reachable.run {progs : Nat → List (Call α)} {s : State α} (h : Reachable progs s) (σ : List Thread) :
    Reachable progs (run progs s σ) := by
  induction σ generalizing s with
  | nil => exact h
  | cons w σ ih => exact ih (.step w h)

end Outbox

end InferenceBroker
