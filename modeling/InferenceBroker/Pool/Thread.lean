import InferenceBroker.Pool.Basic

/-!
# Worker threads

A thread runs one function at a time until stopped. A pool numbers its threads 1, 2, … as
it makes them; returning a thread to the pool stops it.
-/

namespace InferenceBroker

structure Thread where
  id : Nat
  locksOsThread : Bool
  running : Bool := false
  deriving DecidableEq, Repr, Inhabited

/-- The lending state by thread id, and every thread made. -/
structure ThreadPool where
  pool : Pool Nat
  threads : List Thread := []
  lockOsThread : Bool := false
  deriving Repr, Inhabited

namespace ThreadPool

def make (capacity : Int) : ThreadPool := { pool := Pool.make capacity }

def thread? (tp : ThreadPool) (id : Nat) : Option Thread := tp.threads.find? (·.id == id)

def update (tp : ThreadPool) (id : Nat) (f : Thread → Thread) : ThreadPool :=
  { tp with threads := tp.threads.map fun t => if t.id == id then f t else t }

/-- Lends a thread, making thread `n + 1` when `n` exist and none is idle. -/
def pop (tp : ThreadPool) : Except Failure (Thread × ThreadPool) := do
  let fresh := tp.threads.length + 1
  let (id, made, pool) ← tp.pool.pop fresh
  let threads := if made then tp.threads ++ [{ id := fresh, locksOsThread := tp.lockOsThread }]
    else tp.threads
  let tp' := { tp with pool := pool, threads := threads }
  match tp'.thread? id with
  | some t => pure (t, tp')
  | none => pure ({ id := id, locksOsThread := tp.lockOsThread }, tp')

/-- Runs a function on a lent or idle thread, one at a time. -/
def start (tp : ThreadPool) (id : Nat) : Except Failure ThreadPool :=
  match tp.thread? id with
  | some t =>
    if t.running then .error (.note s!"thread {id} is already running")
    else .ok (tp.update id fun t => { t with running := true })
  | none => .ok tp

def stop (tp : ThreadPool) (id : Nat) : ThreadPool := tp.update id fun t => { t with running := false }

/-- Takes a thread back, stopping it first. -/
def push (tp : ThreadPool) (id : Nat) : Except Failure ThreadPool :=
  if tp.pool.lent id then
    let tp := tp.stop id
    (fun pool => { tp with pool := pool }) <$> tp.pool.push id
  else .error Failure.notPooled

/-- No longer lent, but running until `settle`, as while its function has not returned. -/
def reclaim (tp : ThreadPool) (id : Nat) : Except Failure ThreadPool :=
  (fun pool => { tp with pool := pool }) <$> tp.pool.reclaim id

/-- It stops and becomes idle. -/
def settle (tp : ThreadPool) (id : Nat) : ThreadPool :=
  let tp := tp.stop id
  { tp with pool := tp.pool.settle id }

def busy (tp : ThreadPool) : Nat := tp.pool.busy.length

def idle (tp : ThreadPool) : Nat := tp.pool.idle.length

/-- Whether threads made from now on stay on one operating-system thread. -/
def setLockOsThread (tp : ThreadPool) (lock : Bool) : ThreadPool := { tp with lockOsThread := lock }

end ThreadPool

end InferenceBroker
