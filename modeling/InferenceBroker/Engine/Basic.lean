import InferenceBroker.Plugin.Loader
import InferenceBroker.Queue.Bounded
import InferenceBroker.Engine.State
import InferenceBroker.Engine.Counters

/-!
# Engines

An engine serves one plugin under one key for every transaction bound to it, with a worker
thread and a bounded queue; requests are accepted only while it is ready, a full queue
refusing them (`engine k@v1: queue full`). The worker is busy until `freeAt` on the
dispatcher's clock, and may be held inside the plugin with a task until the gate opens. An
engine shutting down and its successor under the same key coexist, told apart by serial number.
-/

namespace InferenceBroker

/-- A request waiting for an engine's worker. -/
structure Task where
  request : Request
  /-- the direct caller's ticket; none for an asynchronous request, answered to its future -/
  ticket : Option Nat
  enqueued : Nat
  deriving Inhabited

/-- Being started (not yet visible), serving, or being taken down (no longer visible). -/
inductive Phase where
  | opening
  | serving
  | closing
  deriving DecidableEq, Repr, Inhabited

structure Engine where
  id : Nat
  key : EngineKey
  loaded : Loaded
  mode : InferMode
  thread : Nat
  queueId : Nat
  queue : BoundedQueue Task
  state : EngineState := .creating
  phase : Phase := .opening
  refs : Nat := 0
  counters : Counters := {}
  freeAt : Nat := 0
  /-- the task held inside the plugin until the gate opens, with the events reported then -/
  held : Option (Task × List (Event × Response)) := none
  deriving Inhabited

structure EngineStats where
  key : EngineKey
  mode : InferMode
  state : EngineState
  refs : Nat
  thread : Nat
  queueLen : Nat
  queueCap : Nat
  counters : Counters

namespace Engine

def plugin (e : Engine) : Plugin := e.loaded.plugin

def withPlugin (e : Engine) (p : Plugin) : Engine := { e with loaded := { e.loaded with plugin := p } }

def stats (e : Engine) : EngineStats :=
  { key := e.key, mode := e.mode, state := e.state, refs := e.refs, thread := e.thread,
    queueLen := e.queue.count, queueCap := e.queue.capacity, counters := e.counters }

def notReady (e : Engine) : Failure :=
  .within s!"engine {e.key.render} is {e.state.name}" Failure.engineStopped

/-- Queues a task: refused unless ready, counted rejected when the queue is full. -/
def submit (e : Engine) (t : Task) : Except Failure Unit × Engine :=
  if e.state != .ready then (.error e.notReady, e)
  else
    match e.queue.push t with
    | .error err =>
      (.error (.within s!"engine {e.key.render}" err), { e with counters := e.counters.reject })
    | .ok q =>
      let size := (t.request.payload.getD []).length
      (.ok (), { e with queue := q, counters := e.counters.accept size })

/-- Calls the plugin outside the worker: refused unless ready; a panic becomes a failure
naming the operation. -/
def call {α : Type} (e : Engine) (op : String) (f : Plugin → Call α × Plugin) :
    Except Failure α × Engine :=
  if e.state != .ready then (.error e.notReady, e)
  else
    let (c, p) := f e.plugin
    let e := e.withPlugin p
    match c with
    | .done a => (.ok a, e)
    | .failed err => (.error err, e)
    | .panicked msg =>
      (.error (.within s!"panic in {op} of {e.key.render}: {msg}" Failure.pluginFailed), e)

/-- The failure of a task left queued when the engine is taken down. -/
def stopped (e : Engine) : Failure := .within s!"engine {e.key.render}" Failure.engineStopped

def panicked (e : Engine) (msg : String) : Failure :=
  .within s!"panic in {e.key.render}: {msg}" Failure.pluginFailed

theorem submit_not_ready (e : Engine) (t : Task) (h : e.state ≠ .ready) :
    e.submit t = (.error e.notReady, e) := by
  simp [submit, h]

end Engine

end InferenceBroker
