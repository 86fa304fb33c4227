import InferenceBroker.Engine.Basic
import InferenceBroker.Engine.Notifier
import InferenceBroker.Future.Table
import InferenceBroker.Pool.Thread
import InferenceBroker.Pool.Queues
import InferenceBroker.Config.Settings
import InferenceBroker.Config.Journal

/-!
# The dispatcher's state

The dispatcher binds transactions to engines, one per key, and routes requests: direct ones
wait for their answer, asynchronous ones get a future answered to the transaction's
listener. It lends engines threads and queues from pools of `maxEngines` each. The state is a
value, every operation a function of it; time is a nanosecond clock only operations move.

Some plugins wait at a gate that starts closed: a worker can be held inside the plugin, and a
start can wait in its preparation. Such a start, or a stop waiting for a held worker, stays in
`waiting` until the gate opens, holding its key's lock. The dispatcher also records what its
engines did with tasks; no answer reads that record.
-/

namespace InferenceBroker

/-- Sizes below one become the defaults. -/
def DispatcherSettings.effective (s : DispatcherSettings) : DispatcherSettings :=
  { s with
    maxEngines := if s.maxEngines ≤ 0 then 64 else s.maxEngines,
    queueCapacity := if s.queueCapacity ≤ 0 then 256 else s.queueCapacity,
    futureCapacity := if s.futureCapacity ≤ 0 then defaultFutureCapacity else s.futureCapacity }

inductive Background where
  /-- a start whose engine prepares once the gate opens -/
  | start (tx : UInt64) (engine : Nat) (input : Option Bytes)
  /-- a stop whose engine's worker is held at the gate -/
  | stop (tx : UInt64) (engine : Nat)
  /-- a start of a key whose lock an earlier waiting call holds -/
  | queued (tx : UInt64) (key : EngineKey) (input : Option Bytes)
  deriving Inhabited

/-- The outcome of starting or stopping a transaction's engine. -/
inductive Lifecycle where
  | started (output : Option Bytes)
  | stopped
  | failed (e : Failure)
  deriving Inhabited

def Lifecycle.failure? : Lifecycle → Option Failure
  | .failed e => some e
  | _ => none

inductive TaskEvent where
  | accepted (engine : Nat) (task : Task)
  | taken (engine : Nat) (task : Task)
  /-- the engine was taken down, failing the tasks left in its queue -/
  | drained (engine : Nat) (left : List Task)
  deriving Inhabited

def TaskEvent.engine : TaskEvent → Nat
  | .accepted i _ | .taken i _ | .drained i _ => i

structure Dispatcher (L : Type) where
  settings : DispatcherSettings
  loader : Loader
  threads : ThreadPool
  queues : QueuePool Task
  futures : FutureTable L
  /-- every engine, in any phase -/
  engines : List Engine := []
  clients : List (UInt64 × Nat) := []
  starting : List UInt64 := []
  counts : List (String × Nat) := []
  now : Nat := 0
  gateOpen : Bool := false
  /-- starts and stops waiting for the gate, in launch order -/
  waiting : List Background := []
  instances : Nat := 0
  /-- replies delivered to listeners, most recent first -/
  replies : List (Reply L) := []
  /-- answers of direct requests: ticket, when, what -/
  answers : List (Nat × Nat × Outcome) := []
  /-- the log, most recent first -/
  journal : List Entry := []
  nextEngine : Nat := 1
  nextTicket : Nat := 1
  /-- what the engines did with tasks, most recent first; no answer shows it -/
  taskEvents : List TaskEvent := []

abbrev Act (L : Type) := StateM (Dispatcher L)

namespace Dispatcher

variable {L : Type}

def make (settings : DispatcherSettings) (loader : Loader) : Dispatcher L :=
  let s := settings.effective
  { settings := s, loader := loader,
    threads := (ThreadPool.make s.maxEngines).setLockOsThread s.lockOsThread,
    queues := QueuePool.make s.maxEngines s.queueCapacity,
    futures := FutureTable.make s.futureCapacity maxSequence }

def note (e : Entry) : Act L Unit := modify fun d => { d with journal := e :: d.journal }

def noteAll (es : List Entry) : Act L Unit := es.forM note

def record (ev : TaskEvent) : Act L Unit := modify fun d => { d with taskEvents := ev :: d.taskEvents }

def engine? (d : Dispatcher L) (id : Nat) : Option Engine := d.engines.find? (·.id == id)

/-- Stores an engine, replacing the one of its serial number. -/
def putEngine (e : Engine) : Act L Unit :=
  modify fun d => { d with engines := d.engines.map fun x => if x.id == e.id then e else x }

def dropEngine (id : Nat) : Act L Unit :=
  modify fun d => { d with engines := d.engines.filter (·.id != id) }

/-- The serving engines, sorted by key. -/
def serving (d : Dispatcher L) : List Engine :=
  (d.engines.filter (·.phase == .serving)).mergeSort fun a b => a.key.compare b.key != .gt

def servingOf? (d : Dispatcher L) (key : EngineKey) : Option Engine :=
  d.engines.find? fun e => e.phase == .serving && e.key == key

/-- Whether a waiting start or stop of the key holds its lock. -/
def keyBusy (d : Dispatcher L) (key : EngineKey) : Bool :=
  d.waiting.any fun
    | .start _ eid _ | .stop _ eid => (d.engine? eid).any (·.key == key)
    | .queued _ k _ => k == key

/-- The bound transactions, in ascending order. -/
def transactions (d : Dispatcher L) : List UInt64 :=
  (d.clients.map (·.1)).mergeSort fun a b => a ≤ b

def lookup (d : Dispatcher L) (tx : UInt64) : Except Failure Engine :=
  match (d.clients.lookup tx).bind d.engine? with
  | some e => .ok e
  | none => .error (.within s!"transaction {tx.toNat}" Failure.noSuchEngine)

def count (series : String) : Act L Unit :=
  modify fun d =>
    match d.counts.lookup series with
    | some n => { d with counts := d.counts.map fun (k, v) => if k == series then (k, n + 1) else (k, v) }
    | none => { d with counts := d.counts ++ [(series, 1)] }

def countLifecycle (op : String) (err : Option Failure) : Act L Unit :=
  count s!"aibroker_engine_ops_total\x7bop=\"{op}\",code=\"{(Failure.codeOf err).name}\"\x7d"

def countRequest (mode : String) (err : Option Failure) : Act L Unit :=
  count s!"aibroker_requests_total\x7bmode=\"{mode}\",code=\"{(Failure.codeOf err).name}\"\x7d"

/-- Takes the replies delivered so far, in delivery order. -/
def takeReplies : Act L (List (Reply L)) := do
  let d ← get
  set { d with replies := [] }
  return d.replies.reverse

def entries (d : Dispatcher L) : List Entry := d.journal.reverse

end Dispatcher

end InferenceBroker
