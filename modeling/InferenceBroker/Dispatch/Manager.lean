import InferenceBroker.Dispatch.Worker

/-!
# Binding transactions to engines

A start reserves the transaction, makes its key's engine if there is none (thread, queue,
plugin, worker) and lets the plugin prepare; a failure undoes what the start made and names
the step (`thread for k@v1: …`, `queue for k@v1: …`, `load k@v1: …`, `prepare k@v1 for
transaction 3: …`). A stop lets the plugin release and unbinds; the last one takes the engine
down: the thread goes back once the worker is done, queued tasks fail with `engine stopped`,
the queue goes back and the plugin is unloaded. A start or stop waiting at the gate holds its
key's lock until the gate opens and finishes it.
-/

namespace InferenceBroker

namespace Dispatcher

variable {L : Type}

/-- Gives a thread back; a failure only goes to the journal. -/
def returnThread (key : EngineKey) (thread : Nat) : Act L Unit := do
  match (← get).threads.push thread with
  | .ok tp => modify fun d => { d with threads := tp }
  | .error err => note (Entry.error "engine" s!"failed to return thread {thread} of {key.render}: {err.message}")

/-- Gives a queue back emptied; a failure only goes to the journal. -/
def returnQueue (key : EngineKey) (queue : Nat) : Act L Unit := do
  let d ← get
  let qp := match d.queues.queue? queue with
    | some q => d.queues.setQueue queue q.reset
    | none => d.queues
  match qp.push queue with
  | .ok qp => set { d with queues := qp }
  | .error err =>
    set { d with queues := qp }
    note (Entry.error "engine" s!"failed to return queue of {key.render}: {err.message}")

/-- Unloads a plugin; a failure only goes to the journal, at `level`. -/
def unloadPlugin (key : EngineKey) (ld : Loaded) (level : LogLevel) : Act L Unit := do
  let (r, _, notes) := Loader.unload ld
  unless ld.unloaded do modify fun d => { d with instances := d.instances - 1 }
  noteAll notes
  if let .error err := r then note ⟨level, "engine", s!"failed to unload {key.render}: {err.message}"⟩

def wrongMode (key : EngineKey) (mode : InferMode) : Failure :=
  .within s!"plugin {key.render} reports mode {Quote.string mode.word}" Failure.wrongInferMode

/-- Makes the engine of a key: a thread, a queue, the plugin and a running worker; not yet visible. -/
def createEngine (key : EngineKey) : Act L (Except Failure Nat) := do
  let d ← get
  match d.threads.pop with
  | .error err => return .error (.within s!"thread for {key.render}" err)
  | .ok (thread, tp) =>
  set { d with threads := tp }
  match (← get).queues.pop with
  | .error err =>
    returnThread key thread.id
    return .error (.within s!"queue for {key.render}" err)
  | .ok (qid, qp) =>
  modify fun d => { d with queues := qp }
  let (loaded, notes) := (← get).loader.load key
  noteAll notes
  match loaded with
  | .error err =>
    returnQueue key qid
    returnThread key thread.id
    return .error (.within s!"load {key.render}" err)
  | .ok ld =>
  modify fun d => { d with instances := d.instances + 1 }
  let mode := ld.plugin.mode
  if mode != .sync && mode != .async then
    unloadPlugin key ld .warning
    returnQueue key qid
    returnThread key thread.id
    return .error (wrongMode key mode)
  let d ← get
  let queue := ((d.queues.queue? qid).getD (BoundedQueue.make d.settings.queueCapacity)).reset
  let e : Engine :=
    { id := d.nextEngine, key := key, loaded := ld, mode := mode, thread := thread.id,
      queueId := qid, queue := queue, freeAt := d.now }
  match d.threads.start thread.id with
  | .error err =>
    set { d with nextEngine := d.nextEngine + 1 }
    unloadPlugin key ld .warning
    returnQueue key qid
    returnThread key thread.id
    return .error err
  | .ok tp =>
  set { d with threads := tp, nextEngine := d.nextEngine + 1,
               engines := d.engines ++ [{ e with state := .ready }] }
  note (Entry.debug "engine" s!"worker of {key.render} started")
  return .ok e.id

/-- Fails the tasks left in the queue, gives the queue back, unloads the plugin and forgets
the engine, whose worker has stopped. -/
def dismantle (eid : Nat) : Act L Unit := do
  let some e := (← get).engine? eid | return
  let left := e.queue.items
  putEngine { e with state := .draining, queue := e.queue.reset }
  record (.drained eid left)
  for t in left do
    match t.ticket with
    | some ticket => answer ticket (← get).now ⟨none, some e.stopped⟩
    | none => deliver eid (← get).now .error (Response.failure t.request (some e.stopped))
  unless left.isEmpty do
    note (Entry.warn "engine" s!"engine {e.key.render} failed {left.length} queued tasks on teardown")
  returnQueue e.key e.queueId
  unloadPlugin e.key e.loaded .error
  dropEngine eid

/-- Takes an engine down; a worker held at the gate keeps the thread until the gate opens, the
engine then waits closing and the answer is `false`. -/
def destroyEngine (eid : Nat) : Act L Bool := do
  let some e := (← get).engine? eid | return true
  if e.held.isSome then
    match (← get).threads.reclaim e.thread with
    | .ok tp => modify fun d => { d with threads := tp }
    | .error err => note (Entry.error "engine" s!"failed to return thread {e.thread} of {e.key.render}: {err.message}")
    putEngine { e with phase := .closing }
    return false
  note (Entry.debug "engine" s!"worker of {e.key.render} stopped")
  returnThread e.key e.thread
  dismantle eid
  return true

def finishDestroy (eid : Nat) : Act L Unit := do
  let some e := (← get).engine? eid | return
  note (Entry.debug "engine" s!"worker of {e.key.render} stopped")
  modify fun d => { d with threads := d.threads.settle e.thread }
  dismantle eid
  note (Entry.info "engine" s!"engine {e.key.render} stopped")

def unreserve (tx : UInt64) : Act L Unit :=
  modify fun d => { d with starting := d.starting.filter (· != tx) }

/-- Lets the plugin prepare a transaction and binds it, or undoes a new engine. -/
def prepareOn (tx : UInt64) (eid : Nat) (input : Option Bytes) (created : Bool) : Act L Lifecycle := do
  let some e := (← get).engine? eid | return .failed (.within s!"transaction {tx.toNat}" Failure.noSuchEngine)
  let (r, e) := e.call "prepare" fun p => p.prepare tx input
  putEngine e
  match r with
  | .error err =>
    if created then discard <| destroyEngine eid
    unreserve tx
    return .failed (.within s!"prepare {e.key.render} for transaction {tx.toNat}" err)
  | .ok out =>
    let e := { e with refs := e.refs + 1, phase := .serving }
    putEngine e
    modify fun d => { d with clients := d.clients ++ [(tx, eid)] }
    unreserve tx
    if created then
      note (Entry.info "engine" s!"engine {e.key.render} started ({e.mode.word}) for transaction {tx.toNat}")
    else
      note (Entry.debug "engine" s!"transaction {tx.toNat} bound to engine {e.key.render} ({e.refs} refs)")
    return .started out

/-- Starts a reserved transaction, holding the key's lock; `none`: it waits at the gate. -/
def startReserved (tx : UInt64) (key : EngineKey) (input : Option Bytes) : Act L (Option Lifecycle) := do
  let (eid, created) ← match (← get).servingOf? key with
    | some e => pure (.ok e.id, false)
    | none => do pure ((← createEngine key), true)
  match eid with
  | .error err =>
    unreserve tx
    return some (.failed err)
  | .ok eid =>
    let d ← get
    match d.engine? eid with
    | some e =>
      if e.plugin.preparesAfterGate && !d.gateOpen then
        set { d with waiting := d.waiting ++ [Background.start tx eid input] }
        return none
      else return some (← prepareOn tx eid input created)
    | none => return some (← prepareOn tx eid input created)

/-- Starts a transaction; `none`: it waits at the gate, or behind a waiting start or stop of the key. -/
def startEngine (tx : UInt64) (key : EngineKey) (input : Option Bytes) : Act L (Option Lifecycle) := do
  let d ← get
  if (d.clients.lookup tx).isSome then
    return some (.failed (.within s!"transaction {tx.toNat}" Failure.alreadyBound))
  if d.starting.contains tx then
    return some (.failed (.within s!"transaction {tx.toNat} is starting" Failure.alreadyBound))
  set { d with starting := d.starting ++ [tx] }
  if d.keyBusy key then
    modify fun d => { d with waiting := d.waiting ++ [Background.queued tx key input] }
    return none
  startReserved tx key input

/-- Stops a transaction; `none`: it waits at the gate. -/
def stopEngine (tx : UInt64) (input : Option Bytes) : Act L (Option Lifecycle) := do
  let _ := input
  match (← get).lookup tx with
  | .error err => return some (.failed err)
  | .ok e =>
    let full := e.refs == 1
    let (r, e) := e.call "release" fun p => p.release full tx
    putEngine e
    match r with
    | .error err => return some (.failed (.within s!"release {e.key.render} for transaction {tx.toNat}" err))
    | .ok () =>
      let remaining := e.refs - 1
      putEngine { e with refs := remaining, phase := if remaining == 0 then .closing else e.phase }
      modify fun d => { d with clients := d.clients.filter (·.1 != tx) }
      if remaining == 0 then
        if ← destroyEngine e.id then
          note (Entry.info "engine" s!"engine {e.key.render} stopped")
        else
          modify fun d => { d with waiting := d.waiting ++ [Background.stop tx e.id] }
          return none
      return some .stopped

def notFound (err : Failure) : Failure :=
  if err.isOf Failure.noSuchEngine then .pair Failure.engineNotFound err else err

def setOption (tx : UInt64) (t : Int32) (input : Option Bytes) : Act L (Except Failure Unit) := do
  match (← get).lookup tx with
  | .error err => return .error (notFound err)
  | .ok e =>
    let (r, e) := e.call "set option" fun p => p.setOption t input
    putEngine e
    return r

def getOption (tx : UInt64) (t : Int32) : Act L (Except Failure (Option Bytes)) := do
  match (← get).lookup tx with
  | .error err => return .error (notFound err)
  | .ok e =>
    let (r, e) := e.call "get option" fun p => (p.getOption t, p)
    putEngine e
    return r

end Dispatcher

end InferenceBroker
