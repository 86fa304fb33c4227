import InferenceBroker.Dispatch.Manager

/-!
# Requests, the gate, and closing

The public operations, each counted in the metrics by its outcome's code. A direct request
is queued on its transaction's engine and waits at most the configured time (zero: no
limit); a caller that gives up counts a timeout, while the worker still finishes the task.
An asynchronous request first gets a future, given back if the engine refuses. Opening the
gate lets held workers finish and finishes the waiting starts and stops in launch order;
closing stops every transaction, drops futures and listeners, and reports lent threads.
-/

namespace InferenceBroker

namespace Dispatcher

variable {L : Type}

def nilRequest : Failure := .within "nil request" Failure.invalidArgument

/-- The engine serving a request's transaction, refused unless it runs in `mode`. -/
def engineFor (req : Request) (mode : InferMode) : Act L (Except Failure Engine) := do
  match (← get).lookup req.transactionId with
  | .error err => return .error (notFound err)
  | .ok e =>
    if e.mode == mode then return .ok e
    else return .error (.within s!"engine {e.key.render} is {e.mode.word}" Failure.wrongInferMode)

def directRequest (req : Request) : Act L (Except Failure (Option Response)) := do
  match ← engineFor req .sync with
  | .error err => return .error err
  | .ok e =>
    let d ← get
    let ticket := d.nextTicket
    let task : Task := ⟨req, some ticket, d.now⟩
    let (r, e) := e.submit task
    set { d with nextTicket := ticket + 1 }
    putEngine e
    match r with
    | .error err => return .error err
    | .ok () =>
      record (.accepted e.id task)
      let limit := (← get).settings.syncTimeout
      let deadline := if limit.nanos > 0 then d.now + limit.nanos.toNat else never
      workEngine e.id deadline
      let d ← get
      match d.answers.find? (·.1 == ticket) with
      | some (_, moment, o) =>
        if moment ≤ deadline then
          set { d with answers := d.answers.filter (·.1 != ticket), now := max d.now moment }
          workAll (← get).now
          match o.failure with
          | some err => return .error err
          | none => return .ok o.response
        else giveUp e.id ticket deadline limit
      | none => giveUp e.id ticket deadline limit
where
  giveUp (eid ticket deadline : Nat) (limit : Duration) : Act L (Except Failure (Option Response)) := do
    let some e := (← get).engine? eid | return .error Failure.timeout
    putEngine { e with counters := e.counters.giveUp }
    modify fun d => { d with answers := d.answers.filter (·.1 != ticket), now := max d.now deadline }
    workAll (← get).now
    return .error (.within s!"engine {e.key.render} after {limit.render}" Failure.timeout)

/-- The future's sequence number and the request as sent. -/
def asyncRequest (req : Request) : Act L (Except Failure (Nat × Request)) := do
  match ← engineFor req .async with
  | .error err => return .error err
  | .ok e =>
    let d ← get
    match d.futures.create req.transactionId with
    | .error err => return .error err
    | .ok (seq, futures) =>
      let req := { req with requestId := UInt64.ofNat seq }
      let task : Task := ⟨req, none, d.now⟩
      let (r, e) := e.submit task
      set { d with futures := futures }
      putEngine e
      match r with
      | .error err =>
        match (← get).futures.release seq with
        | .ok futures => modify fun d => { d with futures := futures }
        | .error rerr => note (Entry.warn "engine" s!"failed to release future {seq}: {rerr.message}")
        return .error err
      | .ok () =>
        record (.accepted e.id task)
        workEngine e.id (← get).now
        return .ok (seq, req)

/-- Starts a transaction: its outcome, or `none` while it waits at the gate. -/
def start (tx : UInt64) (key : EngineKey) (input : Option Bytes) : Act L (Option Lifecycle) := do
  let r ← startEngine tx key input
  if let some o := r then countLifecycle "start" o.failure?
  return r

/-- Stops a transaction: its outcome, or `none` while it waits at the gate. -/
def stop (tx : UInt64) (input : Option Bytes) : Act L (Option Lifecycle) := do
  let r ← stopEngine tx input
  if let some o := r then countLifecycle "stop" o.failure?
  return r

def syncExecute (req : Option Request) : Act L (Except Failure (Option Response)) := do
  let r ← match req with
    | none => pure (.error nilRequest)
    | some req => directRequest req
  countRequest "sync" (match r with | .error e => some e | .ok _ => none)
  return r

def asyncExecute (req : Option Request) : Act L (Except Failure (Nat × Request)) := do
  let r ← match req with
    | none => pure (.error nilRequest)
    | some req => asyncRequest req
  countRequest "async" (match r with | .error e => some e | .ok _ => none)
  return r

/-- Finishes a start or stop that waited for the gate, counted. -/
def finishWaiting : Background → Act L (Option Lifecycle)
  | .start tx eid input => do
    let o ← prepareOn tx eid input true
    countLifecycle "start" o.failure?
    pure (some o)
  | .stop _ eid => do
    finishDestroy eid
    countLifecycle "stop" none
    pure (some Lifecycle.stopped)
  | .queued tx key input => do
    -- the gate is open now, so the start does not wait again
    let o ← startReserved tx key input
    if let some o := o then countLifecycle "start" o.failure?
    pure o

/-- Held workers finish their tasks; waiting starts and stops finish in launch order. -/
def openGate : Act L (List Lifecycle) := do
  modify fun d => { d with gateOpen := true }
  for e in (← get).engines do
    if e.held.isSome then release e.id
  let waiting := (← get).waiting
  modify fun d => { d with waiting := [] }
  let results ← waiting.mapM finishWaiting
  workAll (← get).now
  return results.filterMap id

/-- Stops every transaction and drops every future and listener. -/
def close : Act L (Option Failure) := do
  let mut err : Option Failure := none
  for tx in (← get).transactions do
    if let some (.failed e) ← stopEngine tx none then
      unless e.isOf Failure.noSuchEngine do err := Failure.append err (some e)
  let dropped := (← get).futures.pending.length
  modify fun d => { d with futures := d.futures.close }
  if dropped > 0 then note (Entry.warn "future" s!"dropped {dropped} pending futures on close")
  let busy := (← get).threads.busy
  if busy > 0 then
    err := Failure.append err (some (.note s!"{busy} engines still running after close"))
  if let some e := err then note (Entry.warn "dispatcher" s!"dispatcher closed with errors: {e.message}")
  return err

def registerListener (tx : UInt64) (l : Option L) : Act L (Except Failure Unit) := do
  match l with
  | none => return .error (.within "nil listener" Failure.invalidArgument)
  | some l =>
    modify fun d => { d with futures := d.futures.register tx l }
    return .ok ()

def unregisterListener (tx : UInt64) : Act L Bool := do
  let (removed, futures) := (← get).futures.unregister tx
  modify fun d => { d with futures := futures }
  return removed

def stats (d : Dispatcher L) : List EngineStats := d.serving.map Engine.stats

/-- The counters and the gauges of engines, transactions, threads and futures, sorted. -/
def metricLines (d : Dispatcher L) : List String :=
  let gauges := [("aibroker_engines", d.serving.length), ("aibroker_transactions", d.clients.length),
    ("aibroker_threads_busy", d.threads.busy), ("aibroker_threads_idle", d.threads.idle),
    ("aibroker_futures_pending", d.futures.pending.length)]
  let all := (gauges ++ d.counts).mergeSort fun a b => a.1 ≤ b.1
  all.map fun (k, v) => s!"{k} {v}"

end Dispatcher

end InferenceBroker
