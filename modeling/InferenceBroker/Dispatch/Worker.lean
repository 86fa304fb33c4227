import InferenceBroker.Dispatch.Basic

/-!
# Engine workers

A worker takes its queue's tasks in order, each when free, and runs it in the plugin: a
direct request gets the answer or failure (`no response from k@v1: plugin failed`) and keeps
the worker busy as long as the plugin takes; an asynchronous one hands the plugin's events to
the futures, each event other than a result counting a failure (a refusal reports an error
event); a panic counts a failure (`panic in k@v1: …`). A plugin waiting at the closed gate
holds its worker with the task until the gate opens. A worker of an engine being taken down
takes nothing more.
-/

namespace InferenceBroker

namespace Dispatcher

variable {L : Type}

def failOn (eid : Nat) : Act L Unit := do
  if let some e := (← get).engine? eid then putEngine { e with counters := e.counters.fail }

def finishOn (eid : Nat) : Act L Unit := do
  if let some e := (← get).engine? eid then putEngine { e with counters := e.counters.finish }

/-- Hands an event made at `moment` to the futures: the reply goes to the transaction's
listener, or the journal says why it was dropped. -/
def deliver (eid moment : Nat) (event : Event) (resp : Response) : Act L Unit := do
  unless event.isResult do failOn eid
  let d ← get
  let some e := d.engine? eid | return
  let (r, futures) := d.futures.respond event (some resp)
  set { d with futures := futures }
  match r with
  | .ok reply => modify fun d => { d with replies := { reply with moment := moment } :: d.replies }
  | .error err =>
    let text := s!"engine {e.key.render} dropped {event.name} response: {err.message}"
    note (if err.isOf Failure.noListenerFound then Entry.debug "engine" text else Entry.warn "engine" text)

def deliverAll (eid moment : Nat) (events : List (Event × Response)) : Act L Unit :=
  events.forM fun ev => deliver eid moment ev.1 ev.2

def answer (ticket moment : Nat) (o : Outcome) : Act L Unit :=
  modify fun d => { d with answers := (ticket, moment, o) :: d.answers }

def runDirect (e : Engine) (ticket : Nat) (t : Task) (start : Nat) : Act L Unit := do
  let (c, took, p) := e.plugin.syncProcess t.request
  let e := e.withPlugin p
  let finish := start + took.nanos.toNat
  putEngine { e with freeAt := finish }
  let o : Outcome ← match c with
    | .done (some r) => pure ⟨some r, none⟩
    | .done none =>
      failOn e.id
      pure ⟨none, some (.within s!"no response from {e.key.render}" Failure.pluginFailed)⟩
    | .failed err =>
      failOn e.id
      pure ⟨none, some err⟩
    | .panicked msg =>
      note (Entry.error "engine" s!"plugin of {e.key.render} panicked: {msg}")
      failOn e.id
      pure ⟨none, some (e.panicked msg)⟩
  finishOn e.id
  answer ticket finish o

def runAsync (e : Engine) (t : Task) (start : Nat) : Act L Unit := do
  let (c, p) := e.plugin.asyncProcess t.request
  let e := { e.withPlugin p with freeAt := start }
  putEngine e
  match c with
  | .done (.gated events) =>
    if (← get).gateOpen then
      deliverAll e.id start events
      finishOn e.id
    else putEngine { e with held := some (t, events) }
  | .done delivery =>
    let moment := match delivery with
      | .later after _ => start + after.nanos.toNat
      | _ => start
    deliverAll e.id moment delivery.events
    finishOn e.id
  | .failed err =>
    deliver e.id start .error (Response.failure t.request (some err))
    finishOn e.id
  | .panicked msg =>
    note (Entry.error "engine" s!"plugin of {e.key.render} panicked: {msg}")
    failOn e.id
    deliver e.id start .error (Response.failure t.request (some (e.panicked msg)))
    finishOn e.id

def runTask (eid : Nat) (t : Task) (start : Nat) : Act L Unit := do
  let some e := (← get).engine? eid | return
  match t.ticket with
  | some ticket => runDirect e ticket t start
  | none => runAsync e t start

/-- Lets an engine's worker take the tasks it reaches by `horizon`, at most `fuel`. -/
def workUntil (eid horizon : Nat) : Nat → Act L Unit
  | 0 => pure ()
  | fuel + 1 => do
    let some e := (← get).engine? eid | return
    if e.held.isSome || e.phase == .closing || e.freeAt > horizon then return
    match e.queue.take? with
    | none => return
    | some (task, q) =>
      putEngine { e with queue := q }
      record (.taken eid task)
      runTask eid task (max e.freeAt task.enqueued)
      workUntil eid horizon fuel

def workEngine (eid horizon : Nat) : Act L Unit := do
  let some e := (← get).engine? eid | return
  workUntil eid horizon (e.queue.count + 1)

def workAll (horizon : Nat) : Act L Unit := do
  for e in (← get).engines do workEngine e.id horizon

def never : Nat := Nat.pow 2 80

/-- Lets every worker run until idle or held; the clock moves to the last finish. -/
def settle : Act L Unit := do
  workAll never
  modify fun d => { d with now := d.engines.foldl (fun t e => max t e.freeAt) d.now }

/-- A held worker finishes: the plugin's events go out and the task counts processed. -/
def release (eid : Nat) : Act L Unit := do
  let some e := (← get).engine? eid | return
  let some (_, events) := e.held | return
  putEngine { e with held := none }
  deliverAll eid (← get).now events
  finishOn eid

end Dispatcher

end InferenceBroker
