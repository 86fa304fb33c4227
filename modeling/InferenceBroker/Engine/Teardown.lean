import InferenceBroker.Engine.Basic

/-!
# Stopping a worker, one step at a time

An engine's worker loops: it checks its stop channel without waiting and returns if it is
closed; otherwise it waits in a second select on the stop channel and the queue, takes
whichever is ready (either one, when both are) and runs the task. Taking the engine down
closes the stop channel, waits for the worker to return, and drains: the engine stops
accepting tasks and each task still queued fails with `engine k@v1: engine stopped`.
Submits go on meanwhile.

A move is one atomic step over the shared state and a run is a schedule of moves; a move that
is not enabled leaves the state as it is. The handler's work touches neither the channel nor
the queue, so running a task is part of taking it. A worker waiting with nothing ready commits
to the first case that becomes ready; here it may still choose, so the model has every run of
the program and more. The state keeps records no step reads: the tasks accepted, handed to
the handler and aborted, the queue and the worker's place when the channel closed, and the
tasks handed over after it closed.
-/

namespace InferenceBroker

/-- Stops accepting tasks and takes every task still queued. -/
def Engine.drain (e : Engine) : List Task × Engine :=
  (e.queue.items, { e with state := .draining, queue := e.queue.reset })

namespace Teardown

/-- Where the worker is in its loop. -/
inductive Loop where
  /-- at the head of the loop, before the check that does not wait -/
  | check
  /-- past the check, in the select on the stop channel and the queue -/
  | select
  | exited
  deriving DecidableEq, Repr

/-- A submit, the close of the stop channel, the worker's check, its select taking the closed
channel (`quit`) or the oldest task (`take`), and the drain once the worker has returned. -/
inductive Move where
  | submit (t : Task)
  | close
  | check
  | quit
  | take
  | drain

structure State where
  engine : Engine
  /-- the stop channel is closed -/
  closed : Bool
  worker : Loop
  accepted : List Task
  handled : List Task
  aborted : List (Task × Failure)
  /-- the queue when the channel closed -/
  pending : List Task
  /-- the worker was in its select when the channel closed -/
  polling : Bool
  /-- the tasks handed to the handler after the channel closed -/
  late : List Task

namespace State

def step (s : State) : Move → State
  | .submit t =>
    match s.engine.submit t with
    | (.ok (), e) => { s with engine := e, accepted := s.accepted ++ [t] }
    | (.error _, e) => { s with engine := e }
  | .close =>
    if s.closed then s
    else { s with closed := true, pending := s.engine.queue.items, polling := s.worker == .select }
  | .check => if s.worker = .check then { s with worker := if s.closed then .exited else .select } else s
  | .quit => if s.worker = .select ∧ s.closed then { s with worker := .exited } else s
  | .take =>
    match s.worker, s.engine.queue.take? with
    | .select, some (t, q) =>
      { s with engine := { s.engine with queue := q }, worker := .check, handled := s.handled ++ [t],
               late := if s.closed then s.late ++ [t] else s.late }
    | _, _ => s
  | .drain =>
    if s.worker = .exited ∧ s.engine.state = .ready then
      { s with engine := s.engine.drain.2, aborted := s.aborted ++ s.engine.drain.1.map (·, s.engine.stopped) }
    else s

end State

/-- A new engine's worker at the head of its loop, the engine ready with its queue empty. -/
def init (e : Engine) : State where
  engine := { e with state := .ready, queue := e.queue.reset }
  closed := false
  worker := .check
  accepted := []
  handled := []
  aborted := []
  pending := []
  polling := false
  late := []

def run (s : State) (σ : List Move) : State := σ.foldl State.step s

inductive Reachable (e : Engine) : State → Prop where
  | init : Reachable e (init e)
  | step {s : State} (m : Move) : Reachable e s → Reachable e (s.step m)

theorem Reachable.run {e : Engine} {s : State} (h : Reachable e s) (σ : List Move) :
    Reachable e (Teardown.run s σ) := by
  induction σ generalizing s with
  | nil => exact h
  | cons m σ ih => exact ih (.step m h)

end Teardown

end InferenceBroker
