import InferenceBroker.Core.Exchange
import InferenceBroker.Text.Duration

/-!
# Notifiers

A synchronous caller waits on a notifier until the engine resolves it with a response,
a failure or both. The first resolution wins; later ones are ignored. A wait ends early
when the caller's context ends (canceled, or its deadline passed) or when its timeout
elapses; a timeout of zero or less waits without limit.
-/

namespace InferenceBroker

/-- What a waiting caller gets: a response, a failure, or both. -/
structure Outcome where
  response : Option Response
  failure : Option Failure

/-- How the waiting caller's context stands when the wait starts. -/
inductive WaitContext where
  | background
  /-- A context canceled before the wait. -/
  | canceled
  /-- A context whose deadline has passed. -/
  | deadlinePassed
  deriving DecidableEq, Repr, Inhabited

structure Notifier where
  resolution : Option Outcome := none

namespace Notifier

/-- Resolves the notifier unless it is resolved already. -/
def resolve (n : Notifier) (o : Outcome) : Notifier :=
  match n.resolution with
  | some _ => n
  | none => { resolution := some o }

def done (n : Notifier) : Bool := n.resolution.isSome

/-- The failure of a context whose deadline passed. -/
def deadlineFailure : Failure := .pair Failure.timeout (.note "context deadline exceeded")

/-- The resolution if resolved, else the end of the context, else the timeout. -/
def wait (n : Notifier) (ctx : WaitContext) (_timeout : Duration) : Outcome :=
  match n.resolution, ctx with
  | some o, _ => o
  | none, .canceled => ⟨none, some (.note "context canceled")⟩
  | none, .deadlinePassed => ⟨none, some deadlineFailure⟩
  | none, .background => ⟨none, some Failure.timeout⟩

theorem resolve_resolve (n : Notifier) (a b : Outcome) : (n.resolve a).resolve b = n.resolve a := by
  rcases n with ⟨_ | _⟩ <;> rfl

end Notifier

end InferenceBroker
