import InferenceBroker.Core.Exchange
import InferenceBroker.Core.Event
import InferenceBroker.Text.Duration

/-!
# Outcomes of plugin calls

A call into a plugin returns a value, fails with a failure, or panics with a message
that whoever called the plugin turns into a failure of its own. Asynchronous requests
end in callbacks: made before the call returns, made later by the plugin (after its
processing delay), or held back until a shared gate opens.
-/

namespace InferenceBroker

inductive Call (α : Type) where
  | done (a : α)
  | failed (e : Failure)
  | panicked (msg : String)
  deriving Inhabited

namespace Call

variable {α β : Type}

def map (f : α → β) : Call α → Call β
  | .done a => .done (f a)
  | .failed e => .failed e
  | .panicked m => .panicked m

end Call

/-- The callbacks of an accepted asynchronous request. -/
inductive Delivery where
  /-- Made while the request is being handed over. -/
  | now (events : List (Event × Response))
  /-- Made by the plugin on its own, after `after`. -/
  | later (after : Duration) (events : List (Event × Response))
  /-- Made while the request is handed over, once the gate is open. -/
  | gated (events : List (Event × Response))
  deriving Inhabited

namespace Delivery

def events : Delivery → List (Event × Response)
  | .now es => es
  | .later _ es => es
  | .gated es => es

end Delivery

end InferenceBroker
