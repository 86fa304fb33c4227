import InferenceBroker.Text.Decimal

/-!
# Engine counters

What an engine counts: requests accepted into its queue, refused because the queue was
full, processed by its worker, failed in the plugin, and direct callers that gave up
waiting. The sizes of accepted payloads give their mean (a binary64 value, printed as
its shortest decimal) and their maximum.
-/

namespace InferenceBroker

structure Counters where
  submitted : Nat := 0
  rejected : Nat := 0
  processed : Nat := 0
  failed : Nat := 0
  timeouts : Nat := 0
  /-- sizes of accepted payloads, most recent first -/
  payloads : List Nat := []
  deriving Repr, Inhabited, DecidableEq

namespace Counters

def accept (c : Counters) (size : Nat) : Counters :=
  { c with submitted := c.submitted + 1, payloads := size :: c.payloads }

/-- Counts a request refused by a full queue. -/
def reject (c : Counters) : Counters := { c with rejected := c.rejected + 1 }

def finish (c : Counters) : Counters := { c with processed := c.processed + 1 }

def fail (c : Counters) : Counters := { c with failed := c.failed + 1 }

def giveUp (c : Counters) : Counters := { c with timeouts := c.timeouts + 1 }

/-- The JSON text of the mean payload size; `0` before any payload. -/
def meanText (c : Counters) : String :=
  Decimal.ratioText (c.payloads.foldr (· + ·) 0) c.payloads.length

def maxPayload (c : Counters) : Nat := c.payloads.foldl max 0

theorem accept_submitted (c : Counters) (size : Nat) :
    (c.accept size).submitted = c.submitted + 1 := rfl

end Counters

end InferenceBroker
