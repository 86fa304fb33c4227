/-!
# Plugin events

A plugin reports the end of an asynchronous request as an event: a result or an error.
Events travel as plain numbers, so a plugin may also report a number that is neither;
such an event counts as an error wherever a result is told from an error.
-/

namespace InferenceBroker

structure Event where
  code : Int
  deriving DecidableEq, Repr, Inhabited

namespace Event

/-- The request completed; the response carries the result. -/
def result : Event := ⟨0⟩

/-- The request failed; the response carries the error. -/
def error : Event := ⟨1⟩

def name (e : Event) : String :=
  if e.code == 0 then "result" else if e.code == 1 then "error" else "unknown"

def isResult (e : Event) : Bool := e.code == 0

end Event

end InferenceBroker
