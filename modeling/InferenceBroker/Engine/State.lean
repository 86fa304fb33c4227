/-!
# Engine lifecycle states

An engine is created, serves while ready, drains its queue when its last transaction
leaves, and is destroyed. On the wire a state is a 32-bit number in that order; a number
of no state reads as `unknown`.
-/

namespace InferenceBroker

inductive EngineState where
  | creating
  | ready
  | draining
  | destroyed
  deriving DecidableEq, Repr, Inhabited

namespace EngineState

def name : EngineState → String
  | .creating => "creating"
  | .ready => "ready"
  | .draining => "draining"
  | .destroyed => "destroyed"

/-- The state of a number: 0 to 3 in lifecycle order. -/
def ofCode? (n : Int32) : Option EngineState :=
  match n.toInt with
  | 0 => some .creating
  | 1 => some .ready
  | 2 => some .draining
  | 3 => some .destroyed
  | _ => none

def codeName (n : Int32) : String := ((ofCode? n).map name).getD "unknown"

end EngineState

end InferenceBroker
