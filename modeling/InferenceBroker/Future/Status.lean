/-!
# Future status

A future is pending until the plugin answers, then holds a result or an error. On the
wire a status is a number in that order; a number of no status reads as `unknown`.
-/

namespace InferenceBroker

inductive FutureStatus where
  | pending
  | ok
  | error
  deriving DecidableEq, Repr, Inhabited

namespace FutureStatus

def name : FutureStatus → String
  | .pending => "pending"
  | .ok => "ok"
  | .error => "error"

/-- The status of a number: 0 to 2 in the order above. -/
def ofCode? (n : Int) : Option FutureStatus :=
  match n with
  | 0 => some .pending
  | 1 => some .ok
  | 2 => some .error
  | _ => none

def codeName (n : Int) : String := ((ofCode? n).map name).getD "unknown"

end FutureStatus

end InferenceBroker
