import InferenceBroker.Core.Failure

/-!
# Log levels

Four levels, from the most to the least severe: error, warning, info, debug. A level is
named case-insensitively, `warn` standing for warning; blanks around the name are not
trimmed.
-/

namespace InferenceBroker

inductive LogLevel where
  | error
  | warning
  | info
  | debug
  deriving DecidableEq, Repr, Inhabited

namespace LogLevel

/-- The rank of a level: 0 for error up to 3 for debug. -/
def rank : LogLevel → Nat
  | .error => 0
  | .warning => 1
  | .info => 2
  | .debug => 3

/-- Lower-cases `A` to `Z`, U+0130 (to `i`) and the Kelvin sign (to `k`): no other letter
lower-cases into a level name. -/
def lowerAscii (s : String) : String :=
  String.ofList (s.toList.map fun c =>
    if 'A' ≤ c ∧ c ≤ 'Z' then Char.ofNat (c.toNat + 32)
    else if c.toNat == 0x130 then 'i'
    else if c.toNat == 0x212A then 'k'
    else c)

def parse (level : String) : Except Failure LogLevel :=
  match lowerAscii level with
  | "debug" => .ok .debug
  | "info" => .ok .info
  | "warning" | "warn" => .ok .warning
  | "error" => .ok .error
  | _ => .error (.note s!"invalid log level: {level}. must be one of debug, info, warn, error")

end LogLevel

end InferenceBroker
