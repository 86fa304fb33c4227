/-!
# Engine keys

An engine is addressed by an algorithm id and a version. Keys are ordered
lexicographically: the ids by their UTF-8 bytes (which for strings is the order of their
code points), then the versions as signed 64-bit integers. A key is written
`id@v<version>`.
-/

namespace InferenceBroker

/-- An algorithm id and a version. -/
structure EngineKey where
  algorithm : String
  version : Int64
deriving DecidableEq, Repr, Inhabited

namespace EngineKey

/-- The three-way order of keys: id first, then version. -/
def compare (a b : EngineKey) : Ordering :=
  match Ord.compare a.algorithm b.algorithm with
  | .eq => Ord.compare a.version.toInt b.version.toInt
  | o => o

def lt (a b : EngineKey) : Bool := a.compare b == .lt

def render (k : EngineKey) : String := s!"{k.algorithm}@v{k.version.toInt}"

/-- The order as `-1`, `0` or `1`. -/
def compareSign (a b : EngineKey) : Int :=
  match a.compare b with
  | .lt => -1
  | .eq => 0
  | .gt => 1

end EngineKey

end InferenceBroker
