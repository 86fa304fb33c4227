import InferenceBroker.Config.LogLevel

/-!
# Journal entries

Components report what they do as journal entries: a level, the name of the reporting
component, and the text. An entry is written as one line: the level word padded to five
characters, the component padded to fifteen, and the text, separated by bars. A logger
set to a level writes the entries of that level and of the more severe ones.
-/

namespace InferenceBroker

structure Entry where
  level : LogLevel
  source : String
  text : String
  deriving Repr, Inhabited

namespace LogLevel

def word : LogLevel → String
  | .error => "ERROR"
  | .warning => "WARN"
  | .info => "INFO"
  | .debug => "DEBUG"

end LogLevel

namespace Entry

def pad (n : Nat) (s : String) : String := s ++ String.ofList (List.replicate (n - s.length) ' ')

def render (e : Entry) : String := pad 5 e.level.word ++ " | " ++ pad 15 e.source ++ " | " ++ e.text

/-- Whether a logger set to `limit` writes the entry. -/
def shown (limit : LogLevel) (e : Entry) : Bool := e.level.rank ≤ limit.rank

def info (source text : String) : Entry := ⟨.info, source, text⟩

def debug (source text : String) : Entry := ⟨.debug, source, text⟩

def warn (source text : String) : Entry := ⟨.warning, source, text⟩

def error (source text : String) : Entry := ⟨.error, source, text⟩

end Entry

end InferenceBroker
