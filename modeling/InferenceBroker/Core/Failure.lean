import InferenceBroker.Core.Code

/-!
# Failures

A failure is a chain of causes: a *status* (code and message) or a bare *note* at the bottom,
contexts adding a lead text, `pair` (`a: b`) and `several` (`a; b`). Its code is its first
status's, depth first, else `operationFailed` (`Failure.code`). A status *matches* a target
with the same code whose message is its message or one of its `": "` segments
(`Failure.statusMatches`); a failure is *of* a target when a status of it matches (`Failure.isOf`).
-/

namespace InferenceBroker

inductive Failure where
  | status (code : Code) (message : String)
  | note (message : String)
  /-- `lead: cause` -/
  | within (lead : String) (cause : Failure)
  /-- `first: second` -/
  | pair (first second : Failure)
  /-- joined by `; ` -/
  | several (items : List Failure)
deriving Inhabited, Repr

namespace Failure

def message : Failure → String
  | status _ m => m
  | note m => m
  | within l c => l ++ ": " ++ message c
  | pair a b => message a ++ ": " ++ message b
  | several items => "; ".intercalate (items.attach.map fun ⟨f, _⟩ => message f)

/-- The statuses, causes visited depth first, left to right. -/
def statuses : Failure → List (Code × String)
  | status c m => [(c, m)]
  | note _ => []
  | within _ c => statuses c
  | pair a b => statuses a ++ statuses b
  | several items => items.attach.flatMap fun ⟨f, _⟩ => statuses f

def firstStatus? (f : Failure) : Option (Code × String) := f.statuses.head?

def code (f : Failure) : Code :=
  match f.firstStatus? with
  | some (c, _) => c
  | none => Code.operationFailed

/-- `ok` for an outcome that did not fail. -/
def codeOf : Option Failure → Code
  | none => Code.ok
  | some f => f.code

def segmentsAux : List Char → List Char → List String
  | [], acc => [String.ofList acc.reverse]
  | ':' :: ' ' :: rest, acc => String.ofList acc.reverse :: segmentsAux rest []
  | c :: rest, acc => segmentsAux rest (c :: acc)

def segments (s : String) : List String := segmentsAux s.toList []

/-- A status matches when the target's first status has its code and the target's message
is its whole message or one of its segments. -/
def statusMatches (code : Code) (msg : String) (target : Failure) : Bool :=
  match target.firstStatus? with
  | some (tc, tm) => code == tc && (msg == tm || (segments msg).contains tm)
  | none => false

def isOf (f target : Failure) : Bool :=
  f.statuses.any fun (c, m) => statusMatches c m target

/-- Joins two outcomes of a batch: a single failure stays itself. -/
def append : Option Failure → Option Failure → Option Failure
  | none, b => b
  | a, none => a
  | some (several xs), some (several ys) => some (several (xs ++ ys))
  | some (several xs), some b => some (several (xs ++ [b]))
  | some a, some (several ys) => some (several (a :: ys))
  | some a, some b => some (several [a, b])

/-! ## The named statuses -/

def invalidArgument : Failure := status Code.invalidArgument "invalid argument"
def alreadyBound : Failure := status Code.invalidArgument "transaction already bound to an engine"
def notPooled : Failure := status Code.invalidArgument "item does not belong to the pool"
def queueEmpty : Failure := status Code.notFound "queue empty"
def pluginNotFound : Failure := status Code.notFound "plugin not found"
/-- The transaction is bound to no engine. -/
def noSuchEngine : Failure := status Code.notFound "no such engine"
/-- No engine serves the transaction. -/
def engineNotFound : Failure := status Code.notFound "engine not found"
def noMatchingFuture : Failure := status Code.notFound "no matching future"
def noListenerFound : Failure := status Code.notFound "no listener found"
def queueFull : Failure := status Code.resourceExhausted "queue full"
def poolExhausted : Failure := status Code.resourceExhausted "pool exhausted"
def futureTableFull : Failure := status Code.resourceExhausted "future table full"
def engineStopped : Failure := status Code.operationFailed "engine stopped"
def pluginFailed : Failure := status Code.operationFailed "plugin failed"
def wrongInferMode : Failure := status Code.configurationError "wrong infer mode"
/-- The caller stopped waiting. -/
def timeout : Failure := status Code.deadlineExceeded "timed out waiting for response"

theorem code_within (l : String) (c : Failure) : (within l c).code = c.code := by
  simp [code, firstStatus?, statuses]

theorem message_within (l : String) (c : Failure) :
    (within l c).message = l ++ ": " ++ c.message := by
  simp [message]

end Failure

end InferenceBroker
