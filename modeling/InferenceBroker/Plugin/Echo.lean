import InferenceBroker.Plugin.Call
import InferenceBroker.Plugin.Descriptor
import InferenceBroker.Text.Quote

/-!
# The echo plugins

The echo plugin answers each request with its payload behind a lead (option 1), after a
delay (option 2, a duration such as `150ms`); operation -1 fails. It remembers the
transactions it prepared, and a full release forgets lead and delay. It runs synchronously
(`echo`) or asynchronously (`echo-async`). Fault variants differ in one step each, so every
failure path of an engine can be reached.
-/

namespace InferenceBroker

inductive Fault where
  | prepare
  | preparePanic
  | release
  | releasePanic
  | optionPanic
  | mode
  | syncPanic
  | syncNil
  | asyncError
  | asyncPanic
  | asyncNoTransaction
  | asyncTwice
  | asyncEvent7
  | factoryError
  | factoryNil
  | factoryPanic
  | asyncBlock
  | prepareBlock
  deriving DecidableEq, Repr, Inhabited

namespace Fault

def all : List Fault :=
  [.prepare, .preparePanic, .release, .releasePanic, .optionPanic, .mode, .syncPanic, .syncNil,
   .asyncError, .asyncPanic, .asyncNoTransaction, .asyncTwice, .asyncEvent7, .factoryError,
   .factoryNil, .factoryPanic, .asyncBlock, .prepareBlock]

def name : Fault → String
  | .prepare => "fault-prepare"
  | .preparePanic => "fault-prepare-panic"
  | .release => "fault-release"
  | .releasePanic => "fault-release-panic"
  | .optionPanic => "fault-option-panic"
  | .mode => "fault-mode"
  | .syncPanic => "fault-sync-panic"
  | .syncNil => "fault-sync-nil"
  | .asyncError => "fault-async-error"
  | .asyncPanic => "fault-async-panic"
  | .asyncNoTransaction => "fault-async-notx"
  | .asyncTwice => "fault-async-twice"
  | .asyncEvent7 => "fault-async-event7"
  | .factoryError => "fault-factory-error"
  | .factoryNil => "fault-factory-nil"
  | .factoryPanic => "fault-factory-panic"
  | .asyncBlock => "fault-async-block"
  | .prepareBlock => "fault-prepare-block"

def isAsync : Fault → Bool
  | .asyncError | .asyncPanic | .asyncNoTransaction | .asyncTwice | .asyncEvent7 | .asyncBlock => true
  | _ => false

end Fault

/-- Its name, whether it runs asynchronously, and its fault. -/
structure EchoKind where
  name : String
  async : Bool
  fault : Option Fault
  deriving DecidableEq, Repr, Inhabited

def optionLead : Int32 := 1

def optionDelay : Int32 := 2

def operationFail : Int32 := -1

structure Echo where
  kind : EchoKind
  lead : Option Bytes := none
  delay : Duration := ⟨0⟩
  prepared : List UInt64 := []
  deriving Inhabited

namespace Echo

def make (kind : EchoKind) : Echo := { kind := kind }

def has (p : Echo) (f : Fault) : Bool := p.kind.fault == some f

def mode (p : Echo) : InferMode :=
  if p.has .mode then .other "BATCH" else if p.kind.async then .async else .sync

def prepare (p : Echo) (tx : UInt64) (input : Option Bytes) : Call (Option Bytes) × Echo :=
  if p.has .prepare then (.failed (.within "prepare refused" Failure.invalidArgument), p)
  else if p.has .preparePanic then (.panicked "prepare boom", p)
  else (.done input, { p with prepared := if p.prepared.contains tx then p.prepared else p.prepared ++ [tx] })

/-- The lead and the payload, or the failure of operation -1. -/
def answer (p : Echo) (req : Request) : Except Failure Response :=
  if req.operationId == operationFail then
    .error (.within s!"operation {req.operationId.toInt} requested" Failure.pluginFailed)
  else .ok (Response.success req (some (p.lead.getD [] ++ req.payload.getD [])))

def syncProcess (p : Echo) (req : Request) : Call (Option Response) :=
  if p.has .syncPanic then .panicked "process boom"
  else if p.has .syncNil then .done none
  else match p.answer req with
    | .ok r => .done (some r)
    | .error e => .failed e

def asyncProcess (p : Echo) (req : Request) : Call Delivery :=
  let echoed := Response.success req req.payload
  let bare : Response :=
    { requestId := req.requestId, transactionId := 0, retCode := Code.ok, retDesc := [], result := req.payload }
  if p.has .asyncError then .failed (.within "request refused" Failure.invalidArgument)
  else if p.has .asyncPanic then .panicked "async boom"
  else if p.has .asyncNoTransaction then
    .done (.now [(Event.result, bare)])
  else if p.has .asyncTwice then
    .done (.now [(Event.result, echoed), (Event.error, Response.failure req (some Failure.pluginFailed))])
  else if p.has .asyncEvent7 then .done (.now [(⟨7⟩, echoed)])
  else if p.has .asyncBlock then .done (.gated [(Event.result, echoed)])
  else match p.answer req with
    | .ok r => .done (.later p.delay [(Event.result, r)])
    | .error e => .done (.later p.delay [(Event.error, Response.failure req (some e))])

/-- Forgets a transaction; a full release also forgets lead and delay. -/
def release (p : Echo) (full : Bool) (tx : UInt64) : Call Unit × Echo :=
  if p.has .release then (.failed (.within "release refused" Failure.pluginFailed), p)
  else if p.has .releasePanic then (.panicked "release boom", p)
  else
    let p := { p with prepared := p.prepared.filter (· != tx) }
    (.done (), if full then { p with lead := none, delay := ⟨0⟩ } else p)

def unknownOption (t : Int32) : Failure := .within s!"unknown option {t.toInt}" Failure.invalidArgument

def setOption (p : Echo) (t : Int32) (input : Option Bytes) : Call Unit × Echo :=
  if p.has .optionPanic then (.panicked "option boom", p)
  else if t == optionLead then
    (.done (), { p with lead := match input with
      | some (b :: bs) => some (b :: bs)
      | _ => none })
  else if t == optionDelay then
    let refused := Call.failed (.within s!"invalid delay {Quote.bytes (input.getD [])}" Failure.invalidArgument)
    match Bytes.utf8? (input.getD []) with
    | none => (refused, p)
    | some text =>
      match Duration.parse text with
      | .ok d => (.done (), { p with delay := d })
      | .error _ => (refused, p)
  else (.failed (unknownOption t), p)

def getOption (p : Echo) (t : Int32) : Call (Option Bytes) :=
  if t == optionLead then .done p.lead
  else if t == optionDelay then .done (some (Bytes.ofString p.delay.render))
  else .failed (unknownOption t)

end Echo

end InferenceBroker
