import InferenceBroker.Core.Exchange
import InferenceBroker.Core.Key

/-!
# Broker messages

Clients and the broker exchange messages whose type says what they ask or answer; other
fields are zero where unused. Types 1 to 12 are valid, but the octet may hold any value, as
a decoder reads it before judging it.
-/

namespace InferenceBroker

structure MessageType where
  val : UInt8
deriving DecidableEq, Repr, Inhabited

namespace MessageType

def unknown : MessageType := ⟨0⟩
def success : MessageType := ⟨1⟩
def error : MessageType := ⟨2⟩
def startEngine : MessageType := ⟨3⟩
def stopEngine : MessageType := ⟨4⟩
def syncExecute : MessageType := ⟨5⟩
def asyncExecute : MessageType := ⟨6⟩
def asyncReply : MessageType := ⟨7⟩
def setOption : MessageType := ⟨8⟩
def getOption : MessageType := ⟨9⟩
def registerListener : MessageType := ⟨10⟩
def unregisterListener : MessageType := ⟨11⟩
def stats : MessageType := ⟨12⟩

instance : BEq MessageType := ⟨fun a b => a.val == b.val⟩

/-- The valid types' names, from 1. -/
def names : List String :=
  ["success", "error", "startEngine", "stopEngine", "syncExecute", "asyncExecute",
   "asyncReply", "setOption", "getOption", "registerListener", "unregisterListener", "stats"]

def valid (t : MessageType) : Bool := 1 ≤ t.val.toNat && t.val.toNat ≤ 12

/-- The name of a type; invalid types are all `unknown`. -/
def name (t : MessageType) : String :=
  if t.valid then names.getD (t.val.toNat - 1) "unknown" else "unknown"

def ofName? (s : String) : Option MessageType :=
  (names.idxOf? s).map fun i => ⟨UInt8.ofNat (i + 1)⟩

end MessageType

/-- A broker message; `value` tells an absent value from an empty one. -/
structure Message where
  kind : MessageType := MessageType.unknown
  transactionId : UInt64 := 0
  requestId : UInt64 := 0
  algorithmId : Bytes := []
  version : Int64 := 0
  algorithmType : Int32 := 0
  clientUid : Bytes := []
  operationId : Int32 := 0
  optionType : Int32 := 0
  value : Option Bytes := none
  retCode : Code := Code.ok
  err : Bytes := []
deriving DecidableEq, Repr, Inhabited

namespace Message

/-- None without text or code; a text under code `ok` counts as `operationFailed`. -/
def failure? (m : Message) : Option Failure :=
  if m.err.isEmpty && m.retCode == Code.ok then none
  else
    let code := if m.retCode == Code.ok then Code.operationFailed else m.retCode
    some (.status code m.err.text)

def request (m : Message) : Request :=
  { requestId := m.requestId, operationId := m.operationId, transactionId := m.transactionId,
    algorithmType := m.algorithmType, clientUid := m.clientUid, payload := m.value }

def response (m : Message) : Response :=
  { requestId := m.requestId, transactionId := m.transactionId, retCode := m.retCode,
    retDesc := m.err, result := m.value }

def key (m : Message) : EngineKey := ⟨m.algorithmId.text, m.version⟩

def withOutcome (m : Message) : Option Failure → Message
  | none => m
  | some f => { m with retCode := f.code, err := Bytes.ofString f.message }

/-! ## Constructors -/

def startEngineRequest (tx : UInt64) (key : EngineKey) (uid : Bytes) (input : Option Bytes) :
    Message :=
  { kind := .startEngine, transactionId := tx, algorithmId := Bytes.ofString key.algorithm,
    version := key.version, clientUid := uid, value := input }

def startEngineResponse (output : Option Bytes) (err : Option Failure) : Message :=
  ({ kind := .startEngine, value := output } : Message).withOutcome err

def stopEngineRequest (tx : UInt64) (input : Option Bytes) : Message :=
  { kind := .stopEngine, transactionId := tx, value := input }

def stopEngineResponse (err : Option Failure) : Message :=
  ({ kind := .stopEngine } : Message).withOutcome err

def executeRequest (kind : MessageType) (req : Request) : Message :=
  { kind, transactionId := req.transactionId, requestId := req.requestId,
    operationId := req.operationId, algorithmType := req.algorithmType,
    clientUid := req.clientUid, value := req.payload }

def syncExecuteRequest (req : Request) : Message := executeRequest .syncExecute req

def syncExecuteResponse (resp : Option Response) (err : Option Failure) : Message :=
  let base : Message := match resp with
    | none => { kind := .syncExecute }
    | some r => { kind := .syncExecute, requestId := r.requestId,
                  transactionId := r.transactionId, retCode := r.retCode, err := r.retDesc,
                  value := r.result }
  base.withOutcome err

def asyncExecuteRequest (req : Request) : Message := executeRequest .asyncExecute req

def asyncExecuteResponse (seq : UInt64) (err : Option Failure) : Message :=
  ({ kind := .asyncExecute, requestId := seq } : Message).withOutcome err

def setOptionRequest (tx : UInt64) (optionType : Int32) (value : Option Bytes) : Message :=
  { kind := .setOption, transactionId := tx, optionType, value }

def setOptionResponse (err : Option Failure) : Message :=
  ({ kind := .setOption } : Message).withOutcome err

def getOptionRequest (tx : UInt64) (optionType : Int32) (input : Option Bytes) : Message :=
  { kind := .getOption, transactionId := tx, optionType, value := input }

def getOptionResponse (value : Option Bytes) (err : Option Failure) : Message :=
  ({ kind := .getOption, value } : Message).withOutcome err

def registerListenerRequest (tx : UInt64) : Message :=
  { kind := .registerListener, transactionId := tx }

def registerListenerResponse (err : Option Failure) : Message :=
  ({ kind := .registerListener } : Message).withOutcome err

def unregisterListenerRequest (tx : UInt64) : Message :=
  { kind := .unregisterListener, transactionId := tx }

def unregisterListenerResponse (err : Option Failure) : Message :=
  ({ kind := .unregisterListener } : Message).withOutcome err

/-- Pushes a reply to a listening client. -/
def asyncReply (r : Response) : Message :=
  { kind := .asyncReply, transactionId := r.transactionId, requestId := r.requestId,
    retCode := r.retCode, err := r.retDesc, value := r.result }

def statsRequest : Message := { kind := .stats }

def statsResponse (value : Option Bytes) (err : Option Failure) : Message :=
  ({ kind := .stats, value } : Message).withOutcome err

def successResponse : Message := { kind := .success }

/-- A failure answer; without a text it reports an unknown failure. -/
def errorResponse (err : Option Failure) : Message :=
  let m := ({ kind := .error } : Message).withOutcome err
  if m.err.isEmpty then { m with retCode := Code.operationFailed, err := Bytes.ofString "unknown error" }
  else m

end Message

end InferenceBroker
