import InferenceBroker.Dispatch.Requests
import InferenceBroker.Message.Format
import InferenceBroker.Json.Value
import InferenceBroker.Transport.Frame

/-!
# The broker behind a transport

A broker answers each message on a connection's call channel with the dispatcher's outcome,
in the form of its request type, and pushes asynchronous replies on the notify channel to
the connection listening for the transaction. Other channels and undecodable bytes get an
error. Each connection's session holds the transactions it started and those it listens for;
when it goes away its listeners are removed and its transactions stopped, ascending.
-/

namespace InferenceBroker

/-- Transactions a connection started and those it listens for. -/
structure Session where
  txs : List UInt64 := []
  listeners : List UInt64 := []
  deriving Repr, Inhabited

/-- The message format, the dispatcher (listeners are connections), the sessions, and, when
`timed`, the replies not yet made by the dispatcher's clock. -/
structure Broker where
  format : Format
  dispatcher : Dispatcher Nat
  sessions : List (Nat × Session) := []
  timed : Bool := false
  late : List (Reply Nat) := []

namespace Broker

def callChannel : Nat := 1

def notifyChannel : Nat := 2

def source : String := "rpc"

def lift {α : Type} (a : Act Nat α) : StateM Broker α :=
  modifyGet fun b => let (x, d) := a.run b.dispatcher; (x, { b with dispatcher := d })

def note (e : Entry) : StateM Broker Unit := lift (Dispatcher.note e)

def updateSession (conn : Nat) (f : Session → Session) : StateM Broker Unit :=
  modify fun b =>
    let s := f ((b.sessions.lookup conn).getD {})
    { b with sessions := (conn, s) :: b.sessions.filter (·.1 != conn) }

def remember (tx : UInt64) (l : List UInt64) : List UInt64 := if l.contains tx then l else l ++ [tx]

/-- The stats answer's document; wall-clock figures are not kept and read zero. -/
def statsDocument (ss : List EngineStats) : JsonValue :=
  let num := fun (n : Nat) => JsonValue.number (toString n)
  .array (ss.map fun s =>
    let c := s.counters
    .object [("key", .object [("AlgorithmID", .string s.key.algorithm),
        ("Version", .number (toString s.key.version.toInt))]),
      ("mode", .string s.mode.word), ("state", .string s.state.name), ("refCount", num s.refs),
      ("threadId", num s.thread), ("queueLen", num s.queueLen), ("queueCap", num s.queueCap),
      ("submitted", num c.submitted), ("rejected", num c.rejected), ("processed", num c.processed),
      ("failed", num c.failed), ("timeouts", num c.timeouts), ("meanWait", num 0),
      ("meanProcess", num 0), ("p99Process", num 0), ("meanPayload", .number c.meanText),
      ("maxPayload", num c.maxPayload), ("uptime", num 0)])

def answer (conn : Nat) (m : Message) : StateM Broker Message := do
  let tx := m.transactionId
  match m.kind.val.toNat with
  | 3 =>
    match ← lift (Dispatcher.start tx m.key m.value) with
    | some (.started out) =>
      updateSession conn fun s => { s with txs := remember tx s.txs }
      return Message.startEngineResponse out none
    | some (.failed e) => return Message.startEngineResponse none (some e)
    | _ => return Message.startEngineResponse none none
  | 4 =>
    match ← lift (Dispatcher.stop tx m.value) with
    | some (.failed e) => return Message.stopEngineResponse (some e)
    | _ =>
      updateSession conn fun s => { s with txs := s.txs.filter (· != tx) }
      return Message.stopEngineResponse none
  | 5 =>
    match ← lift (Dispatcher.syncExecute (some m.request)) with
    | .ok r => return Message.syncExecuteResponse r none
    | .error e => return Message.syncExecuteResponse none (some e)
  | 6 =>
    match ← lift (Dispatcher.asyncExecute (some m.request)) with
    | .ok (seq, _) => return Message.asyncExecuteResponse (UInt64.ofNat seq) none
    | .error e => return Message.asyncExecuteResponse 0 (some e)
  | 8 =>
    match ← lift (Dispatcher.setOption tx m.optionType m.value) with
    | .ok () => return Message.setOptionResponse none
    | .error e => return Message.setOptionResponse (some e)
  | 9 =>
    match ← lift (Dispatcher.getOption tx m.optionType) with
    | .ok v => return Message.getOptionResponse v none
    | .error e => return Message.getOptionResponse none (some e)
  | 10 =>
    match ← lift (Dispatcher.registerListener tx (some conn)) with
    | .ok () =>
      updateSession conn fun s => { s with listeners := remember tx s.listeners }
      return Message.registerListenerResponse none
    | .error e => return Message.registerListenerResponse (some e)
  | 11 =>
    let removed ← lift (Dispatcher.unregisterListener tx)
    updateSession conn fun s => { s with listeners := s.listeners.filter (· != tx) }
    return Message.unregisterListenerResponse
      (if removed then none else some (.within s!"transaction {tx.toNat}" Failure.noListenerFound))
  | 12 =>
    let doc := statsDocument (← get).dispatcher.stats
    return Message.statsResponse (some (Bytes.ofString (Json.render doc))) none
  | _ =>
    return Message.errorResponse (some (.within
      s!"RPC BrokerAdapter - unsupported message type {m.kind.name}" Failure.invalidArgument))

/-- Answers the bytes that arrived on a channel with the answer's bytes. -/
def handle (conn channel : Nat) (data : Bytes) : StateM Broker Bytes := do
  let b ← get
  let reply ← if channel != callChannel then
      pure (Message.errorResponse (some (.within s!"channel {channel} does not accept requests" Failure.invalidArgument)))
    else match b.format.decode data with
      | .error e => pure (Message.errorResponse (some (.within "failed to deserialize request" e)))
      | .ok m => answer conn m
  match b.format.encode reply with
  | .ok bs => return bs
  | .error e =>
    note (Entry.error source s!"failed to serialize response: {e.message}")
    return (b.format.encode (Message.errorResponse (some (.within "failed to serialize response" e)))).toOption.getD []

/-- Each delivered reply goes to its listening connection on the notify channel. -/
def pushes (replies : List (Reply Nat)) : StateM Broker (List Push) := do
  let f := (← get).format
  let mut out := []
  for r in replies do
    match f.encode (Message.asyncReply r.response) with
    | .ok bs => out := out ++ [⟨r.listener, notifyChannel, bs⟩]
    | .error e =>
      note (Entry.error source
        s!"failed to serialize reply {r.response.requestId.toNat} of transaction {r.response.transactionId.toNat}: {e.message}")
  return out

/-- Stops a transaction a departed connection left bound; a failed stop goes to the journal. -/
def stopLeft (addr : String) (tx : UInt64) : StateM Broker Unit := do
  if let some (.failed e) ← lift (Dispatcher.stop tx none) then
    note (Entry.warn source s!"failed to stop transaction {tx.toNat} of {addr}: {e.message}")

/-- Removes the listeners of `listeners`, then stops `txs`, each in the order given. -/
def release (addr : String) (listeners txs : List UInt64) : StateM Broker Unit := do
  if listeners.isEmpty && txs.isEmpty then return
  note (Entry.info source
    s!"client {addr} disconnected, releasing {listeners.length} listeners and {txs.length} transactions")
  listeners.forM fun tx => discard <| lift (Dispatcher.unregisterListener tx)
  txs.forM (stopLeft addr)

/-- Forgets a connection: its listeners removed and its transactions stopped, ascending. -/
def disconnect (conn : Nat) (addr : String) : StateM Broker Unit := do
  let b ← get
  let some s := b.sessions.lookup conn | return
  set { b with sessions := b.sessions.filter (·.1 != conn) }
  release addr (s.listeners.mergeSort fun a b => a ≤ b) (s.txs.mergeSort fun a b => a ≤ b)

/-- A broker over a loader, with the journal entries of its making. -/
def ofLoader (settings : ServerSettings) (format : Format) (loader : Loader) : Broker :=
  let d : Dispatcher Nat := Dispatcher.make settings.dispatcher loader
  let d := { d with journal := [Entry.info source settings.render, Entry.info source "Created RPC Server"] }
  { format := format, dispatcher := d }

def makeWith (builtins : List (String × Maker)) (settings : ServerSettings) (format : Format) (dir : Directory)
    (descriptors : List Descriptor) : Except Failure Broker :=
  match Loader.makeWith builtins dir descriptors with
  | .error e => .error (.within "failed to create plugin table" e)
  | .ok loader => .ok (ofLoader settings format loader)

def make (settings : ServerSettings) (format : Format) (dir : Directory) (descriptors : List Descriptor) :
    Except Failure Broker :=
  makeWith Builtin.makers settings format dir descriptors

end Broker

end InferenceBroker
