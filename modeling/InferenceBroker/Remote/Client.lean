import InferenceBroker.Transport.Network
import InferenceBroker.Remote.Stats
import InferenceBroker.Message.Format

/-!
# The broker client

Every call encodes a request in the client's format, sends it on the call channel and decodes
the answer; an answer carrying an error becomes it, one of another type is refused. Pushed
replies go to the transaction's listener, if any. A session is one transaction started on an
engine; its requests carry the transaction and the client's uid and get the session's next id
when they have none. Stopping removes the listener first; a session stops once.
-/

namespace InferenceBroker

/-- Its transport's name, message format, uid, the transactions it listens for, the replies
received (oldest first) and its journal. -/
structure RemoteClient where
  transport : String
  format : Format
  uid : String
  listeners : List UInt64 := []
  replies : List Response := []
  journal : List Entry := []
  deriving Inhabited

/-- Its transaction, engine, last request id given out, and whether stopped. -/
structure RemoteSession where
  tx : UInt64
  key : EngineKey
  lastRequest : Nat := 0
  stopped : Bool := false
  deriving Inhabited

abbrev RemoteM (σ : Type) := StateM (Network σ × RemoteClient)

namespace RemoteClient

variable {σ : Type}

/-- The transaction id of the `k`-th session: distinct and never zero. -/
def txOf (k : Nat) : UInt64 := UInt64.ofNat ((k + 1) * 0x6A09E667F3BCC909 % Nat.pow 2 64)

/-- The uid of the `k`-th client: 36 characters laid out as a random UUID. -/
def uidOf (k : Nat) : String :=
  let h := Quote.hexWidth 32 ((k + 1) * 0x9E3779B97F4A7C15F39CC0605CEDC834 % Nat.pow 2 128)
  let part := fun (i n : Nat) => String.ofList ((h.toList.drop i).take n)
  s!"{part 0 8}-{part 8 4}-4{part 13 3}-a{part 17 3}-{part 20 12}"

def source : String := "rpc"

def note (e : Entry) (c : RemoteClient) : RemoteClient := { c with journal := c.journal ++ [e] }

/-- An asynchronous reply goes to its transaction's listener; anything else is noted and dropped. -/
def onNotify (c : RemoteClient) (data : Bytes) : RemoteClient :=
  match c.format.decode data with
  | .error e => c.note (Entry.error source s!"failed to decode pushed message: {e.message}")
  | .ok m =>
    if m.kind != MessageType.asyncReply then
      c.note (Entry.warn source s!"ignoring pushed message of type {m.kind.name}")
    else if c.listeners.contains m.transactionId then { c with replies := c.replies ++ [m.response] }
    else c.note (Entry.debug source
      s!"no listener for reply {m.requestId.toNat} of transaction {m.transactionId.toNat}")

def absorb : RemoteM σ Unit :=
  modify fun (n, c) =>
    let (notes, n) := n.takeNotes c.transport
    (n, notes.foldl (fun c (_, data) => c.onNotify data) c)

def invoke (svc : Service σ) (m : Message) : RemoteM σ (Except Failure Message) := do
  let (n, c) ← get
  match c.format.encode m with
  | .error e => return .error e
  | .ok bytes =>
    let (r, n) := n.send svc c.transport 1 bytes
    set (n, c)
    absorb
    match r with
    | .error e => return .error e
    | .ok data =>
      match c.format.decode data with
      | .error e => return .error (.within s!"RPC Client - failed to decode {m.kind.name} response" e)
      | .ok resp =>
        match resp.failure? with
        | some f => return .error f
        | none =>
          if resp.kind != m.kind then
            return .error (.note s!"RPC Client - unexpected message type: {resp.kind.name}, expected {m.kind.name}")
          else return .ok resp

/-- Starts a session with a fresh transaction id: the session and what preparing returned. -/
def startEngine (svc : Service σ) (tx : UInt64) (key : EngineKey) (input : Option Bytes) :
    RemoteM σ (Except Failure (RemoteSession × Option Bytes)) := do
  let c := (← get).2
  match ← invoke svc (Message.startEngineRequest tx key (Bytes.ofString c.uid) input) with
  | .error e => return .error (.within s!"start engine {key.render}" e)
  | .ok resp =>
    modify fun (n, c) => (n, c.note (Entry.debug source
      s!"started transaction {tx.toNat} on engine {key.render}"))
    return .ok ({ tx := tx, key := key }, resp.value)

def stats (svc : Service σ) : RemoteM σ (Except Failure (List StatsEntry)) := do
  match ← invoke svc Message.statsRequest with
  | .error e => return .error e
  | .ok resp =>
    match StatsEntry.decode (resp.value.getD []) with
    | .error e => return .error (.within "failed to decode stats" e)
    | .ok entries => return .ok entries

/-- Drops the listeners and closes the transport. -/
def close (svc : Service σ) : RemoteM σ Unit :=
  modify fun (n, c) => ((n.closeClient c.transport).settle svc, { c with listeners := [] })

end RemoteClient

namespace RemoteSession

variable {σ : Type}

/-- A session's request: its transaction, the uid, and the next request id when it has none. -/
def fill (s : RemoteSession) (uid : String) (req : Option Request) : Request × RemoteSession :=
  let r := { req.getD {} with transactionId := s.tx, clientUid := Bytes.ofString uid }
  if r.requestId == 0 then
    ({ r with requestId := UInt64.ofNat (s.lastRequest + 1) }, { s with lastRequest := s.lastRequest + 1 })
  else (r, s)

def syncExecute (svc : Service σ) (s : RemoteSession) (req : Option Request) :
    RemoteM σ (Except Failure Response × RemoteSession) := do
  let (r, s) := s.fill (← get).2.uid req
  match ← RemoteClient.invoke svc (Message.syncExecuteRequest r) with
  | .error e => return (.error e, s)
  | .ok resp => return (.ok resp.response, s)

/-- Queues a request for an asynchronous reply; its sequence number. -/
def asyncExecute (svc : Service σ) (s : RemoteSession) (req : Option Request) :
    RemoteM σ (Except Failure UInt64 × RemoteSession) := do
  let (r, s) := s.fill (← get).2.uid req
  match ← RemoteClient.invoke svc (Message.asyncExecuteRequest r) with
  | .error e => return (.error e, s)
  | .ok resp => return (.ok resp.requestId, s)

/-- Installs (`on`) or removes the session's listener; kept only when the broker accepted it. -/
def setListener (svc : Service σ) (s : RemoteSession) (on : Bool) : RemoteM σ (Except Failure Unit) := do
  if !on then
    modify fun (n, c) => (n, { c with listeners := c.listeners.filter (· != s.tx) })
    return (← RemoteClient.invoke svc (Message.unregisterListenerRequest s.tx)).map fun _ => ()
  else
    modify fun (n, c) =>
      (n, { c with listeners := if c.listeners.contains s.tx then c.listeners else c.listeners ++ [s.tx] })
    match ← RemoteClient.invoke svc (Message.registerListenerRequest s.tx) with
    | .ok _ => return .ok ()
    | .error e =>
      modify fun (n, c) => (n, { c with listeners := c.listeners.filter (· != s.tx) })
      return .error e

def setOption (svc : Service σ) (s : RemoteSession) (t : Int32) (value : Option Bytes) :
    RemoteM σ (Except Failure Unit) := do
  return (← RemoteClient.invoke svc (Message.setOptionRequest s.tx t value)).map fun _ => ()

def getOption (svc : Service σ) (s : RemoteSession) (t : Int32) (input : Option Bytes) :
    RemoteM σ (Except Failure (Option Bytes)) := do
  return (← RemoteClient.invoke svc (Message.getOptionRequest s.tx t input)).map (·.value)

/-- Stops the session, removing its listener first; a second stop fails. -/
def stop (svc : Service σ) (s : RemoteSession) (input : Option Bytes) :
    RemoteM σ (Except Failure Unit × RemoteSession) := do
  if s.stopped then
    return (.error (.within s!"transaction {s.tx.toNat}" Failure.noSuchEngine), s)
  let listened := (← get).2.listeners.contains s.tx
  if listened then
    modify fun (n, c) => (n, { c with listeners := c.listeners.filter (· != s.tx) })
    if let .error e ← RemoteClient.invoke svc (Message.unregisterListenerRequest s.tx) then
      modify fun (n, c) => (n, c.note (Entry.warn RemoteClient.source
        s!"failed to unregister listener of transaction {s.tx.toNat}: {e.message}"))
  match ← RemoteClient.invoke svc (Message.stopEngineRequest s.tx input) with
  | .error e => return (.error e, s)
  | .ok _ => return (.ok (), { s with stopped := true })

end RemoteSession

end InferenceBroker
