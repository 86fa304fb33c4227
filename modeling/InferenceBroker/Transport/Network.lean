import InferenceBroker.Transport.Server
import InferenceBroker.Transport.Client
import InferenceBroker.Transport.Script
import InferenceBroker.Host.Directory

/-!
# A network of transports

The sockets of one host: a server transport with its service, perhaps a scripted peer, named
client transports and plain sockets, and the open connections between them. What the
participants do on their own happens in `settle`, which lets every one act until none can;
the operations a caller starts change the network and are followed by `settle`, so a caller
always observes a network at rest.
-/

namespace InferenceBroker

inductive Owner where
  | server
  | peer
  | other
  deriving DecidableEq, Repr, Inhabited

structure Network (σ : Type) where
  family : Family
  dir : Directory
  server : ServerTransport
  service : σ
  peer : Option ScriptedPeer := none
  links : List (Nat × Link) := []
  nextLink : Nat := 1
  nextPort : Nat := 40001
  listeners : List (String × Owner) := []
  clients : List (String × ClientTransport) := []
  raws : List (String × Nat) := []

namespace Network

variable {σ : Type}

/-! ## Connections and addresses -/

def link (n : Network σ) (id : Nat) : Link := (n.links.lookup id).getD {}

def modifyLink (id : Nat) (f : Link → Link) (n : Network σ) : Network σ :=
  { n with links := n.links.map fun (i, l) => if i == id then (i, f l) else (i, l) }

def openLink (n : Network σ) : Nat × Network σ :=
  (n.nextLink, { n with links := n.links ++ [(n.nextLink, {})], nextLink := n.nextLink + 1 })

/-- Closes the dialing end of a connection. -/
def hangUp (id : Nat) (n : Network σ) : Network σ :=
  n.modifyLink id fun l => { l with dialerOpen := false }

/-- Closes the accepting end of a connection. -/
def cut (id : Nat) (n : Network σ) : Network σ :=
  n.modifyLink id fun l => { l with acceptorOpen := false }

/-- The name a listener is found under: a unix path with `.` and `..` resolved, or the TCP address. -/
def keyAs (family : Family) (addr : String) : String :=
  match family with
  | .unix => match Directory.resolve addr with
    | some names => Directory.joinNames names
    | none => addr
  | .tcp => addr

def key (n : Network σ) (addr : String) : String := keyAs n.family addr

/-- Binds an address: the name it is found under, or the socket call's failure. A unix path
is removed first. -/
def bind (addr : String) (n : Network σ) : Except String (String × Network σ) :=
  match n.family with
  | .unix =>
    match Address.unixFault n.dir "bind" addr with
    | some e => .error s!"listen unix {addr}: {e}"
    | none => .ok (n.key addr, { n with dir := n.dir.remove addr })
  | .tcp =>
    match Address.tcpTarget addr with
    | .error e => .error s!"listen tcp: {e}"
    | .ok (host, port) =>
      if port == 0 then .ok (s!"{host}:{n.nextPort}", { n with nextPort := n.nextPort + 1 })
      else .ok (s!"{host}:{port}", n)

def register (k : String) (o : Owner) (n : Network σ) : Network σ :=
  { n with listeners := (k, o) :: n.listeners.filter (·.1 != k) }

def unregister (k : String) (n : Network σ) : Network σ :=
  { n with listeners := n.listeners.filter (·.1 != k) }

/-- Dials an address: the new connection, accepted by the listener there, or the socket call's
failure. A closed server closes its end at once. -/
def dialAs (family : Family) (addr : String) (n : Network σ) : Except String (Nat × Network σ) :=
  match family with
  | .tcp =>
    match Address.tcpTarget addr with
    | .error e => .error s!"dial tcp: {e}"
    | .ok (host, port) => .error s!"dial tcp {host}:{port}: connect: network is unreachable"
  | .unix =>
    match Address.unixFault n.dir "connect" addr with
    | some e => .error s!"dial unix {addr}: {e}"
    | none =>
      match n.listeners.lookup (keyAs .unix addr) with
      | some .server =>
        let (id, n) := n.openLink
        if n.server.closed then .ok (id, n.cut id)
        else
          let (_, t) := n.server.accept id
          .ok (id, { n with server := t })
      | some .peer =>
        let (id, n) := n.openLink
        .ok (id, { n with peer := n.peer.map fun p => { p with links := p.links ++ [id] } })
      | _ =>
        let found := match Directory.resolve addr with
          | some names => (n.dir.file? names).isSome || n.dir.isDirectory names
          | none => false
        if found then .error s!"dial unix {addr}: connect: connection refused"
        else .error s!"dial unix {addr}: connect: no such file or directory"

def dial (addr : String) (n : Network σ) : Except String (Nat × Network σ) := n.dialAs n.family addr

/-! ## The server side -/

def noteServer (e : Entry) (n : Network σ) : Network σ := { n with server := n.server.note e }

def served (conn : Nat) (e : Served) (n : Network σ) : Network σ :=
  { n with server := n.server.record conn e }

/-- Queues a frame on an accepted connection, written unless its outbox is closed. -/
def emit (conn : Nat) (f : Frame) (n : Network σ) : Except Failure (Network σ) :=
  match n.server.conn? conn with
  | some c => if c.outboxOpen then .ok ((n.modifyLink c.link (Link.sendDown f)).served conn (.sent f))
              else .error ServerTransport.connectionClosed
  | none => .error ServerTransport.connectionClosed

/-- Performs pushes; those to connections that are gone are dropped. -/
def applyPushes (ps : List Push) (n : Network σ) : Network σ :=
  ps.foldl (fun n p => (n.emit p.conn ⟨UInt64.ofNat p.channel, 0, p.data⟩).toOption.getD n) n

def respond (conn : Nat) (f : Frame) (data : Bytes) (n : Network σ) : Network σ :=
  match n.emit conn ⟨f.channel, f.requestId, data⟩ with
  | .ok n => n.served conn (.reply ⟨f.channel, f.requestId, data⟩)
  | .error _ => n.noteServer (Entry.warn ServerTransport.source
      s!"Dropped response {f.requestId.toNat}, connection {conn} is closed")

def stopReading (c : Accepted) (why : Option Frame.End) (n : Network σ) : Network σ :=
  let n := { n with server := n.server.putConn { c with reading := false } }
  match why with
  | some .eof => n.noteServer (Entry.info ServerTransport.source s!"Connection {c.id} closed by client")
  | some e =>
    if n.server.closed then n
    else n.noteServer (Entry.error ServerTransport.source
      s!"Error handling request on connection {c.id}: {e.message}")
  | none =>
    if n.server.closed then n
    else n.noteServer (Entry.error ServerTransport.source
      s!"Error handling request on connection {c.id}: use of closed network connection")

/-- One action of an accepted connection: serve a request, stop reading at the end of its
stream, or, stopped with nothing held, run the close handler and go away. -/
def serveStep (svc : Service σ) (c : Accepted) (n : Network σ) : Option (Network σ) :=
  if c.reading then
    if !n.server.hasWorker c then none
    else match (n.link c.link).takeUp with
      | (.frame f, l) =>
        let n := (n.modifyLink c.link fun _ => l).served c.id (.call f)
        let (a, ps, s) := svc.answer c.id f.channel f.data n.service
        let n := ({ n with service := s } : Network σ).applyPushes ps
        match a with
        | .reply d => some (n.respond c.id f d)
        | .hold =>
          let c' := ((n.server.conn? c.id).getD c)
          some { n with server := n.server.putConn { c' with held := c'.held ++ [f] } }
      | (.waiting, _) => none
      | (.ended e, _) => some (n.stopReading c (some e))
      | (.broken, _) => some (n.stopReading c none)
  else if c.held.isEmpty && c.outboxOpen then
    let (ps, s) := if n.server.hasCloseHandler then svc.closing c.id n.service else ([], n.service)
    let n := (({ n with service := s } : Network σ).applyPushes ps).served c.id .close
    some { (n.cut c.link) with server := n.server.dropConn c.id }
  else none

def resumeHeld (svc : Service σ) (conn : Nat) (n : Network σ) (f : Frame) : Network σ :=
  let (d, s) := svc.resume conn f n.service
  ({ n with service := s } : Network σ).respond conn f d

/-- Answers a connection's held requests, oldest first, and frees their workers. -/
def releaseConn (svc : Service σ) (n : Network σ) (c : Accepted) : Network σ :=
  let n := c.held.foldl (resumeHeld svc c.id) n
  match n.server.conn? c.id with
  | some c' => { n with server := n.server.putConn { c' with held := [] } }
  | none => n

def release (svc : Service σ) (n : Network σ) : Network σ :=
  n.server.conns.foldl (releaseConn svc) n

/-! ## The scripted peer -/

def peerStep (id : Nat) (n : Network σ) : Option (Network σ) :=
  match n.peer with
  | none => none
  | some p =>
    let drop := fun (n : Network σ) =>
      { (n.cut id) with peer := some { p with links := p.links.filter (· != id) } }
    match (n.link id).takeUp with
    | (.frame f, l) =>
      let n := n.modifyLink id fun _ => l
      let (frames, close, p) := p.react f
      let n := frames.foldl (fun n fr => n.modifyLink id (Link.sendDown fr)) { n with peer := some p }
      if close then some { (n.cut id) with peer := some { p with links := p.links.filter (· != id) } }
      else some n
    | (.waiting, _) => none
    | _ => some (drop n)

/-! ## The client side -/

def client? (n : Network σ) (name : String) : Option ClientTransport := n.clients.lookup name

def putClient (name : String) (t : ClientTransport) (n : Network σ) : Network σ :=
  if n.clients.any (·.1 == name) then
    { n with clients := n.clients.map fun (k, c) => if k == name then (k, t) else (k, c) }
  else { n with clients := n.clients ++ [(name, t)] }

/-- One action of a client connection's reader: take a notification or an answer, or at the
end of the stream fail the waiting requests and dial again. -/
def readStep (name : String) (t : ClientTransport) (c : Outgoing) (n : Network σ) :
    Option (Network σ) :=
  match c.link with
  | none => none
  | some id =>
    if !c.reading then none
    else match (n.link id).takeDown with
      | (.frame f, l) =>
        let n := n.modifyLink id fun _ => l
        some (n.putClient name (t.receive c.serial f))
      | (.waiting, _) => none
      | (arrival, _) =>
        if c.stopped then
          some (n.putClient name ((t.failWaiting c.serial ClientTransport.connectionClosed).putConn
            { c with reading := false }))
        else
          let why := match arrival with
            | .ended e => e.message
            | _ => "use of closed network connection"
          let t := (t.note (Entry.error ClientTransport.source s!"Connection to {c.endpoint} failed: {why}")).failWaiting
            c.serial (.within "error reading response" (.note why))
          let n := n.hangUp id
          match n.dialAs t.family c.endpoint with
          | .ok (id', n) => some (n.putClient name (t.putConn { c with link := some id' }))
          | .error e =>
            let t := t.note (Entry.error ClientTransport.source
              s!"Failed to reconnect to {c.endpoint}: failed to connect to {c.endpoint}: {e}")
            some (n.putClient name (t.putConn { c with link := none, reading := false }))

/-! ## Settling -/

/-- Lets each participant try one action in turn on the network the one before left; whether
anybody moved. -/
def tries {α : Type} (xs : List α) (step : α → Network σ → Option (Network σ))
    (acc : Network σ × Bool) : Network σ × Bool :=
  xs.foldl (fun (n, moved) x => match step x n with
    | some n' => (n', true)
    | none => (n, moved)) acc

/-- One participant's try, then the rest's. -/
theorem tries_cons {α : Type} (x : α) (xs : List α) (step : α → Network σ → Option (Network σ))
    (n : Network σ) (moved : Bool) :
    tries (x :: xs) step (n, moved) = tries xs step (match step x n with
      | some n' => (n', true)
      | none => (n, moved)) := rfl

/-- Every accepted connection, peer connection and client connection may act once; `none`
when nobody could. -/
def round (svc : Service σ) (n : Network σ) : Option (Network σ) :=
  let acc := tries (n.server.conns.map (·.id)) (fun id n =>
      match n.server.conn? id with
      | some c => n.serveStep svc c
      | none => none) (n, false)
  let acc := tries ((n.peer.map (·.links)).getD []) (fun id n => n.peerStep id) acc
  let acc := tries (n.clients.flatMap fun (name, t) => t.conns.map fun c => (name, c.serial))
    (fun (name, serial) n =>
      match n.client? name with
      | some t => match t.conns.find? (·.serial == serial) with
        | some c => n.readStep name t c
        | none => none
      | none => none) acc
  if acc.2 then some acc.1 else none

def settleWithin (svc : Service σ) : Nat → Network σ → Network σ
  | 0, n => n
  | fuel + 1, n =>
    match n.round svc with
    | some n' => settleWithin svc fuel n'
    | none => n

def settle (svc : Service σ) (n : Network σ) : Network σ := settleWithin svc 100000 n

/-! ## Operations of the server transport -/

def listen (n : Network σ) : Except Failure Unit × Network σ :=
  if !n.server.hasHandler then (.error (.note "no handler registered"), n)
  else match n.bind n.server.endpoint with
    | .error e =>
      (.error (.within "failed to create listener"
        (.within s!"failed to create {n.family.title} socket" (.note e))), n)
    | .ok (k, n) =>
      if n.server.closed then (.error ServerTransport.connectionClosed, n)
      else
        let n := (n.register k .server).noteServer (Entry.info ServerTransport.source
          s!"Starting {n.family.name} server on {n.server.endpoint} with {n.server.workers} workers per connection")
        (.ok (), { n with server := { n.server with listener := some k, serving := true } })

/-- Closes the listener and every connection; whether `Listen` was running. -/
def closeServer (n : Network σ) : Bool × Network σ :=
  if n.server.closed then (false, n)
  else
    let n := match n.server.listener with
      | some k => n.unregister k
      | none => n
    let n := n.server.conns.foldl (fun n c => n.cut c.link) n
    (n.server.serving, { n with server := { n.server with closed := true, serving := false } })

/-- Closes the server and waits for every connection to end: settle, release and answer the
held requests, settle again. -/
def shutdown (svc : Service σ) (n : Network σ) : Bool × Network σ :=
  let (serving, n) := n.closeServer
  (serving, ((n.settle svc).release svc).settle svc)

/-! ## Operations of client transports -/

/-- Closes a client transport's connections; their waiting requests fail with `connection closed`. -/
def closeConnections (name : String) (n : Network σ) : Network σ :=
  match n.client? name with
  | none => n
  | some t =>
    let n := t.conns.foldl (fun n c => match c.link with
      | some id => n.hangUp id
      | none => n) n
    let t := t.conns.foldl (fun t c => t.failWaiting c.serial ClientTransport.connectionClosed) t
    n.putClient name { t with conns := [] }

/-- Connects a client transport anew: old connections close, `perEndpoint` are dialed to each
endpoint, failed ones left out. -/
def connect (name : String) (s : ClientSettings) (n : Network σ) : Except Failure Unit × Network σ :=
  let t := (n.client? name).getD { family := n.family }
  if s.endpoints.isEmpty then (.error (.note "no endpoints provided"), n.putClient name t)
  else
    let n := n.closeConnections name
    let t := { ((n.client? name).getD t) with settings := s, stopping := false, conns := [] }
    let per := (max s.connectionsPerEndpoint 1).toNat
    let (t, n) := s.endpoints.foldl (fun (t, n) e =>
      (List.range per).foldl (fun (t, n) i =>
        match n.dialAs t.family e with
        | .ok (id, n) =>
          ({ t with conns := t.conns ++ [{ serial := t.nextSerial, endpoint := e, link := some id }],
                    nextSerial := t.nextSerial + 1 }, n)
        | .error err =>
          (t.note (Entry.warn ClientTransport.source
            s!"Failed to connect to {e} (connection {i + 1}/{per}): failed to connect to {e}: {err}"), n))
        (t, n)) (t, n)
    if t.conns.isEmpty then (.error (.note "failed to connect to any endpoint"), n.putClient name t)
    else
      let t := t.note (Entry.info ClientTransport.source
        s!"Connected to {t.conns.length} out of {s.endpoints.length * per} connections to {s.endpoints.length} endpoints using {t.family.name} transport")
      (.ok (), n.putClient name t)

/-- Closes a client transport: later requests fail with `transport is closed`. -/
def closeClient (name : String) (n : Network σ) : Network σ :=
  let n := n.closeConnections name
  match n.client? name with
  | some t => n.putClient name { t with stopping := true }
  | none => n

/-- Writes a request on the next connection holding a socket, as often as the settings allow:
its id, or why it was not written. -/
def issue (name : String) (channel : UInt64) (data : Bytes) (n : Network σ) :
    Except Failure UInt64 × Network σ :=
  match n.client? name with
  | none => (.error (.note "no active connections available"), n)
  | some t =>
    let id := UInt64.ofNat (t.lastRequest + 1)
    let t := { t with lastRequest := t.lastRequest + 1 }
    let rec attempt (k : Nat) (last : Option Failure) (t : ClientTransport) :
        Except Failure UInt64 × ClientTransport × Option Nat :=
      match k with
      | 0 =>
        (.error (.within s!"failed to send request after {t.attempts} attempts"
          (last.getD (.note "no attempt"))), t, none)
      | k + 1 =>
        if t.stopping then (.error (.note "transport is closed"), t, none)
        else match t.pick with
          | (none, t) => (.error (.note "no active connections available"), t, none)
          | (some c, t) =>
            match c.link with
            | none =>
              let e : Failure := .note s!"connection to {c.endpoint} is closed"
              attempt k (some e) t
            | some l =>
              (.ok id, { t with waiting := t.waiting ++ [{ id := id, conn := c.serial }],
                                sent := t.sent ++ [(c.serial, ⟨channel, id, data⟩)] }, some l)
    match attempt t.attempts none t with
    | (r, t, some l) =>
      (r, (n.putClient name t).modifyLink l (Link.sendUp (Frame.encode ⟨channel, id, data⟩)))
    | (r, t, none) => (r, n.putClient name t)

/-- A written request's outcome at rest: its answer, its connection's failure, or a timeout. -/
def await (svc : Service σ) (name : String) (id : UInt64) (n : Network σ) :
    Except Failure Bytes × Network σ :=
  let n := n.settle svc
  match n.client? name with
  | none => (.error ClientTransport.connectionClosed, n)
  | some t =>
    match t.outcome? id with
    | some r => (r, n.putClient name (t.forget id))
    | none => (.error (t.timedOut id), n.putClient name (t.forget id))

def send (svc : Service σ) (name : String) (channel : UInt64) (data : Bytes) (n : Network σ) :
    Except Failure Bytes × Network σ :=
  match n.issue name channel data with
  | (.ok id, n) => n.await svc name id
  | (.error e, n) => (.error e, n.settle svc)

/-- Takes the notifications received, oldest first. -/
def takeNotes (name : String) (n : Network σ) : List (UInt64 × Bytes) × Network σ :=
  match n.client? name with
  | some t => (t.notes, n.putClient name { t with notes := [], handled := t.handled ++ t.notes })
  | none => ([], n)

end Network

end InferenceBroker
