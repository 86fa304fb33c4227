import InferenceBroker.Transport.Link
import InferenceBroker.Transport.Address
import InferenceBroker.Config.Journal
import InferenceBroker.Core.Failure

/-!
# The server transport

A server transport listens on one address and serves each connection it accepts: it reads
frames in order, hands each to its service, and queues the answer as one frame with the same
channel and request id. At most `workers` requests of a connection are with the service at
once; a held request keeps its worker until released. A connection ends when its reader
stops (closed by the client, a bad or oversized frame, or the server closing); once its held
requests are answered the close handler runs, its outbox closes, and it is forgotten. Pushes
to a closed outbox fail with `connection closed`. A server closed before it listened refuses.
-/

namespace InferenceBroker

inductive Answer where
  | reply (data : Bytes)
  /-- keeps the request until it is released -/
  | hold
  deriving Repr, Inhabited

/-- A service over its own state `σ`: how it answers a request on a connection and channel,
what it answers a held request once released, and what it does when a connection ends; each
may push bytes to connections. -/
structure Service (σ : Type) where
  answer : Nat → UInt64 → Bytes → σ → Answer × List Push × σ
  resume : Nat → Frame → σ → Bytes × σ
  closing : Nat → σ → List Push × σ

/-- An accepted connection: number, link, whether its reader reads, the requests held, and
whether its outbox takes frames. -/
structure Accepted where
  id : Nat
  link : Nat
  reading : Bool := true
  held : List Frame := []
  outboxOpen : Bool := true
  deriving Inhabited

inductive Served where
  | call (f : Frame)
  | sent (f : Frame)
  | reply (f : Frame)
  /-- the connection ended: its close handler ran and its outbox closed -/
  | close
  deriving DecidableEq, Repr

structure ServerTransport where
  family : Family
  workers : Nat
  hasHandler : Bool := true
  hasCloseHandler : Bool := false
  endpoint : String := ""
  closed : Bool := false
  listener : Option String := none
  serving : Bool := false
  conns : List Accepted := []
  nextId : Nat := 1
  journal : List Entry := []
  /-- what the transport did on each connection, oldest first; no answer shows it -/
  log : List (Nat × Served) := []
  deriving Inhabited

namespace ServerTransport

def source : String := "transport/rpc"

/-- A server transport with a number of workers per connection (at least one). -/
def make (family : Family) (workers : Nat) : ServerTransport :=
  { family := family, workers := max workers 1 }

def note (e : Entry) (t : ServerTransport) : ServerTransport := { t with journal := t.journal ++ [e] }

def record (conn : Nat) (e : Served) (t : ServerTransport) : ServerTransport :=
  { t with log := t.log ++ [(conn, e)] }

def conn? (t : ServerTransport) (id : Nat) : Option Accepted := t.conns.find? (·.id == id)

def putConn (c : Accepted) (t : ServerTransport) : ServerTransport :=
  { t with conns := t.conns.map fun d => if d.id == c.id then c else d }

def dropConn (id : Nat) (t : ServerTransport) : ServerTransport :=
  { t with conns := t.conns.filter (·.id != id) }

def accept (link : Nat) (t : ServerTransport) : Nat × ServerTransport :=
  (t.nextId, { t with conns := t.conns ++ [{ id := t.nextId, link := link }], nextId := t.nextId + 1 })

def hasWorker (t : ServerTransport) (c : Accepted) : Bool := c.held.length < t.workers

/-- The failure of a push to a connection that is gone or whose outbox is closed. -/
def connectionClosed : Failure := .note "connection closed"

theorem accept_fst (link : Nat) (t : ServerTransport) : (t.accept link).1 = t.nextId := rfl

end ServerTransport

end InferenceBroker
