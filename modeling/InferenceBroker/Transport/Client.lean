import InferenceBroker.Transport.Link
import InferenceBroker.Transport.Address
import InferenceBroker.Config.Journal
import InferenceBroker.Core.Failure
import InferenceBroker.Text.Duration
import InferenceBroker.Config.Settings

/-!
# The client transport

A client transport keeps connections to each endpoint and spreads requests over them in
turn. Each request gets a fresh id and is written as one frame; the frame coming back with
that id on that connection answers it, and notify-channel frames go to the notification
handler. A connection without socket is skipped (`connection to E is closed`) and the next
tried, as often as the settings allow; a written request is never retried. When a stream
ends its waiting requests fail (`error reading response: …`) and it dials again. Closing fails
waiting requests with `connection closed`, later ones with `transport is closed`.
-/

namespace InferenceBroker

/-- A connection: a serial unique in the transport, its endpoint, its link, whether told to
stop, and whether its reader runs. -/
structure Outgoing where
  serial : Nat
  endpoint : String
  link : Option Nat := none
  stopped : Bool := false
  reading : Bool := true
  deriving Inhabited

structure Waiting where
  id : UInt64
  conn : Nat
  result : Option (Except Failure Bytes) := none
  deriving Inhabited

structure ClientTransport where
  family : Family
  settings : ClientSettings := {}
  conns : List Outgoing := []
  nextSerial : Nat := 1
  turn : Nat := 0
  lastRequest : Nat := 0
  stopping : Bool := false
  listens : Bool := false
  notes : List (UInt64 × Bytes) := []
  waiting : List Waiting := []
  journal : List Entry := []
  /-- each request frame written, with its connection's serial; no answer shows it -/
  sent : List (Nat × Frame) := []
  /-- each frame a reader read, with its connection's serial; no answer shows it -/
  received : List (Nat × Frame) := []
  /-- each notification handed to the handler, oldest first; no answer shows it -/
  handled : List (UInt64 × Bytes) := []
  deriving Inhabited

namespace ClientTransport

def source : String := "transport/rpc"

def note (e : Entry) (t : ClientTransport) : ClientTransport := { t with journal := t.journal ++ [e] }

/-- The retries setting, at least once. -/
def attempts (t : ClientTransport) : Nat := (max t.settings.retryCount 1).toNat

/-- The connection the next attempt goes to: the only one, or the next in turn. -/
def pick (t : ClientTransport) : Option Outgoing × ClientTransport :=
  match t.conns with
  | [] => (none, t)
  | [c] => (some c, t)
  | cs =>
    let turn := t.turn + 1
    (cs[turn % cs.length]?, { t with turn := turn })

def putConn (c : Outgoing) (t : ClientTransport) : ClientTransport :=
  { t with conns := t.conns.map fun d => if d.serial == c.serial then c else d }

def failWaiting (serial : Nat) (e : Failure) (t : ClientTransport) : ClientTransport :=
  { t with waiting := t.waiting.map fun w =>
      if w.conn == serial && w.result.isNone then { w with result := some (.error e) } else w }

/-- Hands a frame to the request waiting for its id, or notes that none waits. -/
def deliver (serial : Nat) (f : Frame) (t : ClientTransport) : ClientTransport :=
  if t.waiting.any fun w => w.conn == serial && w.id == f.requestId && w.result.isNone then
    { t with waiting := t.waiting.map fun w =>
        if w.conn == serial && w.id == f.requestId && w.result.isNone then
          { w with result := some (.ok f.data) } else w }
  else t.note (Entry.warn source
    s!"Received response for unknown request ID {f.requestId.toNat} on channel {f.channel.toNat}")

/-- A notification goes to the handler, when there is one, any other frame to its request. -/
def receive (serial : Nat) (f : Frame) (t : ClientTransport) : ClientTransport :=
  let t := if f.channel == Frame.notifyChannel then
      if t.listens then { t with notes := t.notes ++ [(f.channel, f.data)] } else t
    else t.deliver serial f
  { t with received := t.received ++ [(serial, f)] }

def outcome? (id : UInt64) (t : ClientTransport) : Option (Except Failure Bytes) :=
  (t.waiting.find? (·.id == id)).bind (·.result)

def forget (id : UInt64) (t : ClientTransport) : ClientTransport :=
  { t with waiting := t.waiting.filter (·.id != id) }

def timedOut (id : UInt64) (t : ClientTransport) : Failure :=
  .within s!"request {id.toNat} after {(Duration.ofMillis (t.settings.timeoutSecond * 1000)).render}"
    Failure.timeout

def connectionClosed : Failure := .note "connection closed"

def holding (t : ClientTransport) : List Bool := t.conns.map (·.link.isSome)

/-- With one connection a pick gives it and leaves the turn alone. -/
theorem pick_single (c : Outgoing) (t : ClientTransport) (h : t.conns = [c]) :
    t.pick = (some c, t) := by
  simp [pick, h]

end ClientTransport

end InferenceBroker
