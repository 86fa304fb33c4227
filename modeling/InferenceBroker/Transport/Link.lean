import InferenceBroker.Transport.Frame

/-!
# Connections

A connection joins a dialing socket to the one its listener accepted: bytes toward the
acceptor, cut into frames as they arrive, whole frames toward the dialer. Each end closes on
its own; a reader gets what was sent before the other end closed, then the end of the stream.
-/

namespace InferenceBroker

/-- One connection: bytes toward the acceptor not yet read, frames toward the dialer not
yet read, and whether each end is still open. -/
structure Link where
  up : Bytes := []
  down : List Frame := []
  dialerOpen : Bool := true
  acceptorOpen : Bool := true
  /-- every byte the dialer sent, oldest first; kept for reasoning, read by no one -/
  wrote : Bytes := []
  /-- every frame the acceptor sent, oldest first; kept for reasoning, read by no one -/
  written : List Frame := []
  deriving Inhabited

inductive Arrival where
  | frame (f : Frame)
  /-- Nothing yet; the other end may still send. -/
  | waiting
  /-- The stream ended, or a header announced too much data. -/
  | ended (e : Frame.End)
  /-- The reader's own end is closed. -/
  | broken
  deriving Repr

namespace Link

/-- The acceptor's read: the next frame of the bytes sent to it. A header that
announces too much data ends the stream at once; an incomplete frame waits while the
dialer may still send. -/
def takeUp (l : Link) : Arrival × Link :=
  if !l.acceptorOpen then (.broken, l)
  else match Frame.read l.up with
    | .ok (f, rest) => (.frame f, { l with up := rest })
    | .error (.tooLarge n) => (.ended (.tooLarge n), l)
    | .error e => if l.dialerOpen then (.waiting, l) else (.ended e, l)

/-- The dialer's read: the next frame sent to it; after the last one, the end of the
stream once the acceptor closed. -/
def takeDown (l : Link) : Arrival × Link :=
  if !l.dialerOpen then (.broken, l)
  else match l.down with
    | f :: rest => (.frame f, { l with down := rest })
    | [] => if l.acceptorOpen then (.waiting, l) else (.ended .eof, l)

/-- The acceptor writes a frame; it is lost when either end is closed. -/
def sendDown (f : Frame) (l : Link) : Link :=
  if l.acceptorOpen && l.dialerOpen then { l with down := l.down ++ [f], written := l.written ++ [f] } else l

/-- The dialer writes bytes; they are lost when either end is closed. -/
def sendUp (bs : Bytes) (l : Link) : Link :=
  if l.acceptorOpen && l.dialerOpen then { l with up := l.up ++ bs, wrote := l.wrote ++ bs } else l

end Link

end InferenceBroker
