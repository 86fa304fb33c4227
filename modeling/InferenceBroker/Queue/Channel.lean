/-!
# Channels with many senders and one receiver

A channel hands values from any number of senders to a single receiver in the order they
were sent. Closing it refuses further sends; the receiver still gets every value sent
before, and after those learns that the channel is closed.

Values sent by several senders at once arrive interleaved in an order nobody controls;
`sendAll` fixes one such order (sender by sender), which is all a receiver that sorts
what it gets can tell apart.
-/

namespace InferenceBroker

/-- The values sent and not yet received, and whether it was closed. -/
structure Channel (α : Type) where
  pending : List α := []
  closed : Bool := false
  deriving Repr, Inhabited

namespace Channel

variable {α : Type}

/-- Refused (`false`) once the channel is closed. -/
def send (c : Channel α) (a : α) : Bool × Channel α :=
  if c.closed then (false, c) else (true, { c with pending := c.pending ++ [a] })

/-- Receives the oldest value sent; `none` when there is none. -/
def receive (c : Channel α) : Option α × Channel α :=
  match c.pending with
  | [] => (none, c)
  | a :: rest => (some a, { c with pending := rest })

def close (c : Channel α) : Channel α := { c with closed := true }

def length (c : Channel α) : Nat := c.pending.length

/-- How many sends were accepted, and the channel. -/
def sendAll (c : Channel α) (senders : List (List α)) : Nat × Channel α :=
  senders.flatten.foldl (fun (n, c) a =>
    let (ok, c') := c.send a
    (if ok then n + 1 else n, c')) (0, c)

def receiveMany (c : Channel α) (n : Nat) : List α × Channel α :=
  (c.pending.take n, { c with pending := c.pending.drop n })

theorem send_open (c : Channel α) (a : α) (h : c.closed = false) :
    c.send a = (true, { c with pending := c.pending ++ [a] }) := by
  simp [send, h]

theorem send_closed (c : Channel α) (a : α) (h : c.closed = true) : c.send a = (false, c) := by
  simp [send, h]

end Channel

end InferenceBroker
