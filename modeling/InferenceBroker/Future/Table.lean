import InferenceBroker.Core.Exchange
import InferenceBroker.Core.Event
import InferenceBroker.Future.Status

/-!
# The table of pending futures

An asynchronous request gets a future before it is queued: a sequence number unique among the
pending ones, counting up from 1 and wrapping after `maxSeq`, at most `capacity` pending
(`N futures pending: future table full`). A response names its future by request id; the
future is removed and the listener of the response's transaction (else the future's) gets the
reply, or it is dropped with `no matching future` or `no listener found`.
-/

namespace InferenceBroker

def maxSequence : Nat := Nat.pow 2 32 - 1

def defaultFutureCapacity : Nat := 4096

structure PendingFuture where
  seq : Nat
  transactionId : UInt64
  deriving DecidableEq, Repr, Inhabited

/-- The future's sequence number and transaction, result or error, the response, and when on
the dispatcher's clock the plugin made it. -/
structure Reply (L : Type) where
  listener : L
  seq : Nat
  transactionId : UInt64
  status : FutureStatus
  response : Response
  moment : Nat := 0

structure FutureTable (L : Type) where
  capacity : Nat
  maxSeq : Nat
  nextSeq : Nat := 1
  pending : List PendingFuture := []
  listeners : List (UInt64 × L) := []
  /-- futures a response completed; no answer shows it -/
  completed : Nat := 0
  /-- futures closing dropped; no answer shows it -/
  dropped : Nat := 0

namespace FutureTable

variable {L : Type}

/-- A capacity below one becomes the default, and none exceeds the sequence numbers. -/
def make (capacity : Int) (maxSeq : Nat) : FutureTable L :=
  let c := if capacity < 1 then defaultFutureCapacity else capacity.toNat
  { capacity := min c maxSeq, maxSeq := maxSeq }

def advance (t : FutureTable L) (seq : Nat) : Nat := if t.maxSeq ≤ seq then 1 else seq + 1

def used (t : FutureTable L) (seq : Nat) : Bool := t.pending.any (·.seq == seq)

/-- The first free number from `seq`; fewer pending futures than `fuel` find one. -/
def freeFrom (t : FutureTable L) : Nat → Nat → Nat
  | 0, seq => seq
  | fuel + 1, seq => if t.used seq then t.freeFrom fuel (t.advance seq) else seq

def create (t : FutureTable L) (tx : UInt64) : Except Failure (Nat × FutureTable L) :=
  if t.capacity ≤ t.pending.length then
    .error (.within s!"{t.pending.length} futures pending" Failure.futureTableFull)
  else
    let seq := t.freeFrom (t.pending.length + 1) t.nextSeq
    .ok (seq, { t with nextSeq := t.advance seq, pending := t.pending ++ [⟨seq, tx⟩] })

def release (t : FutureTable L) (seq : Nat) : Except Failure (FutureTable L) :=
  if t.used seq then .ok { t with pending := t.pending.filter (·.seq != seq) }
  else .error (.within s!"sequence {seq}" Failure.noMatchingFuture)

def listener? (t : FutureTable L) (tx : UInt64) : Option L := t.listeners.lookup tx

/-- Installs a transaction's listener, replacing any earlier one. -/
def register (t : FutureTable L) (tx : UInt64) (l : L) : FutureTable L :=
  { t with listeners := (tx, l) :: t.listeners.filter (·.1 != tx) }

/-- Removes a transaction's listener: whether there was one. -/
def unregister (t : FutureTable L) (tx : UInt64) : Bool × FutureTable L :=
  ((t.listener? tx).isSome, { t with listeners := t.listeners.filter (·.1 != tx) })

def hasListener (t : FutureTable L) (tx : UInt64) : Bool := (t.listener? tx).isSome

/-- Delivers a plugin's answer: the reply, or why it was dropped, and the table without the future. -/
def respond (t : FutureTable L) (event : Event) (resp : Option Response) :
    Except Failure (Reply L) × FutureTable L :=
  match resp with
  | none => (.error (.within "nil response" Failure.invalidArgument), t)
  | some r =>
    let seq := r.requestId.toNat
    match t.pending.find? (·.seq == seq) with
    | none => (.error (.within s!"sequence {seq}" Failure.noMatchingFuture), t)
    | some f =>
      let t' := { t with pending := t.pending.filter (·.seq != seq), completed := t.completed + 1 }
      let tx := if r.transactionId == 0 then f.transactionId else r.transactionId
      let status := if event.isResult then FutureStatus.ok else .error
      match t.listener? tx with
      | none => (.error (.within s!"transaction {tx.toNat}" Failure.noListenerFound), t')
      | some l => (.ok ⟨l, seq, f.transactionId, status, r, 0⟩, t')

def close (t : FutureTable L) : FutureTable L :=
  { t with pending := [], listeners := [], dropped := t.dropped + t.pending.length }

end FutureTable

end InferenceBroker
