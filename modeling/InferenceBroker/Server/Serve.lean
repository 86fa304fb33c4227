import InferenceBroker.Server.Broker
import InferenceBroker.Transport.Network

/-!
# Serving a broker on a network

The broker as a server transport's service: each request is answered at once, then the
dispatcher gets the time its asynchronous work needs and the replies that arose are pushed.
Serving opens the metrics endpoint (TCP) if configured, then listens; shutting down closes the
transport, lets connections end, closes the metrics endpoint and then the dispatcher.
-/

namespace InferenceBroker

namespace Broker

/-- Lets the dispatcher finish and pushes the replies that arose; a broker that keeps time
holds back those made after the dispatcher's clock. -/
def quiesce (b : Broker) : List Push × Broker :=
  let d := (Dispatcher.settle.run b.dispatcher).2
  let (reps, d) := Dispatcher.takeReplies.run d
  let (due, late) := if b.timed then reps.partition (·.moment ≤ d.now) else (reps, [])
  (Broker.pushes due).run { b with dispatcher := d, late := b.late ++ late }

/-- Pushes the held replies made by `deadline`, in the order they were made. -/
def releaseBy (deadline : Nat) (b : Broker) : List Push × Broker :=
  let (due, late) := b.late.partition (·.moment ≤ deadline)
  let due := due.mergeSort fun x y => x.moment ≤ y.moment
  (Broker.pushes due).run { b with late := late }

/-- The broker as a server transport's service, its peers named `peer` in the journal. -/
def service (peer : String) : Service Broker where
  answer conn channel data b :=
    let (out, b) := (Broker.handle conn channel.toNat data).run b
    let (ps, b) := b.quiesce
    (.reply out, ps, b)
  resume _ _ b := ([], b)
  closing conn b := ((Broker.disconnect conn peer).run b).2.quiesce

def record (e : Entry) (n : Network Broker) : Network Broker :=
  { n with service := ((Broker.note e).run n.service).2 }

/-- Binds a TCP address whatever the family, a fresh port for port 0. -/
def bindTcp (addr : String) (n : Network Broker) : Except String (String × Network Broker) :=
  match Address.tcpTarget addr with
  | .error e => .error s!"listen tcp: {e}"
  | .ok (host, port) =>
    if port == 0 then .ok (s!"{host}:{n.nextPort}", { n with nextPort := n.nextPort + 1 })
    else .ok (s!"{host}:{port}", n)

/-- The metrics endpoint (unless `metrics` is empty), then the transport's listener; the
metrics address, or the failure. -/
def serve (metrics : String) (n : Network Broker) : Except Failure (Option String) × Network Broker :=
  let opened : Except Failure (Option String × Network Broker) :=
    if metrics.isEmpty then .ok (none, n)
    else match bindTcp metrics n with
      | .error e => .error (.within "failed to listen on metrics endpoint" (.note e))
      | .ok (addr, n) =>
        .ok (some addr, record (Entry.info source s!"Serving metrics on http://{addr}/metrics")
          (n.register addr .other))
  match opened with
  | .error e => (.error e, n)
  | .ok (addr, n) =>
    let n := record (Entry.info source "aibroker setup completed successfully") n
    match n.listen with
    | (.error e, n) => (.error e, n)
    | (.ok (), n) => (.ok addr, n)

/-- The transport, the metrics endpoint at `metrics`, then the dispatcher: the failures, and
whether the listener was serving. -/
def shutdown (svc : Service Broker) (metrics : Option String) (n : Network Broker) :
    Option Failure × Bool × Network Broker :=
  let (serving, n) := n.closeServer
  let n := n.settle svc
  let n := match metrics with
    | some addr => n.unregister addr
    | none => n
  let (err, d) := Dispatcher.close.run n.service.dispatcher
  let n := { n with service := { n.service with dispatcher := d } }
  let n := record (Entry.info source "RPC Server closed") n
  (err, serving, n)

end Broker

end InferenceBroker
