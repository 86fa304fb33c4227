import InferenceBroker.Bench.Transport
import InferenceBroker.Remote.Client
import InferenceBroker.Server.Serve

/-!
# The client bench

A script of broker clients against a broker on a network, or against a scripted peer. The
report writes chosen ids by name: a session's transaction id as its name, inside texts
`<name>` and `<uid:client>`. After each step the replies received are reported per session,
sorted by request id.
-/

namespace InferenceBroker

namespace Bench

structure RemoteBench where
  net : Network Broker
  svc : Service Broker
  format : Format
  serverAddr : String
  peerAddr : String
  metrics : Option String := none
  clients : List (String × RemoteClient) := []
  sessions : List (String × String × RemoteSession) := []
  labels : List (UInt64 × String) := []
  uids : List (String × String) := []
  issued : Nat := 0

namespace RemoteBench

/-- Writes the transaction ids and uids of a text by name. -/
def relabel (b : RemoteBench) (s : String) : String :=
  let s := b.labels.foldl (fun s (tx, name) => s.replace (toString tx.toNat) s!"<{name}>") s
  b.uids.foldl (fun s (uid, name) => s.replace uid s!"<uid:{name}>") s

def failure (b : RemoteBench) (f : Failure) : JsonValue :=
  .object [("error", .string f.code.name), ("message", .string (b.relabel f.message))]

/-- A transaction id: its session's name, or the number. -/
def txValue (b : RemoteBench) (tx : UInt64) : JsonValue :=
  match b.labels.lookup tx with
  | some name => .string name
  | none => num tx.toNat

def responseValue (b : RemoteBench) (r : Response) : JsonValue :=
  .object [("request_id", num r.requestId.toNat), ("result", hexValue r.result),
    ("ret_code", num r.retCode.val.toNat), ("ret_desc", .string (b.relabel r.retDesc.text)),
    ("transaction_id", b.txValue r.transactionId)]

def messageValue (b : RemoteBench) (m : Message) : JsonValue :=
  .object [("type", num m.kind.val.toNat), ("transaction_id", b.txValue m.transactionId),
    ("request_id", num m.requestId.toNat), ("algorithm_id", .string m.algorithmId.text),
    ("version", num m.version.toInt), ("algorithm_type", num m.algorithmType.toInt),
    ("client_uid", .string (b.relabel m.clientUid.text)), ("operation_id", num m.operationId.toInt),
    ("option_type", num m.optionType.toInt), ("value", hexValue m.value),
    ("ret_code", num m.retCode.val.toNat), ("err", .string (b.relabel m.err.text))]

def statsValue (e : StatsEntry) : JsonValue :=
  .object [("key", .object [("algorithm_id", .string e.algorithm), ("version", num e.version)]),
    ("mode", .string e.mode), ("state", .string e.state), ("ref_count", num e.refCount),
    ("thread_id", num e.threadId), ("queue_len", num e.queueLen), ("queue_cap", num e.queueCap),
    ("submitted", num e.submitted), ("rejected", num e.rejected), ("processed", num e.processed),
    ("failed", num e.failed), ("timeouts", num e.timeouts), ("mean_payload", .number e.meanPayload),
    ("max_payload", num e.maxPayload)]

def onClient {α : Type} (b : RemoteBench) (name : String) (c : RemoteClient) (m : RemoteM Broker α) :
    α × RemoteBench :=
  let (x, n, c) := m.run (b.net, c)
  (x, { b with net := n, clients := b.clients.map fun (k, d) => if k == name then (k, c) else (k, d) })

def requestOf (j : JsonValue) : Option Request :=
  match member j "request" with
  | some r@(.object _) =>
    some { requestId := UInt64.ofNat (intOr r "request_id" 0).toNat,
           operationId := Int32.ofInt (intOr r "operation_id" 0),
           transactionId := UInt64.ofNat (intOr r "transaction_id" 0).toNat,
           algorithmType := Int32.ofInt (intOr r "algorithm_type" 0),
           clientUid := Bytes.ofString (textOr r "client_uid" ""),
           payload := match member r "payload" with
             | some (.string s) => Bytes.ofHex? s
             | _ => none }
  | _ => none

def hexOf (j : JsonValue) (k : String) : Option Bytes :=
  match member j k with
  | some (.string s) => Bytes.ofHex? s
  | _ => none

def settingsOf (b : RemoteBench) (j : JsonValue) : ClientSettings :=
  let eps := if has j "endpoints" then (items j "endpoints").filterMap fun
      | .string s => some s
      | _ => none
    else ["\x7bserver\x7d"]
  { endpoints := eps.map fun e => (e.replace "\x7bserver\x7d" b.serverAddr).replace "\x7bfixture\x7d" b.peerAddr,
    connectionsPerEndpoint := intOr j "conns" 1, retryCount := intOr j "retries" 3,
    timeoutSecond := intOr j "timeout" 5 }

def sessionStep (b : RemoteBench) (op label : String) (j : JsonValue) : JsonValue × RemoteBench :=
  match b.sessions.lookup label with
  | none => (refusal s!"unknown session {quoted label}", b)
  | some (cname, s) =>
    match b.clients.lookup cname with
    | none => (refusal s!"unknown client {quoted cname}", b)
    | some c =>
      let keep := fun (b : RemoteBench) (s : RemoteSession) =>
        { b with sessions := b.sessions.map fun (k, v) => if k == label then (k, cname, s) else (k, v) }
      let errorOnly := fun (r : Except Failure Unit) => match r with
        | .ok () => JsonValue.object [("error", .null)]
        | .error e => .object [("error", b.failure e)]
      match op with
      | "sync" =>
        let ((r, s), b) := b.onClient cname c (s.syncExecute b.svc (requestOf j))
        (match r with
         | .ok resp => .object [("response", b.responseValue resp)]
         | .error e => .object [("error", b.failure e)], keep b s)
      | "async" =>
        let ((r, s), b) := b.onClient cname c (s.asyncExecute b.svc (requestOf j))
        (match r with
         | .ok seq => .object [("seq", num seq.toNat)]
         | .error e => .object [("error", b.failure e)], keep b s)
      | "listen" =>
        let (r, b) := b.onClient cname c (s.setListener b.svc true)
        (errorOnly r, b)
      | "unlisten" =>
        let (r, b) := b.onClient cname c (s.setListener b.svc false)
        (errorOnly r, b)
      | "set_option" =>
        let (r, b) := b.onClient cname c
          (s.setOption b.svc (Int32.ofInt (intOr j "type" 0)) (hexOf j "value"))
        (errorOnly r, b)
      | "get_option" =>
        let (r, b) := b.onClient cname c
          (s.getOption b.svc (Int32.ofInt (intOr j "type" 0)) (hexOf j "input"))
        (match r with
         | .ok v => .object [("value", hexValue v)]
         | .error e => .object [("error", b.failure e)], b)
      | _ =>
        let ((r, s), b) := b.onClient cname c (s.stop b.svc (hexOf j "input"))
        (errorOnly r, keep b s)

def step (b : RemoteBench) (j : JsonValue) : JsonValue × RemoteBench :=
  let op := textOr j "op" ""
  let name := textOr j "client" ""
  let unknownClient := refusal s!"unknown client {quoted name}"
  match op with
  | "client" =>
    match Format.ofName? (textOr j "serializer" b.format.name) with
    | none =>
      let given := textOr j "serializer" ""
      (refusal s!"unknown serializer {quoted given}", b)
    | some format =>
      let net := b.net.putClient name { family := b.net.family, listens := true }
      let (r, net) := net.connect name (b.settingsOf j)
      let net := net.settle b.svc
      match r with
      | .error e =>
        (.object [("client", b.failure e)],
         { b with net := { net with clients := net.clients.filter (·.1 != name) },
                  clients := b.clients.filter (·.1 != name) })
      | .ok () =>
        let uid := RemoteClient.uidOf b.uids.length
        let c : RemoteClient := { transport := name, format := format, uid := uid }
        let conns := ((net.client? name).map ClientTransport.holding).getD []
        (.object [("client", .null), ("conns", .array (conns.map .bool)), ("uid_len", num uid.length)],
         { b with net := net, clients := (b.clients.filter (·.1 != name)) ++ [(name, c)],
                  uids := b.uids ++ [(uid, name)] })
  | "start" =>
    match b.clients.lookup name with
    | none => (unknownClient, b)
    | some c =>
      let label := textOr j "session" ""
      let tx := RemoteClient.txOf b.issued
      let b := { b with issued := b.issued + 1, labels := b.labels ++ [(tx, label)] }
      let key : EngineKey := ⟨textOr j "algo" "", Int64.ofInt (intOr j "version" 0)⟩
      let (r, b) := b.onClient name c (RemoteClient.startEngine b.svc tx key (hexOf j "input"))
      match r with
      | .ok (s, out) =>
        (.object [("prepare", hexValue out), ("algo", .string key.render)],
         { b with sessions := (b.sessions.filter (·.1 != label)) ++ [(label, name, s)] })
      | .error e => (.object [("error", b.failure e)], b)
  | "stats" =>
    match b.clients.lookup name with
    | none => (unknownClient, b)
    | some c =>
      let (r, b) := b.onClient name c (RemoteClient.stats b.svc)
      match r with
      | .ok es => (.object [("stats", .array (es.map statsValue))], b)
      | .error e => (.object [("error", b.failure e)], b)
  | "raw" =>
    match b.clients.lookup name with
    | none => (unknownClient, b)
    | some c =>
      let (r, b) := b.onClient name c (do
        let (n, c) ← get
        let (r, n) := n.send b.svc c.transport (UInt64.ofNat (intOr j "channel" 1).toNat) (payload j)
        set (n, c)
        RemoteClient.absorb
        return r)
      match r with
      | .error e => (.object [("error", b.failure e)], b)
      | .ok data =>
        match c.format.decode data with
        | .ok m => (.object [("msg", b.messageValue m)], b)
        | .error e => (.object [("error", b.failure e)], b)
  | "close" =>
    match b.clients.lookup name with
    | none => (unknownClient, b)
    | some c =>
      let ((), b) := b.onClient name c (RemoteClient.close b.svc)
      (.object [("error", .null)], b)
  | "server_close" =>
    let (err, _, n) := Broker.shutdown b.svc b.metrics b.net
    let err := match err with
      | some e => b.failure e
      | none => .null
    (.object [("error", err), ("serve", .null)], { b with net := n.settle b.svc })
  | "metrics" | "http" =>
    match b.metrics with
    | none => (.object [("addr", .string "")], b)
    | some addr =>
      let path := if op == "metrics" then "/metrics" else textOr j "path" ""
      let url := s!"http://{addr}{path}"
      (.object [("error", b.failure (.note
        s!"Get {quoted url}: dial tcp {addr}: connect: network is unreachable"))], b)
  | "sync" | "async" | "listen" | "unlisten" | "set_option" | "get_option" | "stop" =>
    b.sessionStep op (textOr j "session" "") j
  | other => (refusal s!"unknown step {quoted other}", b)

/-- The replies the listeners received since the last step, by session. -/
def takeReplies (b : RemoteBench) : List (String × JsonValue) × RemoteBench :=
  let all := b.clients.flatMap fun (_, c) => c.replies
  let b := { b with clients := b.clients.map fun (k, c) => (k, { c with replies := [] }) }
  let groups := all.foldl (fun acc r =>
    let label := (b.labels.lookup r.transactionId).getD (toString r.transactionId.toNat)
    match acc.lookup label with
    | some _ => acc.map fun (k, v) => if k == label then (k, v ++ [r]) else (k, v)
    | none => acc ++ [(label, [r])]) ([] : List (String × List Response))
  (groups.map fun (label, rs) =>
    (label, .array ((rs.mergeSort fun x y => x.requestId.toNat ≤ y.requestId.toNat).map b.responseValue)), b)

def stepWithReplies (b : RemoteBench) (j : JsonValue) : JsonValue × RemoteBench :=
  let (r, b) := b.step j
  let (groups, b) := b.takeReplies
  if groups.isEmpty then (r, b)
  else match r with
    | .object ms => (.object (ms ++ [("replies", .object groups)]), b)
    | other => (other, b)

end RemoteBench

/-- Against a broker made from `settings` on the script's transport, or against the peer of
its `fixture` part. -/
def remote (dir : Directory) (settings : ServerSettings) (doc : JsonValue) : JsonValue :=
  let fam := textOr doc "transport" "unix"
  match Family.ofName? fam, Format.ofName? (textOr doc "format" "binary") with
  | none, _ => refusal s!"unknown transport {quoted fam}"
  | _, none =>
    let given := textOr doc "format" ""
    refusal s!"unknown format {quoted given}"
  | some family, some format =>
    let config := part doc "config"
    let fixture := has doc "fixture"
    let settings := { settings with
      syncTimeout := if has config "sync_timeout_ms" || has config "sync_timeout_ns" then settings.syncTimeout
        else Duration.ofMillis 5000,
      metricsEndpoint := if settings.metricsEndpoint.isEmpty && (flag doc "metrics" || flag config "metrics") then
          "127.0.0.1:0"
        else settings.metricsEndpoint }
    let made := if fixture then Broker.make {} format dir Builtin.descriptors
      else Broker.make settings format dir (Builtin.descriptors ++ settings.plugins)
    match made with
    | .error e => .object [("server", failureValue e)]
    | .ok broker =>
      let srv := part doc "server"
      let tuned := has srv "buffer_size" || has srv "workers"
      let workers := if tuned then (intOr srv "workers" 4).toNat else 64
      let base : Network Broker :=
        { family := family, dir := dir, server := ServerTransport.make family workers, service := broker }
      let (serverAddr, base) := match family with
        | .unix => ("broker.sock", base)
        | .tcp => (s!"127.0.0.1:{base.nextPort}", { base with nextPort := base.nextPort + 1 })
      let (peerAddr, base) := match family with
        | .unix => ("fixture.sock", base)
        | .tcp => (s!"127.0.0.1:{base.nextPort}", { base with nextPort := base.nextPort + 1 })
      let serverAddr := if settings.endpoint.isEmpty then serverAddr else settings.endpoint
      let base := { base with server := { base.server with endpoint := serverAddr, hasCloseHandler := true } }
      let svc := Broker.service "@"
      let started : Except Failure (Option String × Network Broker) :=
        if fixture then
          let fx := part doc "fixture"
          let peer : ScriptedPeer := { format := format, cues := (items fx "canned").map cueOf }
          match base.bind peerAddr with
          | .ok (k, n) => .ok (none, { (n.register k .peer) with peer := some peer })
          | .error _ => .ok (none, base)
        else match Broker.serve settings.metricsEndpoint base with
          | (.ok addr, n) => .ok (addr, n.settle svc)
          | (.error e, _) => .error e
      match started with
      | .error e => maskValue (.object [("server", failureValue e)])
      | .ok (metrics, net) =>
        let target := if fixture then peerAddr else serverAddr
        let b : RemoteBench :=
          { net := net, svc := svc, format := format, serverAddr := target, peerAddr := peerAddr,
            metrics := metrics }
        let (rs, _) := runSteps RemoteBench.stepWithReplies b (items doc "ops")
        maskValue (.object [("results", .array rs)])

end Bench

end InferenceBroker
