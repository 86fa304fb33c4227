import InferenceBroker.Bench.Document
import InferenceBroker.Transport.Network
import InferenceBroker.Transport.Reflector

/-!
# The transport bench

A script against a server transport with the reflecting service behind it, client
transports, plain sockets and perhaps a scripted peer, on `server.sock` and `fixture.sock`
(`{server}`, `{fixture}`). Each step reports what it saw once the network is at rest.
-/

namespace InferenceBroker

namespace Bench

structure TransportBench where
  net : Network Reflector
  serverAddr : String
  peerAddr : String
  background : List (String × Except Failure (String × UInt64)) := []

namespace TransportBench

def svc : Service Reflector := Reflector.service

def notifyChannel : UInt64 := 2

/-- Replaces the placeholders of the server's and the peer's address. -/
def endpointOf (b : TransportBench) (e : String) : String :=
  (e.replace "\x7bserver\x7d" b.serverAddr).replace "\x7bfixture\x7d" b.peerAddr

def settingsOf (b : TransportBench) (j : JsonValue) : ClientSettings :=
  let eps := if has j "endpoints" then (items j "endpoints").filterMap fun
      | .string s => some s
      | _ => none
    else ["\x7bserver\x7d"]
  { endpoints := eps.map b.endpointOf, connectionsPerEndpoint := intOr j "conns" 1,
    retryCount := intOr j "retries" 3, timeoutSecond := intOr j "timeout" 5 }

def resultValue : Except Failure Bytes → JsonValue
  | .ok bs => .object [("resp", textValue bs)]
  | .error f => failureValue f

/-- Which connections of a client hold a socket. -/
def connsValue (b : TransportBench) (name : String) : JsonValue :=
  .array (((b.net.client? name).map ClientTransport.holding).getD [] |>.map .bool)

def connectReport (b : TransportBench) (name : String) (j : JsonValue) : JsonValue × TransportBench :=
  let (r, n) := b.net.connect name (b.settingsOf j)
  let b := { b with net := n.settle svc }
  (.object [("connect", outcomeValue r), ("conns", b.connsValue name)], b)

def rawWrite (b : TransportBench) (id : Nat) (bs : Bytes) : JsonValue × TransportBench :=
  let l := b.net.link id
  if !l.acceptorOpen then
    (.object [("write", failureValue (.note s!"write unix @->{b.serverAddr}: write: broken pipe"))], b)
  else
    let n := (b.net.modifyLink id (Link.sendUp bs)).settle svc
    (.object [("write", .bool true)], { b with net := n })

def step (b : TransportBench) (j : JsonValue) : JsonValue × TransportBench :=
  let op := textOr j "op" ""
  let name := textOr j "client" ""
  let raw := textOr j "name" ""
  let known := (b.net.client? name).isSome
  let unknownClient := refusal s!"unknown client {quoted name}"
  let unknownRaw := refusal s!"unknown raw socket {quoted raw}"
  match op with
  | "listen" =>
    let (r, n) := b.net.listen
    (.object [("listen", outcomeValue r)], { b with net := n.settle svc })
  | "server_close" =>
    let (serving, n) := b.net.shutdown svc
    (.object ([("close", .null)] ++ if serving then [("listen", .null)] else []), { b with net := n })
  | "release" => (.object [], { b with net := (b.net.release svc).settle svc })
  | "client" =>
    let b := { b with net := b.net.putClient name { family := b.net.family, listens := flag j "on_notify" } }
    if flag j "no_connect" then (.object [], b) else b.connectReport name j
  | "connect" =>
    let b := if known then b else
      { b with net := b.net.putClient name { family := b.net.family, listens := flag j "on_notify" } }
    b.connectReport name j
  | "send" =>
    if !known then (unknownClient, b) else
    let (r, n) := b.net.send svc name (UInt64.ofNat (intOr j "channel" 1).toNat) (payload j)
    (.object [("result", resultValue r)], { b with net := n })
  | "send_many" =>
    if !known then (unknownClient, b) else
    let texts := (items j "texts").map fun
      | .string s => Bytes.ofString s
      | _ => []
    let (ids, n) := texts.foldl (fun (acc, n) t =>
      let (r, n) := n.issue name 1 t
      (acc ++ [r], n)) ([], b.net)
    let (rs, n) := ids.foldl (fun (acc, n) r =>
      match r with
      | .ok id => let (x, n) := n.await svc name id; (acc ++ [x], n)
      | .error e => (acc ++ [.error e], n)) ([], n.settle svc)
    (.object [("results", .array (rs.map resultValue))], { b with net := n })
  | "send_bg" =>
    if !known then (unknownClient, b) else
    let (r, n) := b.net.issue name (UInt64.ofNat (intOr j "channel" 1).toNat) (payload j)
    (.object [], { b with net := n.settle svc,
                          background := b.background ++ [(raw, r.map fun id => (name, id))] })
  | "join" =>
    match b.background.lookup raw with
    | none => (refusal s!"unknown send {quoted raw}", b)
    | some r =>
      let b := { b with background := b.background.filter (·.1 != raw) }
      match r with
      | .error e => (.object [("result", failureValue e)], b)
      | .ok (c, id) =>
        let (x, n) := b.net.await svc c id
        (.object [("result", resultValue x)], { b with net := n })
  | "close" =>
    if !known then (unknownClient, b) else
    (.object [("close", .null)], { b with net := (b.net.closeClient name).settle svc })
  | "conns" => if !known then (unknownClient, b) else (.object [("conns", b.connsValue name)], b)
  | "notes" =>
    if !known then (unknownClient, b) else
    let (ns, n) := b.net.takeNotes name
    (.object [("notes", .array (ns.map fun (c, d) => textValue (Bytes.ofString s!"ch{c.toNat}:" ++ d)))],
     { b with net := n })
  | "raw_connect" =>
    match b.net.dial b.serverAddr with
    | .ok (id, n) =>
      (.object [("connect", .null)],
       { b with net := { n with raws := (raw, id) :: n.raws.filter (·.1 != raw) }.settle svc })
    | .error e => (.object [("connect", failureValue (.note e))], b)
  | "raw_write" =>
    match b.net.raws.lookup raw with
    | none => (unknownRaw, b)
    | some id => b.rawWrite id (payload j)
  | "raw_frame" =>
    match b.net.raws.lookup raw with
    | none => (unknownRaw, b)
    | some id =>
      b.rawWrite id (Frame.encode ⟨UInt64.ofNat (intOr j "channel" 0).toNat,
        UInt64.ofNat (intOr j "request_id" 0).toNat, payload j⟩)
  | "raw_read" =>
    match b.net.raws.lookup raw with
    | none => (unknownRaw, b)
    | some id =>
      match (b.net.link id).takeDown with
      | (.frame f, l) =>
        (.object [("read", .object [("channel", num f.channel.toNat),
            ("request_id", num f.requestId.toNat), ("data", textValue f.data)])],
         { b with net := b.net.modifyLink id fun _ => l })
      | (.waiting, _) => (.object [("read", .string "timeout")], b)
      | _ => (.object [("read", .string "closed")], b)
  | "raw_close" =>
    match b.net.raws.lookup raw with
    | none => (unknownRaw, b)
    | some id =>
      let n := b.net.hangUp id
      (.object [], { b with net := { n with raws := n.raws.filter (·.1 != raw) }.settle svc })
  | "closed" =>
    let rs := b.net.service.records.mergeSort fun x y => x.1 ≤ y.1
    (.object [("closed", .array (rs.map fun (id, pushed) =>
        .object [("id", num id), ("push_after_close", .bool pushed)]))],
     { b with net := { b.net with service := { b.net.service with records := [] } } })
  | "push_closed" =>
    let ids := b.net.service.seen.mergeSort fun x y => x ≤ y
    let (vs, n) := ids.foldl (fun (acc, n) id =>
      match n.emit id ⟨notifyChannel, 0, Bytes.ofString "late"⟩ with
      | .ok n => (acc ++ [JsonValue.null], n)
      | .error e => (acc ++ [failureValue e], n)) ([], b.net)
    (.object [("pushes", .array vs)], { b with net := n.settle svc })
  | "server_conns" =>
    (.object [("conns", num b.net.server.conns.length),
      ("listening", .bool b.net.server.listener.isSome)], b)
  | other => (refusal s!"unknown step {quoted other}", b)

end TransportBench

/-- A message given by its fields; byte fields are hex digits. -/
def messageOf (j : JsonValue) : Message :=
  let hexOf := fun (k : String) => match member j k with
    | some (.string s) => Bytes.ofHex? s
    | _ => none
  { kind := ⟨UInt8.ofNat (intOr j "type" 0).toNat⟩,
    transactionId := UInt64.ofNat (intOr j "transaction_id" 0).toNat,
    requestId := UInt64.ofNat (intOr j "request_id" 0).toNat,
    algorithmId := Bytes.ofString (textOr j "algorithm_id" ""),
    version := Int64.ofInt (intOr j "version" 0),
    algorithmType := Int32.ofInt (intOr j "algorithm_type" 0),
    clientUid := Bytes.ofString (textOr j "client_uid" ""),
    operationId := Int32.ofInt (intOr j "operation_id" 0),
    optionType := Int32.ofInt (intOr j "option_type" 0),
    value := hexOf "value",
    retCode := ⟨UInt8.ofNat (intOr j "ret_code" 0).toNat⟩,
    err := Bytes.ofString (textOr j "err" "") }

def scriptedOf (j : JsonValue) : Scripted :=
  if has j "msg" then .message (messageOf (part j "msg")) (flag j "copy_tx")
  else .raw ((Bytes.ofHex? (textOr j "hex" "")).getD [])

def cueOf (j : JsonValue) : Cue :=
  { notify := (items j "notify").map scriptedOf, close := flag j "close", hold := flag j "hold",
    stray := flag j "unknown_rid",
    answer := if has j "msg" || has j "hex" then some (scriptedOf j) else none }

/-- The server of the document's `server` part, the peer of its `fixture` part, the steps
of `ops`. -/
def transport (dir : Directory) (doc : JsonValue) : JsonValue :=
  let fam := textOr doc "transport" "unix"
  match Family.ofName? fam with
  | none => refusal s!"unknown transport {quoted fam}"
  | some family =>
    let srv := part doc "server"
    let tuned := has srv "buffer_size" || has srv "workers"
    let workers := if tuned then (intOr srv "workers" 4).toNat else 64
    let base : Network Reflector :=
      { family := family, dir := dir, server := ServerTransport.make family workers, service := {} }
    let (serverAddr, base) := match family with
      | .unix => ("server.sock", base)
      | .tcp => (s!"127.0.0.1:{base.nextPort}", { base with nextPort := base.nextPort + 1 })
    let (peerAddr, base) := match family with
      | .unix => ("fixture.sock", base)
      | .tcp => (s!"127.0.0.1:{base.nextPort}", { base with nextPort := base.nextPort + 1 })
    let serverAddr := textOr srv "endpoint" serverAddr
    let base := { base with server := { base.server with
      endpoint := serverAddr, hasHandler := !flag srv "no_handler",
      hasCloseHandler := flag srv "close_handler" } }
    let base := if has doc "fixture" then
        let fx := part doc "fixture"
        let format := (Format.ofName? (textOr fx "format" "binary")).getD .binary
        let peer : ScriptedPeer := { format := format, cues := (items fx "canned").map cueOf }
        match base.bind peerAddr with
        | .ok (k, n) => { (n.register k .peer) with peer := some peer }
        | .error _ => base
      else base
    let b : TransportBench := { net := base, serverAddr := serverAddr, peerAddr := peerAddr }
    let (rs, _) := runSteps TransportBench.step b (items doc "ops")
    maskValue (.object [("results", .array rs)])

end Bench

end InferenceBroker
