import InferenceBroker.Bench.Scrub
import InferenceBroker.Cli.Program

/-!
# The command-line bench

Runs the program as a shell would in a working directory of given files: perhaps a broker
first (`serve --endpoint E …`, E being `broker.sock` or a loopback TCP address, ready once E
accepts its first connection) with hold sessions bound on it, then the runs in order, with
`{endpoint}` standing for E. Each run reports its exit status, its scrubbed output streams
and the broker's log lines written meanwhile, sorted.
-/

namespace InferenceBroker

namespace Bench

open Cli

/-- The host, and while a broker runs its log level and the parts of its journals reported. -/
structure ShellBench where
  host : Host
  serving : Option LogLevel := none
  seenBroker : Nat := 0
  seenTransport : Nat := 0

namespace ShellBench

/-- The broker's log lines written since the last cut, and the bench with them cut off. -/
def cut (b : ShellBench) : List String × ShellBench :=
  match b.serving with
  | none => ([], b)
  | some level =>
    let n := b.host.net
    let lines := Scrub.logLines (Bytes.ofString (serverLines n level b.seenBroker b.seenTransport))
    (lines, { b with seenBroker := n.service.dispatcher.entries.length, seenTransport := n.server.journal.length })

def cutSorted (b : ShellBench) : List String × ShellBench :=
  let (lines, b) := b.cut
  (lines.mergeSort fun x y => x ≤ y, b)

def onNet (f : Network Broker → Network Broker) (b : ShellBench) : ShellBench :=
  { b with host := { b.host with net := f b.host.net } }

end ShellBench

def withEndpoint (endpoint : String) (s : String) : String := s.replace "\x7bendpoint\x7d" endpoint

def texts (j : JsonValue) (k : String) : List String :=
  (items j k).filterMap fun
    | .string s => some s
    | _ => none

def textMembers (j : JsonValue) (k : String) : List (String × String) :=
  match member j k with
  | some (.object ms) => ms.filterMap fun
    | (name, .string v) => some (name, v)
    | _ => none
  | _ => []

def setVars (env vars : List (String × String)) : List (String × String) :=
  vars.foldl (fun env (k, v) => env.filter (·.1 != k) ++ [(k, v)]) env

def streamValue (bs : Bytes) : JsonValue := textValue (Scrub.output bs)

def linesValue (lines : List String) : JsonValue := .array (lines.map lineValue)

def shellRun (endpoint : String) (env : List (String × String)) (b : ShellBench) (j : JsonValue) :
    JsonValue × ShellBench :=
  let args := (texts j "args").map (withEndpoint endpoint)
  let env := setVars env ((textMembers j "env").map fun (k, v) => (k, withEndpoint endpoint v))
  let (o, host, started) := Cli.run b.host env args
  let (o, host) := match started with
    | some (n, level) =>
      ({ o with exit := -1, out := o.out ++ Bytes.ofString (serverLines n level 0 0) }, { host with net := { host.net with dir := n.dir } })
    | none => (o, host)
  let b := { b with host := host }
  let fields := [("exit", num o.exit), ("stdout", streamValue o.out), ("stderr", streamValue o.err)]
  match b.serving with
  | some _ =>
    let (lines, b) := b.cutSorted
    (.object (fields ++ [("server_log", linesValue lines)]), b)
  | none => (.object fields, b)

/-- Opens the hold client and binds its sessions. -/
def holdSessions (endpoint : String) (format : Format) (family : Family) (holds : List JsonValue) (b : ShellBench) :
    ShellBench :=
  let name := "hold"
  let net := b.host.net.putClient name { family := family, listens := true }
  let (r, net) := net.connect name { endpoints := [endpoint], connectionsPerEndpoint := 1, retryCount := 3, timeoutSecond := 60 }
  let net := net.settle service
  match r with
  | .error _ => b.onNet fun _ => net
  | .ok () =>
    let c : RemoteClient := { transport := name, format := format, uid := RemoteClient.uidOf 0 }
    let (net, _, issued) := holds.foldl (fun (net, c, k) h =>
      let key : EngineKey := ⟨textOr h "algo" "", Int64.ofInt (intOr h "version" 0)⟩
      let (_, net, c) := (RemoteClient.startEngine service (RemoteClient.txOf (1000000 + k)) key none).run (net, c)
      (net, c, k + 1)) (net, c, 0)
    { (b.onNet fun _ => net) with host := { b.host with net := net, issued := b.host.issued + issued } }

/-- Runs the command-line bench of an input. -/
def shell (dir : Directory) (doc : JsonValue) : JsonValue :=
  let env := setVars [("PATH", "/usr/local/bin:/usr/bin:/bin"), ("HOME", "")] (textMembers doc "env")
  let host := Host.ofDirectory dir
  let srv := part doc "serve"
  let serving := has doc "serve"
  let fam := textOr srv "transport" "unix"
  let ser := textOr srv "serializer" "binary"
  let endpoint := if fam == "tcp" then "127.0.0.1:40000" else "broker.sock"
  let b : ShellBench := { host := host }
  let holds := items srv "hold"
  -- the broker, if any
  let (serveReport, b) : Option JsonValue × ShellBench :=
    if !serving then (none, b)
    else
      let args := ["serve", "--endpoint", endpoint, "--transport", fam, "--serializer", ser] ++
        (texts srv "args").map (withEndpoint endpoint)
      let (o, host, started) := Cli.run b.host env args
      match started with
      | none =>
        (some (.object [("exit", num o.exit), ("ready", .bool false),
          ("startup", linesValue (Scrub.logLines o.out)), ("stderr", streamValue o.err)]), { b with host := host })
      | some (n, level) =>
        let b : ShellBench := { host := { host with net := n }, serving := some level }
        let (ready, b) := match fam with
          | "unix" =>
            match b.host.net.dial endpoint with
            | .ok (id, n) => (true, b.onNet fun _ => (n.hangUp id).settle service)
            | .error _ => (false, b)
          | _ => (false, b)
        let (startup, b) := b.cut
        (some (.object [("exit", num 0), ("ready", .bool ready), ("startup", linesValue startup),
          ("stderr", .string "")]), b)
  let holding := serving && !holds.isEmpty && b.serving.isSome
  let (holdStart, b) :=
    if !holding then ([], b)
    else
      let b := holdSessions endpoint ((Format.ofName? ser).getD .binary) ((Family.ofName? fam).getD .unix) holds b
      b.cutSorted
  let (runs, b) := runSteps (shellRun endpoint env) b (items doc "runs")
  let (holdStop, b) :=
    if !holding then ([], b)
    else (b.onNet fun n => (n.closeClient "hold").settle service).cutSorted
  let files := (texts doc "read_files").map fun name =>
    (name, match b.host.net.dir.read name with
      | .error _ => JsonValue.null
      | .ok bs => if name.endsWith ".csv" then linesValue (Scrub.csv bs) else streamValue bs)
  let report := [("runs", JsonValue.array runs)] ++
    (match serveReport with
     | some s => [("serve", s)]
     | none => []) ++
    (if holding then [("hold_start", linesValue holdStart), ("hold_stop", linesValue holdStop)] else []) ++
    (if has doc "read_files" then [("files", .object files)] else [])
  .object report

end Bench

end InferenceBroker
