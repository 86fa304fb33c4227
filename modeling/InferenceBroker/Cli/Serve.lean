import InferenceBroker.Cli.Process

/-!
# The serve command

`serve` reads the broker's settings from its layers (flags, `AIB_*` variables, the
settings file), checks the log level, the message format and the transport, builds a
broker over the echo plugins and the plugin table, and serves it on a network of the
host's files. Its log goes to standard output as `LEVEL | source | text` lines, those
below the log level left out.

A broker that serves keeps running: the process hands its network to whoever started
it. A broker that fails to serve is closed again, and the process prints its log and
fails.
-/

namespace InferenceBroker

namespace Cli

/-- The lines a broker's log shows at a level: the entries of the broker, then those of
its transport, from the given positions on. -/
def serverLines (n : Network Broker) (level : LogLevel) (fromBroker fromTransport : Nat) : String :=
  let es := n.service.dispatcher.entries.drop fromBroker ++ n.server.journal.drop fromTransport
  String.join ((es.filter (Entry.shown level)).map fun e =>
    let line := e.render
    if line.endsWith "\n" then line else line ++ "\n")

/-- The settings of the broker. -/
def serverSettings (plugins : List Descriptor) : Run ServerSettings :=
  return { endpoint := ← text "endpoint", timeoutSecond := ← int "timeout", maxEngines := ← int "max-engines",
           queueCapacity := ← int "queue-capacity", futureCapacity := ← int "future-capacity",
           syncTimeout := ← duration "sync-timeout", lockOsThread := ← bool "lock-os-thread",
           metricsEndpoint := ← text "metrics-endpoint", logLevel := ← text "log-level", plugins := plugins }

/-- `serve`. -/
def serveBroker : Run Unit := do
  readConfigFile
  let plugins ← pluginTable
  let settings ← serverSettings plugins
  let level ← match LogLevel.parse settings.logLevel with
    | .ok l => pure l
    | .error e => throw e.message
  let fmt ← format
  let fam ← family
  let dir := (← get).host.net.dir
  match Broker.makeWith Builtin.echoes settings fmt dir (Builtin.describe Builtin.echoes ++ plugins) with
  | .error e => throw e.message
  | .ok broker =>
    let server := { ServerTransport.make fam 64 with endpoint := settings.endpoint, hasCloseHandler := true }
    let n : Network Broker := { family := fam, dir := dir, server := server, service := { broker with timed := true } }
    match Broker.serve settings.metricsEndpoint n with
    | (.ok _, n) => modify fun p => { p with served := some (n.settle service, level) }
    | (.error e, n) =>
      let (_, _, n) := Broker.shutdown service none n
      say (serverLines n level 0 0)
      throw e.message

end Cli

end InferenceBroker
