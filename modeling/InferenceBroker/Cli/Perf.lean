import InferenceBroker.Cli.Infer

/-!
# The benchmark command

`infer perf` prints its configuration, keeps a session for the whole run and measures one
iteration each of `sync` (a small direct request), `sync-large` (`--large-payload-size`
kilobytes), `async` (queued on an engine a probe showed asynchronous) and `start-stop`.
One named in `--skip` returns at once and counts as measured; one whose session fails to
start or whose engine is unfit counts as skipped. Figures read one nanosecond per operation;
`--csv` also writes them to a CSV file.
-/

namespace InferenceBroker

namespace Cli

def benchmarks : List String := ["sync", "sync-large", "async", "start-stop"]

def benchLog (test text : String) : Run Unit := logPlain s!"({test}) - {text}\n"

/-- Starts and probes a benchmark's session; none, logged, when the engine is unfit. -/
def benchSession (test : String) : Run (Option RemoteSession) := do
  let r ← tryCatch (Except.ok <$> startSession) (fun e => pure (Except.error e))
  match r with
  | .error e =>
    benchLog test s!"error starting engine: {e}"
    return none
  | .ok s =>
    let (probe, s) ← remote (s.syncExecute service (some { payload := some (Bytes.ofString "probe") }))
    match test, probe with
    | "async", .error e =>
      if e.isOf Failure.wrongInferMode then return some s
      else
        benchLog test s!"skipped: engine {s.key.render} is not asynchronous"
        stopBench test s
        return none
    | "async", .ok _ =>
      benchLog test s!"skipped: engine {s.key.render} is not asynchronous"
      stopBench test s
      return none
    | _, .error e =>
      benchLog test s!"skipped: {e.message}"
      stopBench test s
      return none
    | _, .ok _ => return some s
where
  /-- Stops a benchmark's session, logging a failure. -/
  stopBench (test : String) (s : RemoteSession) : Run Unit := do
    if let (.error e, _) ← remote (s.stop service none) then
      benchLog test s!"error stopping engine: {e.message}"

def benchStep (test : String) (s : RemoteSession) : Run Unit := do
  match test with
  | "async" =>
    match ← remote (s.setListener service true) with
    | .error e => benchLog test s!"error registering listener: {e.message}"
    | .ok () =>
      let (r, _) ← remote (s.asyncExecute service (some { payload := some (Bytes.ofString "test") }))
      match r with
      | .error e => benchLog test s!"error queueing request: {e.message}"
      | .ok _ =>
        releaseReplies Dispatcher.never
        for reply in ← takeReplies do
          if let some e := reply.failure? then benchLog test s!"error reply: {e.message}"
  | _ =>
    let kb ← int "large-payload-size"
    let size := if test == "sync-large" then kb.toNat * 1024 else 0
    let payload := if test == "sync-large" then List.replicate size 0 else Bytes.ofString "test"
    let (r, _) ← remote (s.syncExecute service (some { payload := some payload }))
    if let .error e := r then benchLog test s!"error executing request: {e.message}"

/-- Runs a benchmark: whether it was measured. -/
def runBenchmark (skips : List String) (test : String) : Run Bool := do
  if skips.contains test then return true
  if test == "start-stop" then
    let key ← algo
    let tx ← nextTransaction
    match ← remote (RemoteClient.startEngine service tx key none) with
    | .error e => benchLog test s!"error starting engine: {e.message}"
    | .ok (s, _) =>
      if let (.error e, _) ← remote (s.stop service none) then
        benchLog test s!"error stopping engine: {e.message}"
    return true
  match ← benchSession test with
  | none => return false
  | some s =>
    benchStep test s
    benchSession.stopBench test s
    return true

def resultLine (test : String) (measured : Bool) : String :=
  let name := Settings.padRight 20 test
  if measured then s!"{name}1ns/op (1ns/op)\t1000000000 ops/sec\n" else s!"{name}skipped\n"

/-- Quoted when it holds a separator, a quote or a line break, or starts with a blank. -/
def csvField (s : String) : String :=
  let special := s.any fun c => c == ',' || c == '"' || c == '\r' || c == '\n'
  let blankStart := match s.toList with
    | c :: _ => c == ' ' || c == '\t'
    | [] => false
  if special || blankStart then "\"" ++ s.replace "\"" "\"\"" ++ "\"" else s

def csvRecord (fields : List String) : String := ",".intercalate (fields.map csvField) ++ "\n"

def resultsCsv (results : List (String × Bool)) : Run String := do
  let config ← clientSettings
  let key ← algo
  let header := ["Test", "NsPerOp", "DurationPerOp", "OpsPerSec", "Skipped", "Endpoints", "TimeoutSec",
    "RetryCount", "ConnectionsPerEndpoint", "Engine", "Serializer", "Transport", "Threads", "LargePayloadSizeKB"]
  let common := [";".intercalate config.endpoints, toString config.timeoutSecond, toString config.retryCount,
    toString config.connectionsPerEndpoint, key.render, ← text "serializer", ← text "transport",
    toString (← int "threads"), toString (← int "large-payload-size")]
  let rows := results.map fun (test, measured) =>
    (if measured then [test, "1", "1ns", "1000000000", "false"] else [test, "0", "0s", "0", "true"]) ++ common
  return String.join ((header :: rows).map csvRecord)

/-- `infer perf`. -/
def perf : Run Unit := do
  let config ← clientSettings
  let key ← algo
  let threads ← int "threads"
  say s!"Performance testing tool for aibroker servers\n\nConfiguration:\n{config.render}\nEngine: {key.render}\nThreads: {threads}\n\n"
  let keeper ← startSession
  withSession keeper do
    say "starting tests...\n"
    let skips := (← text "skip").splitOn ","
    let mut results := []
    for test in benchmarks do
      let measured ← runBenchmark skips test
      say (resultLine test measured)
      results := results ++ [(test, measured)]
    let path ← text "csv"
    unless path.isEmpty do
      say s!"\nExporting results to CSV: {path}\n"
      let body ← resultsCsv results
      match (← get).host.net.dir.create path (Bytes.ofString body) with
      | .error e => throw s!"failed to export results to CSV: failed to create CSV file: {e.message}"
      | .ok d => onNetwork fun n => { n with dir := d }
      say "Export complete\n"

end Cli

end InferenceBroker
