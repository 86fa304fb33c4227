import InferenceBroker.Cli.Process
import InferenceBroker.Text.Columns

/-!
# Inference commands

`infer run`, `infer async` and `infer stats` connect to the endpoints of the settings; the
first two bind a session to the engine `--algo` / `--algo-version` selects (with
`--prepare-input`), set the `--option` settings on it in order, and stop it however the
command ends. `infer run` prints `seq=N result=R` (or `error=E`) and the time taken;
`infer async` queues one request per payload, prints each sequence number, then the replies
arriving within `--wait`, failing when one is missing; `infer stats` prints a table or JSON.
-/

namespace InferenceBroker

namespace Cli

def algo : Run EngineKey := return ⟨← text "algo", Int64.ofInt (← int "algo-version")⟩

/-- Splits `TYPE=VALUE` at its first `=`: the option type, a number, and the value. -/
def parseOption (o : String) : Except String (Int32 × Bytes) :=
  match o.splitOn "=" with
  | t :: v :: more =>
    match Numeral.parseInt false 32 t.trimAscii.toString with
    | .ok n => .ok (Int32.ofInt n, Bytes.ofString ("=".intercalate (v :: more)))
    | .error e => .error s!"option type must be a number: {e}"
  | _ => .error "invalid option format (expected TYPE=VALUE)"

def orFail {α : Type} (r : Except Failure α) : Run α :=
  match r with
  | .ok x => pure x
  | .error e => throw e.message

def stopQuietly (s : RemoteSession) : Run Unit := discard <| remote (s.stop service none)

/-- Binds a session and sets the options on it; one whose option fails is stopped again. -/
def startSession : Run RemoteSession := do
  let key ← algo
  let tx ← nextTransaction
  let input := Bytes.ofString (← text "prepare-input")
  let (s, _) ← orFail (← remote (RemoteClient.startEngine service tx key (some input)))
  for o in ← texts "option" do
    let r ← match parseOption o with
      | .error e => pure (Except.error e)
      | .ok (t, v) => pure ((← remote (s.setOption service t (some v))).mapError (·.message))
    if let .error e := r then
      stopQuietly s
      throw s!"option {Quote.string o}: {e}"
  return s

/-- Runs a command on a session, then stops it, whether the command failed or not. -/
def withSession {α : Type} (s : RemoteSession) (body : Run α) : Run α := do
  let r ← tryCatch (Except.ok <$> body) (fun e => pure (Except.error e))
  stopQuietly s
  match r with
  | .ok x => pure x
  | .error e => throw e

/-- Its result, hex with `--hex`, or its failure. -/
def printResponse (resp : Response) : Run Unit := do
  let seq := resp.requestId.toNat
  if resp.retCode != Code.ok then
    sayBytes (Bytes.ofString s!"seq={seq} error=" ++ resp.retDesc ++ Bytes.ofString "\n")
  else
    let result := resp.result.getD []
    let shown := if (← flagValue "hex").toBool then Bytes.ofString (Bytes.hex result) else result
    sayBytes (Bytes.ofString s!"seq={seq} result=" ++ shown ++ Bytes.ofString "\n")

/-- The file `--file` names, or the argument. -/
def readPayload (args : List String) : Run Bytes := do
  let file := (← flagValue "file").toText
  if !file.isEmpty then orFail ((← get).host.net.dir.read file)
  else match args with
    | a :: _ => pure (Bytes.ofString a)
    | [] => throw "either a payload argument or --file is required"

def operation : Run Int32 := return Int32.ofInt (← flagValue "operation").toInt

/-- `infer run`. -/
def requestSync (args : List String) : Run Unit := do
  let payload ← readPayload args
  let s ← startSession
  withSession s do
    let op ← operation
    let (r, _) ← remote (s.syncExecute service (some { operationId := op, payload := some payload }))
    printResponse (← orFail r)
    say "took 1ms\n"

/-- `infer async`. -/
def requestAsync (args : List String) : Run Unit := do
  let s ← startSession
  withSession s do
    orFail (← remote (s.setListener service true))
    let op ← operation
    let mut s := s
    for payload in args do
      let (r, s') ← remote (s.asyncExecute service (some { operationId := op, payload := some (Bytes.ofString payload) }))
      s := s'
      match r with
      | .ok seq => say s!"queued seq={seq.toNat}\n"
      | .error e => throw s!"failed to queue {Quote.string payload}: {e.message}"
    let wait := (← flagValue "wait").toDuration
    releaseReplies ((← clock) + wait.nanos.toNat)
    let replies := (← takeReplies).take args.length
    for r in replies do printResponse r
    if replies.length < args.length then
      throw s!"no reply after {wait.render}: {Failure.timeout.message}"

/-- Indented JSON, as a client writes what it read. -/
def statsJson (es : List StatsEntry) : String :=
  let num := fun (n : Int) => JsonValue.number (toString n)
  let doc := JsonValue.array (es.map fun e =>
    .object [("key", .object [("AlgorithmID", .string e.algorithm), ("Version", num e.version)]),
      ("mode", .string e.mode), ("state", .string e.state), ("refCount", num e.refCount),
      ("threadId", num e.threadId), ("queueLen", num e.queueLen), ("queueCap", num e.queueCap),
      ("submitted", num e.submitted), ("rejected", num e.rejected), ("processed", num e.processed),
      ("failed", num e.failed), ("timeouts", num e.timeouts), ("meanWait", num e.meanWait),
      ("meanProcess", num e.meanProcess), ("p99Process", num e.p99Process),
      ("meanPayload", .number e.meanPayload), ("maxPayload", num e.maxPayload), ("uptime", num e.uptime)])
  Json.renderIndented "  " "" doc ++ "\n"

/-- A table; the timing columns read zero. -/
def statsTable (es : List StatsEntry) : String :=
  let head := "ENGINE\tMODE\tSTATE\tREFS\tQUEUE\tPROCESSED\tFAILED\tREJECTED\tTIMEOUTS\tMEAN WAIT\tMEAN PROC\tP99 PROC\tUPTIME"
  let row := fun (e : StatsEntry) =>
    "\t".intercalate [s!"{e.algorithm}@v{e.version}", e.mode, e.state, toString e.refCount,
      s!"{e.queueLen}/{e.queueCap}", toString e.processed, toString e.failed, toString e.rejected,
      toString e.timeouts, "0s", "0s", "0s", "0s"]
  Columns.layout 2 (head :: es.map row)

/-- `infer stats`. -/
def showStats : Run Unit := do
  let es ← orFail (← remote (RemoteClient.stats service))
  if (← flagValue "json").toBool then say (statsJson es)
  else if es.isEmpty then say "no engines\n"
  else say (statsTable es)

end Cli

end InferenceBroker
