import InferenceBroker.Cli.Perf
import InferenceBroker.Cli.Plugins
import InferenceBroker.Cli.Serve

/-!
# The program

A run of `aibroker` finds the command (an unknown word fails with a hint at `--help`), reads
its flags, prints help for `--help` or a group, adds the names `.env` and `.env.local` give,
checks the positional arguments, then runs the command's preparation, the command and its
completion. A failure is written as `Error: text` and ends the run with status 1.
-/

namespace InferenceBroker

namespace Cli

/-- The refusal of an unknown help topic, the topics as `[`a` `b`]`. -/
def unknownTopic (args : List String) : String :=
  let shown := args.map fun a => if a.any (fun c => c == Char.ofNat 96 || c.toNat < 32 || c.toNat == 127) then Quote.string a
    else "`" ++ a ++ "`"
  "Unknown help topic [" ++ " ".intercalate shown ++ "]\n"

/-- `help`: the help of the command the arguments name, or the root's usage. -/
def helpTopic (args : List String) : Run Unit := do
  let t := aibroker
  match t.locate root args with
  | (c, _, none) => say (t.helpText c)
  | (_, _, some _) => complain (unknownTopic args ++ t.usage root)

def perform (c : Command) (args : List String) : Run Unit := do
  match c.path with
  | ["version"] => say s!"aibroker v{version}\n"
  | ["help"] => helpTopic args
  | ["serve"] => serveBroker
  | ["plugin", sub] =>
    let l ← tableLoader
    if sub == "list" then listPlugins l else checkPlugin l args
  | ["infer", sub] =>
    connect
    match sub with
    | "run" => requestSync args
    | "async" => requestAsync args
    | "stats" => showStats
    | _ => perf
    remote (RemoteClient.close service)
  | _ => pure ()

def execute (args : List String) : StateM Process Int := do
  let t := aibroker
  let fail := fun (e : String) => do
    modify fun p => { p with err := p.err ++ Bytes.ofString s!"Error: {e}\n" }
    return (1 : Int)
  match t.locate root args with
  | (_, _, some e) =>
    modify fun p => { p with err := p.err ++ Bytes.ofString s!"Error: {e}\nRun 'aibroker --help' for usage.\n" }
    return 1
  | (c, rest, none) =>
    match t.readFlags c (rest.length + 1) rest {} with
    | .error e => fail e
    | .ok reading =>
      modify fun p => { p with layers := { p.layers with flags := t.allFlags c, set := reading.set } }
      if reading.isOn "help" || !c.runnable then
        modify fun p => { p with out := p.out ++ Bytes.ofString (t.helpText c) }
        return 0
      match ← (do loadEnvFile ".env"; loadEnvFile ".env.local" : Run Unit).run with
      | _ => pure ()
      match t.checkArity c reading.positional with
      | some e => fail e
      | none =>
        match ← (perform c reading.positional).run with
        | .ok () => return 0
        | .error e => fail e

/-- The outcome, the host afterwards, and the network and log level of a broker the run
started serving; the process's client is gone afterwards. -/
def run (host : Host) (env : List (String × String)) (args : List String) :
    Outcome × Host × Option (Network Broker × LogLevel) :=
  let p : Process := { host := { host with processes := host.processes + 1 }, env := env, layers := { env := env } }
  let (code, p) := (execute args).run p
  let (_, p) := hangUp.run.run p
  ({ exit := code, out := p.out, err := p.err }, p.host, p.served)

end Cli

end InferenceBroker
