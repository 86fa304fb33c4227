import InferenceBroker.Cli.Layers
import InferenceBroker.Cli.Table
import InferenceBroker.Remote.Client
import InferenceBroker.Server.Serve
import InferenceBroker.Text.Utf8

/-!
# Processes of the command line

Each run of the program is a process on a host, which holds the files and sockets, the
broker that may be serving, and the processes and transactions seen (so each process gets
its own client uid and transaction ids). A process writes to standard output and error,
reads settings through `Layers`, and talks to a broker through a client transport; entries
of level info and above go to standard error as `I | source: text`. A failed command writes
`Error: text` and exits with status 1.
-/

namespace InferenceBroker

namespace Cli

/-- Files and sockets with the broker serving there, and the processes and transactions seen. -/
structure Host where
  net : Network Broker
  processes : Nat := 0
  issued : Nat := 0

structure Process where
  host : Host
  env : List (String × String)
  out : Bytes := []
  err : Bytes := []
  layers : Layers := {}
  client : Option RemoteClient := none
  /-- the network and log level of a broker this process started -/
  served : Option (Network Broker × LogLevel) := none

abbrev Run := ExceptT String (StateM Process)

/-- Exit status and the two output streams. -/
structure Outcome where
  exit : Int
  out : Bytes
  err : Bytes
  deriving Inhabited

def service : Service Broker := Broker.service "@"

/-- A broker that serves nothing, where none was started. -/
def idleBroker : Broker := Broker.ofLoader {} .binary {}

def Host.ofDirectory (dir : Directory) : Host :=
  { net := { family := .unix, dir := dir, server := ServerTransport.make .unix 64, service := idleBroker } }

/-! ## Output -/

def say (s : String) : Run Unit := modify fun p => { p with out := p.out ++ Bytes.ofString s }

def sayBytes (bs : Bytes) : Run Unit := modify fun p => { p with out := p.out ++ bs }

def complain (s : String) : Run Unit := modify fun p => { p with err := p.err ++ Bytes.ofString s }

def letter : LogLevel → String
  | .error => "E"
  | .warning => "W"
  | .info => "I"
  | .debug => "D"

/-- A client logger's line for an entry; a text that ends a line gets no second break. -/
def logLine (e : Entry) : String :=
  let src := if e.source.isEmpty then "" else e.source ++ ": "
  letter e.level ++ " | " ++ src ++ e.text ++ (if e.text.endsWith "\n" then "" else "\n")

/-- Logs entries as a client does: level info and above. -/
def log (es : List Entry) : Run Unit :=
  complain (String.join ((es.filter (Entry.shown .info)).map logLine))

def logPlain (text : String) : Run Unit := log [Entry.info "" text]

/-! ## Settings -/

def text (key : String) : Run String := return (← get).layers.text key

def int (key : String) : Run Int := return (← get).layers.int key

def bool (key : String) : Run Bool := return (← get).layers.bool key

def duration (key : String) : Run Duration := return (← get).layers.duration key

def texts (key : String) : Run (List String) := return (← get).layers.texts key

/-- A flag's value, set on the command line or by default, whatever the other layers say. -/
def flagValue (name : String) : Run ConfigValue := do
  let l := (← get).layers
  match l.flags.find? (·.name == name) with
  | none => return .null
  | some f => return f.setting ((l.set.lookup name).getD f.initial)

/-- Adds the names of an environment file the environment lacks; a missing or unreadable file
changes nothing. -/
def loadEnvFile (name : String) : Run Unit := do
  let p ← get
  match p.host.net.dir.read name with
  | .error _ => pure ()
  | .ok bs =>
    match Dotenv.parse bs with
    | .error _ => pure ()
    | .ok vars =>
      let fresh := vars.filter fun (k, _) => (p.env.lookup k).isNone
      set { p with env := p.env ++ fresh, layers := { p.layers with env := p.env ++ fresh } }

/-- Reads the file named by `config` into the file layer. -/
def readConfigFile : Run Unit := do
  let path ← text "config"
  if path.isEmpty then return
  let p ← get
  match SettingsFile.read p.host.net.dir path with
  | .error e => throw e
  | .ok v => set { p with layers := { p.layers with file := v } }

def pluginTable : Run (List Descriptor) := do
  match PluginTable.read ((← get).layers.get? "plugins") with
  | .error e => throw e
  | .ok ds => return ds

/-- Endpoints (comma separated, trimmed, empty ones left out), timeout, retries and
connections per endpoint. -/
def clientSettings : Run ClientSettings := do
  let eps := ((← text "transport-endpoints").splitOn ",").map (·.trimAscii.toString) |>.filter (!·.isEmpty)
  return { endpoints := eps, timeoutSecond := ← int "timeout", retryCount := ← int "transport-retries",
           connectionsPerEndpoint := ← int "transport-conn-per-endpoint" }

def format : Run Format := do
  let name ← text "serializer"
  match Format.ofName? name with
  | some f => return f
  | none => throw s!"invalid serializer {name}"

def family : Run Family := do
  let name ← text "transport"
  match Family.ofName? name with
  | some f => return f
  | none => throw s!"invalid transport {name}"

/-! ## Talking to a broker -/

def onNetwork (f : Network Broker → Network Broker) : Run Unit :=
  modify fun p => { p with host := { p.host with net := f p.host.net } }

def takeJournal (name : String) (n : Network Broker) : List Entry × Network Broker :=
  match n.client? name with
  | some t => (t.journal, n.putClient name { t with journal := [] })
  | none => ([], n)

def transportName : Run String := do
  let k := (← get).host.processes
  return s!"process {k}"

def connect : Run Unit := do
  let settings ← clientSettings
  let fmt ← format
  let fam ← family
  let name ← transportName
  onNetwork fun n => n.putClient name { family := fam, listens := true }
  let (r, n) := (← get).host.net.connect name settings
  let (notes, n) := takeJournal name (n.settle service)
  onNetwork fun _ => n
  log notes
  match r with
  | .error e => throw e.message
  | .ok () =>
    modify fun p => { p with client := some { transport := name, format := fmt, uid := RemoteClient.uidOf p.host.processes } }

/-- Runs a client computation, logging what the client and its transport noted. -/
def remote {α : Type} (m : RemoteM Broker α) : Run α := do
  let p ← get
  let c := p.client.getD { transport := "", format := .binary, uid := "" }
  let (x, n, c) := m.run (p.host.net, c)
  let (notes, n) := takeJournal c.transport n
  set { p with host := { p.host with net := n }, client := some { c with journal := [] } }
  log (notes ++ c.journal)
  return x

def nextTransaction : Run UInt64 := do
  let p ← get
  set { p with host := { p.host with issued := p.host.issued + 1 } }
  return RemoteClient.txOf p.host.issued

/-- Lets the broker push the replies made by `deadline`, routed to the client's listeners. -/
def releaseReplies (deadline : Nat) : Run Unit := do
  onNetwork fun n =>
    let (ps, b) := Broker.releaseBy deadline n.service
    ({ n with service := b }.applyPushes ps).settle service
  remote RemoteClient.absorb

def clock : Run Nat := return (← get).host.net.service.dispatcher.now

/-- The replies the client's listeners received, oldest first. -/
def takeReplies : Run (List Response) := do
  let p ← get
  match p.client with
  | none => return []
  | some c =>
    set { p with client := some { c with replies := [] } }
    return c.replies

/-- Closes the client as the process ends; the broker notices. -/
def hangUp : Run Unit := do
  let name ← transportName
  onNetwork fun n =>
    let n := (n.closeClient name).settle service
    let (ps, b) := Broker.releaseBy Dispatcher.never n.service
    let n := ({ n with service := b }.applyPushes ps).settle service
    { n with clients := n.clients.filter (·.1 != name) }
  modify fun p => { p with client := none }

end Cli

end InferenceBroker
