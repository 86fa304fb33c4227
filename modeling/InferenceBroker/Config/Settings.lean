import InferenceBroker.Plugin.Descriptor
import InferenceBroker.Text.Duration

/-!
# Broker and client settings

The settings of a broker (where it listens, how many engines it runs, how long a
synchronous request may take, which plugins it offers) and of a client (where it
connects, how often it retries). Both print as sections of aligned `name: value`
lines, names padded to 22 characters.
-/

namespace InferenceBroker

/-- The settings of the request dispatcher. Zero or negative sizes mean the defaults. -/
structure DispatcherSettings where
  maxEngines : Int := 0
  queueCapacity : Int := 0
  futureCapacity : Int := 0
  syncTimeout : Duration := ⟨0⟩
  lockOsThread : Bool := false
deriving DecidableEq, Repr, Inhabited

/-- The settings of a broker. -/
structure ServerSettings where
  endpoint : String := ""
  timeoutSecond : Int := 0
  maxEngines : Int := 0
  queueCapacity : Int := 0
  futureCapacity : Int := 0
  syncTimeout : Duration := ⟨0⟩
  lockOsThread : Bool := false
  plugins : List Descriptor := []
  metricsEndpoint : String := ""
  logLevel : String := ""
deriving Repr, Inhabited

/-- The settings of a client. -/
structure ClientSettings where
  endpoints : List String := []
  timeoutSecond : Int := 0
  retryCount : Int := 0
  connectionsPerEndpoint : Int := 0
deriving Repr, Inhabited

namespace Settings

/-- A section title line, after an empty line. -/
def heading (title : String) : String := "\n" ++ title.toUpper ++ "\n"

/-- Pads a text with spaces to `n` characters. -/
def padRight (n : Nat) (s : String) : String :=
  s ++ String.ofList (List.replicate (n - s.length) ' ')

/-- One aligned field line. -/
def field (name value : String) : String := "  " ++ padRight 22 name ++ ": " ++ value ++ "\n"

/-- The text of a truth value. -/
def boolText (b : Bool) : String := if b then "true" else "false"

end Settings

namespace ServerSettings

/-- The dispatcher part of the settings. -/
def dispatcher (c : ServerSettings) : DispatcherSettings :=
  { maxEngines := c.maxEngines, queueCapacity := c.queueCapacity,
    futureCapacity := c.futureCapacity, syncTimeout := c.syncTimeout,
    lockOsThread := c.lockOsThread }

open Settings in
/-- The printed settings. -/
def render (c : ServerSettings) : String :=
  heading "RPC Server" ++ field "Endpoint" c.endpoint ++
  field "Idle Timeout" s!"{c.timeoutSecond} sec" ++
  (if c.metricsEndpoint.isEmpty then "" else field "Metrics" c.metricsEndpoint) ++
  heading "Dispatcher" ++ field "Max Engines" (toString c.maxEngines) ++
  field "Queue Capacity" (toString c.queueCapacity) ++
  field "Future Capacity" (toString c.futureCapacity) ++
  field "Sync Timeout" c.syncTimeout.render ++
  field "Lock OS Thread" (boolText c.lockOsThread) ++
  heading "Logging" ++ field "Log Level" c.logLevel ++
  heading "Plugins" ++
  String.join (c.plugins.map fun d => field d.key.render s!"{d.kind} {d.path}")

end ServerSettings

namespace ClientSettings

open Settings in
/-- The printed settings. -/
def render (c : ClientSettings) : String :=
  heading "Client Configuration" ++ field "Timeout" s!"{c.timeoutSecond} sec" ++
  field "Retry Count" (toString c.retryCount) ++
  field "Connections Per Endpoint" (toString (max 1 c.connectionsPerEndpoint)) ++
  heading "Endpoints" ++
  String.join (c.endpoints.zipIdx.map fun (e, i) => field (toString i) e)

end ClientSettings

end InferenceBroker
