import InferenceBroker.Cli.Command
import InferenceBroker.Text.Wrap

/-!
# The broker's commands

`serve` starts a broker; `infer run`, `infer async`, `infer stats` and `infer perf` are
clients; `plugin list` and `plugin check` inspect the plugin table; `version`, `help` and
`completion` as usual. Long usage texts wrap at 50 columns.
-/

namespace InferenceBroker

namespace Cli

def version : String := "0.3.0"

/-- The address a broker listens on and a client dials when none is given. -/
def defaultEndpoint : String := "/tmp/aibroker.sock"

def textFlag (name default usage : String) : Flag := { name, kind := .text, default, usage }

/-- An integer flag of the platform's width. -/
def intFlag (name default usage : String) : Flag := { name, kind := .integer 64 "int", default, usage }

def switchFlag (name usage : String) : Flag := { name, kind := .switch, default := "false", usage }

/-- The flag naming a settings file. -/
def configFlag : Flag :=
  textFlag "config" "" (Wrap.wrap "Path of a config file (yaml, json or toml). Its 'plugins' list registers plugins in addition to the builtin ones")

def root : Command :=
  { path := [], use := "aibroker", short := "on-device AI inference broker",
    long := s!"aibroker (v{version})\n\nAn inference broker for on-device AI plugins written in Go.\nClients start engines by algorithm id and version, each engine\nruns its plugin on a dedicated worker and is shared by all\nclients using the same algorithm.",
    persistent := [textFlag "serializer" "binary" (Wrap.wrap "serializer to use (json, gob, binary)"),
                   textFlag "transport" "unix" (Wrap.wrap "transport to use (unix, tcp)")],
    runnable := false }

def serve : Command :=
  { path := ["serve"], use := "serve", short := "Start the aibroker server",
    long := "Start the aibroker server with the specified configuration. The configuration can be set via command line flags, environment variables or a config file. The format of the environment variables is AIB_<flag> (e.g. AIB_MAX_ENGINES=8)",
    persistent := [configFlag,
      textFlag "endpoint" defaultEndpoint (Wrap.wrap "The address on which the broker will listen (socket path for unix, host:port for tcp)"),
      { name := "timeout", kind := .integer 64 "int", default := "0",
        usage := Wrap.wrap "Idle timeout in seconds after which silent client connections are closed (0 disables it)" },
      intFlag "max-engines" "64" (Wrap.wrap "Maximum number of engines alive at once. Bounds the worker threads and request queues of the broker"),
      intFlag "queue-capacity" "256" (Wrap.wrap "Number of requests an engine queues before it rejects new ones"),
      intFlag "future-capacity" "4096" (Wrap.wrap "Maximum number of pending asynchronous requests over all engines"),
      { name := "sync-timeout", kind := .duration, default := "30s",
        usage := Wrap.wrap "How long a synchronous request waits for its result (0 waits forever)" },
      switchFlag "lock-os-thread" (Wrap.wrap "Wire every engine worker to a dedicated OS thread (for plugins with thread affine state)"),
      textFlag "metrics-endpoint" "" (Wrap.wrap "host:port serving Prometheus metrics and pprof handlers (empty disables it)"),
      textFlag "log-level" "info" (Wrap.wrap "LogLevel is the level at which logs will be output (debug, info, warn, error)")] }

def infer : Command :=
  { path := ["infer"], use := "infer", short := "Run inference requests against a broker", runnable := false,
    persistent := [
      intFlag "timeout" "60" (Wrap.wrap "The timeout in seconds of a single request (0 waits forever). Keep it above the sync timeout of the broker, a request that timed out on the client may still run on the broker"),
      textFlag "transport-endpoints" defaultEndpoint (Wrap.wrap "The address of the broker (socket path for unix, host:port for tcp). Multiple endpoints can be specified as a comma-separated list"),
      intFlag "transport-conn-per-endpoint" "1" (Wrap.wrap "Simultaneous connections per endpoint"),
      intFlag "transport-retries" "3" (Wrap.wrap "How many times to retry a request that could not be sent. Requests that reached the broker are never resent"),
      textFlag "algo" "echo" (Wrap.wrap "Algorithm id of the engine to use"),
      { name := "algo-version", kind := .integer 64 "int", default := "1", usage := Wrap.wrap "Version of the algorithm" },
      textFlag "prepare-input" "" (Wrap.wrap "Input passed to the plugin when the engine is bound"),
      { name := "option", kind := .texts, default := "[]",
        usage := Wrap.wrap "Plugin options set before the first request, in the format TYPE=VALUE (e.g. --option 1=hello)" },
      switchFlag "hex" "Print results hex encoded"] }

/-- The operation flag of requests. -/
def operationFlag : Flag :=
  { name := "operation", kind := .integer 32 "int32", default := "0", usage := "Plugin specific operation id" }

def inferRun : Command :=
  { path := ["infer", "run"], use := "run [payload]", short := "Runs a synchronous request and prints the result",
    arity := .atMost 1,
    flags := [operationFlag, textFlag "file" "" "Read the payload from a file instead of the argument"] }

def inferAsync : Command :=
  { path := ["infer", "async"], use := "async [payload...]",
    short := "Queues one asynchronous request per payload and prints the pushed replies", arity := .atLeast 1,
    flags := [operationFlag,
      { name := "wait", kind := .duration, default := "30s", usage := "How long to wait for all replies" }] }

def inferStats : Command :=
  { path := ["infer", "stats"], use := "stats", short := "Prints the engines of the broker", arity := .none,
    flags := [switchFlag "json" "Print the stats as JSON"] }

def inferPerf : Command :=
  { path := ["infer", "perf"], use := "perf", short := "Performance testing tool for aibroker servers",
    long := "Runs sync, sync-large, async and start-stop benchmarks against the engine selected with --algo. The async benchmark needs an asynchronous plugin (e.g. --algo echo-async), it is skipped for synchronous ones.",
    flags := [textFlag "skip" "" (Wrap.wrap "Benchmarks to skip (comma separated - e.g. sync,async)"),
      intFlag "threads" "10" (Wrap.wrap "Number of threads to use for the benchmark"),
      intFlag "large-payload-size" "100" (Wrap.wrap "How large the payload for the sync-large test should be (in KB)"),
      textFlag "csv" "" (Wrap.wrap "Optional path to save benchmark results as CSV")] }

def plugin : Command :=
  { path := ["plugin"], use := "plugin", short := "Inspect the plugin table",
    long := "Inspect the plugin table of a broker. The table holds the builtin plugins and the plugins listed in the config file given with --config.",
    persistent := [configFlag], runnable := false }

def pluginList : Command :=
  { path := ["plugin", "list"], use := "list", short := "List all registered plugins", arity := .none }

def pluginCheck : Command :=
  { path := ["plugin", "check"], use := "check [algorithm-id] [version]", short := "Load and unload a plugin",
    long := "Load a plugin the way the broker does, print what it reports about itself and unload it again. Use it to validate a plugin before deploying it.",
    arity := .exactly 2 }

def versionCommand : Command :=
  { path := ["version"], use := "version", short := "Print the version number of aibroker" }

def helpCommand : Command :=
  { path := ["help"], use := "help [command]", short := "Help about any command",
    long := "Help provides help for any command in the application.\nSimply type aibroker help [path to command] for full details.",
    helpTopic := true }

/-- The shells completion scripts are made for, with the long description of each. -/
def shells : List (String × String) :=
  [("bash", "Generate the autocompletion script for the bash shell.\n\nThis script depends on the 'bash-completion' package.\nIf it is not installed already, you can install it via your OS's package manager.\n\nTo load completions in your current shell session:\n\n\tsource <(aibroker completion bash)\n\nTo load completions for every new session, execute once:\n\n#### Linux:\n\n\taibroker completion bash > /etc/bash_completion.d/aibroker\n\n#### macOS:\n\n\taibroker completion bash > $(brew --prefix)/etc/bash_completion.d/aibroker\n\nYou will need to start a new shell for this setup to take effect.\n"),
   ("zsh", "Generate the autocompletion script for the zsh shell.\n\nIf shell completion is not already enabled in your environment you will need\nto enable it.  You can execute the following once:\n\n\techo \"autoload -U compinit; compinit\" >> ~/.zshrc\n\nTo load completions in your current shell session:\n\n\tsource <(aibroker completion zsh)\n\nTo load completions for every new session, execute once:\n\n#### Linux:\n\n\taibroker completion zsh > \"$\x7bfpath[1]\x7d/_aibroker\"\n\n#### macOS:\n\n\taibroker completion zsh > $(brew --prefix)/share/zsh/site-functions/_aibroker\n\nYou will need to start a new shell for this setup to take effect.\n"),
   ("fish", "Generate the autocompletion script for the fish shell.\n\nTo load completions in your current shell session:\n\n\taibroker completion fish | source\n\nTo load completions for every new session, execute once:\n\n\taibroker completion fish > ~/.config/fish/completions/aibroker.fish\n\nYou will need to start a new shell for this setup to take effect.\n"),
   ("powershell", "Generate the autocompletion script for powershell.\n\nTo load completions in your current shell session:\n\n\taibroker completion powershell | Out-String | Invoke-Expression\n\nTo load completions for every new session, add the output of the above command\nto your powershell profile.\n")]

def completion : List Command :=
  { path := ["completion"], use := "completion", short := "Generate the autocompletion script for the specified shell",
    long := "Generate the autocompletion script for aibroker for the specified shell.\nSee each sub-command's help for details on how to use the generated script.\n",
    arity := .none, runnable := false } ::
  shells.map fun (sh, long) =>
    { path := ["completion", sh], use := sh, short := s!"Generate the autocompletion script for {sh}", long,
      arity := .none, bareUse := true,
      flags := [switchFlag "no-descriptions" "disable completion descriptions"] }

def aibroker : CommandTable :=
  { program := "aibroker",
    commands := [root, serve, infer, inferRun, inferAsync, inferStats, inferPerf, plugin, pluginList, pluginCheck,
      versionCommand, helpCommand] ++ completion }

end Cli

end InferenceBroker
