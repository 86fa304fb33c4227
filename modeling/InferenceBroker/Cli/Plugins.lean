import InferenceBroker.Cli.Process
import InferenceBroker.Text.Columns

/-!
# Plugin commands

`plugin list` and `plugin check` look at the plugin table a broker would serve: the echo
plugins and the plugins of the settings file's table.

* `plugin list` prints the table sorted by engine key, one line per plugin with its
  algorithm, version, kind, mode (`-` when the plugin chooses) and path;
* `plugin check ALGORITHM VERSION` loads the plugin as a broker does, prints the name,
  version and mode it reports, and unloads it again.
-/

namespace InferenceBroker

namespace Cli

/-- The loader of the plugin table: the echo plugins, then those of the settings file. -/
def tableLoader : Run Loader := do
  readConfigFile
  let ds ← pluginTable
  match Loader.makeWith Builtin.echoes (← get).host.net.dir (Builtin.describe Builtin.echoes ++ ds) with
  | .ok l => return l
  | .error e => throw e.message

/-- `plugin list`. -/
def listPlugins (l : Loader) : Run Unit := do
  let rows := l.descriptors.map fun d =>
    let mode := if d.mode.isEmpty then "-" else d.mode
    "\t".intercalate [d.algorithm, toString d.version.toInt, d.kind, mode, d.path]
  say (Columns.layout 2 ("ALGORITHM\tVERSION\tKIND\tMODE\tPATH" :: rows))

/-- `plugin check`. -/
def checkPlugin (l : Loader) (args : List String) : Run Unit := do
  let name := args.headD ""
  let version ← match Numeral.parseInt false 64 (args.getD 1 "") with
    | .ok v => pure v
    | .error e => throw s!"version must be a number: {e}"
  let (r, notes) := l.load ⟨name, Int64.ofInt version⟩
  log notes
  match r with
  | .error e => throw s!"failed to load plugin: {e.message}"
  | .ok ld =>
    let p := ld.plugin
    say s!"name={p.name}, version={p.version.toInt}, mode={p.mode.word}\n"
    let (r, _, notes) := Loader.unload ld
    log notes
    match r with
    | .error e => throw s!"failed to unload plugin: {e.message}"
    | .ok () => say "unloaded=true\n"

end Cli

end InferenceBroker
