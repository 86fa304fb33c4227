import InferenceBroker.Plugin.Basic
import InferenceBroker.Host.Directory
import InferenceBroker.Config.Journal

/-!
# The plugin loader

The loader keeps descriptors by engine key and openers by kind. Loading a key resolves its
descriptor, opens the library with its kind's opener, looks up `NewPlugin` and calls it, each
failure wrapped with what was done (`failed to create plugin k@v1: …`). `builtin` finds
compiled-in plugins by name, `native` cannot load here (`plugin: not implemented`), `wasm`
compiles a module from the working directory, and a scripted opener stands in for a native
library. A plugin unloads once, closing its library; both tell the calls they made.
-/

namespace InferenceBroker

inductive Maker where
  | echo (kind : EchoKind)
  | refuses (e : Failure)
  /-- no plugin and no failure -/
  | nothing
  | panics (msg : String)
  | module (path : String) (key : EngineKey) (mode : InferMode) (m : Wasm.Program)
  deriving Inhabited

/-- A library's `NewPlugin` symbol: a factory, or a value of another type. -/
inductive Symbol where
  | factory (maker : Maker)
  | other (typeName : String)
  deriving Inhabited

/-- An opened library: the lookup of `NewPlugin`, and the failure closing it reports. -/
structure Library where
  symbol : Except Failure Symbol
  closeFailure : Option Failure := none
  deriving Inhabited

inductive Opener where
  | builtin
  | native
  | module
  | scripted
  deriving DecidableEq, Repr, Inhabited

namespace Builtin

/-- The echo plugins, the builtins a deployed broker has. -/
def echoes : List (String × Maker) :=
  [("echo", .echo ⟨"echo", false, none⟩), ("echo-async", .echo ⟨"echo-async", true, none⟩)]

/-- The echo plugins and the fault plugins. -/
def makers : List (String × Maker) :=
  echoes ++ Fault.all.map fun f =>
    (f.name, match f with
      | .factoryError => .refuses (.within "factory refused" Failure.pluginFailed)
      | .factoryNil => .nothing
      | .factoryPanic => .panics "factory boom"
      | _ => .echo ⟨f.name, f.isAsync, some f⟩)

def names : List String := (makers.map (·.1)).mergeSort (fun a b => decide (a ≤ b))

/-- Each builtin as version 1 under its own name. -/
def describe (ms : List (String × Maker)) : List Descriptor :=
  ms.map fun m => { algorithm := m.1, version := 1, kind := "builtin", path := m.1, mode := "" }

def descriptors : List Descriptor := describe makers

end Builtin

def scriptedLibrary (path : String) : Except Failure Library :=
  if path == "open-error" then .error (.within "open refused" Failure.pluginFailed)
  else
    let suffix := "+close-error"
    let closing := path.endsWith suffix
    let base := if closing then (path.dropEnd suffix.length).toString else path
    let echoMaker := Maker.echo ⟨"echo", false, none⟩
    let symbol : Except Failure Symbol := match base with
      | "factory" | "factory-ptr" | "func-err" | "func" => .ok (.factory echoMaker)
      | "func-nil" => .ok (.factory .nothing)
      | "int" => .ok (.other "int")
      | "lookup-error" => .error (.note s!"library {path} has no symbol NewPlugin")
      | _ => .error (.note s!"unknown script {Quote.string path}")
    .ok { symbol := symbol, closeFailure := if closing then some (.note "close refused") else none }

/-- A call the loader makes on a library or on a plugin it made. -/
inductive LibraryCall where
  | opened
  | closed
  | destroyed
  deriving DecidableEq, Repr

/-- A plugin made by a loader, with what it needs to be unloaded. -/
structure Loaded where
  plugin : Plugin
  desc : Descriptor
  closeFailure : Option Failure
  unloaded : Bool := false
  deriving Inhabited

structure Loader where
  table : List Descriptor := []
  openers : List (String × Opener) := [("builtin", .builtin), ("native", .native), ("wasm", .module)]
  directory : Directory := {}
  builtins : List (String × Maker) := Builtin.makers
  deriving Inhabited

namespace Loader

def source : String := "plugin"

/-- Adds a descriptor with the defaults: builtin kind, the key's algorithm as a builtin's name. -/
def register (l : Loader) (d : Descriptor) : Except Failure Loader :=
  if d.algorithm.isEmpty then .error (.within "descriptor without algorithm id" Failure.invalidArgument)
  else
    let d := if d.kind.isEmpty then { d with kind := "builtin" } else d
    let d := if d.kind == "builtin" && d.path.isEmpty then { d with path := d.algorithm } else d
    if (l.openers.lookup d.kind).isNone then
      .error (.within s!"descriptor {d.key.render} has unknown kind {Quote.string d.kind}" Failure.invalidArgument)
    else .ok { l with table := d :: l.table.filter (·.key != d.key) }

/-- A loader with the default openers, the given builtins and descriptors. -/
def makeWith (builtins : List (String × Maker)) (dir : Directory) (ds : List Descriptor) : Except Failure Loader :=
  ds.foldlM register { directory := dir, builtins := builtins }

def make (dir : Directory) (ds : List Descriptor) : Except Failure Loader := makeWith Builtin.makers dir ds

def registerOpener (l : Loader) (kind : String) (o : Opener) : Loader :=
  { l with openers := (kind, o) :: l.openers.filter (·.1 != kind) }

def resolve (l : Loader) (key : EngineKey) : Except Failure Descriptor :=
  match l.table.find? (·.key == key) with
  | some d => .ok d
  | none => .error (.within key.render Failure.pluginNotFound)

/-- The descriptors, sorted by key. -/
def descriptors (l : Loader) : List Descriptor :=
  l.table.mergeSort fun a b => a.key.compare b.key != .gt

def openLibrary (l : Loader) (o : Opener) (d : Descriptor) : Except Failure Library :=
  match o with
  | .builtin =>
    match l.builtins.lookup d.path with
    | some m => .ok { symbol := .ok (.factory m) }
    | none => .error (.within s!"no builtin plugin named {Quote.string d.path}" Failure.pluginNotFound)
  | .native => .error (.note s!"failed to open {Quote.string d.path}: plugin: not implemented")
  | .scripted => scriptedLibrary d.path
  | .module =>
    match l.directory.read d.path with
    | .error e => .error (.within "failed to read module" e)
    | .ok code =>
      match Wasm.compile code with
      | .error e => .error (.note s!"failed to compile module {Quote.string d.path}: {e}")
      | .ok m =>
        match [ModulePlugin.allocName, ModulePlugin.processName].find? (m.exportedFunc? · |>.isNone) with
        | some missing =>
          .error (.within s!"module {Quote.string d.path} does not export {missing}" Failure.invalidArgument)
        | none =>
          let mode := if d.mode.isEmpty then InferMode.sync else InferMode.ofWord d.mode
          .ok { symbol := .ok (.factory (.module d.path d.key mode m)) }

def make? (m : Maker) : Except Failure Plugin :=
  match m with
  | .echo k => .ok (.echo (Echo.make k))
  | .refuses e => .error e
  | .nothing => .error (.within "factory returned no plugin" Failure.pluginFailed)
  | .panics msg => .error (.within s!"factory panicked: {msg}" Failure.pluginFailed)
  | .module path key mode wm =>
    match Wasm.instantiate wm with
    | .ok inst => .ok (.module { key := key, mode := mode, inst := inst })
    | .error e => .error (.note s!"failed to instantiate module {Quote.string path}: {e}")

def instantiate (lib : Library) : Except Failure Plugin := do
  match ← lib.symbol with
  | .other t =>
    .error (.within s!"symbol NewPlugin has unexpected type {t}" Failure.invalidArgument)
  | .factory m => make? m

/-- Loads a key's plugin, with its journal entries and library calls: a library opened is
closed again when no plugin comes of it. -/
def loadTraced (l : Loader) (key : EngineKey) : (Except Failure Loaded × List Entry) × List LibraryCall :=
  match l.resolve key with
  | .error e => ((.error e, []), [])
  | .ok d =>
    let o := (l.openers.lookup d.kind).getD .builtin
    match l.openLibrary o d with
    | .error e => ((.error (.within s!"failed to open {d.kind} library for {d.key.render}" e), []), [])
    | .ok lib =>
      match instantiate lib with
      | .error e =>
        let notes := match lib.closeFailure with
          | some c => [Entry.warn source s!"failed to close library of {d.key.render}: {c.message}"]
          | none => []
        ((.error (.within s!"failed to create plugin {d.key.render}" e), notes), [.opened, .closed])
      | .ok p =>
        ((.ok { plugin := p, desc := d, closeFailure := lib.closeFailure },
          [Entry.info source s!"loaded {d.kind} plugin {d.key.render} from {Quote.string d.path} (mode {p.mode.word})"]),
          [.opened])

def load (l : Loader) (key : EngineKey) : Except Failure Loaded × List Entry :=
  (l.loadTraced key).1

/-- Unloads a plugin: refused the second time, calling nothing; otherwise the plugin is
destroyed and its library closed, whose failure fails the unload (it stays unloaded). -/
def unloadTraced (ld : Loaded) : (Except Failure Unit × Loaded × List Entry) × List LibraryCall :=
  let key := ld.desc.key.render
  if ld.unloaded then
    ((.error (.within s!"plugin {key} already unloaded" Failure.invalidArgument), ld, []), [])
  else
    let ld := { ld with unloaded := true, plugin := ld.plugin.destroy }
    match ld.closeFailure with
    | some c => ((.error (.within s!"failed to close library of {key}" c), ld, []), [.destroyed, .closed])
    | none => ((.ok (), ld, [Entry.info source s!"unloaded plugin {key}"]), [.destroyed, .closed])

/-- `unloadTraced` without the calls. -/
def unload (ld : Loaded) : Except Failure Unit × Loaded × List Entry :=
  (unloadTraced ld).1

/-- The refusal to unload a plugin of another origin. -/
def foreign (typeName : String) : Failure :=
  .within s!"plugin {typeName} was not created by this loader" Failure.invalidArgument

end Loader

end InferenceBroker
