import InferenceBroker.Plugin.Echo
import InferenceBroker.Plugin.Module

/-!
# Plugins

A plugin instance is an echo plugin (possibly with a fault) or a WebAssembly module.
Every operation of the plugin interface is a function from the instance to the call's
outcome and the instance afterwards: prepare a transaction, process a request directly
(taking some time) or asynchronously, release a transaction, set and read options.
-/

namespace InferenceBroker

/-- A plugin instance. -/
inductive Plugin where
  | echo (p : Echo)
  | module (p : ModulePlugin)
  deriving Inhabited

namespace Plugin

/-- The name the plugin reports. -/
def name : Plugin → String
  | .echo p => p.kind.name
  | .module p => p.key.algorithm

/-- The version the plugin reports. -/
def version : Plugin → Int64
  | .echo _ => 1
  | .module p => p.key.version

/-- The mode the plugin reports. -/
def mode : Plugin → InferMode
  | .echo p => p.mode
  | .module p => p.mode

/-- Whether preparing waits until the gate opens. -/
def preparesAfterGate : Plugin → Bool
  | .echo p => p.has .prepareBlock
  | .module _ => false

/-- Prepares a transaction. -/
def prepare (pl : Plugin) (tx : UInt64) (input : Option Bytes) : Call (Option Bytes) × Plugin :=
  match pl with
  | .echo p => let (c, p) := p.prepare tx input; (c, .echo p)
  | .module p => let (c, p) := p.prepare input; (c, .module p)

/-- Processes a request directly: the outcome, how long it takes, and the plugin. -/
def syncProcess (pl : Plugin) (req : Request) : Call (Option Response) × Duration × Plugin :=
  match pl with
  | .echo p =>
    let c := p.syncProcess req
    let took := match c with
      | .done _ => p.delay
      | _ => ⟨0⟩
    (c, took, pl)
  | .module p => let (c, p) := p.syncProcess req; (c, ⟨0⟩, .module p)

/-- Accepts a request for an asynchronous answer. -/
def asyncProcess (pl : Plugin) (req : Request) : Call Delivery × Plugin :=
  match pl with
  | .echo p => (p.asyncProcess req, pl)
  | .module p => let (c, p) := p.asyncProcess req; (c, .module p)

/-- Releases a transaction. -/
def release (pl : Plugin) (full : Bool) (tx : UInt64) : Call Unit × Plugin :=
  match pl with
  | .echo p => let (c, p) := p.release full tx; (c, .echo p)
  | .module p => let (c, p) := p.release full; (c, .module p)

/-- Sets an option. -/
def setOption (pl : Plugin) (t : Int32) (input : Option Bytes) : Call Unit × Plugin :=
  match pl with
  | .echo p => let (c, p) := p.setOption t input; (c, .echo p)
  | .module p => (.done (), .module (p.setOption t input))

/-- Reads an option. -/
def getOption (pl : Plugin) (t : Int32) : Call (Option Bytes) :=
  match pl with
  | .echo p => p.getOption t
  | .module p => p.getOption t

/-- Frees what a plugin holds beyond its last release. Neither kind holds anything a later
answer could show. -/
def destroy : Plugin → Plugin
  | .echo p => .echo p
  | .module p => .module p

/-- The number of prepared transactions of an echo plugin. -/
def prepared : Plugin → Option Nat
  | .echo p => some p.prepared.length
  | .module _ => none

end Plugin

end InferenceBroker
