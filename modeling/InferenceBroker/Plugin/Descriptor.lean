import InferenceBroker.Core.Key

/-!
# Plugin descriptors

A descriptor says where the plugin of an engine key comes from: its kind (`builtin`,
`native` or `wasm`; other words are kept so that a table can refuse them), the path or
builtin name to open, and optionally the infer mode a module is to run in.
-/

namespace InferenceBroker

structure Descriptor where
  algorithm : String := ""
  version : Int64 := 0
  kind : String := ""
  path : String := ""
  mode : String := ""
deriving DecidableEq, Repr, Inhabited

namespace Descriptor

def key (d : Descriptor) : EngineKey := ⟨d.algorithm, d.version⟩

end Descriptor

inductive InferMode where
  /-- Requests are answered by the call. -/
  | sync
  /-- Requests are answered later through a callback. -/
  | async
  /-- A mode the broker does not know, by its word. -/
  | other (word : String)
deriving DecidableEq, Repr, Inhabited

namespace InferMode

def word : InferMode → String
  | .sync => "SYNC"
  | .async => "ASYNC"
  | .other w => w

def ofWord (w : String) : InferMode :=
  if w == "SYNC" then .sync else if w == "ASYNC" then .async else .other w

end InferMode

end InferenceBroker
