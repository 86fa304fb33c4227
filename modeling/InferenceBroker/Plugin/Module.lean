import InferenceBroker.Plugin.Call
import InferenceBroker.Plugin.Descriptor
import InferenceBroker.Wasm.Instance

/-!
# WebAssembly plugins

A plugin module exports `aib_alloc` and `aib_process`, perhaps `aib_prepare` and
`aib_release`. The host passes bytes by asking `aib_alloc` for room, writing them there and
calling with pointer and length; the answer is one 64-bit word, the result's pointer (high
half) and length (low half). Every failure on the way is a `plugin failed` failure naming
the step. Options are kept by the host.
-/

namespace InferenceBroker

structure ModulePlugin where
  key : EngineKey
  mode : InferMode
  inst : Wasm.Instance
  options : List (Int32 × Option Bytes) := []

namespace ModulePlugin

def allocName : String := "aib_alloc"

def processName : String := "aib_process"

def prepareName : String := "aib_prepare"

def releaseName : String := "aib_release"

/-- The panic of a missing memory. -/
def nilMemory : String := "runtime error: invalid memory address or nil pointer dereference"

/-- The panic of a call that returned no result word. -/
def noResult : String := "runtime error: index out of range [0] with length 0"

def stepFailed (step detail : String) : Failure := .within step (.within detail Failure.pluginFailed)

/-- Its name in the module's name section, if any. -/
def debugName (p : ModulePlugin) (fi : Nat) : String :=
  p.inst.funcName fi

/-- Passes bytes to function `fi` through guest memory and copies its result out. -/
def transfer (p : ModulePlugin) (fi : Nat) (input : Bytes) : Call Bytes × ModulePlugin :=
  match p.inst.export? allocName with
  | none => (.panicked nilMemory, p)
  | some alloc =>
    match p.inst.call alloc [UInt64.ofNat input.length] with
    | (.error e, inst) => (.failed (stepFailed allocName e), { p with inst := inst })
    | (.ok [], inst) => (.panicked noResult, { p with inst := inst })
    | (.ok (w :: _), inst) =>
      let p := { p with inst := inst }
      let ptr := w.toUInt32.toNat
      let written : Except (Call Bytes) ModulePlugin :=
        if input.isEmpty then .ok p
        else match p.inst.write ptr input with
          | none => .error (.panicked nilMemory)
          | some (false, _) =>
            .error (.failed (.within s!"input of {input.length} bytes does not fit at {ptr}" Failure.pluginFailed))
          | some (true, inst) => .ok { p with inst := inst }
      match written with
      | .error c => (c, p)
      | .ok p =>
        match p.inst.call fi [UInt64.ofNat ptr, UInt64.ofNat input.length] with
        | (.error e, inst) => (.failed (stepFailed (p.debugName fi) e), { p with inst := inst })
        | (.ok [], inst) => (.panicked noResult, { p with inst := inst })
        | (.ok (r :: _), inst) =>
          let p := { p with inst := inst }
          let outPtr := (r >>> 32).toNat
          let outLen := r.toUInt32.toNat
          if outLen == 0 then (.done [], p)
          else match p.inst.read outPtr outLen with
            | none => (.panicked nilMemory, p)
            | some none =>
              (.failed (.within s!"result [{outPtr}, {(outPtr + outLen) % Nat.pow 2 32}) out of memory range"
                Failure.pluginFailed), p)
            | some (some out) => (.done out, p)

/-- Prepares a transaction: the output of `aib_prepare`, or nothing without it. -/
def prepare (p : ModulePlugin) (input : Option Bytes) : Call (Option Bytes) × ModulePlugin :=
  match p.inst.export? prepareName with
  | none => (.done none, p)
  | some fi =>
    let (c, p) := p.transfer fi (input.getD [])
    (c.map some, p)

def syncProcess (p : ModulePlugin) (req : Request) : Call (Option Response) × ModulePlugin :=
  match p.inst.export? processName with
  | none => (.panicked nilMemory, p)
  | some fi =>
    let (c, p) := p.transfer fi (req.payload.getD [])
    (c.map fun out => some (Response.success req (some out)), p)

/-- Processes a request and reports the answer as an event. -/
def asyncProcess (p : ModulePlugin) (req : Request) : Call Delivery × ModulePlugin :=
  match p.syncProcess req with
  | (.done (some r), p) => (.done (.later ⟨0⟩ [(Event.result, r)]), p)
  | (.done none, p) => (.done (.later ⟨0⟩ []), p)
  | (.failed e, p) => (.done (.later ⟨0⟩ [(Event.error, Response.failure req (some e))]), p)
  | (.panicked m, p) => (.done (.later ⟨0⟩ [(Event.error, Response.failure req (some (.note m)))]), p)

/-- Releases a transaction through `aib_release`, passing 1 for a full release. -/
def release (p : ModulePlugin) (full : Bool) : Call Unit × ModulePlugin :=
  match p.inst.export? releaseName with
  | none => (.done (), p)
  | some fi =>
    match p.inst.call fi [if full then 1 else 0] with
    | (.ok _, inst) => (.done (), { p with inst := inst })
    | (.error e, inst) => (.failed (stepFailed releaseName e), { p with inst := inst })

def setOption (p : ModulePlugin) (t : Int32) (input : Option Bytes) : ModulePlugin :=
  let v := match input with
    | some (b :: bs) => some (b :: bs)
    | _ => none
  { p with options := (t, v) :: p.options.filter (·.1 != t) }

def getOption (p : ModulePlugin) (t : Int32) : Call (Option Bytes) :=
  match p.options.lookup t with
  | some v => .done v
  | none => .failed (.within s!"option {t.toInt} is not set" Failure.invalidArgument)

end ModulePlugin

end InferenceBroker
