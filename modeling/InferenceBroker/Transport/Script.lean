import InferenceBroker.Transport.Link
import InferenceBroker.Message.Format

/-!
# Scripted peers

A scripted peer listens like a server but takes the next cue for every frame it receives:
perhaps notifications first, then closing without an answer, holding the request, or
answering it (perhaps after a stray frame), with bytes or a message in its format. Once the
script is used up it answers `fx:` and the request's bytes. Such a peer sends what a
well-behaved broker never does: undecodable bytes, wrong answers, connections ending mid-request.
-/

namespace InferenceBroker

/-- Given bytes, or a message carrying the request's transaction id when `copyTx` is set. -/
inductive Scripted where
  | raw (data : Bytes)
  | message (m : Message) (copyTx : Bool)
  deriving Inhabited

structure Cue where
  notify : List Scripted := []
  close : Bool := false
  hold : Bool := false
  stray : Bool := false
  answer : Option Scripted := none
  deriving Inhabited

/-- Its format, the cues left, the frames received, and its links. -/
structure ScriptedPeer where
  format : Format
  cues : List Cue
  received : Nat := 0
  links : List Nat := []
  deriving Inhabited

namespace ScriptedPeer

def notifyChannel : UInt64 := 2

/-- The bytes answering a request of transaction `tx`; nothing for an unencodable message. -/
def render (p : ScriptedPeer) (tx : UInt64) : Scripted → Bytes
  | .raw bs => bs
  | .message m copyTx =>
    (p.format.encode (if copyTx then { m with transactionId := tx } else m)).toOption.getD []

/-- The frames sent back, whether the connection closes, and the peer afterwards. -/
def react (p : ScriptedPeer) (f : Frame) : List Frame × Bool × ScriptedPeer :=
  let tx := match p.format.decode f.data with
    | .ok m => m.transactionId
    | .error _ => 0
  let echo : Bytes := Bytes.ofString "fx:" ++ f.data
  match p.cues with
  | [] => ([⟨f.channel, f.requestId, echo⟩], false, { p with received := p.received + 1 })
  | c :: rest =>
    let p' := { p with cues := rest, received := p.received + 1 }
    let notes := c.notify.map fun s => (⟨notifyChannel, 0, p.render tx s⟩ : Frame)
    if c.close then (notes, true, p')
    else if c.hold then (notes, false, p')
    else
      let stray : List Frame :=
        if c.stray then [⟨f.channel, f.requestId + 1000, Bytes.ofString "stray"⟩] else []
      let data := match c.answer with
        | some s => p.render tx s
        | none => echo
      (notes ++ stray ++ [⟨f.channel, f.requestId, data⟩], false, p')

/-- A peer whose script is used up echoes every request. -/
theorem react_echo (p : ScriptedPeer) (f : Frame) (h : p.cues = []) :
    (p.react f).1 = [⟨f.channel, f.requestId, Bytes.ofString "fx:" ++ f.data⟩] := by
  simp [react, h]

end ScriptedPeer

end InferenceBroker
