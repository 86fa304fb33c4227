import InferenceBroker.Transport.Server

/-!
# The reflecting service

A service for testing a server transport alone: `push:X` pushes `X` to the requesting
connection and answers `pushed`; `hold` is answered `released` once released; anything else
`ch<channel>:<request>`. A connection that ends gets a `bye` push, recorded with whether it
was taken.
-/

namespace InferenceBroker

/-- Requests handled, the connections that ended since last taken (with whether their
farewell was taken), and every connection that ended. -/
structure Reflector where
  handled : Nat := 0
  records : List (Nat × Bool) := []
  seen : List Nat := []
  deriving Inhabited

namespace Reflector

def notifyChannel : Nat := 2

def reflect (conn : Nat) (channel : UInt64) (data : Bytes) : Answer × List Push :=
  let pushPrefix := Bytes.ofString "push:"
  if data.take pushPrefix.length == pushPrefix then
    (.reply (Bytes.ofString "pushed"), [⟨conn, notifyChannel, data.drop pushPrefix.length⟩])
  else if data == Bytes.ofString "hold" then (.hold, [])
  else (.reply (Bytes.ofString s!"ch{channel.toNat}:" ++ data), [])

def service : Service Reflector where
  answer conn channel data r :=
    let (a, ps) := reflect conn channel data
    (a, ps, { r with handled := r.handled + 1 })
  resume _ _ r := (Bytes.ofString "released", r)
  closing conn r :=
    ([⟨conn, notifyChannel, Bytes.ofString "bye"⟩],
     { r with records := r.records ++ [(conn, true)], seen := r.seen ++ [conn] })

/-- Any request that is neither a push nor `hold` is answered with its channel and
bytes. -/
theorem reflect_plain (conn : Nat) (channel : UInt64) (data : Bytes)
    (hp : data.take 5 ≠ Bytes.ofString "push:") (hh : data ≠ Bytes.ofString "hold") :
    reflect conn channel data = (.reply (Bytes.ofString s!"ch{channel.toNat}:" ++ data), []) := by
  have hlen : (Bytes.ofString "push:").length = 5 := by decide +kernel
  simp [reflect, hlen, hp, hh]

end Reflector

end InferenceBroker
