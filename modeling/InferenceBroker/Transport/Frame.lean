import InferenceBroker.Core.Bytes

/-!
# Frames

A frame is a channel and a request id of 8 bytes each, a 4-byte length and that many bytes of
data, all big-endian. A reader takes frames off a stream: `EOF` when it ends between frames,
`unexpected EOF` inside a header or begun data; a frame over 256 MiB is refused before its
data is read.
-/

namespace InferenceBroker

structure Frame where
  channel : UInt64
  requestId : UInt64
  data : Bytes
deriving DecidableEq, Repr, Inhabited

namespace Frame

def callChannel : UInt64 := 1
def notifyChannel : UInt64 := 2

def maxData : Nat := 256 * Nat.pow 2 20

def encode (f : Frame) : Bytes :=
  Bytes.beBytes 8 f.channel.toNat ++ Bytes.beBytes 8 f.requestId.toNat ++
    Bytes.beBytes 4 f.data.length ++ f.data

inductive End where
  /-- the stream ended between frames, or right after a header -/
  | eof
  | truncated
  | tooLarge (length : Nat)
deriving DecidableEq, Repr

def End.message : End → String
  | .eof => "EOF"
  | .truncated => "unexpected EOF"
  | .tooLarge n => s!"frame of {n} bytes exceeds limit of {maxData} bytes"

/-- Takes `n` bytes as a full read does: nothing read is `eof`, some is `truncated`. -/
def takeFull (n : Nat) (bs : Bytes) : Except End (Bytes × Bytes) :=
  if n ≤ bs.length then .ok (bs.take n, bs.drop n)
  else if bs.isEmpty then .error .eof
  else .error .truncated

def read (bs : Bytes) : Except End (Frame × Bytes) := do
  let (header, rest) ← takeFull 20 bs
  let channel := UInt64.ofNat (Bytes.beValue (header.take 8))
  let requestId := UInt64.ofNat (Bytes.beValue ((header.drop 8).take 8))
  let len := Bytes.beValue (header.drop 16)
  if len == 0 then pure (⟨channel, requestId, []⟩, rest)
  else if len > maxData then .error (.tooLarge len)
  else do
    let (data, rest) ← takeFull len rest
    pure (⟨channel, requestId, data⟩, rest)

/-- Copies bytes over the front of a buffer, as a read into it does. -/
def fill (buf data : Bytes) : Bytes := data ++ buf.drop data.length

/-- Reads one frame into a caller's buffer as the transport's reader does: the header into it
when it holds 20 bytes, else a fresh one; the data into the buffer in use when it fits, else a
fresh one of its size; fields read from where they went. Gives the frame, the rest of the
stream and the buffer as left. -/
def readInto (buf bs : Bytes) : Except End (Frame × Bytes × Bytes) := do
  let own := decide (20 ≤ buf.length)
  let (header, rest) ← takeFull 20 bs
  let hbuf := fill (if own then buf else List.replicate 20 0) header
  let channel := UInt64.ofNat (Bytes.beValue (hbuf.take 8))
  let requestId := UInt64.ofNat (Bytes.beValue ((hbuf.drop 8).take 8))
  let len := Bytes.beValue ((hbuf.drop 16).take 4)
  let left := if own then hbuf else buf
  if len == 0 then pure (⟨channel, requestId, []⟩, rest, left)
  else if len > maxData then .error (.tooLarge len)
  else do
    let fits := decide (len ≤ hbuf.length)
    let (data, rest) ← takeFull len rest
    let dbuf := fill (if fits then hbuf else List.replicate len 0) data
    pure (⟨channel, requestId, dbuf.take len⟩, rest, if own && fits then dbuf else left)

def readAll : Nat → Bytes → List Frame × End
  | 0, _ => ([], .eof)
  | fuel + 1, bs =>
    match read bs with
    | .error e => ([], e)
    | .ok (f, rest) =>
      let (fs, e) := readAll fuel rest
      (f :: fs, e)

def readStream (bs : Bytes) : List Frame × End := readAll (bs.length + 1) bs

/-- Reads frames until the first end, each into the buffer `pick` chooses from the count so far
and the buffer the last read left. -/
def readAllInto (pick : Nat → Bytes → Bytes) : Nat → Nat → Bytes → Bytes → List Frame × End
  | 0, _, _, _ => ([], .eof)
  | fuel + 1, n, left, bs =>
    match readInto (pick n left) bs with
    | .error e => ([], e)
    | .ok (f, rest, left) =>
      let (fs, e) := readAllInto pick fuel (n + 1) left rest
      (f :: fs, e)

def readStreamInto (pick : Nat → Bytes → Bytes) (buf bs : Bytes) : List Frame × End :=
  readAllInto pick (bs.length + 1) 0 buf bs

end Frame

/-- Bytes a server pushes to a connection on a channel of its choosing, outside any request. -/
structure Push where
  conn : Nat
  channel : Nat
  data : Bytes
  deriving Repr, Inhabited

end InferenceBroker
