import InferenceBroker.Wasm.Entropy
import InferenceBroker.Wasm.Validate

/-!
# The store of an instance

What a running instance holds beside its code: globals, linear memory, tables, the segments
still to copy from, and its host's state (clock readings, open files, entropy, exit). Memory
is whole pages, little-endian, an access in bounds when all its bytes are; it grows up to its
maximum (the largest memory when none is given). A table holds function references or nothing.
-/

namespace InferenceBroker

namespace Wasm

def pageSize : Nat := 65536

/-- Its bytes and the most pages it may grow to. -/
structure Memory where
  data : ByteArray
  max : Nat

namespace Memory

def zeros : Nat → ByteArray → ByteArray
  | 0, b => b
  | n + 1, b => zeros n (b.push 0)

def zeroPages (n : Nat) (b : ByteArray) : ByteArray :=
  let page := zeros pageSize (ByteArray.emptyWithCapacity pageSize)
  let rec go : Nat → ByteArray → ByteArray
    | 0, b => b
    | k + 1, b => go k (b ++ page)
  go n b

def make (pages max : Nat) : Memory := ⟨zeroPages pages (ByteArray.emptyWithCapacity (pages * pageSize)), max⟩

def size (m : Memory) : Nat := m.data.size

def pages (m : Memory) : Nat := m.data.size / pageSize

def fits (m : Memory) (addr n : Nat) : Bool := addr + n ≤ m.data.size

/-- The little-endian number in the `n` bytes at `addr`, which must be inside. -/
def load (m : Memory) (addr n : Nat) : Nat :=
  let rec go : Nat → Nat → Nat
    | 0, acc => acc
    | k + 1, acc => go k (acc * 256 + (m.data.get! (addr + k)).toNat)
  go n 0

/-- Writes the low `n` bytes of `v` at `addr`, which must be inside. -/
def store (m : Memory) (addr n v : Nat) : Memory :=
  let rec go : Nat → Nat → ByteArray → ByteArray
    | 0, _, d => d
    | k + 1, v, d => go k (v / 256) (d.set! (addr + (n - k - 1)) (UInt8.ofNat v))
  match m with
  | ⟨data, max⟩ => ⟨go n v data, max⟩

def read (m : Memory) (addr n : Nat) : Option Bytes :=
  if m.fits addr n then some (m.data.extract addr (addr + n)).toList else none

def write (m : Memory) (addr : Nat) (bs : Bytes) : Option Memory :=
  if m.fits addr bs.length then
    match m with
    | ⟨data, max⟩ => some ⟨(bs.foldl (fun (d, i) b => (d.set! i b, i + 1)) (data, addr)).1, max⟩
  else none

def fill (m : Memory) (addr n : Nat) (b : UInt8) : Memory :=
  let rec go : Nat → ByteArray → ByteArray
    | 0, d => d
    | k + 1, d => go k (d.set! (addr + k) b)
  match m with
  | ⟨data, max⟩ => ⟨go n data, max⟩

/-- Copies `n` bytes from `src` to `dst` as if through a buffer. -/
def copyWithin (m : Memory) (dst src n : Nat) : Memory :=
  let bytes := m.data.extract src (src + n)
  match m with
  | ⟨data, max⟩ => ⟨bytes.copySlice 0 data dst n, max⟩

def copyFrom (m : Memory) (src : ByteArray) (from_ dst n : Nat) : Memory :=
  match m with
  | ⟨data, max⟩ => ⟨src.copySlice from_ data dst n, max⟩

/-- Up to the maximum, and by fewer than `2 ^ 31` pages at once. -/
def canGrow (m : Memory) (n : Nat) : Bool := n == 0 ∨ (m.pages + n ≤ m.max ∧ n < Nat.pow 2 31)

def extend (m : Memory) (n : Nat) : Memory :=
  match m with
  | ⟨data, max⟩ => ⟨zeroPages n data, max⟩

/-- Grows by `n` pages: the old page count, or `none` past the maximum. -/
def grow (m : Memory) (n : Nat) : Option (Nat × Memory) :=
  if m.canGrow n then some (m.pages, m.extend n) else none

end Memory

/-- Its references, maximum size and element type byte. -/
structure Table where
  elems : Array (Option Nat)
  max : Option Nat
  elem : Nat

namespace Table

def modifyElems (t : Table) (f : Array (Option Nat) → Array (Option Nat)) : Table :=
  match t with
  | ⟨elems, max, elem⟩ => ⟨f elems, max, elem⟩

end Table

/-- Clock readings, open descriptors, the entropy source, and the exit code once exited,
after which nothing runs. -/
structure HostState where
  wallReadings : Nat := 0
  monoReadings : Nat := 0
  open_ : List Nat := [0, 1, 2]
  entropy : Entropy := Entropy.seeded hostSeed
  exited : Option Nat := none

structure Store where
  globals : Array Value
  memory : Option Memory
  tables : Array Table
  /-- the data segments, emptied when dropped -/
  datas : Array ByteArray
  /-- the passive function-reference element segments; others and dropped ones are empty -/
  elems : Array (Array (Option Nat))
  host : HostState := {}

namespace Store

def setGlobal (s : Store) (i : Nat) (v : Value) : Store :=
  match s with
  | ⟨globals, memory, tables, datas, elems, host⟩ => ⟨globals.set! i v, memory, tables, datas, elems, host⟩

def modifyMemory (s : Store) (f : Memory → Memory) : Store :=
  match s with
  | ⟨globals, some mem, tables, datas, elems, host⟩ => ⟨globals, some (f mem), tables, datas, elems, host⟩
  | s => s

def modifyTable (s : Store) (i : Nat) (f : Table → Table) : Store :=
  match s with
  | ⟨globals, memory, tables, datas, elems, host⟩ => ⟨globals, memory, tables.modify i f, datas, elems, host⟩

end Store

end Wasm

end InferenceBroker
