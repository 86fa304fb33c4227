import InferenceBroker.Wasm.Reader
import InferenceBroker.Wasm.Mnemonic
import InferenceBroker.Text.Quote

/-!
# Reading the binary format

`Wasm.decode` reads the magic number, the version and the sections (id, size, content). A
section's content is read from the whole input and only then compared with its declared
size. A failure inside a section is named by it (`section type: …`), except in the import and
global sections. Bodies are kept as bytes for validation. Custom sections are skipped, but
`name` is read, at most once, for the module's and functions' names.
-/

namespace InferenceBroker

namespace Wasm

/-- The hexadecimal text of a number after `0x`, unpadded. -/
def hexText (n : Nat) : String := "0x" ++ String.ofList (Nat.toDigits 16 n)

def sectionName : Nat → String
  | 0 => "custom"
  | 1 => "type"
  | 2 => "import"
  | 3 => "function"
  | 4 => "table"
  | 5 => "memory"
  | 6 => "global"
  | 7 => "export"
  | 8 => "start"
  | 9 => "element"
  | 10 => "code"
  | 11 => "data"
  | 12 => "data_count"
  | _ => "unknown"

def externName (b : Nat) : String :=
  match b with
  | 0 => "func"
  | 1 => "table"
  | 2 => "memory"
  | 3 => "global"
  | _ => hexText b

/-- A number of pages in `Ki`, `Mi`, `Gi` or `Ti`, the kibibytes counted in 32 bits. -/
def pagesText (pages : Nat) : String :=
  let k := pages * 64 % Nat.pow 2 32
  if k < 1024 then s!"{k} Ki"
  else
    let m := k / 1024
    if m < 1024 then s!"{m} Mi"
    else
      let g := m / 1024
      if g < 1024 then s!"{g} Gi" else s!"{g / 1024} Ti"

/-- The most pages a memory may have. -/
def memoryLimit : Nat := 65536

/-- The largest function index and table size. -/
def functionLimit : Nat := Nat.pow 2 27

def ConstExpr.opcode : ConstExpr → Nat
  | .i32 _ => 0x41
  | .i64 _ => 0x42
  | .f32 _ => 0x43
  | .f64 _ => 0x44
  | .v128 _ => 0x0C
  | .global _ => 0x23
  | .refNull _ => 0xD0
  | .refFunc _ => 0xD2

namespace Decode

/-- Runs a reader and keeps its failure as a value, the input unchanged by it. -/
def caught {α : Type} (r : Reader α) : Reader (Except String α) := fun i =>
  match r i with
  | .ok (a, i') => .ok (.ok a, i')
  | .error e => .ok (.error e, i)

def counted {α : Type} (r : Reader α) : Reader (α × Nat) := do
  let start ← position
  let a ← r
  pure (a, (← position) - start)

def items {α : Type} (n : Nat) (item : Nat → Reader α) : Reader (List α) :=
  let rec go : Nat → Nat → List α → Reader (List α)
    | 0, _, acc => pure acc.reverse
    | k + 1, i, acc => do go k (i + 1) ((← item i) :: acc)
  go n 0 []

/-- Reads the bytes there are, up to `n`; at the end of the input it fails with `EOF`. -/
def upTo (n : Nat) : Reader Bytes := fun i =>
  if i.rest.isEmpty then .error "EOF"
  else
    let k := min n i.rest.length
    .ok (i.rest.take k, ⟨i.rest.drop k, i.pos + k⟩)

def skip (n : Nat) : Reader Unit := fun i =>
  if n ≤ i.rest.length then .ok ((), ⟨i.rest.drop n, i.pos + n⟩)
  else .error "EOF"

/-- Reads `n` value types: all their bytes first, then each must be a type. -/
def valueTypes (n : Nat) : Reader (List ValType) := do
  if n == 0 then return []
  let bs ← bytes n
  match bs.find? (fun b => (ValType.ofCode? b.toNat).isNone) with
  | some b => failWith s!"invalid value type: {b.toNat}"
  | none => pure (bs.filterMap fun b => ValType.ofCode? b.toNat)

def funcType : Reader FuncType := do
  let b ← within "read leading byte: " byte
  if b.toNat != 0x60 then failWith s!"invalid byte: {hexText b.toNat} != 0x60"
  else
    let pc ← within "could not read parameter count: " u32
    let ps ← within "could not read parameter types: " (valueTypes pc)
    let rc ← within "could not read result count: " u32
    let rs ← within "could not read result types: " (valueTypes rc)
    pure ⟨ps, rs⟩

/-- Reads limits: minimum, maximum if any, and whether marked shared. -/
def limits : Reader (Nat × Option Nat × Bool) := do
  let flag := (← within "read leading byte: " byte).toNat
  if flag == 0 ∨ flag == 2 then
    let lo ← within "read min of limit: " u32
    pure (lo, none, flag == 2)
  else if flag == 1 ∨ flag == 3 then
    let lo ← within "read min of limit: " u32
    let hi ← within "read max of limit: " u32
    pure (lo, some hi, flag == 3)
  else failWith s!"invalid byte for limits: {hexText flag} not in (0x00, 0x01, 0x02, 0x03)"

/-- Reads a table type, its element type byte kept as it is. -/
def tableType : Reader TableType := do
  let t := (← within "read leading byte: " byte).toNat
  let (lo, hi, shared) ← within "read limits: " limits
  if lo > functionLimit then failWith s!"table min must be at most {functionLimit}"
  else if hi.any (· < lo) then failWith "table size minimum must not be greater than maximum"
  else if shared then failWith "tables cannot be marked as shared"
  else pure ⟨t, ⟨lo, hi⟩⟩

/-- Reads a memory type within the page limit; without a maximum it may grow to the limit. -/
def memoryType : Reader Limits := do
  let (lo, hi, shared) ← limits
  if shared then failWith "shared memory requested but threads feature not enabled"
  else
    let top := hi.getD memoryLimit
    if top > memoryLimit then
      failWith s!"max {top} pages ({pagesText top}) over limit of {memoryLimit} pages ({pagesText memoryLimit})"
    else if lo > memoryLimit then
      failWith s!"min {lo} pages ({pagesText lo}) over limit of {memoryLimit} pages ({pagesText memoryLimit})"
    else if lo > top then
      failWith s!"min {lo} pages ({pagesText lo}) > max {top} pages ({pagesText top})"
    else pure ⟨lo, hi⟩

def globalType : Reader (ValType × Bool) := do
  let ts ← within "read value type: " (valueTypes 1)
  let b := (← within "read mutablity: " byte).toNat
  let t := ts.headD .i32
  if b == 0 then pure (t, false)
  else if b == 1 then pure (t, true)
  else failWith s!"invalid byte for mutability: {hexText b} != 0x00 or 0x01"

def littleEndian (bs : Bytes) : Nat := bs.foldr (fun b acc => acc * 256 + b.toNat) 0

/-- Reads a constant expression: one instruction and `end`. -/
def constExpr : Reader ConstExpr := do
  let op := (← within "read opcode: " byte).toNat
  let value : Reader ConstExpr :=
    match op with
    | 0x41 => within "read value: " (ConstExpr.i32 <$> signed 32)
    | 0x42 => within "read value: " (ConstExpr.i64 <$> signed 64)
    | 0x43 => within "read f32 constant: " ((ConstExpr.f32 ∘ littleEndian) <$> bytes 4)
    | 0x44 => within "read f64 constant: " ((ConstExpr.f64 ∘ littleEndian) <$> bytes 8)
    | 0x23 => within "read value: " (ConstExpr.global <$> u32)
    | 0xD0 => do
      let t := (← within "read reference type for ref.null: " byte).toNat
      match ValType.ofCode? t with
      | some rt => if rt.isRef then pure (.refNull rt) else failWith s!"invalid type for ref.null: {hexText t}"
      | none => failWith s!"invalid type for ref.null: {hexText t}"
    | 0xD2 => within "read value: " (ConstExpr.refFunc <$> u32)
    | 0xFD => do
      let sub := (← within "read vector instruction opcode suffix: " byte).toNat
      if sub != 0x0C then failWith s!"invalid vector opcode for const expression: {hexText sub}"
      else
        let bs ← within "read vector const instruction immediates: " (upTo 16)
        if bs.length != 16 then
          failWith s!"read vector const instruction immediates: needs 16 bytes but was {bs.length} bytes"
        else pure (.v128 (littleEndian bs))
    | _ => failWith s!"invalid byte for const expression opt code: {hexText op}"
  let e ← value
  let b ← within "look for end opcode: " byte
  if b.toNat != 0x0B then failWith "constant expression has been not terminated" else pure e

def importEntry (i : Nat) : Reader Import := do
  let m ← within s!"import[{i}] error decoding module: " (utf8 "import module")
  let n ← within s!"import[{i}] error decoding name: " (utf8 "import name")
  let b := (← within s!"import[{i}] error decoding type: " byte).toNat
  let desc : Reader ImportKind :=
    match b with
    | 0 => ImportKind.func <$> u32
    | 1 => ImportKind.table <$> tableType
    | 2 => ImportKind.memory <$> memoryType
    | 3 => (fun (t, mutable) => ImportKind.global t mutable) <$> globalType
    | _ => failWith s!"invalid byte: invalid byte for importdesc: {hexText b}"
  let kind ← within s!"import[{i}] {externName b}[{m}.{n}]: " desc
  pure ⟨m, n, kind⟩

def exportEntry : Reader Export := do
  let n ← utf8 "export name"
  let b := (← within "error decoding export kind: " byte).toNat
  let kind ← match b with
    | 0 => pure ExportKind.func
    | 1 => pure .table
    | 2 => pure .memory
    | 3 => pure .global
    | _ => failWith s!"invalid byte: invalid byte for exportdesc: {hexText b}"
  let index ← within "error decoding export index: " u32
  pure ⟨n, kind, index⟩

/-- Reads the exports; a name may be exported once. -/
def exports : Reader (List Export) := do
  let n ← within "get size of vector: " u32
  let rec go : Nat → Nat → List Export → Reader (List Export)
    | 0, _, acc => pure acc.reverse
    | k + 1, i, acc => do
      let e ← within "read export: " exportEntry
      if acc.any (·.name == e.name) then failWith s!"export[{i}] duplicates name {Quote.string e.name}"
      else go k (i + 1) (e :: acc)
  go n 0 []

def elemKind : Reader Unit := do
  let b := (← within "read element prefix: " byte).toNat
  if b != 0 then failWith s!"element kind must be zero but was {hexText b}" else pure ()

def funcIndices : Reader (List ElemItem) := do
  let n ← within "get size of vector: " u32
  items n fun _ => do
    let v ← within "read function index: " u32
    if v ≥ functionLimit then failWith s!"too large function index in Element init: {v}"
    else pure (.func v)

def elemRefType : Reader ValType := do
  let b := (← within "read element ref type: " byte).toNat
  if b == 0x70 then pure .funcref
  else if b == 0x6F then pure .externref
  else failWith "ref type must be funcref or externref for element as of WebAssembly 2.0"

/-- Reads element expressions of type `t`; a `global.get` index is read again as a signed
number, its top bit dropped. -/
def exprItems (t : ValType) : Reader (List ElemItem) := do
  let n ← within "failed to get the size of constexpr vector: " u32
  items n fun _ => do
    let before ← get
    let e ← constExpr
    match e with
    | .refFunc v =>
      if t != .funcref then failWith s!"element type mismatch: want {refTypeName t}, but constexpr has funcref"
      else if v ≥ functionLimit then failWith s!"too large function index in Element init: {v}"
      else pure (.func v)
    | .refNull rt =>
      if t != rt then failWith s!"element type mismatch: want {refTypeName t}, but constexpr has {refTypeName rt}"
      else pure .null
    | .global _ =>
      let g := match readAll (signed 32) (before.rest.drop 1) with
        | .ok (v, _) => (v % Nat.pow 2 32).toNat % Nat.pow 2 31
        | .error _ => 0
      pure (.global g)
    | other =>
      failWith s!"const expr must be either ref.null or ref.func but was {instrName other.opcode}"

def elemSegment : Reader ElemSegment := do
  let flag ← within "read element prefix: " u32
  let offset := within "read expr for offset: " constExpr
  let tableIndex := within "get size of vector: " u32
  match flag with
  | 0 => do
    let off ← offset
    pure ⟨.active 0 off, .funcref, ← funcIndices⟩
  | 1 => do
    elemKind
    pure ⟨.passive, .funcref, ← funcIndices⟩
  | 2 => do
    let t ← tableIndex
    let off ← offset
    elemKind
    pure ⟨.active t off, .funcref, ← funcIndices⟩
  | 3 => do
    elemKind
    pure ⟨.declarative, .funcref, ← funcIndices⟩
  | 4 => do
    let off ← offset
    pure ⟨.active 0 off, .funcref, ← exprItems .funcref⟩
  | 5 => do
    let rt ← elemRefType
    pure ⟨.passive, rt, ← exprItems rt⟩
  | 6 => do
    let t ← tableIndex
    let off ← offset
    let rt ← elemRefType
    pure ⟨.active t off, rt, ← exprItems rt⟩
  | 7 => do
    let rt ← elemRefType
    pure ⟨.declarative, rt, ← exprItems rt⟩
  | f => failWith s!"invalid element segment prefix: {hexText f}"

/-- Reads a code entry's local declarations twice: to check types and total, then to count
them against the entry's size (`EOF` when they overrun it). -/
def locals (remaining : Int) : Reader (List (Nat × ValType) × Int) := do
  let (n, sizeBytes) ← counted (within "get the size locals: " u32)
  let remaining := remaining - sizeBytes
  if remaining < 0 then failWith "EOF"
  else
    let saved ← get
    let groups ← items n fun _ => do
      let k ← within "read n of locals: " u32
      let b := (← within "read type of local: " byte).toNat
      match ValType.ofCode? b with
      | some t => pure (k, t)
      | none => failWith s!"invalid local type: {hexText b}"
    let total := (groups.map (·.1)).foldr (· + ·) 0
    if total ≥ Nat.pow 2 32 then failWith s!"too many locals: {total}"
    else
      set saved
      let rec again : List (Nat × ValType) → Int → Reader Int
        | [], r => pure r
        | _ :: rest, r => do
          let (_, k) ← counted u32
          let r := r - k - 1
          if r < 0 then failWith "EOF"
          else
            discard byte
            again rest r
      let remaining ← again groups remaining
      pure (groups, remaining)

/-- Reads a code entry: size, locals, and a body ending with `end`. -/
def codeEntry : Reader Code := do
  let size ← within "get the size of code: " u32
  let (groups, remaining) ← locals size
  let body ← within "read body: " (bytes remaining.toNat)
  if body.getLast? != some 0x0B then failWith "expr not end with OpcodeEnd"
  else pure ⟨groups, body⟩

def dataSegment : Reader DataSegment := do
  let flag ← within "read data segment prefix: " u32
  let offset ← match flag with
    | 0 => some <$> within "read offset expression: " constExpr
    | 2 => do
      let d ← within "read memory index: " u32
      if d != 0 then failWith s!"memory index must be zero but was {d}"
      else some <$> within "read offset expression: " constExpr
    | 1 => pure none
    | f => failWith s!"invalid data segment prefix: {hexText f}"
  let n ← within "get the size of vector: " u32
  let init ← within "read bytes for init: " (bytes n)
  pure ⟨offset, init⟩

def functionNames : Reader (List (Nat × String)) := do
  let n ← within "failed to read function count of subsection[1]: " u32
  items n fun _ => do
    let f ← within "failed to read a function index in subsection[1]: " u32
    let name ← utf8 s!"function[{f}] name"
    pure (f, name)

/-- Reads a name subsection's local names, checked and dropped. -/
def localNames : Reader Unit := do
  let n ← within "failed to read function count of subsection[2]: " u32
  discard <| items n fun _ => do
    let f ← within "failed to read a function index in subsection[2]: " u32
    let k ← within s!"failed to read the local count for function[{f}]: " u32
    items k fun _ => do
      let l ← within s!"failed to read a local index of function[{f}]: " u32
      utf8 s!"function[{f}] local[{l}] name"

/-- Reads the `name` subsections while the 64-bit byte budget `limit` lasts; each declared
size is taken off, whatever the subsection took. -/
def nameSection (limit : Nat) : Reader NameSection := do
  let rec go : Nat → Nat → NameSection → Reader NameSection
    | 0, _, ns => pure ns
    | fuel + 1, limit, ns => do
      if limit == 0 then return ns
      let id := (← within "failed to read a subsection ID: " byte).toNat
      let limit := limit - 1
      let (size, k) ← counted (within s!"failed to read the size of subsection[{id}]: " u32)
      let limit := (limit + Nat.pow 2 64 - k) % Nat.pow 2 64
      let ns ← match id with
        | 0 => (fun m => { ns with module := m }) <$> utf8 "module name"
        | 1 => (fun fs => { ns with funcs := fs }) <$> functionNames
        | 2 => (fun _ => ns) <$> localNames
        | _ => (fun _ => ns) <$> within s!"failed to skip subsection[{id}]: " (skip size)
      go fuel ((limit + Nat.pow 2 64 - size) % Nat.pow 2 64) ns
  let i ← get
  go (i.rest.length + 1) limit {}

/-- Reads a custom section; an outer failure is named by the section, an inner one stands alone. -/
def customSection (size : Nat) (m : Module) : Reader (Except String Module) := do
  let (name, nameSize) ← counted (utf8 "custom section name")
  if size < nameSize then failWith s!"malformed custom section {name}"
  else if name == "name" ∧ m.names.isSome then failWith "redundant custom section name"
  else if name != "name" then
    match ← caught (upTo (size - nameSize)) with
    | .ok _ => pure (.ok m)
    | .error e => pure (.error s!"failed to read custom section name[{name}]: {e}")
  else
    let ns ← nameSection (size - nameSize)
    pure (.ok { m with names := some ns })

def vector {α : Type} (item : Nat → Reader α) : Reader (List α) := do
  let n ← within "get size of vector: " u32
  items n item

/-- Reads section `id` into the module; an outer failure is named by the section. -/
def sectionContent (id size : Nat) (m : Module) : Reader (Except String Module) :=
  let ok := fun (m : Module) => Except.ok (ε := String) m
  match id with
  | 0 => customSection size m
  | 1 => (fun ts => ok { m with types := ts }) <$> vector fun i => within s!"read {i}-th type: " funcType
  | 2 => (fun r => r.map fun is => { m with imports := is }) <$> caught (vector importEntry)
  | 3 => (fun fs => ok { m with funcs := fs }) <$> vector fun _ => within "get type index: " u32
  | 4 => do
    let n ← fun i => match u32 i with
      | .ok r => .ok r
      | .error _ => .error "error reading size"
    let ts ← items n fun _ => tableType
    pure (ok { m with tables := ts })
  | 5 => do
    let n ← fun i => match u32 i with
      | .ok r => .ok r
      | .error _ => .error "error reading size"
    if n > 1 then failWith s!"at most one memory allowed in module, but read {n}"
    else if n == 0 then pure (ok { m with memory := none })
    else (fun l => ok { m with memory := some l }) <$> memoryType
  | 6 => (fun r => r.map fun gs => { m with globals := gs }) <$> caught (vector fun i =>
      within s!"global[{i}]: " do
        let (t, mutable) ← globalType
        pure ⟨t, mutable, ← constExpr⟩)
  | 7 => (fun es => ok { m with exports := es }) <$> exports
  | 8 =>
    if m.start.isSome then pure (.error "multiple start sections are invalid")
    else (fun s => ok { m with start := some s }) <$> within "get function index: " u32
  | 9 => (fun es => ok { m with elems := es }) <$> vector fun _ => within "read element: " elemSegment
  | 10 => (fun cs => ok { m with codes := cs }) <$> vector fun i => within s!"read {i}-th code segment: " codeEntry
  | 11 => (fun ds => ok { m with datas := ds }) <$> vector fun _ => within "read data segment: " dataSegment
  | 12 => do
    let n ← fun i => match u32 i with
      | .ok r => .ok r
      | .error "EOF" => .ok (0, ⟨[], i.pos + i.rest.length⟩)
      | .error e => .error e
    pure (ok { m with dataCount := some n })
  | _ => failWith "invalid section id"

def sections : Nat → Module → Reader Module
  | 0, m => pure m
  | fuel + 1, m => do
    if ← atEnd then return m
    let id := (← byte).toNat
    let size ← within s!"get size of section {sectionName id}: " u32
    let start ← position
    match ← caught (sectionContent id size m) with
    | .error e => failWith s!"section {sectionName id}: {e}"
    | .ok (.error e) => failWith e
    | .ok (.ok m) =>
      let taken := (← position) - start
      if taken != size then
        failWith s!"section {sectionName id}: invalid section length: expected to be {size} but got {taken}"
      else sections fuel m

end Decode

def magic : Bytes := [0x00, 0x61, 0x73, 0x6D]

def version : Bytes := [0x01, 0x00, 0x00, 0x00]

def decode (bs : Bytes) : Except String Module :=
  if bs.take 4 != magic then .error "invalid magic number"
  else if (bs.drop 4).take 4 != version then .error "invalid version header"
  else
    match Decode.sections (bs.length + 1) {} ⟨bs.drop 8, 8⟩ with
    | .error e => .error e
    | .ok (m, _) =>
      if m.funcs.length != m.codes.length then
        .error s!"function and code section have inconsistent lengths: {m.funcs.length} != {m.codes.length}"
      else .ok m

end Wasm

end InferenceBroker
