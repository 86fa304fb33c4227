import InferenceBroker.Wasm.Store

/-!
# The WASI host module

A plugin may import only the functions of `wasi_snapshot_preview1`. An instance runs with no
arguments, environment or directories, an empty standard input, output and error that
swallow what is written, deterministic entropy, and two fake clocks (wall from
2022-01-01T00:00:00Z, monotonic from zero) that advance one millisecond per reading. The only
files are the three standard streams, block devices of no size: every path call fails once
the path is read, and seeks, truncation, times and flags are unsupported. A pointer that does
not fit gives `EFAULT`, a descriptor not open `EBADF`.
-/

namespace InferenceBroker

namespace Wasm

def hostModule : String := "wasi_snapshot_preview1"

/-- The host functions with their types. -/
def hostFunctions : List (String × FuncType) :=
  let i := ValType.i32
  let l := ValType.i64
  let f := fun (ps : List ValType) => FuncType.mk ps [i]
  [("args_get", f [i, i]), ("args_sizes_get", f [i, i]), ("environ_get", f [i, i]),
   ("environ_sizes_get", f [i, i]), ("clock_res_get", f [i, i]), ("clock_time_get", f [i, l, i]),
   ("fd_advise", f [i, l, l, i]), ("fd_allocate", f [i, l, l]), ("fd_close", f [i]),
   ("fd_datasync", f [i]), ("fd_fdstat_get", f [i, i]), ("fd_fdstat_set_flags", f [i, i]),
   ("fd_fdstat_set_rights", f [i, l, l]), ("fd_filestat_get", f [i, i]),
   ("fd_filestat_set_size", f [i, l]), ("fd_filestat_set_times", f [i, l, l, i]),
   ("fd_pread", f [i, i, i, l, i]), ("fd_prestat_get", f [i, i]), ("fd_prestat_dir_name", f [i, i, i]),
   ("fd_pwrite", f [i, i, i, l, i]), ("fd_read", f [i, i, i, i]), ("fd_readdir", f [i, i, i, l, i]),
   ("fd_renumber", f [i, i]), ("fd_seek", f [i, l, i, i]), ("fd_sync", f [i]), ("fd_tell", f [i, i]),
   ("fd_write", f [i, i, i, i]), ("path_create_directory", f [i, i, i]),
   ("path_filestat_get", f [i, i, i, i, i]), ("path_filestat_set_times", f [i, i, i, i, l, l, i]),
   ("path_link", f [i, i, i, i, i, i, i]), ("path_open", f [i, i, i, i, i, l, l, i, i]),
   ("path_readlink", f [i, i, i, i, i, i]), ("path_remove_directory", f [i, i, i]),
   ("path_rename", f [i, i, i, i, i, i]), ("path_symlink", f [i, i, i, i, i]),
   ("path_unlink_file", f [i, i, i]), ("poll_oneoff", f [i, i, i, i]), ("proc_exit", ⟨[i], []⟩),
   ("proc_raise", f [i]), ("sched_yield", f []), ("random_get", f [i, i]), ("sock_accept", f [i, i, i]),
   ("sock_recv", f [i, i, i, i, i, i]), ("sock_send", f [i, i, i, i, i]), ("sock_shutdown", f [i, i])]

def hostType? (name : String) : Option FuncType := hostFunctions.lookup name

/-- The wall clock's first reading, in nanoseconds since 1970. -/
def wallEpoch : Nat := 1640995200000000000

inductive HostResult where
  | ok (results : List Value) (store : Store)
  | exit (code : Nat) (store : Store)

inductive Errno where
  /-- a descriptor not open, or of the wrong kind -/
  | badf
  /-- memory that does not hold what is read or written -/
  | fault
  | inval
  | nameTooLong
  | nosys
  | notdir
  | notsup
  /-- a path that leaves its directory -/
  | perm
  deriving DecidableEq, Repr

def Errno.code : Errno → Nat
  | .badf => 8
  | .fault => 21
  | .inval => 28
  | .nameTooLong => 37
  | .nosys => 52
  | .notdir => 54
  | .notsup => 58
  | .perm => 63

/-- A host function's work: it may stop with an error, keeping what it changed before. -/
abbrev HostM := ExceptT Errno (StateM Store)

namespace Store

def fits (s : Store) (addr n : Nat) : Bool := (s.memory.map fun m => m.fits addr n).getD false

def writeLE (s : Store) (addr n v : Nat) : Option Store :=
  if s.fits addr n then some (s.modifyMemory (·.store addr n v)) else none

def loadLE (s : Store) (addr n : Nat) : Nat := (s.memory.map fun m => m.load addr n).getD 0

def isOpen (s : Store) (fd : Nat) : Bool := s.host.open_.contains fd

end Store

namespace HostM

def check (ok : Bool) (e : Errno) : HostM Unit := if ok then pure () else throw e

def fits (addr n : Nat) : HostM Bool := do pure ((← get).fits addr n)

def requireOpen (fd : Nat) : HostM Unit := do check ((← get).isOpen fd) .badf

def load (addr n : Nat) : HostM Nat := do pure ((← get).loadLE addr n)

def writeLE (addr n v : Nat) : HostM Unit := do
  match (← get).writeLE addr n v with
  | some s => set s
  | none => throw .fault

def readBytes (addr n : Nat) : HostM Bytes := do
  match (← get).memory.bind fun m => m.read addr n with
  | some bs => pure bs
  | none => throw .fault

def writeBytes (addr : Nat) (bs : Bytes) : HostM Unit := do
  let s ← get
  match s.memory.bind fun m => m.write addr bs with
  | some m => set { s with memory := some m }
  | none => throw .fault

def zero (addr n : Nat) : HostM Unit := modify fun s => s.modifyMemory (·.fill addr n 0)

def modifyHost (f : HostState → HostState) : HostM Unit :=
  modify fun s => { s with host := f s.host }

/-- Nanoseconds since 1970, one millisecond later each reading. -/
def readWall : HostM Nat := do
  let h := (← get).host
  modifyHost fun h => { h with wallReadings := h.wallReadings + 1 }
  pure (wallEpoch + h.wallReadings * 1000000)

/-- Nanoseconds since the start, one millisecond later each reading. -/
def readMonotonic : HostM Nat := do
  let h := (← get).host
  modifyHost fun h => { h with monoReadings := h.monoReadings + 1 }
  pure (h.monoReadings * 1000000)

/-- A host function's error number, 0 when it finished. -/
def answer (m : HostM Unit) (s : Store) : HostResult :=
  match (m.run).run s with
  | (.ok (), s) => .ok [.i32 0] s
  | (.error e, s) => .ok [.i32 (UInt32.ofNat e.code)] s

end HostM

open HostM

def streamFiletype : Nat := 1

def fileRights : Nat := 0x08E001FF

def negative32 (w : Nat) : Bool := w ≥ Nat.pow 2 31

/-- Writes the counts of an empty list of strings. -/
def writeSizes (countPtr sizePtr : Nat) : HostM Unit := do
  writeLE countPtr 4 0
  writeLE sizePtr 4 0

/-- Writes an empty list of strings: both pointers must lie inside memory. -/
def writeStrings (ptrs buf : Nat) : HostM Unit := do
  check ((← fits ptrs 0) && (← fits buf 0)) .fault

/-- The `count` pointer and length pairs at `iovs`, or `EFAULT`. -/
def ioVector (iovs count : Nat) : HostM (List (Nat × Nat)) := do
  let stop := count * 8 % Nat.pow 2 32
  check (← fits iovs stop) .fault
  let s ← get
  pure ((List.range (stop / 8)).map fun i => (s.loadLE (iovs + 8 * i) 4, s.loadLE (iovs + 8 * i + 4) 4))

/-- Writes buffers to a stream that takes all or nothing: the total, `EFAULT` at a buffer
outside memory, or `EBADF` at the first refused. -/
def writeVector (iovs count : Nat) (accepts : Bool) : HostM Nat := do
  let bufs ← ioVector iovs count
  let s ← get
  let rec go : List (Nat × Nat) → Nat → Except Errno Nat
    | [], total => .ok total
    | (ptr, len) :: rest, total =>
      if !s.fits ptr len then .error .fault
      else if !accepts then .error .badf
      else go rest ((total + len) % Nat.pow 2 32)
  match go bufs 0 with
  | .ok n => pure n
  | .error e => throw e

/-- Reads from a stream at its end (`atEnd`) or unreadable: empty buffers are passed over, one
outside memory is `EFAULT`, the first other ends the read or is `EBADF`. -/
def readVector (iovs count : Nat) (atEnd : Bool) : HostM Nat := do
  let bufs ← ioVector iovs count
  let s ← get
  let rec go : List (Nat × Nat) → Except Errno Nat
    | [] => .ok 0
    | (ptr, len) :: rest =>
      if len == 0 then go rest
      else if !s.fits ptr len then .error .fault
      else if atEnd then .ok 0
      else .error .badf
  match go bufs with
  | .ok n => pure n
  | .error e => throw e

/-- `fd_write` and `fd_pwrite`: standard output and error take a write, none at an offset. -/
def fdWrite (fd iovs count result : Nat) (atOffset : Bool) : HostM Unit := do
  requireOpen fd
  let n ← writeVector iovs count (fd != 0 && !atOffset)
  writeLE result 4 n

/-- `fd_read` and `fd_pread`: standard input is at its end; nothing else is readable. -/
def fdRead (fd iovs count result : Nat) (atOffset : Bool) : HostM Unit := do
  requireOpen fd
  let n ← readVector iovs count (fd == 0 && !atOffset)
  writeLE result 4 n

def readClock (id : Nat) : HostM Nat :=
  if id == 0 then readWall
  else if id == 1 then readMonotonic
  else throw .inval

/-- Checks new file times' flags, reading the wall clock if either is now; a time both given
and now is `EINVAL`. -/
def checkTimes (flags : Nat) : HostM Unit := do
  let bit := fun (k : Nat) => flags % 65536 / k % 2 == 1
  check (!(bit 1 && bit 2)) .inval
  let now ← if bit 2 then some <$> readWall else pure none
  check (!(bit 4 && bit 8)) .inval
  if bit 8 && now.isNone then
    let _ ← readWall

/-- A stream's status: file type, no flags, the file rights, no inherited rights. -/
def fdstatGet (fd buf : Nat) : HostM Unit := do
  check (← fits buf 24) .fault
  requireOpen fd
  writeLE buf 2 streamFiletype
  writeLE (buf + 2) 2 0
  writeLE (buf + 4) 4 0
  writeLE (buf + 8) 8 fileRights
  writeLE (buf + 16) 8 0

/-- A stream's file status: all zero but its type and one link. -/
def filestatGet (fd buf : Nat) : HostM Unit := do
  check (← fits buf 64) .fault
  requireOpen fd
  writeLE buf 16 0
  writeLE (buf + 16) 8 streamFiletype
  writeLE (buf + 24) 8 1
  writeLE (buf + 32) 32 0

def pathElements (p : Bytes) : List Bytes :=
  p.foldr (fun b acc => if b == 0x2F then [] :: acc else
    match acc with
    | e :: rest => (b :: e) :: rest
    | [] => [[b]]) [[]]

/-- A path's elements made clean: no empty or `.`; `..` takes away the one before, or stays
at the start of a relative path. -/
def cleanElements (rooted : Bool) (elems : List Bytes) : List Bytes :=
  let dot : Bytes := [0x2E]
  let up : Bytes := [0x2E, 0x2E]
  (elems.foldl (fun acc e =>
    if e.isEmpty || e == dot then acc
    else if e == up then
      match acc with
      | last :: rest => if last == up then e :: acc else rest
      | [] => if rooted then [] else [e]
    else e :: acc) []).reverse

/-- Whether a clean path is relative, does not climb out, and is valid UTF-8. -/
def pathAllowed (p : Bytes) : Bool :=
  let rooted := p.head? == some 0x2F
  let elems := cleanElements rooted (pathElements p)
  !rooted && !elems.contains [0x2E, 0x2E] && elems.all fun e => (Bytes.utf8? e).isSome

/-- Resolves a path against `fd`: readable, allowed, `fd` open; no directory is open, so the
call ends there. -/
def atDirectory (fd path len : Nat) : HostM Unit := do
  let p ← readBytes path len
  check (pathAllowed p) .perm
  requireOpen fd
  throw .notdir

def writeEvent (at_ userdata errno type : Nat) : HostM Unit := do
  writeLE at_ 8 userdata
  writeLE (at_ + 8) 2 errno
  writeLE (at_ + 10) 4 type

/-- `poll_oneoff`: the output is zeroed and the count set first. A relative clock fires at
once, a read waits for standard input (always ready), a write is unsupported; events in
order, those that waited last. -/
def pollOneoff (inp out n result : Nat) : HostM Unit := do
  check (n != 0) .inval
  check (← fits inp (n * 48 % Nat.pow 2 32)) .fault
  let outSize := n * 32 % Nat.pow 2 32
  check (← fits out outSize) .fault
  zero out outSize
  writeLE result 4 n
  let mut written := 0
  let mut waiting : List Nat := []
  for i in List.range n do
    let at_ := inp + 48 * i
    let userdata ← load at_ 8
    let type ← load (at_ + 8) 1
    if type == 0 then
      let flags ← load (at_ + 40) 2
      check (flags != 1) .notsup
      check (flags == 0) .inval
      writeEvent (out + 32 * written) userdata 0 type
      written := written + 1
    else if type == 1 || type == 2 then
      let fd ← load (at_ + 16) 4
      check (!negative32 fd) .badf
      let isOpen := (← get).isOpen fd
      if type == 1 && isOpen then waiting := userdata :: waiting
      else
        writeEvent (out + 32 * written) userdata (if isOpen then Errno.notsup.code else Errno.badf.code) type
        written := written + 1
    else throw .inval
  if !waiting.isEmpty then
    requireOpen 0
    for userdata in waiting.reverse do
      writeEvent (out + 32 * written) userdata 0 1
      written := written + 1

def randomGet (buf len : Nat) : HostM Unit := do
  check (← fits buf len) .fault
  let (bytes, g) := (← get).host.entropy.take len
  writeBytes buf bytes
  modifyHost fun h => { h with entropy := g }

/-- A host function that answers with an error number, by name. -/
def hostWork (name : String) (arg : Nat → Nat) : HostM Unit :=
  match name with
  | "args_sizes_get" | "environ_sizes_get" => writeSizes (arg 0) (arg 1)
  | "args_get" | "environ_get" => writeStrings (arg 0) (arg 1)
  | "clock_res_get" => do
    check (arg 0 < 2) .inval
    writeLE (arg 1) 8 (if arg 0 == 0 then 1000 else 1)
  | "clock_time_get" => do
    let t ← readClock (arg 0)
    writeLE (arg 2) 8 t
  | "fd_advise" => do
    requireOpen (arg 0)
    check (arg 3 % 256 ≤ 5) .inval
  | "fd_allocate" => do
    requireOpen (arg 0)
    let tail := (arg 1 + arg 2) % Nat.pow 2 64
    check (tail < Nat.pow 2 63) .inval
    check (tail == 0) .nosys
  | "fd_close" => do
    requireOpen (arg 0)
    modifyHost fun h => { h with open_ := h.open_.erase (arg 0) }
  | "fd_datasync" | "fd_sync" => requireOpen (arg 0)
  | "fd_fdstat_get" => fdstatGet (arg 0) (arg 1)
  | "fd_fdstat_set_flags" => do
    check (arg 1 % 65536 &&& 0x1A == 0) .inval
    requireOpen (arg 0)
    throw .nosys
  | "fd_fdstat_set_rights" | "proc_raise" => throw .nosys
  | "fd_filestat_get" => filestatGet (arg 0) (arg 1)
  | "fd_filestat_set_size" | "fd_seek" | "fd_tell" => do
    requireOpen (arg 0)
    throw .nosys
  | "fd_filestat_set_times" => do
    requireOpen (arg 0)
    checkTimes (arg 3)
    throw .nosys
  | "fd_pread" => fdRead (arg 0) (arg 1) (arg 2) (arg 4) true
  | "fd_prestat_get" => do
    requireOpen (arg 0)
    writeLE (arg 1) 8 0
  | "fd_prestat_dir_name" => do
    requireOpen (arg 0)
    check (arg 2 == 0) .nameTooLong
    check (← fits (arg 1) 0) .fault
  | "fd_pwrite" => fdWrite (arg 0) (arg 1) (arg 2) (arg 4) true
  | "fd_read" => fdRead (arg 0) (arg 1) (arg 2) (arg 3) false
  | "fd_readdir" => do
    check (arg 2 ≥ 24) .inval
    requireOpen (arg 0)
    throw .badf
  | "fd_renumber" => do
    check ((← get).isOpen (arg 0) && !negative32 (arg 1)) .badf
    throw .notsup
  | "fd_write" => fdWrite (arg 0) (arg 1) (arg 2) (arg 3) false
  | "path_create_directory" | "path_remove_directory" | "path_unlink_file" =>
    atDirectory (arg 0) (arg 1) (arg 2)
  | "path_filestat_get" | "path_link" | "path_open" => atDirectory (arg 0) (arg 2) (arg 3)
  | "path_filestat_set_times" => do
    checkTimes (arg 6)
    atDirectory (arg 0) (arg 2) (arg 3)
  | "path_readlink" => do
    check (arg 2 != 0 && arg 4 != 0) .inval
    atDirectory (arg 0) (arg 1) (arg 2)
  | "path_rename" => atDirectory (arg 0) (arg 1) (arg 2)
  | "path_symlink" => do
    requireOpen (arg 2)
    throw .notdir
  | "poll_oneoff" => pollOneoff (arg 0) (arg 1) (arg 2) (arg 3)
  | "random_get" => randomGet (arg 0) (arg 1)
  | "sched_yield" => pure ()
  | "sock_send" => do
    check (arg 3 == 0) .notsup
    throw .badf
  | "sock_accept" | "sock_recv" | "sock_shutdown" => throw .badf
  | _ => throw .nosys

/-- Calls a host function; `proc_exit` ends the call and the instance. -/
def callHost (name : String) (args : List Value) (s : Store) : HostResult :=
  let arg := fun (i : Nat) => ((args.map fun v => v.word.toNat).getD i 0)
  if name == "proc_exit" then .exit (arg 0) { s with host := { s.host with exited := some (arg 0) } }
  else answer (hostWork name arg) s

end Wasm

end InferenceBroker
