import InferenceBroker.Core.Failure
import InferenceBroker.Core.Bytes

/-!
# The working directory

The files a broker can read by relative path; a directory exists when a file lies below it.
Reading resolves `.` and `..` and fails as the file system does.
-/

namespace InferenceBroker

structure Directory where
  files : List (String × Bytes) := []
  deriving Inhabited

namespace Directory

/-- The names of a path, `.` and `..` resolved; `none` when the path is absolute. -/
def resolve (path : String) : Option (List String) :=
  if path.startsWith "/" then none
  else some ((path.splitOn "/").foldl (fun acc n =>
    if n == "" || n == "." then acc
    else if n == ".." then acc.dropLast
    else acc ++ [n]) [])

def joinNames (names : List String) : String := "/".intercalate names

/-- The root, or a prefix of a file's path. -/
def isDirectory (d : Directory) (names : List String) : Bool :=
  names.isEmpty || d.files.any fun entry =>
    match resolve entry.1 with
    | some ns => names.length < ns.length && ns.take names.length == names
    | none => false

def file? (d : Directory) (names : List String) : Option Bytes :=
  (d.files.find? fun entry => resolve entry.1 == some names).map (·.2)

def read (d : Directory) (path : String) : Except Failure Bytes :=
  match resolve path with
  | none => .error (.note s!"open {path}: no such file or directory")
  | some names =>
    match d.file? names with
    | some bs =>
      if path.endsWith "/" then .error (.note s!"open {path}: not a directory") else .ok bs
    | none =>
      if d.isDirectory names then .error (.note s!"read {path}: is a directory")
      else .error (.note s!"open {path}: no such file or directory")

/-- Writes a whole file, replacing one of the same path. -/
def write (d : Directory) (path : String) (bs : Bytes) : Directory :=
  { files := d.files.filter (fun entry => resolve entry.1 != resolve path) ++ [(path, bs)] }

/-- Creates or empties a file and writes it: its directory must exist and be one, and the
path must not be a directory. A path outside is written elsewhere. -/
def create (d : Directory) (path : String) (bs : Bytes) : Except Failure Directory :=
  match resolve path with
  | none => .ok d
  | some names =>
    let blocked := (List.range names.length).any fun k => k > 0 && (d.file? (names.take k)).isSome
    if blocked then .error (.note s!"open {path}: not a directory")
    else if d.isDirectory names then .error (.note s!"open {path}: is a directory")
    else if !d.isDirectory names.dropLast then .error (.note s!"open {path}: no such file or directory")
    else .ok (d.write path bs)

/-- Removes a path and all below it; a missing path is no failure, the root stays. -/
def remove (d : Directory) (path : String) : Directory :=
  match resolve path with
  | none | some [] => d
  | some names =>
    { files := d.files.filter fun entry =>
        match resolve entry.1 with
        | some ns => ns.take names.length != names
        | none => true }

end Directory

end InferenceBroker
