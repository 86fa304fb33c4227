import InferenceBroker.Bench.Document

/-!
# Scrubbing the output of command runs

Outputs hold values that change between runs; the report fixes them and orders lines left
to chance: (1) leading timestamps are removed; (2) `took <duration>` becomes
`took <elapsed>`; (3) a benchmark line becomes `NAME <measured>`; (4) `127.0.0.1:N` becomes
`127.0.0.1:<port>` and a number of twelve or more digits `<id>`; (5) the JSON timing members
read 0; (6) blocks of `seq=N ` lines are sorted by N; (7) an engine table's columns are
joined with ` | `, its last four dropped; (8) CSV rows after the header are sorted, measured
figures `<measured>`. Bytes are scrubbed as one character each, so non-UTF-8 survives.
-/

namespace InferenceBroker

namespace Bench

namespace Scrub

def ofBytes (bs : Bytes) : String := String.ofList (bs.map fun b => Char.ofNat b.toNat)

def toBytes (s : String) : Bytes := s.toList.map fun c => UInt8.ofNat c.toNat

/-- Whether characters follow a pattern, `#` standing for a digit. -/
def fits (pattern : String) (cs : List Char) : Bool :=
  pattern.length ≤ cs.length &&
    (pattern.toList.zip cs).all fun (p, c) => if p == '#' then c.isDigit else p == c

def dropStamp (line : String) : String :=
  let cs := line.toList
  if fits "####/##/## ##:##:## " cs then String.ofList (cs.drop 20)
  else if fits "####-##-## ##:##:##.###### " cs then String.ofList (cs.drop 27)
  else line

def durationChar (c : Char) : Bool :=
  c.isDigit || c == '.' || c.isLower || c == Char.ofNat 0xC2 || c == Char.ofNat 0xB5

def elapsed : Nat → List Char → List Char
  | 0, cs => cs
  | _ + 1, [] => []
  | fuel + 1, cs@(c :: rest) =>
    if fits "took #" cs then
      let after := (cs.drop 5).dropWhile durationChar
      "took <elapsed>".toList ++ elapsed fuel after
    else c :: elapsed fuel rest

def tookLine (line : String) : String :=
  if line.startsWith "took " then "took <elapsed>"
  else String.ofList (elapsed (line.length + 1) line.toList)

def benchLine (line : String) : String :=
  let cs := line.toList
  let name := cs.takeWhile (· != ' ')
  let rest := (cs.drop name.length).dropWhile (· == ' ')
  let digits := rest.takeWhile Char.isDigit
  let tail := String.ofList (rest.drop digits.length)
  let parts := tail.splitOn ")\t"
  let fitsTail := tail.startsWith "ns/op (" && parts.length == 2 &&
    (match parts.getLast? with
     | some last =>
       let ds := last.toList.takeWhile Char.isDigit
       !ds.isEmpty && String.ofList (last.toList.drop ds.length) == " ops/sec"
     | none => false)
  if !name.isEmpty && rest.length < cs.length - name.length && !digits.isEmpty && fitsTail then
    String.ofList name ++ " <measured>"
  else line

def ids : Nat → List Char → List Char
  | 0, cs => cs
  | _ + 1, [] => []
  | fuel + 1, cs@(c :: rest) =>
    if c.isDigit then
      let run := cs.takeWhile Char.isDigit
      (if run.length ≥ 12 then "<id>".toList else run) ++ ids fuel (cs.drop run.length)
    else c :: ids fuel rest

def timing (line : String) : String :=
  ["meanWait", "meanProcess", "p99Process", "uptime"].foldl (fun line key =>
    let mark := "\"" ++ key ++ "\": "
    match line.splitOn mark with
    | [_] | [] => line
    | first :: rest =>
      first ++ String.join (rest.map fun piece =>
        let ds := piece.toList.takeWhile fun c => c.isDigit || c == '-'
        if ds.isEmpty then mark ++ piece else mark ++ "0" ++ String.ofList (piece.toList.drop ds.length))) line

def line (s : String) : String :=
  let s := benchLine (tookLine (dropStamp s))
  timing (String.ofList (ids (s.length + 1) (maskPorts s).toList))

def seqOf (s : String) : Option Nat :=
  if s.startsWith "seq=" then
    let ds := (s.toList.drop 4).takeWhile Char.isDigit
    if !ds.isEmpty && (s.toList.drop (4 + ds.length)).head? == some ' ' then
      some (ds.foldl (fun n c => 10 * n + (c.toNat - 48)) 0)
    else none
  else none

def sortSeqs (lines : List String) : List String :=
  let flush := fun (done : List String) (block : List (Nat × String)) =>
    done ++ (block.mergeSort fun a b => a.1 ≤ b.1).map (·.2)
  let (done, block) := lines.foldl (fun (done, block) s =>
    match seqOf s with
    | some n => (done, block ++ [(n, s)])
    | none => (flush done block ++ [s], [])) ([], [])
  flush done block

/-- A table line's columns: runs of two or more blanks separate them. -/
def columns (s : String) : List String :=
  let step := fun (st : List String × List Char × Nat) (c : Char) =>
    let (done, cur, blanks) := st
    if c == ' ' then (done, cur, blanks + 1)
    else if blanks ≥ 2 then (done ++ [String.ofList cur], [c], 0)
    else (done, cur ++ List.replicate blanks ' ' ++ [c], 0)
  let (done, cur, _) := s.toList.foldl step ([], [], 0)
  done ++ [String.ofList cur]

def tableLine (s : String) : String :=
  let s := (s.dropEndWhile (· == ' ')).toString
  let cs := columns s
  " | ".intercalate (cs.take (cs.length - 4))

def tables (lines : List String) : List String :=
  (lines.foldl (fun (out, inTable) s =>
    let inTable := inTable || s.startsWith "ENGINE "
    if inTable && s.isEmpty then (out ++ [s], false)
    else if inTable then (out ++ [tableLine s], true)
    else (out ++ [s], false)) ([], false)).1

def output (bs : Bytes) : Bytes :=
  let lines := (ofBytes bs).splitOn "\n"
  toBytes ("\n".intercalate (tables (sortSeqs (lines.map line))))

def csvRow (s : String) : String :=
  match s.splitOn "," with
  | name :: _ :: _ :: _ :: skipped :: rest => ",".intercalate (name :: "<measured>" :: skipped :: rest)
  | _ => s

def csv (bs : Bytes) : List String :=
  let lines := ((ofBytes bs).splitOn "\n").map line
  let lines := if lines.getLast? == some "" then lines.dropLast else lines
  match lines with
  | [] => []
  | header :: rows => header :: ((rows.map csvRow).mergeSort fun a b => a ≤ b)

def logLines (bs : Bytes) : List String :=
  let lines := (ofBytes bs).splitOn "\n"
  let lines := if lines.getLast? == some "" then lines.dropLast else lines
  lines.map line

end Scrub

def lineValue (s : String) : JsonValue := textValue (Scrub.toBytes s)

end Bench

end InferenceBroker
