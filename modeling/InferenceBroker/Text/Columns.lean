import InferenceBroker.Text.Quote

/-!
# Aligned columns

Lines hold tab-separated cells (a vertical tab ends a cell too); the text after a line's
last tab belongs to no column. A line ends at a line break or form feed. Sections end at a
line without a tab, a line a form feed ended, or the text's end. In a section a column is
aligned over each block of consecutive lines with a cell in it, as wide as its widest cell
plus the padding; the next column's blocks are found inside each block.
-/

namespace InferenceBroker

namespace Columns

/-- A line's cells, split at tabs and vertical tabs; `cur` holds the cell read so far, reversed. -/
def cellsOf : List Char → List Char → List String
  | [], cur => [String.ofList cur.reverse]
  | c :: rest, cur =>
    if c == '\t' || c == '\x0b' then String.ofList cur.reverse :: cellsOf rest []
    else cellsOf rest (c :: cur)

/-- The lines of a text, each with whether a form feed ended it. -/
def linesOf : List Char → List Char → List (List Char × Bool)
  | [], cur => [(cur.reverse, false)]
  | c :: rest, cur =>
    if c == '\n' then (cur.reverse, false) :: linesOf rest []
    else if c == '\x0c' then (cur.reverse, true) :: linesOf rest []
    else linesOf rest (c :: cur)

def padTo (n : Nat) (s : String) : String := s ++ String.ofList (List.replicate (n - s.length) ' ')

/-- Writes lines with the known column widths; a line after the text's last gets no break. -/
def writeLines (widths : List Nat) (ls : List (List String × Bool)) : String :=
  String.join (ls.map fun (cells, broken) =>
    String.join (cells.zipIdx.map fun (c, j) =>
      match widths[j]? with
      | some w => padTo w c
      | none => c) ++ (if broken then "\n" else ""))

def hasColumn (column : Nat) (line : List String × Bool) : Bool := column + 1 < line.1.length

/-- Lays out a section whose first `widths.length` columns have these widths, finding the next
column's blocks; `fuel` bounds the depth. -/
def format (padding : Nat) : Nat → List Nat → List (List String × Bool) → String
  | 0, widths, ls => writeLines widths ls
  | fuel + 1, widths, ls =>
    let column := widths.length
    let rec go : Nat → List (List String × Bool) → List (List String × Bool) → String
      | 0, pending, _ => writeLines widths pending.reverse
      | _ + 1, pending, [] => writeLines widths pending.reverse
      | k + 1, pending, l :: rest =>
        if !hasColumn column l then go k (l :: pending) rest
        else
          let block := (l :: rest).takeWhile (hasColumn column)
          let after := (l :: rest).drop block.length
          let width := block.foldl (fun w b => max w (((b.1[column]?).map String.length).getD 0 + padding)) 0
          writeLines widths pending.reverse ++ format padding fuel (widths ++ [width]) block ++
            go k [] after
    termination_by k => (fuel, 1, k)
    go (ls.length + 1) [] ls
termination_by depth => (depth, 0, depth)

/-- Cuts lines into sections at a line without a tab, a form feed, or the end. -/
def sections : List ((List String × Bool) × Bool) → List (List String × Bool) →
    List (List (List String × Bool))
  | [], [] => []
  | [], acc => [acc.reverse]
  | (l, feed) :: rest, acc =>
    if feed || l.1.length ≤ 1 then (l :: acc).reverse :: sections rest [] else sections rest (l :: acc)

def render (padding : Nat) (text : String) : String :=
  let ls := (linesOf text.toList []).map fun (cs, feed) => (cellsOf cs [], feed)
  let n := ls.length
  let marked := ls.zipIdx.map fun ((cells, feed), i) => ((cells, i + 1 < n), feed)
  let depth := (ls.map (·.1.length)).foldl max 0
  String.join ((sections marked []).map (format padding depth []))

/-- Lays out tab-separated lines in aligned columns, each ended by a line break. -/
def layout (padding : Nat) (rows : List String) : String :=
  render padding (String.join (rows.map (· ++ "\n")))

end Columns

end InferenceBroker
