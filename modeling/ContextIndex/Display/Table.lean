import ContextIndex.Instant
import ContextIndex.Text.Line
import ContextIndex.Text.Width

/-!
# Tables

A table has a head and rows of cells, in a frame with round corners.  A cell may have several lines;
a row is as high as its highest cell and a column as wide as its widest line, counted in columns of
the terminal.  A line under the head separates it from the rows; a table without rows ends with that
line.
-/

namespace ContextIndex.Display

/-- A table: the cells of the head and of the rows. -/
structure Table where
  /-- The cells of the head. -/
  head : List String
  /-- The rows, each with as many cells as the head. -/
  rows : List (List String)

namespace Table

/-- A cell, as lines. -/
abbrev Cell := List (List Char)

/-- The lines of a cell. -/
def cellOf (s : String) : Cell :=
  Text.lines s.toList

/-- The columns that a cell takes. -/
def cellWidth (c : Cell) : Nat :=
  c.foldl (fun w l => max w (Text.columns l)) 0

/-- The widths of the columns of a table. -/
def widths (rows : List (List Cell)) : List Nat :=
  match rows with
  | [] => []
  | row :: rows =>
    rows.foldl (fun ws r => List.zipWith (fun w c => max w (cellWidth c)) ws r) (row.map cellWidth)

/-- A horizontal line: the left end, the piece between columns and the right end. -/
def rule (left middle right : Char) (ws : List Nat) : List Char :=
  left :: List.intercalate [middle] (ws.map fun w => List.replicate (w + 2) '─') ++ [right]

/-- Line `i` of a cell, filled up to the width of its column. -/
def cellLine (i : Nat) (w : Nat) (cell : Cell) : List Char :=
  let line := cell[i]?.getD []
  ' ' :: line ++ List.replicate (w - Text.columns line) ' ' ++ [' ']

/-- Line `i` of a row. -/
def rowLine (ws : List Nat) (row : List Cell) (i : Nat) : List Char :=
  '│' :: List.intercalate ['│'] (List.zipWith (cellLine i) ws row) ++ ['│']

/-- The lines of a row. -/
def rowLines (ws : List Nat) (row : List Cell) : List (List Char) :=
  let height := row.foldl (fun h c => max h c.length) 1
  (List.range height).map (rowLine ws row)

/-- The lines of a table. -/
def lines (t : Table) : List (List Char) :=
  let head := t.head.map cellOf
  let rows := t.rows.map fun r => r.map cellOf
  let ws := widths (head :: rows)
  rule '╭' '┬' '╮' ws :: rowLines ws head ++ rule '├' '┼' '┤' ws :: rows.flatMap (rowLines ws) ++
    (if rows.isEmpty then [] else [rule '╰' '┴' '╯' ws])

/-- A table as text. -/
def render (t : Table) : String :=
  String.ofList (Text.joinLines t.lines)

end Table

/-! ## The tables of the index -/

/-- Named values.  Without any there is no table. -/
def metricTable (rows : List (String × String)) : String :=
  if rows.isEmpty then ""
  else Table.render ⟨["Metric", "Value"], rows.map fun (label, value) => [label, value]⟩

/-- What a table shows of a repository. -/
structure RepoCells where
  /-- Owner and name. -/
  fullName : String
  /-- The main language. -/
  language : Option String
  /-- The revision of the last sync. -/
  lastRevision : Option String
  /-- When the last sync finished. -/
  lastSyncedAt : Option Instant

/-- The characters of a revision that a table shows. -/
def shortRevision (revision : String) : String :=
  String.ofList (revision.toList.take 10)

/-- Repositories. -/
def repoTable (rows : List RepoCells) : String :=
  Table.render ⟨["Repository", "Language", "Revision", "Last synced"],
    rows.map fun r =>
      [r.fullName, r.language.getD "-", (r.lastRevision.map shortRevision).getD "-",
        (r.lastSyncedAt.map Instant.minuteText).getD "never"]⟩

/-- What a table shows of a file. -/
structure FileCells where
  /-- Where the file is. -/
  path : String
  /-- Its language. -/
  language : String
  /-- The number of its lines. -/
  lines : Nat
  /-- Its token cost. -/
  tokens : Nat
  /-- The number of its symbols. -/
  symbols : Nat

/-- Files. -/
def fileTable (rows : List FileCells) : String :=
  Table.render ⟨["Path", "Language", "Lines", "Tokens", "Symbols"],
    rows.map fun r =>
      [r.path, r.language, toString r.lines, toString r.tokens, toString r.symbols]⟩

end ContextIndex.Display
