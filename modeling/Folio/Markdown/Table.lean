import Folio.Markdown.Event
import Folio.Markdown.Marker

/-!
# Table rows

A table begins with a row of cells and a row of dashes that has as many columns.  A bar separates
two cells unless a backslash stands before it.

## Main definitions

* `delimiterRow?` — the alignments of the columns.
* `columnCount` — the number of columns of a head row.
* `splitCells` — the texts of the cells of a row.
-/

namespace Folio.Markdown

/-- What is known of a row of dashes so far. -/
structure DelimiterScan where
  /-- The alignments of the columns that are complete, last first. -/
  columns : List Alignment := []
  /-- The alignment of the column being read. -/
  active : Alignment := .none
  /-- Nothing of the column has been read. -/
  atStart : Bool := true
  /-- A bar has been read. -/
  bar : Bool := false
  /-- A dash has been read. -/
  dash : Bool := false
  /-- A dash has been read in this column. -/
  dashInColumn : Bool := false

/-- One more character of a row of dashes; none if it may not stand there. -/
def DelimiterScan.step (s : DelimiterScan) (c : Char) : Option DelimiterScan :=
  if c == ' ' then some s
  else if c == ':' then
    let active := match s.atStart, s.active with
      | true, .none => .left
      | false, .left => .center
      | false, .none => .right
      | _, a => a
    some { s with active, atStart := false }
  else if c == '-' then some { s with atStart := false, dash := true, dashInColumn := true }
  else if c == '|' then
    if s.dashInColumn then
      some {
        s with
        columns := s.active :: s.columns, active := .none, atStart := true, bar := true,
        dashInColumn := false }
    else none
  else none

/-- The alignments that a row of dashes gives the columns; none if the line is no such row. -/
def delimiterRow? (cur : Cursor) : Option (List Alignment) :=
  let (indent, next) := cur.spaces 4
  if indent == 4 || next.atEnd then none
  else
    let (bar, cs) := match next.rest with
      | '|' :: rest => (true, rest)
      | cs => (false, cs)
    match cs.foldlM DelimiterScan.step { bar } with
    | none => none
    | some s =>
      let columns := if s.atStart then s.columns else s.active :: s.columns
      if s.bar && s.dash then some columns.reverse else none

/-- The number of bars that separate cells, and the text behind the last of them. -/
def countBars : List Char → Nat × Option (List Char)
  | [] => (0, none)
  | '\\' :: c :: cs =>
    if isAsciiPunctuation c then countBars cs else countBars (c :: cs)
  | c :: cs =>
    if c == '|' then (fun (n, t) => (n + 1, t.or (some cs))) (countBars cs) else countBars cs

/-- The number of columns of a head row: bars at the ends of the row separate nothing. -/
def columnCount (cs : List Char) : Option Nat :=
  match countBars cs with
  | (_, none) => none
  | (bars, some tail) =>
    let inner := if (cs.dropWhile isLineSpace).head? == some '|' then bars - 1 else bars
    some (if isBlankLine tail then inner else inner + 1)

/-- The texts between the bars of a row: the first one, and the others. -/
def splitBars : List Char → List Char × List (List Char)
  | [] => ([], [])
  | '\\' :: '|' :: cs =>
    let (cell, cells) := splitBars cs
    ('\\' :: '|' :: cell, cells)
  | c :: cs =>
    let (cell, cells) := splitBars cs
    if c == '|' then ([], cell :: cells) else (c :: cell, cells)

/-- The texts of the cells of a row.  A bar at either end of the row encloses no cell. -/
def splitCells (cs : List Char) : List (List Char) :=
  let cs := cs.dropWhile isLineSpace
  let cs := match cs with
    | '|' :: rest => rest
    | _ => cs
  let (cell, cells) := splitBars cs
  let all := cell :: cells
  let all := if (all.getLast?.map isBlankLine).getD false then all.dropLast else all
  all.map fun cell => cell.dropWhile isLineSpace

/-- The cells of a row, as many as there are columns. -/
def rowCells (columns : Nat) (cs : List Char) : List (List Char) :=
  let cells := (splitCells cs).take columns
  cells ++ List.replicate (columns - cells.length) []

end Folio.Markdown
