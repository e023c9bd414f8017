import TypeGuards.Display.Markup
import TypeGuards.Display.Panel
import TypeGuards.Run
/-!
The summary of a run in a terminal of some width: a table with a row for each source, and the panels of
the failures.
-/
namespace TypeGuards.Display

open Text

namespace Summary

def cellColumn : Column := { before := 1, after := 1 }

def layout : List (Column × String) :=
  [({ cellColumn with isBroken := false }, "Source"), (cellColumn, "Status"),
   ({ cellColumn with alignment := .right }, "Guards"), (cellColumn, "Output")]

def cells (o : Outcome) : List String :=
  [o.source.toString, if o.success then "[green]ok[/green]" else "[red]failed[/red]",
   toString o.interfaces.length, (o.output.map Path.toString).getD "-"]

def columns (rules : Markup.Rules) (outcomes : List Outcome) :
    Except MarkupError (List (List (List Char))) :=
  (List.range layout.length).mapM fun n =>
    (outcomes.map fun o => (cells o).getD n "").mapM fun cell => Markup.shown cell.toList rules

def rowsOf (count : Nat) (columns : List (List (List Char))) : List (List (List Char)) :=
  (List.range count).map fun n => columns.map (·.getD n [])

/-- An edge of the table: a line of one character between corners, with crossings at columns. -/
def edge (left line crossing right : Char) (widths : List Nat) : List Char :=
  [left] ++ [crossing].intercalate (widths.map fun w => List.replicate w line) ++ [right]

def title : String := "Guard Generation Summary"

def edgeCount : Nat := layout.length + 1

def widths (width : Nat) (rows : List (List (List Char))) : List Nat :=
  columnWidths (width - edgeCount) (layout.zipIdx.map fun ((c, heading), n) =>
    (c, heading.toList :: rows.map (·.getD n [])))

def row (left divider right : Char) (widths : List Nat) (cells : List (List Char)) :
    List (List Char) :=
  rowLines [left] [divider] [right] (widths.zip ((layout.map (·.1)).zip cells))

def head (widths : List Nat) : List (List Char) :=
  wrap (total widths + edgeCount) { alignment := .center } title.toList ++
    [edge '┏' '━' '┳' '┓' widths] ++ row '┃' '┃' '┃' widths (layout.map (·.2.toList)) ++
    [edge '┡' '━' '╇' '┩' widths]

def lines (width : Nat) (rows : List (List (List Char))) : List String :=
  let widths := widths width rows
  (head widths ++ rows.flatMap (row '│' '│' '│' widths) ++ [edge '└' '─' '┴' '┘' widths]).map
    String.ofList

def table (width : Nat) (rules : Markup.Rules) (outcomes : List Outcome) :
    Except MarkupError (List String) := do
  let columns ← columns rules outcomes
  return lines width (rowsOf outcomes.length columns)

def failurePanel (width : Nat) (o : Outcome) : List String :=
  match o.error with
  | some f => panel width f (some o.source)
  | none => []

end Summary

def summary (width : Nat) (outcomes : List Outcome) (rules : Markup.Rules := .plain) :
    Except MarkupError (List String) := do
  let table ← Summary.table width rules outcomes
  return table ++ outcomes.flatMap (Summary.failurePanel width)

end TypeGuards.Display
