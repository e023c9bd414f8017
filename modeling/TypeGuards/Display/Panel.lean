import TypeGuards.Display.Grid
import TypeGuards.Failure
/-!
Failures as panels: the title in the upper edge, the headline, and below it what is known of the
failure, label by label.
-/
namespace TypeGuards.Display

open Text

def labelledLines (width : Nat) (rows : List (String × String)) : List (List Char) :=
  let labels : Column := { after := 2 }
  let values : Column := {}
  let cells := rows.map fun (label, value) => (label.toList, dropControls value.toList)
  match columnWidths width [(labels, cells.map (·.1)), (values, cells.map (·.2))] with
  | [a, b] => cells.flatMap fun (label, value) => rowLines [] [] [] [(a, labels, label), (b, values, value)]
  | _ => []

def titled (fill : Char) (width : Nat) (title : List Char) : List Char :=
  let title := shorten width .fold title
  let excess := width - columns title
  List.replicate (excess / 2) fill ++ title ++ List.replicate (excess - excess / 2) fill

/-- Lines in a frame that takes the whole width of the terminal. -/
def framed (width : Nat) (title : String) (lines : List (List Char)) : List String :=
  let inner := width - 2
  let top := "╭─".toList ++ titled '─' (inner - 2) ([' '] ++ title.toList ++ [' ']) ++ "─╮".toList
  let bottom := ['╰'] ++ List.replicate inner '─' ++ ['╯']
  let middle := lines.map fun line => "│ ".toList ++ fit (inner - 2) line ++ " │".toList
  ([top] ++ middle ++ [bottom]).map String.ofList

def panel (width : Nat) (f : Failure) (source : Option Path) : List String :=
  let rows := (source.map fun p => ("Source", p.toString)).toList ++ f.rows
  let headline := wrap (width - 4) {} (dropControls f.headline.toList)
  framed width ("❌ " ++ f.title) (headline ++ labelledLines (width - 4) rows)

end TypeGuards.Display
