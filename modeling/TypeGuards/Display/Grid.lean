import TypeGuards.Display.Wrap
/-!
Cells in columns. A grid that is too wide is narrowed: first the widest columns whose lines may be
broken, then all of them.
-/
namespace TypeGuards.Display

open Text

structure Column where
  alignment : Alignment := .left
  isBroken : Bool := true
  before : Nat := 0
  after : Nat := 0
deriving Repr, Inhabited

namespace Column

def padding (c : Column) : Nat := c.before + c.after

def setup (c : Column) : Setup :=
  { alignment := c.alignment, overflow := .ellipsis, isBroken := c.isBroken }

/-- The columns that the longest line of a cell takes, its padding included, up to a bound. -/
def cellWidth (c : Column) (bound : Nat) (cell : List Char) : Nat :=
  if bound ≤ c.padding then bound
  else
    let lines := partsBetween '\n' cell
    min bound ((lines.map columns).foldl max 0 + c.padding)

def width (c : Column) (bound : Nat) (cells : List (List Char)) : Nat :=
  (cells.map (c.cellWidth bound)).foldl max 0

def lines (c : Column) (width : Nat) (cell : List Char) : List (List Char) :=
  (wrap (width - c.padding) c.setup cell).map fun line =>
    fit width (spaces c.before ++ line ++ spaces c.after)

end Column

def total (ns : List Nat) : Nat := ns.foldr (· + ·) 0

/-- A quotient rounded to the nearest number, to the even one of two. -/
def roundedQuotient (n d : Nat) : Nat :=
  let q := n / d
  let r := n % d
  if 2 * r < d then q else if d < 2 * r then q + 1 else if q % 2 = 0 then q else q + 1

/-- Takes an amount off values in proportion to shares; no value loses more than its limit. -/
def reduce (amount shares : Nat) : List (Nat × Nat × Nat) → List Nat
  | [] => []
  | (share, limit, value) :: rest =>
      if share = 0 || shares = 0 then value :: reduce amount shares rest
      else
        let part := min limit (roundedQuotient (share * amount) shares)
        (value - part) :: reduce (amount - part) (shares - share) rest

/-- Takes an amount off values; those with a limit of zero keep theirs. -/
def reduceAll (amount : Nat) (parts : List (Nat × Nat × Nat)) : List Nat :=
  let parts := parts.map fun (share, limit, value) => (if limit = 0 then 0 else share, limit, value)
  reduce amount (total (parts.map (·.1))) parts

/-- Narrows the widest of the columns that may be narrowed, to the width of the next, until the
widths fit. -/
def collapse (bound : Nat) (fuel : Nat) (widths : List (Nat × Bool)) : List (Nat × Bool) :=
  match fuel with
  | 0 => widths
  | fuel + 1 =>
      let excess := total (widths.map (·.1)) - bound
      let breakable := (widths.filter (·.2)).map (·.1)
      let widest := breakable.foldl max 0
      let second := (breakable.filter (· ≠ widest)).foldl max 0
      let limit := min excess (widest - second)
      if limit = 0 then widths
      else
        let parts := widths.map fun (w, isBreakable) =>
          (if isBreakable && w = widest then 1 else 0, limit, w)
        collapse bound fuel ((reduceAll excess parts).zip (widths.map (·.2)))

/-- The widths of columns with their cells, no wider than a bound in all. -/
def columnWidths (bound : Nat) (columns : List (Column × List (List Char))) : List Nat :=
  let widths := columns.map fun (c, cells) => max 1 (c.width bound cells)
  if total widths ≤ bound then widths
  else
    let narrowed := (collapse bound (total widths + 1) (widths.zip (columns.map (·.1.isBroken)))).map (·.1)
    let narrowed :=
      if total narrowed ≤ bound then narrowed
      else reduceAll (total narrowed - bound) (narrowed.map fun w => (1, w, w))
    (narrowed.zip columns).map fun (w, c, cells) => if w = 0 then 0 else c.width w cells

/-- The lines of a row: cells side by side, between edges, filled up to the height of the highest. -/
def rowLines (left divider right : List Char) (cells : List (Nat × Column × List Char)) :
    List (List Char) :=
  let blocks := cells.map fun (w, c, cell) => (w, c.lines w cell)
  let height := (blocks.map (·.2.length)).foldl max 1
  (List.range height).map fun n =>
    let parts := blocks.map fun (w, lines) => lines.getD n (spaces w)
    left ++ divider.intercalate parts ++ right

end TypeGuards.Display
