import TypeGuards.Text.WidthTable
/-!
The columns that texts take on a terminal.
-/
namespace TypeGuards.Text

def isWithin (ranges : Array (Nat × Nat)) (n : Nat) : Bool := ranges.any fun r => r.1 ≤ n && n ≤ r.2

def charColumns (c : Char) : Nat :=
  let n := c.toNat
  if 0x20 ≤ n && n < 0x7f then 1
  else if isWithin zeroWidthRanges n then 0
  else if isWithin doubleWidthRanges n then 2
  else 1

def columns (text : List Char) : Nat := text.foldr (fun c n => charColumns c + n) 0

/-- The beginning of a text that takes no more than a number of columns. -/
def takeColumns (count : Nat) : List Char → List Char
  | [] => []
  | c :: rest => if charColumns c ≤ count then c :: takeColumns (count - charColumns c) rest else []

def spaces (n : Nat) : List Char := List.replicate n ' '

/-- Cuts a text to a number of columns, or fills it up with spaces. -/
def fit (count : Nat) (text : List Char) : List Char :=
  let taken := takeColumns count text
  taken ++ spaces (count - columns taken)

/-- A text in pieces of no more than a number of columns, which is not zero. -/
def chop (count : Nat) (piece : List Char) (taken : Nat) : List Char → List (List Char)
  | [] => if piece = [] then [] else [piece.reverse]
  | c :: rest =>
      if taken + charColumns c ≤ count || piece = [] then chop count (c :: piece) (taken + charColumns c) rest
      else piece.reverse :: chop count [c] (charColumns c) rest

end TypeGuards.Text
