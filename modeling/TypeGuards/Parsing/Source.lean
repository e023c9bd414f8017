/-!
A text with the byte offset and the row of every position in it. A position counts characters; the
rows are counted by newlines, from zero.
-/
namespace TypeGuards.Parsing

structure Source where
  chars : Array Char
  offsets : Array Nat
  rows : Array Nat
deriving Inhabited

namespace Source

def ofString (text : String) : Source :=
  let (offsets, rows, offset, row) := text.foldl (fun (offsets, rows, offset, row) c =>
    ((offsets : Array Nat).push offset, (rows : Array Nat).push row, offset + c.utf8Size,
      if c = '\n' then row + 1 else row)) (#[], #[], 0, 0)
  { chars := text.toList.toArray, offsets := offsets.push offset, rows := rows.push row }

def size (s : Source) : Nat := s.chars.size

def char? (s : Source) (i : Nat) : Option Char := s.chars[i]?

def offset (s : Source) (i : Nat) : Nat := s.offsets.getD i (s.offsets.back?.getD 0)

def row (s : Source) (i : Nat) : Nat := s.rows.getD i (s.rows.back?.getD 0)

def bytesBetween (s : Source) (i j : Nat) : Nat := s.offset j - s.offset i

def rowsBetween (s : Source) (i j : Nat) : Nat := s.row j - s.row i

end Source

end TypeGuards.Parsing
