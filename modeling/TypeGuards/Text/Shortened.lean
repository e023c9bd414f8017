import TypeGuards.Encoding.Utf8
/-!
Long texts with their middle left out. Lengths are counted in bytes of UTF-8; a character that would
be cut is left out too.
-/
namespace TypeGuards.Text

def width (c : Char) : Nat := (Encoding.Utf8.encodeChar c).length

/-- The longest beginning that takes no more than a number of bytes. -/
def within (bytes : Nat) : List Char → List Char
  | [] => []
  | c :: rest => if width c ≤ bytes then c :: within (bytes - width c) rest else []

def shortenedBound : Nat := 50

def totalWidth (text : List Char) : Nat := text.foldr (fun c n => width c + n) 0

def shortened (text : List Char) : List Char :=
  if totalWidth text ≤ shortenedBound then text
  else
    let ending := (within (shortenedBound / 2 - 1) text.reverse).reverse
    within (shortenedBound / 2) text ++ "...".toList ++ ending

end TypeGuards.Text
