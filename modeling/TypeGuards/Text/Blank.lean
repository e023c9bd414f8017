/-!
Classes of blank characters. They differ in which characters beyond the ASCII blanks they hold.
-/
namespace TypeGuards.Text

/-- The blanks of ASCII: tab, newline, vertical tab, form feed, carriage return and space. -/
def isAsciiBlank (c : Char) : Bool := (0x09 ≤ c.toNat && c.toNat ≤ 0x0d) || c = ' '

/-- The space separators of Unicode. -/
def isSpaceSeparator (c : Char) : Bool :=
  let n := c.toNat
  n = 0x20 || n = 0xa0 || n = 0x1680 || (0x2000 ≤ n && n ≤ 0x200a) || n = 0x202f || n = 0x205f ||
    n = 0x3000

/-- Blanks at which a line may be broken: no-break spaces are left out. -/
def isBreakingBlank (c : Char) : Bool :=
  let n := c.toNat
  isAsciiBlank c || n = 0x85 || n = 0x2028 || n = 0x2029 ||
    (isSpaceSeparator c && n ≠ 0xa0 && n ≠ 0x2007 && n ≠ 0x202f)

/-- The blanks that trimming takes off, the four information separators included. -/
def isTrimmed (c : Char) : Bool :=
  let n := c.toNat
  isAsciiBlank c || (0x1c ≤ n && n ≤ 0x1f) || n = 0x85 || isSpaceSeparator c || n = 0x2028 ||
    n = 0x2029

def trim (text : List Char) : List Char :=
  ((text.dropWhile isTrimmed).reverse.dropWhile isTrimmed).reverse

end TypeGuards.Text
