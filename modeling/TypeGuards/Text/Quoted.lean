import TypeGuards.Encoding.Error
import TypeGuards.Text.HiddenTable
/-!
Texts in quotes on one line: hidden characters are given by their numbers. The quotes are single
unless the text holds a single one and no double one.
-/
namespace TypeGuards.Text

def isHidden (c : Char) : Bool :=
  let n := c.toNat
  if 0x20 ≤ n && n < 0x7f then false else hiddenRanges.any fun r => r.1 ≤ n && n ≤ r.2

def quoteFor (text : List Char) : Char :=
  if text.contains '\'' && !text.contains '"' then '"' else '\''

/-- A character as written between quotes, if it does not stand for itself for another reason. -/
def escapeIn (quote : Char) (isHidden : Char → Bool) (c : Char) : List Char :=
  if c = quote || c = '\\' then ['\\', c]
  else if c = '\t' then ['\\', 't']
  else if c = '\n' then ['\\', 'n']
  else if c = '\r' then ['\\', 'r']
  else if isHidden c then (Encoding.escapedChar c).toList
  else [c]

def quoted (text : List Char) : List Char :=
  let quote := quoteFor text
  [quote] ++ text.flatMap (escapeIn quote isHidden) ++ [quote]

/-- Bytes as a text of ASCII characters, marked by `b` in front. -/
def quotedBytes (bytes : List UInt8) : List Char :=
  let chars := bytes.map fun b => Char.ofNat b.toNat
  let quote := quoteFor chars
  let isOutside (c : Char) : Bool := c.toNat < 0x20 || 0x7f ≤ c.toNat
  ['b', quote] ++ chars.flatMap (escapeIn quote isOutside) ++ [quote]

end TypeGuards.Text
