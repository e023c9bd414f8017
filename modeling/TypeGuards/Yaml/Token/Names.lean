import TypeGuards.Encoding.Utf8
import TypeGuards.Yaml.Cursor
import TypeGuards.Yaml.Token
/-!
Directives, anchors and tags.
-/
namespace TypeGuards.Yaml

def isNameChar (c : Char) : Bool := c.isAlphanum || c = '-' || c = '_'

def isHexDigit (c : Char) : Bool := c.isDigit || ('a' ≤ c && c ≤ 'f') || ('A' ≤ c && c ≤ 'F')

def hexDigitValue (c : Char) : Nat :=
  if c.isDigit then c.toNat - '0'.toNat else c.toLower.toNat - 'a'.toNat + 10

def hexValue (digits : List Char) : Nat := digits.foldl (fun n c => n * 16 + hexDigitValue c) 0

def decimalValue (digits : List Char) : Nat :=
  digits.foldl (fun n c => n * 10 + (c.toNat - '0'.toNat)) 0

def hexDigits? (count : Nat) (c : Cursor) : Option (Nat × Cursor) :=
  let digits := c.rest.take count
  if digits.length = count && digits.all isHexDigit then some (hexValue digits, c.skip count) else none

def anchorName? (c : Cursor) : Option (String × Cursor) :=
  let (name, next) := c.advance.span isNameChar
  let mayFollow := isGap next.peek || next.peek.any ("?:,]\x7d%@\x60".toList.contains ·)
  if name ≠ [] && mayFollow then some (String.ofList name, next) else none

/-- A handle: a name between exclamation marks, or one mark. -/
def tagHandle? (c : Cursor) : Option (String × Cursor) :=
  if c.peek ≠ some '!' then none
  else
    let (name, next) := c.advance.span isNameChar
    if next.peek = some '!' then some (String.ofList (['!'] ++ name ++ ['!']), next.advance)
    else if name = [] && next.peek = some ' ' then some ("!", next)
    else none

def isTagChar (c : Char) : Bool := c.isAlphanum || "-;/?:@&=+$,_.!~*'()[]".toList.contains c

/-- Bytes given by percent signs and two digits each. -/
def percentBytes (fuel : Nat) (c : Cursor) : Option (List UInt8 × Cursor) :=
  match fuel with
  | 0 => none
  | fuel + 1 =>
      if c.peek = some '%' then do
        let (byte, c) ← hexDigits? 2 c.advance
        let (more, c) ← percentBytes fuel c
        return (byte.toUInt8 :: more, c)
      else some ([], c)

def tagTextFrom (fuel : Nat) (c : Cursor) : Option (List Char × Cursor) :=
  match fuel with
  | 0 => none
  | fuel + 1 => do
      let (chars, c) := c.span isTagChar
      if c.peek = some '%' then
        let (bytes, c) ← percentBytes (c.rest.length + 1) c
        let decoded ← (Encoding.Utf8.decode bytes).toOption
        let (more, c) ← tagTextFrom fuel c
        return (chars ++ decoded ++ more, c)
      else return (chars, c)

def tagText? (c : Cursor) : Option (String × Cursor) := do
  let (chars, next) ← tagTextFrom (c.rest.length + 1) c
  if next.index = c.index then none else return (String.ofList chars, next)

/-- Whether an exclamation mark comes before the next space. -/
def hasHandle : List Char → Bool
  | [] => false
  | c :: rest => if c = '!' then true else if endsWord (some c) then false else hasHandle rest

def tag? (c : Cursor) : Option (Token × Cursor) := do
  let next := c.advance
  let (token, rest) ←
    if next.peek = some '<' then do
      let (text, rest) ← tagText? next.advance
      if rest.peek = some '>' then some (Token.tag none text, rest.advance) else none
    else if isGap next.peek then some (Token.tag none "!", next)
    else if hasHandle next.rest then do
      let (handle, rest) ← tagHandle? c
      let (text, rest) ← tagText? rest
      some (Token.tag (some handle) text, rest)
    else do
      let (text, rest) ← tagText? next
      some (Token.tag (some "!") text, rest)
  if endsWord rest.peek then some (token, rest) else none

def number? (c : Cursor) : Option (Nat × Cursor) :=
  let (digits, next) := c.span Char.isDigit
  if digits = [] then none else some (decimalValue digits, next)

/-- The rest of the line of a directive: at most a comment. -/
def directiveEnd? (c : Cursor) : Option Cursor :=
  let c := c.skipSpaces.skipComment
  if endsLine c.peek then some ((c.lineBreak?.map (·.2)).getD c) else none

def directive? (c : Cursor) : Option (Token × Cursor) := do
  let (name, c) := c.advance.span isNameChar
  if name = [] || !endsWord c.peek then none
  else
    let (token, c) ←
      match String.ofList name with
      | "YAML" => do
          let (major, c) ← number? c.skipSpaces
          if c.peek ≠ some '.' then none
          else do
            let (_, c) ← number? c.advance
            if endsWord c.peek then some (Token.version major, c) else none
      | "TAG" => do
          let (handle, c) ← tagHandle? c.skipSpaces
          if c.peek ≠ some ' ' then none
          else do
            let (meaning, c) ← tagText? c.skipSpaces
            if endsWord c.peek then some (Token.tagShorthand handle meaning, c) else none
      | _ => some (Token.otherDirective, c.skipWhile (!isBreak ·))
    let c ← directiveEnd? c
    return (token, c)

end TypeGuards.Yaml
