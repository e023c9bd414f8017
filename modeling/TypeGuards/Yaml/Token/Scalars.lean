import TypeGuards.Yaml.Error
import TypeGuards.Yaml.Token.Names
/-!
Scalars in their five styles. In all of them but the literal one a single line break stands for a
space, and a longer run of them for one break less.
-/
namespace TypeGuards.Yaml

/-- What a line break and the empty lines after it stand for. -/
def folded (lineBreak : Char) (empty : List Char) : List Char :=
  if lineBreak ≠ '\n' then lineBreak :: empty else if empty = [] then [' '] else empty

/-- The breaks of empty lines in a quoted scalar; no line may separate documents. -/
def quotedBreaks (fuel : Nat) (c : Cursor) (done : List Char) : Option (List Char × Cursor) :=
  match fuel with
  | 0 => none
  | fuel + 1 =>
      if c.isAtSeparator then none
      else
        let c := c.skipWhile isBlank
        match c.lineBreak? with
        | some (b, c) => quotedBreaks fuel c (done ++ [b])
        | none => some (done, c)

def simpleEscape? (c : Char) : Option Char :=
  match c with
  | '0' => some (Char.ofNat 0)
  | 'a' => some (Char.ofNat 0x07)
  | 'b' => some (Char.ofNat 0x08)
  | 't' | '\t' => some '\t'
  | 'n' => some '\n'
  | 'v' => some (Char.ofNat 0x0b)
  | 'f' => some (Char.ofNat 0x0c)
  | 'r' => some '\r'
  | 'e' => some (Char.ofNat 0x1b)
  | ' ' | '"' | '\\' | '/' => some c
  | 'N' => some (Char.ofNat 0x85)
  | '_' => some (Char.ofNat 0xa0)
  | 'L' => some (Char.ofNat 0x2028)
  | 'P' => some (Char.ofNat 0x2029)
  | _ => none

def escapeWidth? (c : Char) : Option Nat :=
  match c with
  | 'x' => some 2
  | 'u' => some 4
  | 'U' => some 8
  | _ => none

def character (n : Nat) : Except Error Char :=
  if n.isValidChar then .ok (Char.ofNat n)
  else if n < 0x110000 then .error .malformed
  else .error (.scalar (.character n))

def escape (c : Cursor) : Except Error (List Char × Cursor) := do
  let a ← orMalformed c.peek
  match simpleEscape? a, escapeWidth? a with
  | some x, _ => return ([x], c.advance)
  | none, some width =>
      let (n, c) ← orMalformed (hexDigits? width c.advance)
      return ([← character n], c)
  | none, none =>
      let (_, c) ← orMalformed c.lineBreak?
      orMalformed (quotedBreaks (c.rest.length + 1) c [])

/-- The rest of a quoted scalar; `done` holds the characters before, reversed. -/
def quotedFrom (isDouble : Bool) (fuel : Nat) (c : Cursor) (done : List Char) :
    Except Error (List Char × Cursor) :=
  match fuel with
  | 0 => .error .malformed
  | fuel + 1 => do
      let a ← orMalformed c.peek
      if a = (if isDouble then '"' else '\'') then
        if !isDouble && c.peekAt 1 = some '\'' then quotedFrom isDouble fuel (c.skip 2) (a :: done)
        else .ok (done.reverse, c.advance)
      else if isBlank a || isBreak a then
        let (blanks, c) := c.span isBlank
        match c.lineBreak? with
        | some (b, c) =>
            let (empty, c) ← orMalformed (quotedBreaks (c.rest.length + 1) c [])
            quotedFrom isDouble fuel c ((folded b empty).reverse ++ done)
        | none => quotedFrom isDouble fuel c (blanks.reverse ++ done)
      else if isDouble && a = '\\' then
        let (chars, c) ← escape c.advance
        quotedFrom isDouble fuel c (chars.reverse ++ done)
      else quotedFrom isDouble fuel c.advance (a :: done)

def quoted (isDouble : Bool) (c : Cursor) : Except Error (String × Cursor) := do
  let (chars, c) ← quotedFrom isDouble (c.rest.length + 1) c.advance []
  return (String.ofList chars, c)

/-- A character that ends a word of a plain scalar, given the one after it. -/
def endsPlain (inFlow : Bool) (c : Char) (next : Option Char) : Bool :=
  isGap (some c) ||
    (c = ':' && (isGap next || (inFlow && next.any (",[]\x7b\x7d".toList.contains ·)))) ||
    (inFlow && ",?[]\x7b\x7d".toList.contains c)

def plainWord (inFlow : Bool) : List Char → List Char
  | [] => []
  | c :: rest => if endsPlain inFlow c rest.head? then [] else c :: plainWord inFlow rest

/-- The breaks of empty lines in a plain scalar; `none` before a line that separates documents. -/
def plainBreaks (fuel : Nat) (c : Cursor) (done : List Char) : Option (List Char) × Cursor :=
  match fuel with
  | 0 => (none, c)
  | fuel + 1 =>
      if c.peek = some ' ' then plainBreaks fuel c.advance done
      else
        match c.lineBreak? with
        | some (b, next) =>
            if next.isAtSeparator then (none, next) else plainBreaks fuel next (done ++ [b])
        | none => (some done, c)

/-- What lies between two words of a plain scalar: what it stands for, and whether lines end in it. -/
def plainGap (c : Cursor) : List Char × Bool × Cursor :=
  let (blanks, c) := c.span (· = ' ')
  match c.lineBreak? with
  | some (b, c) =>
      if c.isAtSeparator then ([], true, c)
      else
        match plainBreaks (c.rest.length + 1) c [] with
        | (some empty, c) => (folded b empty, true, c)
        | (none, c) => ([], true, c)
  | none => (blanks, false, c)

/-- The words of a plain scalar and whether lines end after them. -/
def plainFrom (inFlow : Bool) (indent : Int) (fuel : Nat) (c : Cursor) (gap : List Char)
    (endsLines : Bool) (done : List Char) : List Char × Bool × Cursor :=
  match fuel with
  | 0 => (done, endsLines, c)
  | fuel + 1 =>
      let word := if c.peek = some '#' then [] else plainWord inFlow c.rest
      if word = [] then (done, endsLines, c)
      else
        let done := done ++ gap ++ word
        let (gap, endsLines, c) := plainGap (c.skip word.length)
        if gap = [] || c.peek = some '#' || (!inFlow && c.column < indent) then (done, endsLines, c)
        else plainFrom inFlow indent fuel c gap endsLines done

/-- A plain scalar inside a block of an indentation, and whether lines end after it. -/
def plain (inFlow : Bool) (indent : Int) (c : Cursor) : String × Bool × Cursor :=
  let (chars, endsLines, c) := plainFrom inFlow (indent + 1) (c.rest.length + 1) c [] false []
  (String.ofList chars, endsLines, c)

/-- What is done with the line breaks at the end of a block scalar. -/
inductive Chomping where
  | strip
  | clip
  | keep
deriving DecidableEq, Repr, Inhabited

def chomping? : Option Char → Option Chomping
  | some '+' => some .keep
  | some '-' => some .strip
  | _ => none

/-- The indentation that a digit other than zero states. -/
def increment? (c : Option Char) : Option Nat :=
  c.bind fun d => if d.isDigit then some (d.toNat - '0'.toNat) else none

/-- The marks after the start of a block scalar, in either order. -/
def blockMarks (c : Cursor) : Chomping × Option Nat × Cursor :=
  match chomping? c.peek, increment? c.peek with
  | some chomping, _ =>
      match increment? c.advance.peek with
      | some n => (chomping, some n, c.skip 2)
      | none => (chomping, none, c.advance)
  | none, some n =>
      match chomping? c.advance.peek with
      | some chomping => (chomping, some n, c.skip 2)
      | none => (.clip, some n, c.advance)
  | none, none => (.clip, none, c)

/-- The empty lines in front of a block scalar and the widest column that they or its first line
start at. -/
def blockIndentation (fuel : Nat) (c : Cursor) (breaks : List Char) (widest : Nat) :
    List Char × Nat × Cursor :=
  match fuel with
  | 0 => (breaks, widest, c)
  | fuel + 1 =>
      if c.peek = some ' ' then
        let c := c.advance
        blockIndentation fuel c breaks (max widest c.column)
      else
        match c.lineBreak? with
        | some (b, c) => blockIndentation fuel c (breaks ++ [b]) widest
        | none => (breaks, widest, c)

def skipIndentation (indent : Nat) (c : Cursor) : Cursor :=
  c.skip (min (indent - c.column) (c.rest.takeWhile (· = ' ')).length)

def blockBreaks (indent : Nat) (fuel : Nat) (c : Cursor) (breaks : List Char) : List Char × Cursor :=
  match fuel with
  | 0 => (breaks, c)
  | fuel + 1 =>
      let c := skipIndentation indent c
      match c.lineBreak? with
      | some (b, c) => blockBreaks indent fuel c (breaks ++ [b])
      | none => (breaks, c)

/-- The lines of a block scalar; `breaks` are those of the empty lines in front. -/
def blockLines (isFolded : Bool) (chomping : Chomping) (indent : Nat) (fuel : Nat) (c : Cursor)
    (lineBreak breaks done : List Char) : List Char × Cursor :=
  let stop :=
    match chomping with
    | .strip => done
    | .clip => done ++ lineBreak
    | .keep => done ++ lineBreak ++ breaks
  match fuel with
  | 0 => (stop, c)
  | fuel + 1 =>
      if c.column ≠ indent || c.peek = none then (stop, c)
      else
        let startsWithText := !c.peek.any isBlank
        let (line, c) := c.span (!isBreak ·)
        let done := done ++ breaks ++ line
        let (lineBreak, c) :=
          match c.lineBreak? with
          | some (b, c) => ([b], c)
          | none => ([], c)
        let (breaks, c) := blockBreaks indent (c.rest.length + 1) c []
        if c.column = indent && c.peek ≠ none then
          let isJoined := isFolded && lineBreak = ['\n'] && startsWithText && !c.peek.any isBlank
          let between := if isJoined then (if breaks = [] then [' '] else []) else lineBreak
          blockLines isFolded chomping indent fuel c [] breaks (done ++ between)
        else blockLines isFolded chomping indent fuel c lineBreak breaks done

def block? (isFolded : Bool) (outer : Int) (c : Cursor) : Option (String × Cursor) := do
  let (chomping, increment, c) := blockMarks c.advance
  if increment = some 0 || !endsWord c.peek then none
  else
    let c ← directiveEnd? c
    let least := (max (outer + 1) 1).toNat
    let (indent, breaks, c) :=
      match increment with
      | some n =>
          let indent := least + n - 1
          (indent, blockBreaks indent (c.rest.length + 1) c [])
      | none =>
          let (breaks, widest, c) := blockIndentation (c.rest.length + 1) c [] 0
          (max least widest, breaks, c)
    let (text, c) := blockLines isFolded chomping indent (c.rest.length + 1) c [] breaks []
    return (String.ofList text, c)

end TypeGuards.Yaml
