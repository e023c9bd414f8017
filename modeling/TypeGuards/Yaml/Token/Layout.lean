import TypeGuards.Yaml.Token.Scalars
/-!
A text as tokens. Where lines start decides which blocks start and end; a key of a block mapping is
known for one only when its colon is reached, so each place where a key may have started is kept.
-/
namespace TypeGuards.Yaml

structure Candidate where
  tokens : Nat
  start : Cursor
  isRequired : Bool
deriving Repr, Inhabited

structure Layout where
  cursor : Cursor
  tokens : Array Token := #[]
  /-- The column of the block that is open, and those of the blocks around it. -/
  indent : Int := -1
  outerIndents : List Int := []
  /-- The candidate in the innermost brackets, and those outside of each pair of them. -/
  candidate : Option Candidate := none
  outerCandidates : List (Option Candidate) := []
  mayStartKey : Bool := true
deriving Repr, Inhabited

namespace Layout

def inFlow (s : Layout) : Bool := !s.outerCandidates.isEmpty

def push (t : Token) (s : Layout) : Layout := { s with tokens := s.tokens.push t }

def column (s : Layout) : Int := s.cursor.column

def longestKey : Nat := 1024

def isLive (s : Layout) (k : Candidate) : Bool :=
  k.start.line = s.cursor.line && s.cursor.index - k.start.index ≤ longestKey

/-- Drops candidates that came too long ago; none of them may be required. -/
def dropStale (s : Layout) : Option Layout :=
  let isLost (k : Candidate) : Bool := k.isRequired && !s.isLive k
  if (s.candidate :: s.outerCandidates).any (·.any isLost) then none
  else
    some { s with
      candidate := s.candidate.filter s.isLive
      outerCandidates := s.outerCandidates.map (·.filter s.isLive) }

/-- Gives up the candidate, which may not be required. -/
def dropCandidate (s : Layout) : Option Layout :=
  if s.candidate.any (·.isRequired) then none else some { s with candidate := none }

/-- Marks this place as one where a key may start, if one may. -/
def markCandidate (s : Layout) : Option Layout :=
  if s.mayStartKey then do
    let isRequired := !s.inFlow && s.indent = s.column
    let s ← s.dropCandidate
    return { s with candidate := some { tokens := s.tokens.size, start := s.cursor, isRequired } }
  else some s

/-- Ends the blocks that are indented deeper than a column. -/
def unwindFrom (column : Int) (tokens : Array Token) (indent : Int) :
    List Int → Array Token × Int × List Int
  | [] => (tokens, indent, [])
  | i :: outer =>
      if indent > column then unwindFrom column (tokens.push .blockEnd) i outer
      else (tokens, indent, i :: outer)

def unwind (column : Int) (s : Layout) : Layout :=
  if s.inFlow then s
  else
    let (tokens, indent, outerIndents) := unwindFrom column s.tokens s.indent s.outerIndents
    { s with tokens, indent, outerIndents }

/-- Starts a block at a column deeper than that of the block around it. -/
def indentTo (column : Int) (place : Nat) (t : Token) (s : Layout) : Layout :=
  if s.indent < column then
    { s with
      indent := column, outerIndents := s.indent :: s.outerIndents
      tokens := s.tokens.insertIdxIfInBounds place t }
  else s

/-- Past spaces, comments and line breaks; after a break outside of brackets a key may start. -/
def skipBlanks (fuel : Nat) (s : Layout) : Layout :=
  match fuel with
  | 0 => s
  | fuel + 1 =>
      let c := s.cursor.skipSpaces.skipComment
      match c.lineBreak? with
      | some (_, c) => skipBlanks fuel { s with cursor := c, mayStartKey := s.mayStartKey || !s.inFlow }
      | none => { s with cursor := c }

def skipMark (s : Layout) : Layout :=
  if s.cursor.index = 0 && s.cursor.peek = some mark then { s with cursor := s.cursor.advance } else s

def documentToken (t : Token) (s : Layout) : Option Layout := do
  let s ← (s.unwind (-1)).dropCandidate
  return { s.push t with mayStartKey := false, cursor := s.cursor.skip 3 }

def directive (s : Layout) : Option Layout := do
  let s ← (s.unwind (-1)).dropCandidate
  let (t, cursor) ← directive? s.cursor
  return { s.push t with mayStartKey := false, cursor }

def openBracket (t : Token) (s : Layout) : Option Layout := do
  let s ← s.markCandidate
  return { s.push t with
    outerCandidates := s.candidate :: s.outerCandidates, candidate := none, mayStartKey := true
    cursor := s.cursor.advance }

def closeBracket (t : Token) (s : Layout) : Option Layout := do
  let s ← s.dropCandidate
  match s.outerCandidates with
  | [] => none
  | candidate :: outerCandidates =>
      some { s.push t with candidate, outerCandidates, mayStartKey := false, cursor := s.cursor.advance }

def comma (s : Layout) : Option Layout := do
  let s ← s.dropCandidate
  return { s.push .comma with mayStartKey := true, cursor := s.cursor.advance }

def startBlock (block : Token) (s : Layout) : Option Layout :=
  if s.inFlow then some s
  else if s.mayStartKey then some (s.indentTo s.column s.tokens.size block)
  else none

def dash (s : Layout) : Option Layout := do
  let s ← s.startBlock .blockSequence
  let s ← s.dropCandidate
  return { s.push .dash with mayStartKey := true, cursor := s.cursor.advance }

def key (s : Layout) : Option Layout := do
  let s ← s.startBlock .blockMapping
  let s ← s.dropCandidate
  return { s.push .key with mayStartKey := !s.inFlow, cursor := s.cursor.advance }

def value (s : Layout) : Option Layout :=
  match s.candidate with
  | some k =>
      let s := { s with
        candidate := none, mayStartKey := false
        tokens := s.tokens.insertIdxIfInBounds k.tokens .key }
      let s := if s.inFlow then s else s.indentTo k.start.column k.tokens .blockMapping
      some { s.push .value with cursor := s.cursor.advance }
  | none => do
      let s ← s.startBlock .blockMapping
      return { s.push .value with mayStartKey := !s.inFlow, cursor := s.cursor.advance }

/-- A token after which no key may start, and which may start one. -/
def word (read : Cursor → Option (Token × Cursor)) (s : Layout) : Option Layout := do
  let s ← s.markCandidate
  let (t, cursor) ← read s.cursor
  return { s.push t with mayStartKey := false, cursor }

def plainScalar (s : Layout) : Option Layout := do
  let s ← s.markCandidate
  let (text, mayStartKey, cursor) := plain s.inFlow s.indent s.cursor
  return { s.push (.scalar true text) with mayStartKey, cursor }

def blockScalar (isFolded : Bool) (s : Layout) : Option Layout := do
  let s ← s.dropCandidate
  let (text, cursor) ← block? isFolded s.indent s.cursor
  return { s.push (.scalar false text) with mayStartKey := true, cursor }

def quotedScalar (isDouble : Bool) (s : Layout) : Except Error Layout := do
  let s ← orMalformed s.markCandidate
  let (text, cursor) ← quoted isDouble s.cursor
  return { s.push (.scalar false text) with mayStartKey := false, cursor }

/-- Whether a plain scalar may start with a character, given the one after it. -/
def startsPlain (inFlow : Bool) (c : Char) (next : Option Char) : Bool :=
  !(isGap (some c) || "-?:,[]\x7b\x7d#&*!|>'\"%@\x60".toList.contains c) ||
    (!isGap next && (c = '-' || (!inFlow && (c = '?' || c = ':'))))

def unquotedToken (a : Char) (s : Layout) : Option Layout :=
  let c := s.cursor
  let isMark := s.inFlow || isGap (c.peekAt 1)
  if a = '%' && c.column = 0 then s.directive
  else if a = '-' && c.column = 0 && c.isAtSeparator then s.documentToken .documentStart
  else if a = '.' && c.column = 0 && c.isAtSeparator then s.documentToken .documentEnd
  else if a = '[' then s.openBracket .listOpen
  else if a = '\x7b' then s.openBracket .recordOpen
  else if a = ']' then s.closeBracket .listClose
  else if a = '\x7d' then s.closeBracket .recordClose
  else if a = ',' then s.comma
  else if a = '-' && isGap (c.peekAt 1) then s.dash
  else if a = '?' && isMark then s.key
  else if a = ':' && isMark then s.value
  else if a = '*' then s.word fun c => (anchorName? c).map fun (n, c) => (.reference n, c)
  else if a = '&' then s.word fun c => (anchorName? c).map fun (n, c) => (.anchor n, c)
  else if a = '!' then s.word tag?
  else if a = '|' && !s.inFlow then s.blockScalar false
  else if a = '>' && !s.inFlow then s.blockScalar true
  else if startsPlain s.inFlow a (c.peekAt 1) then s.plainScalar
  else none

def token (a : Char) (s : Layout) : Except Error Layout :=
  if a = '\'' then s.quotedScalar false
  else if a = '"' then s.quotedScalar true
  else orMalformed (s.unquotedToken a)

/-- The tokens in front of every place where a key may have started, which are known for what they are. -/
def settled (s : Layout) : List Token :=
  let s := s.dropStale.getD s
  let starts := ((s.candidate :: s.outerCandidates).filterMap id).map (·.tokens)
  s.tokens.toList.take (starts.foldl min s.tokens.size)

def run (fuel : Nat) (s : Layout) : List Token × Option Error :=
  match fuel with
  | 0 => (s.settled, some .malformed)
  | fuel + 1 =>
      match (s.skipMark.skipBlanks (s.cursor.rest.length + 1)).dropStale with
      | none => (s.settled, some .malformed)
      | some next =>
          let next := next.unwind next.column
          match next.cursor.peek with
          | none =>
              match (next.unwind (-1)).dropCandidate with
              | none => (s.settled, some .malformed)
              | some last => (last.tokens.toList, none)
          | some a =>
              match next.token a with
              | .error e => (s.settled, some e)
              | .ok next => next.run fuel

end Layout

def tokens (text : List Char) : List Token × Option Error :=
  if text.all isPrintable then Layout.run (text.length + 1) { cursor := { rest := text } }
  else ([], some .malformed)

end TypeGuards.Yaml
