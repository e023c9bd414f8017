import TypeGuards.Parsing.Run
import TypeGuards.Text.Blank
import TypeGuards.TypeScript.Rules
/-!
The tokens of TypeScript. A reader takes a position and gives the position behind the token, if the
token is there. Of the tokens a place allows the longest is read; some tokens depend on what
surrounds them, above all the semicolons that a text may leave out.
-/
namespace TypeGuards.TypeScript

open Grammar Parsing Text

/-- The position behind a token that starts at a position. -/
abbrev Reader := Source → Nat → Option Nat

def isBlank (c : Char) : Bool :=
  let n := c.toNat
  isAsciiBlank c || isSpaceSeparator c || n = 0xfeff || n = 0x2028 || n = 0x2029 || n = 0x2060 ||
    n = 0x200b

/-- The first position from `i` on, at most `fuel` on, whose character is not in a class. -/
def skipWhile (p : Char → Bool) (source : Source) : Nat → Nat → Nat
  | 0, i => i
  | fuel + 1, i =>
      match source.char? i with
      | some c => if p c then skipWhile p source fuel (i + 1) else i
      | none => i

def skip (p : Char → Bool) (source : Source) (i : Nat) : Nat :=
  skipWhile p source (source.size - i) i

def skipBlanks (source : Source) (i : Nat) : Nat := skip isBlank source i

def holds (p : Char → Bool) (source : Source) (i : Nat) : Bool := (source.char? i).any p

def isAt (source : Source) (i : Nat) (c : Char) : Bool := source.char? i = some c

def after (text : List Char) : Reader := fun source i =>
  match text with
  | [] => some i
  | c :: rest => if isAt source i c then after rest source (i + 1) else none

/-! ### Words and numbers -/

def isDigit (c : Char) : Bool := '0' ≤ c && c ≤ '9'

def isHexDigit (c : Char) : Bool := isDigit c || ('a' ≤ c && c ≤ 'f') || ('A' ≤ c && c ≤ 'F')

def isPunctuation (c : Char) : Bool :=
  c.toNat ≤ 0x1f || isBlank c || ":;\x60\"'@#.,|^&<=>+-*/\\%?!~()[]\x7b\x7d".toList.contains c

def escapedLetter : Reader := fun source i =>
  match after ['\\', 'u'] source i with
  | none => none
  | some j =>
      if isAt source j '\x7b' then
        let k := skip isHexDigit source (j + 1)
        if k > j + 1 && isAt source k '\x7d' then some (k + 1) else none
      else if (List.range 4).all fun n => holds isHexDigit source (j + n) then some (j + 4)
      else none

/-- Behind a letter of a word; a word does not start with a digit. -/
def letter (isFirst : Bool) : Reader := fun source i =>
  match source.char? i with
  | none => none
  | some c =>
      if c = '\\' then escapedLetter source i
      else if isPunctuation c || (isFirst && isDigit c) then none
      else some (i + 1)

def letters (source : Source) : Nat → Nat → Nat
  | 0, i => i
  | fuel + 1, i =>
      match letter false source i with
      | some j => letters source fuel j
      | none => i

def word : Reader := fun source i =>
  (letter true source i).map fun j => letters source (source.size - j) j

def privateWord : Reader := fun source i => if isAt source i '#' then word source (i + 1) else none

/-- Behind digits that single underscores may separate. -/
def separated (p : Char → Bool) (source : Source) : Nat → Nat → Nat
  | 0, i => i
  | fuel + 1, i =>
      if holds p source i then separated p source fuel (i + 1)
      else if isAt source i '_' && holds p source (i + 1) then separated p source fuel (i + 2)
      else i

def digits (p : Char → Bool) : Reader := fun source i =>
  if holds p source i then some (separated p source (source.size - i) i) else none

def farther : Option Nat → Option Nat → Option Nat
  | some i, some j => some (max i j)
  | some i, none => some i
  | none, j => j

def exponent : Reader := fun source i =>
  if isAt source i 'e' || isAt source i 'E' then
    let j := if isAt source (i + 1) '+' || isAt source (i + 1) '-' then i + 2 else i + 1
    digits isDigit source j
  else none

/-- Behind a number without a point whose leading zero, if any, comes before a nonzero digit. -/
def wholePart : Reader := fun source i =>
  let isNonzero (c : Char) : Bool := isDigit c && c ≠ '0'
  if isAt source i '0' then
    if holds isNonzero source (i + 1) then digits isDigit source (i + 1) else some (i + 1)
  else digits isDigit source i

def radixNumber (marks : List Char) (p : Char → Bool) : Reader := fun source i =>
  if isAt source i '0' && marks.any (isAt source (i + 1)) then digits p source (i + 2) else none

def number : Reader := fun source i =>
  let big (j : Option Nat) : Option Nat := j.map fun j => if isAt source j 'n' then j + 1 else j
  let radix := farther (radixNumber ['x', 'X'] isHexDigit source i) <|
    farther (radixNumber ['b', 'B'] (fun c => c = '0' || c = '1') source i)
      (radixNumber ['o', 'O'] (fun c => '0' ≤ c && c ≤ '7') source i)
  let plain := big (digits isDigit source i)
  let withExponent (j : Nat) : Nat := (exponent source j).getD j
  let decimal := match wholePart source i with
    | none => none
    | some j =>
        if isAt source j '.' then
          some (withExponent ((digits isDigit source (j + 1)).getD (j + 1)))
        else exponent source j
  let fraction := if isAt source i '.' then (digits isDigit source (i + 1)).map withExponent else none
  farther (big radix) (farther plain (farther decimal fraction))

/-! ### Comments, strings and patterns -/

def isLineEnd (c : Char) : Bool := c = '\n' || c = '\r' || c.toNat = 0x2028 || c.toNat = 0x2029

def blockEnd (source : Source) : Nat → Nat → Option Nat
  | 0, _ => none
  | fuel + 1, i =>
      if isAt source i '*' && isAt source (i + 1) '/' then some (i + 2)
      else if i < source.size then blockEnd source fuel (i + 1)
      else none

def comment : Reader := fun source i =>
  if isAt source i '/' then
    if isAt source (i + 1) '/' then some (skip (fun c => !isLineEnd c) source (i + 2))
    else if isAt source (i + 1) '*' then blockEnd source (source.size - i) (i + 2)
    else none
  else none

def scriptLine : Reader := fun source i =>
  (after ['#', '!'] source i).map (skip (· ≠ '\n') source)

def some1 (p : Char → Bool) : Reader := fun source i =>
  if holds p source i then some (skip p source i) else none

def fragment (quote : Char) : Reader :=
  some1 fun c => c ≠ quote && c ≠ '\\' && c ≠ '\n' && c ≠ '\r'

def escape : Reader := fun source i =>
  if !isAt source i '\\' then none
  else
    let isOctal (c : Char) : Bool := '0' ≤ c && c ≤ '7'
    match source.char? (i + 1) with
    | none => none
    | some 'x' =>
        if holds isHexDigit source (i + 2) && holds isHexDigit source (i + 3) then some (i + 4)
        else none
    | some 'u' => escapedLetter source i
    | some c =>
        if isOctal c then
          if holds isOctal source (i + 2) then
            if holds isOctal source (i + 3) then some (i + 4) else some (i + 3)
          else some (i + 2)
        else if (c = '\r' || c = '?') && (isAt source (i + 2) '\n' ||
            holds (fun c => c.toNat = 0x2028 || c.toNat = 0x2029) source (i + 2)) then some (i + 3)
        else some (i + 2)

/-- Behind the characters of a regular expression; `inClass` tells whether a bracket is open. -/
def patternFrom (source : Source) : Nat → Bool → Nat → Option Nat
  | 0, inClass, i => if inClass then none else some i
  | fuel + 1, inClass, i =>
      match source.char? i with
      | none => if inClass then none else some i
      | some '\n' => if inClass then none else some i
      | some '\\' =>
          if holds (· ≠ '\n') source (i + 1) then patternFrom source fuel inClass (i + 2)
          else if inClass then none else some i
      | some '[' => patternFrom source fuel true (i + 1)
      | some ']' => patternFrom source fuel false (i + 1)
      | some '/' => if inClass then patternFrom source fuel true (i + 1) else some i
      | some _ => patternFrom source fuel inClass (i + 1)

def regexPattern : Reader := fun source i =>
  match patternFrom source (source.size - i + 1) false i with
  | some j => if j > i then some j else none
  | none => none

def regexFlags : Reader := some1 fun c => 'a' ≤ c && c ≤ 'z'

/-! ### Markup elements -/

def isAsciiLetter (c : Char) : Bool := ('a' ≤ c && c ≤ 'z') || ('A' ≤ c && c ≤ 'Z')

def characterReference : Reader := fun source i =>
  if !isAt source i '&' then none
  else
    let close (lo hi start stop : Nat) : Option Nat :=
      if lo ≤ stop - start && stop - start ≤ hi && isAt source stop ';' then some (stop + 1) else none
    if isAt source (i + 1) '#' then
      if isAt source (i + 2) 'x' || isAt source (i + 2) 'X' then
        close 1 6 (i + 3) (skip isHexDigit source (i + 3))
      else close 1 5 (i + 2) (skip isDigit source (i + 2))
    else close 1 30 (i + 1) (skip isAsciiLetter source (i + 1))

def dashedWord : Reader := fun source i =>
  let isStart (c : Char) : Bool := isAsciiLetter c || c = '_' || c = '$'
  let isPart (c : Char) : Bool := isStart c || isDigit c
  if holds isStart source i then
    let j := skip isPart source i
    if isAt source j '-' then some (skip (fun c => isPart c || c = '-') source j) else none
  else none

def attributeFragment (quote : Char) (source : Source) : Nat → Nat → Nat
  | 0, i => i
  | fuel + 1, i =>
      match source.char? i with
      | none => i
      | some c =>
          if c = quote then i
          else if c = '&' && holds (fun d => d = '#' || isAsciiLetter d) source (i + 1) then i
          else attributeFragment quote source fuel (i + 1)

def markupFragment (quote : Char) : Reader := fun source i =>
  let j := attributeFragment quote source (source.size - i) i
  if j > i then some j else none

/-! ### Tokens that depend on what surrounds them -/

/-- The numbers of the tokens that depend on what surrounds them, and of those that tell places
apart. -/
structure Surroundings where
  automaticSemicolon : Nat
  signatureSemicolon : Nat
  templateChars : Nat
  ternaryMark : Nat
  htmlComment : Nat
  logicalOr : Nat
  escape : Nat
  regexPattern : Nat
  markupText : Option Nat

def templateChars (source : Source) : Nat → Nat → Option Nat
  | 0, _ => none
  | fuel + 1, i =>
      match source.char? i with
      | none => none
      | some '\x60' => some i
      | some '\\' => some i
      | some '$' => if isAt source (i + 1) '\x7b' then some i else templateChars source fuel (i + 1)
      | some c => if c.toNat = 0 then none else templateChars source fuel (i + 1)

/-- The text between markup elements, and whether it holds more than line breaks and indentation. -/
def markupText (source : Source) : Nat → Bool → Bool → Nat → Bool × Nat
  | 0, seen, _, i => (seen, i)
  | fuel + 1, seen, atNewline, i =>
      match source.char? i with
      | none => (seen, i)
      | some c =>
          if c.toNat = 0 || "<>\x7b\x7d&".toList.contains c then (seen, i)
          else if c = '\n' then markupText source fuel seen true (i + 1)
          else
            let atNewline := atNewline && isBreakingBlank c
            markupText source fuel (seen || !atNewline) atNewline (i + 1)

/-- Passes blanks and comments; tells whether that ends well, whether a line comment was passed, and
where. -/
def passComments (source : Source) : Nat → Bool → Nat → Bool × Bool × Nat
  | 0, seen, i => (false, seen, i)
  | fuel + 1, seen, i =>
      let i := skip isBreakingBlank source i
      if isAt source i '/' then
        if isAt source (i + 1) '/' then
          passComments source fuel true (skip (fun c => c ≠ '\n' && c.toNat ≠ 0) source (i + 2))
        else if isAt source (i + 1) '*' then
          passComments source fuel seen ((blockEnd source (source.size - i) (i + 2)).getD source.size)
        else (false, seen, i + 1)
      else (true, seen, i)

/-- Whether a semicolon may be left out before the character at a position on a new line. -/
def endsBefore (s : Surroundings) (allowed : TokenSet) (source : Source) (i : Nat) : Bool :=
  match source.char? i with
  | none => true
  | some c =>
      if "\x60,.;*%><=?^|&/:".toList.contains c then false
      else if c = '\x7b' then !allowed.has s.signatureSemicolon
      else if c = '(' || c = '[' then !allowed.has s.logicalOr
      else if c = '+' then isAt source (i + 1) '+'
      else if c = '-' then isAt source (i + 1) '-'
      else if c = '!' then !isAt source (i + 1) '='
      else if c = 'i' then
        if !isAt source (i + 1) 'n' then true
        else if !holds Char.isAlpha source (i + 2) then false
        else
          match after "stanceof".toList source (i + 2) with
          | none => true
          | some j => holds Char.isAlpha source j
      else true

/-- How the search for a place to leave out a semicolon went. -/
inductive Omission where
  | found
  | absent (sawComment : Bool) (position : Nat)

def omission (s : Surroundings) (allowed : TokenSet) (source : Source) : Nat → Nat → Omission
  | 0, _ => .found
  | fuel + 1, i =>
      match source.char? i with
      | none => .found
      | some '\x7d' =>
          let j := skip isBreakingBlank source (i + 1)
          -- a colon behind the brace means that the brace closes a pattern with a type
          if isAt source j ':' && !allowed.has s.logicalOr then .absent false j else .found
      | some '\n' =>
          match passComments source (source.size - i + 1) false (i + 1) with
          | (false, saw, j) => .absent saw j
          | (true, saw, j) => if endsBefore s allowed source j then .found else .absent saw j
      | some c => if isBreakingBlank c then omission s allowed source fuel (i + 1) else .absent false i

/-- The question mark of a conditional expression: not followed by what makes it optional. -/
def ternaryMark (s : Surroundings) (source : Source) (i : Nat) : Option Token :=
  let start := skip isBreakingBlank source i
  if !isAt source start '?' then none
  else if isAt source (start + 1) '?' || isAt source (start + 1) '.' then none
  else
    let j := skip isBreakingBlank source (start + 1)
    let isOther := isAt source j ':' || isAt source j ')' || isAt source j ',' ||
      (isAt source j '.' && !holds isDigit source (j + 1))
    if isOther then none else some ⟨s.ternaryMark, start, start + 1⟩

def htmlComment (s : Surroundings) (source : Source) (i : Nat) : Option Token :=
  let isSkipped (c : Char) : Bool := isBreakingBlank c || c.toNat = 0x2028 || c.toNat = 0x2029
  let start := skip isSkipped source i
  match (after "<!--".toList source start).or (after "-->".toList source start) with
  | none => none
  | some j =>
      let isInside (c : Char) : Bool :=
        c.toNat ≠ 0 && c ≠ '\n' && c.toNat ≠ 0x2028 && c.toNat ≠ 0x2029
      some ⟨s.htmlComment, start, skip isInside source j⟩

def contextual (s : Surroundings) (allowed : TokenSet) (source : Source) (i : Nat) : Option Token :=
  if allowed.has s.templateChars then
    if allowed.has s.automaticSemicolon then none
    else
      match templateChars source (source.size - i + 1) i with
      | some j => if j > i then some ⟨s.templateChars, i, j⟩ else none
      | none => none
  else
    let text := match s.markupText with
      | some t =>
          if allowed.has t then
            match markupText source (source.size - i) false false i with
            | (true, j) => some (⟨t, i, j⟩ : Token)
            | (false, _) => none
          else none
      | none => none
    match text with
    | some t => some t
    | none =>
        if allowed.has s.automaticSemicolon || allowed.has s.signatureSemicolon then
          match omission s allowed source (source.size + 1) i with
          | .found => some ⟨s.automaticSemicolon, i, i⟩
          | .absent sawComment j =>
              if !sawComment && allowed.has s.ternaryMark && isAt source j '?' then
                ternaryMark s source j
              else none
        else if allowed.has s.ternaryMark then ternaryMark s source i
        else if allowed.has s.htmlComment && !allowed.has s.logicalOr && !allowed.has s.escape &&
            !allowed.has s.regexPattern then htmlComment s source i
        else none

/-! ### All other tokens -/

/-- A token with its reader. An immediate token may not follow blanks; among tokens of different
strength the stronger is read, else the longer. -/
structure Lexeme where
  symbol : Nat
  reader : Reader
  isImmediate : Bool := false
  strength : Int := 0
  isLiteral : Bool := false

/-- The better of two tokens read; ties go to immediate tokens, then to literal ones. -/
def better (a b : Lexeme × Token) : Lexeme × Token :=
  let length (t : Lexeme × Token) : Nat := t.2.stop
  let weight (t : Lexeme × Token) : Nat :=
    (if t.1.isLiteral then 2 else 0) + (if t.1.isImmediate then 1 else 0)
  if b.1.strength ≠ a.1.strength then if b.1.strength > a.1.strength then b else a
  else if length b ≠ length a then if length b > length a then b else a
  else if weight b > weight a then b else a

def plain (lexemes : Array Lexeme) (allowed : TokenSet) (source : Source) (i : Nat) : Option Token :=
  let start := skipBlanks source i
  let best := lexemes.foldl (fun best l =>
    if !allowed.has l.symbol then best
    else
      let place := if l.isImmediate then i else start
      match l.reader source place with
      | none => best
      | some stop =>
          let found := (l, (⟨l.symbol, place, stop⟩ : Token))
          match best with
          | none => some found
          | some b => some (better b found)) none
  match best with
  | some (_, t) => some t
  | none => if start ≥ source.size then some ⟨0, start, start⟩ else none

/-- The readers of the tokens that are no literal texts. -/
def readerOf : String → Option (Reader × Bool × Int)
  | "hash_bang_line" => some (scriptLine, false, 0)
  | "_double_fragment" => some (fragment '"', true, 1)
  | "_single_fragment" => some (fragment '\'', true, 1)
  | "escape_sequence" => some (escape, true, 0)
  | "comment" => some (comment, false, 0)
  | "regex_pattern" => some (regexPattern, true, -1)
  | "_regex_close" => some (after ['/'], true, 1)
  | "regex_flags" => some (regexFlags, true, 0)
  | "number" => some (number, false, 0)
  | "identifier" => some (word, false, 0)
  | "private_property_identifier" => some (privateWord, false, 0)
  | "html_character_reference" => some (characterReference, false, 0)
  | "jsx_identifier" => some (dashedWord, false, 0)
  | "_double_jsx_fragment" => some (markupFragment '"', true, 1)
  | "_single_jsx_fragment" => some (markupFragment '\'', true, 1)
  | _ => none

/-- Tokens that are not looked for while skipping: nearly any text would do for them. -/
def tooGeneral : List String :=
  ["_double_fragment", "_single_fragment", "regex_pattern", "_regex_close", "regex_flags",
   "_double_jsx_fragment", "_single_jsx_fragment", "jsx_identifier"]

def isWord (text : String) : Bool :=
  let source := Source.ofString text
  word source 0 = some source.size

end TypeGuards.TypeScript
