import TypeGuards.Text.Blank
import TypeGuards.Text.Parts
import TypeGuards.Text.Width
/-!
Texts set in lines of a width. Lines are broken between words; a word that is wider than a line is
either cut into pieces or shortened.
-/
namespace TypeGuards.Display

open Text

inductive Overflow where
  | fold
  | ellipsis
deriving DecidableEq, Repr, Inhabited

inductive Alignment where
  | natural
  | left
  | center
  | right
deriving DecidableEq, Repr, Inhabited

/-- Control characters that are not shown: bell, backspace, vertical tab, form feed and return. -/
def isDropped (c : Char) : Bool := [0x07, 0x08, 0x0b, 0x0c, 0x0d].contains c.toNat

def dropControls (text : List Char) : List Char := text.filter (!isDropped ·)

/-- The words of a text, each with the blanks after it, and the first with those before it. -/
def words (fuel : Nat) (text : List Char) : List (List Char) :=
  match fuel with
  | 0 => []
  | fuel + 1 =>
      let (before, rest) := text.span isTrimmed
      let (word, rest) := rest.span (!isTrimmed ·)
      let (after, rest) := rest.span isTrimmed
      if word = [] then [] else (before ++ word ++ after) :: words fuel rest

def trimEnd (text : List Char) : List Char := (text.reverse.dropWhile isTrimmed).reverse

/-- Lines that are being set: those that are done, the last first, and the one that is not. -/
structure Setting where
  done : List (List Char) := []
  line : List Char := []
  used : Nat := 0
  isStart : Bool := true

namespace Setting

/-- Starts a line, except at the start of the text. -/
def newLine (s : Setting) : Setting :=
  if s.isStart then s else { s with done := s.line :: s.done, line := [], used := 0 }

def add (piece : List Char) (used : Nat) (s : Setting) : Setting :=
  { s with line := s.line ++ piece, used, isStart := false }

def addPieces (s : Setting) : List (List Char) → Setting
  | [] => s
  | piece :: rest => (s.newLine.add piece (columns piece)).addPieces rest

def addWord (width : Nat) (overflow : Overflow) (s : Setting) (word : List Char) : Setting :=
  let needed := columns (trimEnd word)
  if s.used + needed ≤ width then s.add word (s.used + columns word)
  else if needed ≤ width then s.newLine.add word (columns word)
  else
    match overflow with
    | .fold => s.addPieces (chop width [] 0 word)
    | .ellipsis => s.newLine.add word (columns word)

def lines (s : Setting) : List (List Char) := (s.line :: s.done).reverse

end Setting

/-- A line broken between words. A line of blanks alone is not broken. -/
def breakLine (width : Nat) (overflow : Overflow) (line : List Char) : List (List Char) :=
  match words (line.length + 1) line with
  | [] => [line]
  | ws => (ws.foldl (Setting.addWord width overflow) {}).lines

/-- Takes off blanks at the end of a line, as far as it is longer than a width. -/
def trimExcess (width : Nat) (line : List Char) : List Char :=
  let blanks := line.length - (trimEnd line).length
  line.take (line.length - min blanks (line.length - width))

def shorten (width : Nat) (overflow : Overflow) (line : List Char) : List Char :=
  if columns line ≤ width then line
  else
    match overflow with
    | .fold => fit width line
    | .ellipsis => fit (width - 1) line ++ ['…']

def align (width : Nat) (overflow : Overflow) (a : Alignment) (line : List Char) : List Char :=
  match a with
  | .natural => line
  | .left =>
      let line := shorten width overflow line
      line ++ spaces (width - columns line)
  | .center =>
      let line := shorten width overflow (trimEnd line)
      let line := spaces ((width - columns line) / 2) ++ line
      line ++ spaces (width - columns line)
  | .right =>
      let line := shorten width overflow (trimEnd line)
      spaces (width - columns line) ++ line

def tabWidth : Nat := 8

/-- Each tab as spaces up to the next column that is a multiple of eight. -/
def expandTabs (column : Nat) : List Char → List Char
  | [] => []
  | '\t' :: rest =>
      let n := tabWidth - column % tabWidth
      spaces n ++ expandTabs (column + n) rest
  | c :: rest => c :: expandTabs (column + charColumns c) rest

structure Setup where
  alignment : Alignment := .natural
  overflow : Overflow := .fold
  isBroken : Bool := true

/-- A text in lines of a width; without any width there are no lines. -/
def wrap (width : Nat) (setup : Setup) (text : List Char) : List (List Char) :=
  if width = 0 then []
  else
    (partsBetween '\n' text).flatMap fun line =>
      let line := expandTabs 0 line
      let lines := if setup.isBroken then breakLine width setup.overflow line else [line]
      lines.map fun line =>
        shorten width setup.overflow
          (align width setup.overflow setup.alignment (trimExcess width line))

end TypeGuards.Display
