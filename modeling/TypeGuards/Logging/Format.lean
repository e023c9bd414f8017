import TypeGuards.Logging.Record
/-!
Formats of the lines that records are written as: a text with fields in it. There are three ways of
marking a field: by a percent sign and parentheses, by braces, and by a dollar sign.
-/
namespace TypeGuards.Logging

inductive Piece where
  | text (chars : List Char)
  /-- A field, filled up to a width on its left or on its right. -/
  | field (name : String) (width : Nat) (isLeft : Bool)
  | broken
deriving DecidableEq, Repr, Inhabited

namespace Piece

def isField : Piece → Bool
  | field _ _ _ => true
  | _ => false

def render (stamp : Stamp) (r : Record) : Piece → Option (List Char)
  | text chars => some chars
  | field name width isLeft =>
      (r.field? stamp name).map fun value =>
        let filling := List.replicate (width - value.length) ' '
        if isLeft then value.toList ++ filling else filling ++ value.toList
  | broken => none

end Piece

inductive Style where
  | percent
  | brace
  | dollar
deriving DecidableEq, Repr, Inhabited

namespace Style

def ofName? : String → Option Style
  | "%" => some .percent
  | "\x7b" => some .brace
  | "$" => some .dollar
  | _ => none

def messageOnly : Style → String
  | percent => "%(message)s"
  | brace => "\x7bmessage\x7d"
  | dollar => "$\x7bmessage\x7d"

def isNameChar (c : Char) : Bool := c.isAlphanum || c = '_'

/-- What follows a name in a percent field: flags, a width and a letter. -/
def percentEnd? (name text : List Char) : Option (Piece × List Char) :=
  let (flags, rest) := text.span ("#0- +".toList.contains ·)
  let (width, rest) := rest.span Char.isDigit
  let rest := match rest with
    | '.' :: rest => rest.dropWhile Char.isDigit
    | rest => rest
  match rest with
  | c :: rest =>
      if "diouxefgcrsa".toList.contains c.toLower && name ≠ [] then
        let width := width.foldl (fun n d => 10 * n + (d.toNat - '0'.toNat)) 0
        some (.field (String.ofList name) width (flags.contains '-'), rest)
      else none
  | [] => none

def piece? (s : Style) (text : List Char) : Option (Piece × List Char) :=
  match s, text with
  | percent, '%' :: '%' :: rest => some (.text ['%'], rest)
  | percent, '%' :: '(' :: rest =>
      let (name, rest) := rest.span isNameChar
      match rest with
      | ')' :: rest => percentEnd? name rest
      | _ => none
  | brace, '{' :: '{' :: rest => some (.text ['{'], rest)
  | brace, '}' :: '}' :: rest => some (.text ['}'], rest)
  | brace, '{' :: rest =>
      let (name, rest) := rest.span isNameChar
      match rest with
      | '}' :: rest => if name = [] then none else some (.field (String.ofList name) 0 true, rest)
      | _ => none
  | dollar, '$' :: '$' :: rest => some (.text ['$'], rest)
  | dollar, '$' :: '{' :: rest =>
      let (name, rest) := rest.span isNameChar
      match rest with
      | '}' :: rest => if name = [] then none else some (.field (String.ofList name) 0 true, rest)
      | _ => none
  | dollar, '$' :: rest =>
      let (name, rest) := rest.span isNameChar
      if name = [] then none else some (.field (String.ofList name) 0 true, rest)
  | _, _ => none

def isMark : Style → Char → Bool
  | percent, c => c = '%'
  | brace, c => c = '{' || c = '}'
  | dollar, c => c = '$'

def pieces (s : Style) (fuel : Nat) (text : List Char) : List Piece :=
  match fuel, text with
  | 0, _ => []
  | _, [] => []
  | fuel + 1, c :: rest =>
      if s.isMark c then
        match s.piece? (c :: rest) with
        | some (p, rest) => p :: s.pieces fuel rest
        | none => .broken :: s.pieces fuel rest
      else .text [c] :: s.pieces fuel rest

/-- Whether pieces make a format. A mark that marks nothing is passed over after percent signs. -/
def accepts (s : Style) (ps : List Piece) : Bool :=
  ps.any Piece.isField && (s = .percent || !ps.contains .broken)

end Style

structure Format where
  text : String
  pieces : List Piece
deriving DecidableEq, Repr, Inhabited

namespace Format

def parse (style : Style) (text : String) : Format :=
  { text, pieces := style.pieces (text.length + 1) text.toList }

def ofPercent (text : String) : Format := parse .percent text

/-- A format as stated, of which some field must be shown if it is checked. -/
def ofText? (style : Style) (isChecked : Bool) (text : String) : Option Format :=
  let f := parse style text
  if isChecked && !style.accepts f.pieces then none else some f

/-- The line of a record; there is none if a field is unknown. -/
def render (stamp : Stamp) (r : Record) (f : Format) : Option String :=
  (f.pieces.mapM (Piece.render stamp r)).map fun parts => String.ofList parts.flatten

end Format

end TypeGuards.Logging
