import TypeGuards.Display.Wrap
/-!
Texts with styles in them: names in brackets start and end styles and are not shown. A backslash
before a bracket lets it stand for itself. Names between colons may stand for pictures.
-/
namespace TypeGuards.Display

inductive MarkupError where
  /-- The end of a style that was not started. -/
  | notOpen (tag : String) (position : Nat)
  | nothingOpen (position : Nat)
  /-- The end of a handler with parameters that cannot be read. -/
  | handler (message : String)
deriving DecidableEq, Repr, Inhabited

def MarkupError.message : MarkupError → String
  | notOpen tag position =>
      s!"closing tag '{tag}' at position {position} doesn't match any open tag"
  | nothingOpen position => s!"closing tag '[/]' at position {position} has nothing to close"
  | handler message => message

namespace Markup

inductive Piece where
  | text (chars : List Char)
  | tag (position : Nat) (body : List Char)
deriving Repr, Inhabited

def startsTag (c : Char) : Bool := ('a' ≤ c && c ≤ 'z') || c = '#' || c = '/' || c = '@'

/-- What stands between brackets, if a tag starts here. -/
def tagBody? : List Char → Option (List Char)
  | '[' :: c :: rest =>
      let (body, after) := rest.span fun a => a ≠ ']' && a ≠ '['
      if startsTag c && after.head? = some ']' then some (c :: body) else none
  | _ => none

def plain (chars : List Char) : List Piece := if chars = [] then [] else [.text chars]

/-- The pieces of a text from a position on; `before` is the text since the last tag, reversed. -/
def pieces (fuel position : Nat) (before : List Char) (text : List Char) : List Piece :=
  match fuel with
  | 0 => []
  | fuel + 1 =>
      let (slashes, rest) := text.span (· = '\\')
      let n := slashes.length
      match tagBody? rest with
      | some body =>
          let next := position + n + body.length + 2
          let after := rest.drop (body.length + 2)
          let isEscaped := n % 2 = 1
          let tag := if isEscaped then .text (['['] ++ body ++ [']']) else .tag (position + n) body
          plain before.reverse ++ plain (List.replicate (n / 2) '\\') ++ [tag] ++ pieces fuel next [] after
      | none =>
          match rest with
          | [] => plain (before.reverse ++ slashes)
          | c :: after => pieces fuel (position + n + 1) (c :: (slashes ++ before)) after

def fullName : String → String
  | "b" => "bold"
  | "d" => "dim"
  | "i" => "italic"
  | "u" => "underline"
  | "uu" => "underline2"
  | "r" => "reverse"
  | "c" => "conceal"
  | "s" => "strike"
  | "o" => "overline"
  | name => name

def styleName (name : List Char) : String :=
  fullName (String.ofList ((Text.trim name).map Char.toLower))

inductive Item where
  | char (c : Char)
  | code (name : List Char)
deriving DecidableEq, Repr, Inhabited

def Item.chars : Item → List Char
  | char c => [c]
  | code name => [':'] ++ name ++ [':']

def codeName? : List Char → Option (List Char)
  | ':' :: rest =>
      let (name, after) := rest.span fun c => c ≠ ':' && !Text.isTrimmed c
      if after.head? = some ':' then some name else none
  | _ => none

def items : List Char → List Item
  | [] => []
  | c :: rest =>
      match codeName? (c :: rest) with
      | some name => .code name :: items (rest.drop (name.length + 1))
      | none => .char c :: items rest
termination_by text => text.length
decreasing_by all_goals simp +arith

/-- What markup takes from elsewhere: the names under which styles are known, the pictures that stand
for names between colons, and what is wrong with the parameters of a handler. -/
structure Rules where
  styleName : List Char → String := Markup.styleName
  picture? : List Char → Option (List Char) := fun _ => none
  handlerFault? : List Char → Option String := fun _ => none
  /-- A picture is not shown longer than the code that it stands for, and not as that code. -/
  picture_shown : ∀ name picture, picture? name = some picture →
    (dropControls picture).length ≤ (dropControls (Item.code name).chars).length ∧
      dropControls picture ≠ dropControls (Item.code name).chars

structure Started where
  name : String
  parameters : List Char
deriving DecidableEq, Repr, Inhabited

namespace Rules

def plain : Rules where
  picture_shown := by nofun

def shownItem (rules : Rules) : Item → List Char
  | .char c => [c]
  | .code name => (rules.picture? name).getD (Item.code name).chars

def withPictures (rules : Rules) (text : List Char) : List Char :=
  (items text).flatMap rules.shownItem

/-- What is wrong with a style that ends. Only handlers have parameters that are read. -/
def fault? (rules : Rules) (s : Started) : Option String :=
  if s.name.startsWith "@" && s.parameters ≠ [] then rules.handlerFault? s.parameters else none

end Rules

def close (name : String) : List Started → Option (Started × List Started)
  | [] => none
  | s :: rest =>
      if s.name = name then some (s, rest)
      else (close name rest).map fun (ended, rest) => (ended, s :: rest)

def unescaped (text : List Char) : List Char := Text.replaceAll ['\\', '['] ['['] text

def shownPieces (rules : Rules) (opened : List Started) : List Piece → Except MarkupError (List Char)
  | [] => .ok []
  | .text chars :: rest => do
      let shown := dropControls (rules.withPictures (unescaped chars))
      return shown ++ (← shownPieces rules opened rest)
  | .tag position body :: rest =>
      let (name, parameters) := body.span (· ≠ '=')
      match name with
      | '/' :: name =>
          let name := Text.trim name
          if name = [] then
            match opened with
            | [] => .error (.nothingOpen position)
            | s :: opened =>
                match rules.fault? s with
                | some message => .error (.handler message)
                | none => shownPieces rules opened rest
          else
            match close (rules.styleName name) opened with
            | some (s, opened) =>
                match rules.fault? s with
                | some message => .error (.handler message)
                | none => shownPieces rules opened rest
            | none => .error (.notOpen (String.ofList (['['] ++ body ++ [']'])) position)
      | name => shownPieces rules (⟨rules.styleName name, parameters.drop 1⟩ :: opened) rest

def shown (text : List Char) (rules : Rules := .plain) : Except MarkupError (List Char) :=
  shownPieces rules [] (pieces (text.length + 1) 0 [] text)

end Markup

end TypeGuards.Display
