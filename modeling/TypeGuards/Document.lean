/-!
Structured documents and how they are written: one entry a line, four blanks deeper for each level.
-/
namespace TypeGuards

inductive Document where
  | null
  | bool (value : Bool)
  | int (value : Int)
  | text (value : String)
  | list (items : List Document)
  | record (fields : List (String × Document))
deriving Repr, Inhabited

namespace Document

def hexDigits (n : Nat) : List Char := [Nat.digitChar (n / 16), Nat.digitChar (n % 16)]

/-- Quotes, backslashes and control characters are escaped; every other character stands for itself. -/
def escape (c : Char) : List Char :=
  match c with
  | '"' => ['\\', '"']
  | '\\' => ['\\', '\\']
  | '\n' => ['\\', 'n']
  | '\r' => ['\\', 'r']
  | '\t' => ['\\', 't']
  | c =>
      if c.toNat = 8 then ['\\', 'b']
      else if c.toNat = 12 then ['\\', 'f']
      else if c.toNat < 0x20 then ['\\', 'u', '0', '0'] ++ hexDigits c.toNat
      else [c]

def quote (text : String) : String := "\"" ++ String.ofList (text.toList.flatMap escape) ++ "\""

def blanks (depth : Nat) : String := String.ofList (List.replicate (4 * depth) ' ')

def block (depth : Nat) (left right : String) (entries : List String) : String :=
  if entries.isEmpty then left ++ right
  else
    let line := "\n" ++ blanks (depth + 1)
    left ++ line ++ String.intercalate ("," ++ line) entries ++ "\n" ++ blanks depth ++ right

mutual

def renderAt (depth : Nat) : Document → String
  | null => "null"
  | bool b => if b then "true" else "false"
  | int n => toString n
  | text s => quote s
  | list items => block depth "[" "]" (itemTexts (depth + 1) items)
  | record fields => block depth "\x7b" "\x7d" (fieldTexts (depth + 1) fields)

def itemTexts (depth : Nat) : List Document → List String
  | [] => []
  | d :: rest => renderAt depth d :: itemTexts depth rest

def fieldTexts (depth : Nat) : List (String × Document) → List String
  | [] => []
  | (name, d) :: rest => (quote name ++ ": " ++ renderAt depth d) :: fieldTexts depth rest

end

def render (d : Document) : String := renderAt 0 d

end Document

end TypeGuards
