import TypeGuards.Grammar.Merging
import TypeGuards.TypeScript.Lexer
/-!
Tokens whose texts can be mistaken for each other. Where one of them is expected the other may not
come to be expected too, or the lexer would read it instead.
-/
namespace TypeGuards.TypeScript

open Grammar

/-- The characters that a token may begin with; none for a token that depends on what surrounds it. -/
def startOf (t : SymbolInfo) : Char → Bool :=
  match t.text with
  | some text => fun c => text.toList.head? = some c
  | none =>
      match t.name with
      | "hash_bang_line" => (· = '#')
      | "_double_fragment" => fun c => !"\"\\\n\r".toList.contains c
      | "_single_fragment" => fun c => !"'\\\n\r".toList.contains c
      | "escape_sequence" => (· = '\\')
      | "comment" => (· = '/')
      | "regex_pattern" => fun c => !"/\n".toList.contains c
      | "_regex_close" => (· = '/')
      | "regex_flags" => fun c => 'a' ≤ c && c ≤ 'z'
      | "number" => fun c => isDigit c || c = '.'
      | "identifier" => fun c => c = '\\' || !isPunctuation c && !isDigit c
      | "private_property_identifier" => (· = '#')
      | "html_character_reference" => (· = '&')
      | "jsx_identifier" => fun c => isAsciiLetter c || c = '_' || c = '$'
      | "_double_jsx_fragment" => (· ≠ '"')
      | "_single_jsx_fragment" => (· ≠ '\'')
      | _ => fun _ => false

def asciiLetters : List Char := "abcdefghijklmnopqrstuvwxyzABCDEFGHIJKLMNOPQRSTUVWXYZ".toList

def asciiDigits : List Char := "0123456789".toList

/-- The characters with which a text of one token goes on to be one of a longer token. Words are told
from keywords once they are read. -/
def continuations (longer shorter : SymbolInfo) : List Char :=
  match longer.text, shorter.text with
  | some l, some s => if s.toList.isPrefixOf l.toList then (l.toList.drop s.length).take 1 else []
  | none, some s =>
      match longer.name with
      | "number" => if s = "." then asciiDigits else []
      | "html_character_reference" => if s = "&" then '#' :: asciiLetters else []
      | "jsx_identifier" => if isWord s then ['-', '_', '$'] ++ asciiLetters ++ asciiDigits else []
      | _ => []
  | _, none => if longer.name = "jsx_identifier" && shorter.name = "identifier" then ['-'] else []

def readsAsFlags (keyword other : SymbolInfo) : Bool :=
  other.name = "regex_flags" &&
    keyword.text.any fun text => text.toList.all fun c => 'a' ≤ c && c ≤ 'z'

/-- The tokens that would be read in place of a token, or of it and what comes behind it. -/
def rivalsOf (g : Analysis) (starts : Array (Char → Bool)) (behind : TokenSet) (t : SymbolInfo) :
    TokenSet :=
  let next := (TokenSet.members behind g.grammar.tokenCount).map fun k =>
    starts.getD k fun _ => false
  (List.range g.grammar.tokenCount).foldl (fun rivals k =>
    let other := g.grammar.symbols.getD k default
    let isLonger := (continuations other t).any fun c => next.any fun p => p c
    if isLonger || readsAsFlags other t then rivals ||| TokenSet.single k else rivals) 0

/-- By token: the tokens that would be read in its place. -/
def rivals (g : Analysis) : List (Nat × TokenSet) :=
  let starts := (g.grammar.symbols.extract 0 g.grammar.tokenCount).map startOf
  let behind := g.behind
  (List.range g.grammar.tokenCount).filterMap fun t =>
    let set := rivalsOf g starts (behind.getD t 0) (g.grammar.symbols.getD t default)
    if set = 0 then none else some (t, set)

end TypeGuards.TypeScript
