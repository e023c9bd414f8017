import TypeGuards.TypeScript.Rivals
/-!
The languages that texts are parsed in: for each dialect its grammar, its automaton and its lexer.
-/
namespace TypeGuards.TypeScript

open Grammar Parsing

namespace Surroundings

def contextual (s : Surroundings) : List Nat :=
  [s.automaticSemicolon, s.templateChars, s.ternaryMark, s.htmlComment] ++ s.markupText.toList
    ++ [s.signatureSemicolon]

def all (s : Surroundings) : TokenSet :=
  (s.contextual ++ [s.logicalOr, s.escape, s.regexPattern]).foldl
    (fun set t => set ||| TokenSet.single t) 0

end Surroundings

/-- The symbols of a grammar: first the tokens that depend on what surrounds them, then the others. -/
def symbolOrder (g : Analysis) (s : Surroundings) : Array Nat :=
  let others := (List.range g.grammar.symbols.size).filter fun n => !s.contextual.contains n
  (s.contextual ++ others).toArray

def surroundings (p : Productions) : Surroundings :=
  let tokens := (p.symbols.extract 0 p.tokenCount).toList
  let token (name : String) : Nat := (tokens.findIdx? fun t => t.name = name).getD 0
  { automaticSemicolon := token "_automatic_semicolon"
    signatureSemicolon := token "_function_signature_automatic_semicolon"
    templateChars := token "_template_chars"
    ternaryMark := token "_ternary_qmark"
    htmlComment := token "html_comment"
    logicalOr := token "||"
    escape := token "escape_sequence"
    regexPattern := token "regex_pattern"
    markupText := tokens.findIdx? fun t => t.name = "jsx_text" }

def lexer (p : Productions) (s : Surroundings) : Lexer :=
  let tokens := (p.symbols.extract 0 p.tokenCount).toList.zipIdx
  let keywords := tokens.filterMap fun (t, i) =>
    t.text.bind fun text => if isWord text then some (text, i) else none
  let keywordTable := Std.HashMap.ofList keywords
  let keywordSet := keywords.foldl (fun s k => s ||| TokenSet.single k.2) 0
  let lexemes := tokens.filterMap fun (t, i) =>
    match t.text with
    | some text =>
        if isWord text then none
        else some { symbol := i, reader := after text.toList, isLiteral := true : Lexeme }
    | none => (readerOf t.name).map fun (reader, isImmediate, strength) =>
        { symbol := i, reader, isImmediate, strength }
  let lexemes := lexemes.toArray
  let skippable := lexemes.foldl (fun s l =>
    if tooGeneral.contains (p.symbols.getD l.symbol default).name then s
    else s ||| TokenSet.single l.symbol) 0
  { contextual := contextual s
    -- where a keyword is allowed, words are read
    plain := fun allowed =>
      let hasKeyword := allowed &&& keywordSet ≠ 0
      plain lexemes (if hasKeyword then allowed ||| TokenSet.single p.word else allowed)
    skipBlanks
    whileSkipping := skippable
    keyword? := fun source t =>
      keywordTable[String.ofList (source.chars.extract t.start t.stop).toList]? }

/-- A state comes to expect no token that depends on what surrounds it, and none that tells places
apart: their readers go by what is expected. -/
def Dialect.language (dialect : Dialect) : Language :=
  let analysis := dialect.grammar.productions.analyse
  let s := surroundings analysis.grammar
  let compatibility := { fixed := s.all, rivals := rivals analysis : Compatibility }
  { analysis
    automaton := Automaton.ofAnalysis analysis compatibility (symbolOrder analysis s)
    lexer := lexer analysis.grammar s }

end TypeGuards.TypeScript
