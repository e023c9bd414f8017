import TypeGuards.Tree
import TypeGuards.TypeScript.Language
/-!
Parsing TypeScript into concrete syntax trees. The result is a tree for every text; a text that is
not TypeScript has nodes in it that mark errors.
-/
namespace TypeGuards.TypeScript

open Grammar Parsing

/-- Gives a role to the first tree that has none. -/
def assignField (field : Option String) : List Tree → List Tree
  | [] => []
  | t :: rest => { t with field := t.field.or field } :: rest

def stepAt (g : Analysis) (production : Option Nat) (place : Nat) : Option (Step Nat) :=
  production.bind fun p => (g.grammar.productions.getD p default).steps[place]?

mutual

/-- The nodes that a branch shows: itself, or what its children show. -/
def shownBy (g : Analysis) (source : Source) (label : Option Label) : Branch → List Tree
  | ⟨kind, extent, production, isVisible, _, isMissing, _, errorCost, _, _, _, children⟩ =>
      let below := shownByAll g source production 0 children
      let info := match kind with
        | .symbol n => g.grammar.symbols.getD n default
        | _ => { name := "ERROR", text := none, isVisible := true, isNamed := true, isRepetition := false }
      if isVisible || label.isSome then
        [{ type := (label.map (·.name)).getD info.name
           start := source.offset extent.start
           stop := source.offset extent.stop
           row := source.row extent.start
           isNamed := (label.map (·.isNamed)).getD info.isNamed
           field := none
           isMissing
           hasError := isMissing || errorCost > 0
           children := below }]
      else below

/-- The nodes that children show, the first of them at a place of a production. -/
def shownByAll (g : Analysis) (source : Source) (production : Option Nat) (place : Nat) :
    List Branch → List Tree
  | [] => []
  | b :: rest =>
      if b.isExtra then
        shownBy g source none b ++ shownByAll g source production place rest
      else
        let step := stepAt g production place
        assignField (step.bind (·.field)) (shownBy g source (step.bind (·.label)) b) ++
          shownByAll g source production (place + 1) rest

end

def plainLanguage : Thunk Language := Thunk.mk fun _ => Dialect.typescript.language

def markupLanguage : Thunk Language := Thunk.mk fun _ => Dialect.tsx.language

def Dialect.ready : Dialect → Language
  | .typescript => plainLanguage.get
  | .tsx => markupLanguage.get

def Dialect.parse (dialect : Dialect) (text : String) : Tree :=
  let language := dialect.ready
  let source := Source.ofString text
  (shownBy language.analysis source none (Parsing.parse language source)).headD default

end TypeGuards.TypeScript
