import TypeGuards.Declaration.OfTree
import TypeGuards.Extraction
import TypeGuards.Path
import TypeGuards.TypeScript.Parse
/-!
The interfaces of a TypeScript source text.
-/
namespace TypeGuards.TypeScript

namespace Dialect

def all : List Dialect := [typescript, tsx]

def name : Dialect → String
  | typescript => "typescript"
  | tsx => "tsx"

def ofName? (text : String) : Option Dialect := all.find? (·.name = text)

/-- The dialect of a file: that of its suffix in any case, plain where the suffix tells nothing. -/
def ofPath (p : Path) : Dialect :=
  if Text.lower p.suffix.toList = ['.', 't', 's', 'x'] then tsx else typescript

end Dialect

abbrev Parser := Dialect → String → Tree

inductive SourceError where
  /-- The first part of the text that fits no rule: the type of its node and its line. -/
  | notTypeScript (node : String) (line : Nat)
  | extraction (e : ExtractionError)
  /-- The span of a node cuts a character. -/
  | undecodable (e : Encoding.DecodeError)
deriving DecidableEq, Repr, Inhabited

/-- A tree without errors, or the line of the first error. -/
def checkTree (t : Tree) : Except SourceError Tree :=
  match t.firstError? with
  | some e => .error (.notTypeScript e.type e.line)
  | none => .ok t

structure Extracted where
  module : Module
  interfaces : List Interface
deriving DecidableEq, Repr, Inhabited

def moduleOf (source : List UInt8) (t : Tree) : Except SourceError Module :=
  (Module.ofTree source t).mapError .undecodable

def readModule (dialect : Dialect) (text : String) (parser : Parser := Dialect.parse) :
    Except SourceError Module := do
  let t ← checkTree (parser dialect text)
  moduleOf (Encoding.Utf8.encode text.toList) t

def interfacesOf (resolvers : Resolvers) (module : Module) : Except SourceError (List Interface) :=
  (Extraction.all resolvers module.items).mapError .extraction

def extract (dialect : Dialect) (resolvers : Resolvers) (text : String)
    (parser : Parser := Dialect.parse) : Except SourceError Extracted := do
  let module ← readModule dialect text parser
  return { module, interfaces := ← interfacesOf resolvers module }

end TypeGuards.TypeScript
