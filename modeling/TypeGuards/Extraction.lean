import TypeGuards.Annotations
import TypeGuards.Interface
/-!
Extraction of interfaces from the items of a module. The first construct that cannot be part of an
interface ends it. Declarations of one name are merged; the result keeps the order of the first
declarations.
-/
namespace TypeGuards

inductive Unnamed where
  | property
  | interface
deriving DecidableEq, Repr, Inhabited

inductive ExtractionError where
  | unsupported (u : Unsupported)
  | conflict (c : Conflict)
  | emptyName (what : Unnamed)
  | notPrimitive (name : String)
  | other (kind message : String)
deriving DecidableEq, Repr, Inhabited

namespace Extraction

def refuse (c : Construct) (expected context : String) (interface : Option String) :
    Except ExtractionError α :=
  .error (.unsupported
    { actual := c.kind, expected, context, interface, line := some c.line })

def locate (interface property : String) : ResolutionError → ExtractionError
  | .unsupported u => .unsupported
      { u with context := s!"{u.context} on '{property}'", interface := some interface }
  | .notPrimitive name => .notPrimitive name
  | .other kind message => .other kind message

def kindOf (resolvers : Resolvers) (interface property : String) :
    Option Annotation → Except ExtractionError (Option Primitive)
  | none => .ok none
  | some a =>
      match resolvers.resolve a with
      | .ok k => .ok (some k)
      | .error e => .error (locate interface property e)

def property (resolvers : Resolvers) (interface : String) : Member → Except ExtractionError Property
  | .other c => refuse c "PropertySignature" "an interface body member" (some interface)
  | .property s =>
      match s.key with
      | .other c => refuse c "Identifier" "a property key" (some interface)
      | .identifier name _ => do
          let kind ← kindOf resolvers interface name s.annotation
          if name = "" then .error (.emptyName .property)
          else .ok { name, kind, optional := s.optional }

def interface (resolvers : Resolvers) (d : InterfaceDeclaration) : Except ExtractionError Interface :=
  match d.name with
  | .other c => refuse c "Identifier" "an interface name" none
  | .identifier name _ =>
      match d.typeParameters, d.heritage with
      | some c, _ => refuse c "InterfaceBody" "a generic type parameter list" (some name)
      | none, c :: _ => refuse c "InterfaceBody" "an interface heritage clause" (some name)
      | none, [] => do
          let properties ← d.members.mapM (property resolvers name)
          if name = "" then .error (.emptyName .interface)
          else .ok { name, properties, line := some d.line }

/-- Adds an interface to those before it, merging it into the one of its name. -/
def add (new : Interface) : List Interface → Except ExtractionError (List Interface)
  | [] => .ok [new]
  | i :: rest =>
      if i.name = new.name then
        match i.merge new with
        | .ok m => .ok (m :: rest)
        | .error c => .error (.conflict c)
      else do
        let rest ← add new rest
        .ok (i :: rest)

def step (resolvers : Resolvers) (found : List Interface) : ModuleItem →
    Except ExtractionError (List Interface)
  | .other _ => .ok found
  | .interface d => do
      let new ← interface resolvers d
      add new found

/-- The interfaces of some items, in order of their first declarations. -/
def all (resolvers : Resolvers) (items : List ModuleItem) : Except ExtractionError (List Interface) :=
  items.foldlM (step resolvers) []

end Extraction

end TypeGuards
