import TypeGuards.Primitive
/-!
Interfaces and the merging of their declarations. A property has a name, a type where one is known,
and may be optional; interfaces keep their properties in order of declaration.
-/
namespace TypeGuards

structure Property where
  name : String
  kind : Option Primitive := none
  optional : Bool := false
deriving DecidableEq, Repr, Inhabited

structure Interface where
  name : String
  properties : List Property := []
  line : Option Int := none
deriving DecidableEq, Repr, Inhabited

/-- Two declarations of a property that differ in type or in being optional. -/
structure Conflict where
  interface : String
  property : String
  line : Option Int
deriving DecidableEq, Repr, Inhabited

namespace Interface

/-- The last property of a name. -/
def property? (properties : List Property) (name : String) : Option Property :=
  properties.reverse.find? (·.name = name)

/-- Appends a property that is new, keeps the list for one that is known, and refuses one that is
known differently. -/
def addProperty (interface : String) (line : Option Int) (properties : List Property)
    (p : Property) : Except Conflict (List Property) :=
  match property? properties p.name with
  | none => .ok (properties ++ [p])
  | some q => if q = p then .ok properties else .error ⟨interface, p.name, line⟩

def merge (first later : Interface) : Except Conflict Interface := do
  let properties ← later.properties.foldlM (addProperty first.name later.line) first.properties
  return { first with properties }

end Interface

end TypeGuards
