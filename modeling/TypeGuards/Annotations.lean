import TypeGuards.Declaration
/-!
Resolution of annotations to primitive types. Each kind of annotation has at most one resolver; the
one registered first stays.
-/
namespace TypeGuards

structure Unsupported where
  actual : String
  expected : String
  context : String
  interface : Option String := none
  line : Option Int := none
deriving DecidableEq, Repr, Inhabited

inductive ResolutionError where
  | unsupported (u : Unsupported)
  /-- A resolver named a type that is no primitive type. -/
  | notPrimitive (name : String)
  /-- An error of another kind, as a resolver raises it. -/
  | other (kind message : String)
deriving DecidableEq, Repr, Inhabited

abbrev KindResolver := Annotation → Except ResolutionError Primitive

/-- The resolvers by the kind of annotation they are for, in order of registration. -/
structure Resolvers where
  entries : List (String × KindResolver)

namespace Resolvers

def context : String := "a property type annotation"

def keyword : KindResolver
  | .keyword type _ => .ok type
  | .other c => .error (.unsupported
      { actual := c.kind, expected := "KeywordType", context, line := some c.line })

def keywordsOnly : Resolvers := ⟨[("KeywordType", keyword)]⟩

instance : Inhabited Resolvers := ⟨keywordsOnly⟩

def kinds (r : Resolvers) : List String := r.entries.map (·.1)

def resolver? (r : Resolvers) (kind : String) : Option KindResolver := r.entries.lookup kind

/-- Adds a resolver; gives the kind back if it has one already. -/
def register (r : Resolvers) (kind : String) (resolver : KindResolver) : Except String Resolvers :=
  match r.resolver? kind with
  | some _ => .error kind
  | none => .ok ⟨r.entries ++ [(kind, resolver)]⟩

def resolve (r : Resolvers) (a : Annotation) : Except ResolutionError Primitive :=
  match r.resolver? a.kind with
  | some resolver => resolver a
  | none => .error (.unsupported
      { actual := a.kind, expected := String.intercalate " | " r.kinds, context, line := some a.line })

end Resolvers

end TypeGuards
