import TypeGuards.Primitive
/-!
The declarations of a module, as far as extraction understands them. Interfaces have a shape; every
other construct keeps its kind and its text.
-/
namespace TypeGuards

structure Construct where
  kind : String
  text : String
  line : Int
deriving DecidableEq, Repr, Inhabited

inductive DeclaredName where
  | identifier (text : String) (line : Int)
  | other (construct : Construct)
deriving DecidableEq, Repr, Inhabited

inductive Annotation where
  | keyword (type : Primitive) (line : Int)
  | other (construct : Construct)
deriving DecidableEq, Repr, Inhabited

namespace Annotation

def kind : Annotation → String
  | keyword _ _ => "KeywordType"
  | other c => c.kind

def line : Annotation → Int
  | keyword _ l => l
  | other c => c.line

end Annotation

structure PropertySignature where
  key : DeclaredName
  optional : Bool := false
  annotation : Option Annotation := none
  line : Int
deriving DecidableEq, Repr, Inhabited

inductive Member where
  | property (signature : PropertySignature)
  | other (construct : Construct)
deriving DecidableEq, Repr, Inhabited

structure InterfaceDeclaration where
  name : DeclaredName
  typeParameters : Option Construct := none
  heritage : List Construct := []
  members : List Member
  bodyLine : Int
  line : Int
deriving DecidableEq, Repr, Inhabited

inductive ModuleItem where
  | interface (declaration : InterfaceDeclaration)
  | other (construct : Construct)
deriving DecidableEq, Repr, Inhabited

structure Module where
  items : List ModuleItem
  line : Int
deriving DecidableEq, Repr, Inhabited

end TypeGuards
