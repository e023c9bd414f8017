import TypeGuards.Text.Case
import TypeGuards.Text.Parts
/-!
The kinds of constructs, named after the types of syntax tree nodes.
-/
namespace TypeGuards

/-- Node types whose kind does not follow from their name. -/
def irregularKinds : List (String × String) :=
  [("program", "Module"),
   ("string", "StringLiteral"),
   ("number", "NumericLiteral"),
   ("type_identifier", "TypeReference"),
   ("generic_type", "TypeReference"),
   ("nested_type_identifier", "TypeReference"),
   ("object_type", "TypeLiteral"),
   ("lexical_declaration", "VariableDeclaration"),
   ("internal_module", "ModuleDeclaration"),
   ("module", "ModuleDeclaration"),
   ("import_statement", "ImportDeclaration"),
   ("export_statement", "ExportDeclaration"),
   ("ambient_declaration", "AmbientDeclaration"),
   ("extends_type_clause", "ExtendsClause")]

/-- The kind of a node type: its parts, which underscores separate, each capitalised. -/
def kindName (nodeType : String) : String :=
  match irregularKinds.lookup nodeType with
  | some kind => kind
  | none => String.ofList ((Text.partsBetween '_' nodeType.toList).flatMap Text.capitalize)

end TypeGuards
