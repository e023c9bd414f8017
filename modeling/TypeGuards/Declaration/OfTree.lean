import TypeGuards.Declaration
import TypeGuards.Declaration.Kind
import TypeGuards.Encoding.Utf8
import TypeGuards.Text.Blank
import TypeGuards.Tree
/-!
The declarations of a module, read from its syntax tree and the bytes it was parsed from. An
interface is found as it stands and inside `export`, `declare` or both; everything else is kept as a
construct.
-/
namespace TypeGuards

open Encoding

abbrev Reading := Except DecodeError

/-- The text of a node. A span that ends beyond the text is cut short. -/
def Tree.text (source : List UInt8) (t : Tree) : Reading String := do
  let chars ← Utf8.decode ((source.drop t.start).take (t.stop - t.start))
  return String.ofList chars

namespace Construct

def ofTree (source : List UInt8) (t : Tree) : Reading Construct := do
  return { kind := kindName t.type, text := ← t.text source, line := t.line }

end Construct

def Tree.interface? : Tree → Option Tree
  | ⟨type, start, stop, row, isNamed, field, isMissing, hasError, children⟩ =>
      let t : Tree := ⟨type, start, stop, row, isNamed, field, isMissing, hasError, children⟩
      if type = "interface_declaration" then some t
      else
        let exported := if type = "export_statement" then declared? children else none
        match exported with
        | some i => some i
        | none =>
            if type = "ambient_declaration" then
              match t.namedChildren with
              | [d] => if d.type = "interface_declaration" then some d else none
              | _ => none
            else none
where
  /-- The interface in the first child that is the declaration of its parent. -/
  declared? : List Tree → Option Tree
    | [] => none
    | c :: rest => if c.field = some "declaration" then c.interface? else declared? rest

def Tree.isTrivial (t : Tree) : Bool := ["comment", ";", ","].contains t.type

def DeclaredName.ofTree (source : List UInt8) (nodeType : String) (parent : Tree) (name : Option Tree) :
    Reading DeclaredName :=
  match name with
  | some n => do
      if n.type = nodeType then return .identifier (← n.text source) n.line
      else return .other (← Construct.ofTree source n)
  | none => return .other (← Construct.ofTree source parent)

def literalKeywords : List String := ["null", "undefined"]

def Tree.keyword? (t : Tree) (text : String) : Option Primitive :=
  let spelled := Primitive.ofName? (String.ofList (Text.trim text.toList))
  let own := if literalKeywords.contains t.type then Primitive.ofName? t.type else none
  if t.type = "predefined_type" && spelled.isSome then spelled
  else if t.type = "type_identifier" && (spelled = some .bigint || spelled = some .undefined) then
    spelled
  else if t.type = "literal_type" then
    match t.namedChildren with
    | [c] => if literalKeywords.contains c.type then Primitive.ofName? c.type else none
    | _ => none
  else own

def Annotation.ofTree (source : List UInt8) (t : Tree) : Reading Annotation := do
  let text ← t.text source
  match t.keyword? text with
  | some p => return .keyword p t.line
  | none => return .other { kind := kindName t.type, text, line := t.line }

def Member.ofTree (source : List UInt8) (t : Tree) : Reading Member := do
  if t.type ≠ "property_signature" then return .other (← Construct.ofTree source t)
  else
    let key ← DeclaredName.ofTree source "property_identifier" t (t.child? "name")
    let annotation ← match t.child? "type" with
      | some a => some <$> Annotation.ofTree source (a.namedChildren.getLastD a)
      | none => pure none
    let optional := t.children.any (·.type = "?")
    return .property { key, optional, annotation, line := t.line }

namespace InterfaceDeclaration

/-- The body of an interface: the child in that role, else the first that looks like one. -/
def body? (t : Tree) : Option Tree :=
  (t.child? "body").or <|
    (t.children.find? (·.type = "interface_body")).or (t.children.find? (·.type = "object_type"))

def ofTree (source : List UInt8) (t : Tree) : Reading InterfaceDeclaration := do
  let name ← DeclaredName.ofTree source "type_identifier" t (t.child? "name")
  let typeParameters ← (t.child? "type_parameters").mapM (Construct.ofTree source)
  let clauses (type : String) := t.children.filter (·.type = type)
  let heritage ← (clauses "extends_type_clause" ++ clauses "extends_clause").mapM
    (Construct.ofTree source)
  let inside := ((body? t).map (·.namedChildren)).getD []
  let members ← (inside.filter (!·.isTrivial)).mapM (Member.ofTree source)
  return { name, typeParameters, heritage, members
           bodyLine := ((body? t).getD t).line, line := t.line }

end InterfaceDeclaration

def ModuleItem.ofTree (source : List UInt8) (t : Tree) : Reading ModuleItem :=
  match t.interface? with
  | some i => .interface <$> InterfaceDeclaration.ofTree source i
  | none => .other <$> Construct.ofTree source t

def Module.ofTree (source : List UInt8) (t : Tree) : Reading Module := do
  return { items := ← t.namedChildren.mapM (ModuleItem.ofTree source), line := t.line }

end TypeGuards
