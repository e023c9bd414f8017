import TypeGuards.Declaration
import TypeGuards.Document
/-!
The outline of a module: its declarations as a document.
-/
namespace TypeGuards

def Construct.outline (c : Construct) : Document :=
  .record [("kind", .text c.kind), ("text", .text c.text), ("line", .int c.line)]

def DeclaredName.outline : DeclaredName → Document
  | identifier value line =>
      .record [("kind", .text "Identifier"), ("value", .text value), ("line", .int line)]
  | other c => c.outline

def Annotation.outline : Annotation → Document
  | keyword type line =>
      .record [("kind", .text "KeywordType"), ("keyword", .text type.name), ("line", .int line)]
  | other c => c.outline

def outlineOr (outline : α → Document) : Option α → Document
  | some a => outline a
  | none => .null

def Member.outline : Member → Document
  | property s =>
      .record
        [("kind", .text "PropertySignature"), ("key", s.key.outline), ("optional", .bool s.optional),
         ("type_annotation", outlineOr Annotation.outline s.annotation), ("line", .int s.line)]
  | other c => c.outline

def InterfaceDeclaration.outline (d : InterfaceDeclaration) : Document :=
  .record
    [("kind", .text "InterfaceDeclaration"), ("id", d.name.outline),
     ("type_parameters", outlineOr Construct.outline d.typeParameters),
     ("extends", .list (d.heritage.map Construct.outline)),
     ("body", .record
        [("kind", .text "InterfaceBody"), ("body", .list (d.members.map Member.outline)),
         ("line", .int d.bodyLine)]),
     ("line", .int d.line)]

def ModuleItem.outline : ModuleItem → Document
  | interface d => d.outline
  | other c => c.outline

def Module.outline (m : Module) : Document :=
  .record
    [("kind", .text "Module"), ("body", .list (m.items.map ModuleItem.outline)), ("line", .int m.line)]

end TypeGuards
