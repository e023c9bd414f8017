import TypeGuards.Interface
import TypeGuards.Validation.Shape
/-!
Interfaces stated as data.
-/
namespace TypeGuards

def Property.ofData (d : Data) : Checked Property := do
  let entries ← Checked.record "PropertyDefinition" d
  let name := Checked.requiredField entries "name" Checked.nonemptyText
  let kind := Checked.field entries "kind" none
    (Checked.optional (Checked.oneOf (Primitive.all.map (·.name)) Primitive.ofName?))
  let optional := Checked.field entries "optional" false Checked.boolean
  let (name, kind, optional) ← Checked.both name (Checked.both kind optional)
  return { name, kind, optional }

def Interface.ofData (d : Data) : Checked Interface := do
  let entries ← Checked.record "InterfaceDefinition" d
  let name := Checked.requiredField entries "name" Checked.nonemptyText
  let properties := Checked.field entries "properties" [] (Checked.list Property.ofData)
  let line := Checked.field entries "line" none (Checked.optional Checked.integer)
  let (name, properties, line) ← Checked.both name (Checked.both properties line)
  return { name, properties, line }

end TypeGuards
