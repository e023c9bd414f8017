import TypeGuards.Guard.Expression
import TypeGuards.Interface
import TypeGuards.Text.Case
/-!
Type guards for interfaces. A guard refuses everything that is no object, then checks each property
in order of declaration: that it is there, and that it has the type stated for it, where that type
can be told at run time.
-/
namespace TypeGuards

inductive GenerationError where
  | emptyName
  /-- Two interfaces whose guards would have one name. -/
  | collision (first second guard : String)
deriving DecidableEq, Repr, Inhabited

def GenerationError.message : GenerationError → String
  | emptyName => "Cannot name a guard for an interface without a name"
  | collision first second guard =>
      s!"Interfaces '{first}' and '{second}' would both generate {guard}"

/-- The name of the guard of an interface: its own with the first letter in upper case. -/
def guardName (interface : String) : Except GenerationError String :=
  match interface.toList with
  | [] => .error .emptyName
  | c :: rest => .ok (String.ofList ('i' :: 's' :: Text.upperChar c ++ rest))

/-- The type tag of the values of a type, where it tells them apart. -/
def Primitive.tag? : Primitive → Option String
  | .string => some "string"
  | .number => some "number"
  | .boolean => some "boolean"
  | .bigint => some "bigint"
  | .symbol => some "symbol"
  | .undefined => some "undefined"
  | _ => none

/-- A condition that holds when a value does not have a type; none if nothing can be told. -/
def mismatch (value : Expression) : Option Primitive → Option Expression
  | none => none
  | some .null => some (.differ value .null)
  | some p => p.tag?.map fun tag => .differ (.typeOf value) (.text tag)

def subject : Expression := .name "value"

def record : Expression := .name "record"

namespace Property

/-- The condition under which a property is at fault; none if it never is. -/
def fault (p : Property) : Option Expression :=
  let value := .member record p.name
  let absent := Expression.not (.isIn p.name record)
  match p.optional, mismatch value p.kind with
  | true, none => none
  | true, some wrong => some (.and (.differ value .undefined) wrong)
  | false, none => some absent
  | false, some wrong => some (.or absent wrong)

end Property

def Interface.checks (i : Interface) : List Statement :=
  [.refuseIf (.or (.equal subject .null) (.equal subject .undefined)),
   .refuseIf (.differ (.typeOf subject) (.text "object"))]
  ++ (if i.properties.isEmpty then [] else [.bindRecord])
  ++ (i.properties.filterMap Property.fault).map .refuseIf
  ++ [.accept]

structure Guard where
  name : String
  interface : String
  body : List Statement
deriving DecidableEq, Repr, Inhabited

def Interface.guard (i : Interface) : Except GenerationError Guard := do
  return { name := ← guardName i.name, interface := i.name, body := i.checks }

def Guard.lines (g : Guard) : List String :=
  ["/**",
   s!" * Ensures that value is a {g.interface} interface.",
   " * @param value To check.",
   s!" * @returns True if value is {g.interface}, false otherwise.",
   " */",
   s!"export function {g.name}(value: unknown): value is {g.interface} \x7b"]
  ++ g.body.flatMap Statement.lines
  ++ ["\x7d"]

def Guard.render (g : Guard) : String := String.intercalate "\n" g.lines ++ "\n"

def guards (interfaces : List Interface) : Except GenerationError (List Guard) :=
  interfaces.mapM Interface.guard

/-- Refuses interfaces of which two have guards of one name; `taken` holds the guards before with
their interfaces. -/
def checkGuardNames (taken : List (String × String)) : List Interface → Except GenerationError Unit
  | [] => .ok ()
  | i :: rest => do
      let name ← guardName i.name
      match taken.lookup name with
      | some first => .error (.collision first i.name name)
      | none => checkGuardNames ((name, i.name) :: taken) rest

def banner : String := "// Code generated by tsguard. DO NOT EDIT."

def importLine (interfaces : List Interface) (specifier : String) : String :=
  let names := String.intercalate ", " (interfaces.map (·.name))
  s!"import type \x7b {names} \x7d from \"{specifier}\";"

def guardModule (interfaces : List Interface) (specifier : String) : Except GenerationError String :=
  if interfaces.isEmpty then .ok (banner ++ "\n")
  else do
    checkGuardNames [] interfaces
    let texts := (← guards interfaces).map Guard.render
    return String.intercalate "\n" ((banner ++ "\n") :: (importLine interfaces specifier ++ "\n") :: texts)

end TypeGuards
