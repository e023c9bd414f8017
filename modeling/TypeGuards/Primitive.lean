/-!
The primitive types that a property of an interface may have.
-/
namespace TypeGuards

inductive Primitive where
  | string
  | number
  | boolean
  | bigint
  | symbol
  | undefined
  | null
  | void
  | any
  | unknown
  | never
  | object
deriving DecidableEq, Repr, Inhabited

namespace Primitive

def all : List Primitive :=
  [string, number, boolean, bigint, symbol, undefined, null, void, any, unknown, never, object]

def name : Primitive → String
  | string => "string"
  | number => "number"
  | boolean => "boolean"
  | bigint => "bigint"
  | symbol => "symbol"
  | undefined => "undefined"
  | null => "null"
  | void => "void"
  | any => "any"
  | unknown => "unknown"
  | never => "never"
  | object => "object"

def ofName? (text : String) : Option Primitive := all.find? (·.name = text)

/-- The keyword of every type is read as that type. -/
theorem ofName?_name (p : Primitive) : ofName? p.name = some p := by cases p <;> decide

end Primitive

end TypeGuards
