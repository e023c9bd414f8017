import TypeGuards.Data
/-!
What can be wrong with a value of a given shape, and where in the value it is.
-/
namespace TypeGuards

inductive Defect where
  | missing
  | notText
  | unreadableText
  | emptyText
  | notInteger
  | unparsableInteger
  | fractional
  | notFinite
  | notBoolean
  | unparsableBoolean
  | notList
  | notRecord (shape : String)
  | notOneOf (allowed : List String)
  | notPath
  | unknownField
  | keyNotText
  | refused (reason : String)
deriving DecidableEq, Repr, Inhabited

/-- Alternatives in quotes: commas between them, `or` before the last. -/
def alternatives : List String → String
  | [] => ""
  | [a] => s!"'{a}'"
  | [a, b] => s!"'{a}' or '{b}'"
  | a :: rest => s!"'{a}', {alternatives rest}"

namespace Defect

def code : Defect → String
  | missing => "missing"
  | notText => "string_type"
  | unreadableText => "string_unicode"
  | emptyText => "string_too_short"
  | notInteger => "int_type"
  | unparsableInteger => "int_parsing"
  | fractional => "int_from_float"
  | notFinite => "finite_number"
  | notBoolean => "bool_type"
  | unparsableBoolean => "bool_parsing"
  | notList => "list_type"
  | notRecord _ => "model_type"
  | notOneOf _ => "enum"
  | notPath => "path_type"
  | unknownField => "extra_forbidden"
  | keyNotText => "invalid_key"
  | refused _ => "value_error"

def message : Defect → String
  | missing => "Field required"
  | notText => "Input should be a valid string"
  | unreadableText =>
      "Input should be a valid string, unable to parse raw data as a unicode string"
  | emptyText => "String should have at least 1 character"
  | notInteger => "Input should be a valid integer"
  | unparsableInteger => "Input should be a valid integer, unable to parse string as an integer"
  | fractional => "Input should be a valid integer, got a number with a fractional part"
  | notFinite => "Input should be a finite number"
  | notBoolean => "Input should be a valid boolean"
  | unparsableBoolean => "Input should be a valid boolean, unable to interpret input"
  | notList => "Input should be a valid list"
  | notRecord shape => s!"Input should be a valid dictionary or instance of {shape}"
  | notOneOf allowed => s!"Input should be {alternatives allowed}"
  | notPath => "Input is not a valid path for <class 'pathlib.Path'>"
  | unknownField => "Extra inputs are not permitted"
  | keyNotText => "Keys should be strings"
  | refused reason => s!"Value error, {reason}"

end Defect

inductive Step where
  | field (name : String)
  | index (place : Nat)
deriving DecidableEq, Repr, Inhabited

structure Finding where
  place : List Step := []
  defect : Defect
  value : Data
deriving Repr, Inhabited

namespace Finding

def under (step : Step) (f : Finding) : Finding := { f with place := step :: f.place }

end Finding

/-- A value of a shape, or all that is wrong with it. -/
abbrev Checked := Except (List Finding)

namespace Checked

def fault (defect : Defect) (value : Data) : Checked α := .error [{ defect, value }]

def under (step : Step) : Checked α → Checked α
  | .ok a => .ok a
  | .error fs => .error (fs.map (·.under step))

/-- Checks two parts, both in any case. -/
def both : Checked α → Checked β → Checked (α × β)
  | .ok a, .ok b => .ok (a, b)
  | .ok _, .error fs => .error fs
  | .error fs, .ok _ => .error fs
  | .error fs, .error gs => .error (fs ++ gs)

/-- Checks all parts of a list, the first of them at a place. -/
def listFrom (check : Data → Checked α) (place : Nat) : List Data → Checked (List α)
  | [] => .ok []
  | d :: rest =>
      match both ((check d).under (.index place)) (listFrom check (place + 1) rest) with
      | .ok (a, as) => .ok (a :: as)
      | .error fs => .error fs

end Checked

end TypeGuards
