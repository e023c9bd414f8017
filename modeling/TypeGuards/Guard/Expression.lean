/-!
The expressions and statements that guards are made of, and how they are written.
-/
namespace TypeGuards

inductive Expression where
  | name (text : String)
  | null
  | undefined
  | text (value : String)
  | member (object : Expression) (key : String)
  | typeOf (value : Expression)
  | isIn (key : String) (object : Expression)
  | not (value : Expression)
  | and (first second : Expression)
  | or (first second : Expression)
  | equal (first second : Expression)
  | differ (first second : Expression)
deriving DecidableEq, Repr, Inhabited

namespace Expression

/-- What is negated stands in parentheses; the other operators occur only where none are needed. -/
def render : Expression → String
  | name t => t
  | null => "null"
  | undefined => "undefined"
  | text v => "\"" ++ v ++ "\""
  | member o k => o.render ++ "." ++ k
  | typeOf v => "typeof " ++ v.render
  | isIn k o => "\"" ++ k ++ "\" in " ++ o.render
  | not v => "!(" ++ v.render ++ ")"
  | and a b => a.render ++ " && " ++ b.render
  | or a b => a.render ++ " || " ++ b.render
  | equal a b => a.render ++ " === " ++ b.render
  | differ a b => a.render ++ " !== " ++ b.render

end Expression

inductive Statement where
  | refuseIf (condition : Expression)
  | bindRecord
  | accept
deriving DecidableEq, Repr, Inhabited

def Statement.lines : Statement → List String
  | refuseIf c => ["  if (" ++ c.render ++ ") \x7b", "    return false;", "  \x7d"]
  | bindRecord => ["  const record = value as Record<string, unknown>;"]
  | accept => ["  return true;"]

end TypeGuards
