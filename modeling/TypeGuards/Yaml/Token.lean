/-!
The marks and words that a YAML text consists of. Indentation is made explicit by block tokens.
-/
namespace TypeGuards.Yaml

inductive Token where
  | version (major : Nat)
  | tagShorthand (handle meaning : String)
  | otherDirective
  | documentStart
  | documentEnd
  | blockSequence
  | blockMapping
  | blockEnd
  | listOpen
  | listClose
  | recordOpen
  | recordClose
  | comma
  | dash
  | key
  | value
  | reference (name : String)
  | anchor (name : String)
  | tag (handle : Option String) (rest : String)
  | scalar (isPlain : Bool) (text : String)
deriving DecidableEq, Repr, Inhabited

end TypeGuards.Yaml
