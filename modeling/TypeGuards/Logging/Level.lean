import TypeGuards.Text.Case
/-!
How urgent a record is. Levels are numbers, of which some have names; a setting of zero leaves the
level to someone else.
-/
namespace TypeGuards.Logging

inductive Level where
  | debug
  | info
  | warning
  | error
  | critical
deriving DecidableEq, Repr, Inhabited

namespace Level

def number : Level → Int
  | debug => 10
  | info => 20
  | warning => 30
  | error => 40
  | critical => 50

def name : Level → String
  | debug => "DEBUG"
  | info => "INFO"
  | warning => "WARNING"
  | error => "ERROR"
  | critical => "CRITICAL"

/-- The names that settings may use, two levels having a second one. -/
def numbers : List (String × Int) :=
  [("NOTSET", 0), ("DEBUG", 10), ("INFO", 20), ("WARN", 30), ("WARNING", 30), ("ERROR", 40),
   ("FATAL", 50), ("CRITICAL", 50)]

def number? (name : String) : Option Int := numbers.lookup name

/-- The name of a level as asked for, in any case. -/
def upperName (text : String) : String := String.ofList (Text.upper text.toList)

end Level

end TypeGuards.Logging
