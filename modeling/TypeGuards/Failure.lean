import TypeGuards.Encoding.Error
import TypeGuards.Files
import TypeGuards.Guard
import TypeGuards.TypeScript.Modules
/-!
Failures as they are reported: a title, a headline, and what is known of the failure as labelled
rows.
-/
namespace TypeGuards

inductive ReadCause where
  | access (e : AccessError)
  | undecodable (e : Encoding.DecodeError)
  | stated (text : String)
deriving DecidableEq, Repr, Inhabited

def ReadCause.message : ReadCause → String
  | access e => e.message
  | undecodable e => e.message
  | stated text => text

inductive Failure where
  /-- Called without files that can be used; `missing` are those named that do not exist. -/
  | usage (message : String) (missing : List Path)
  | unreadable (path : Path) (cause : ReadCause)
  | dialect (message : String)
  | notParsed (message : String) (line : Option Int)
  | extraction (message : String)
  | unsupported (construct : Unsupported)
  | conflict (conflict : Conflict)
  | generation (message : String)
  | configuration (message : String)
  | other (message : String)
deriving DecidableEq, Repr, Inhabited

def located (message : String) (locations : List String) : String :=
  if locations.isEmpty then message
  else message ++ " (" ++ String.intercalate ", " locations ++ ")"

def lineLocation (line : Option Int) : List String := (line.map fun l => s!"line {l}").toList

namespace Unsupported

/-- The enclosing interface where it is known and has a name. -/
def enclosing (u : Unsupported) : Option String := u.interface.filter (· ≠ "")

def message (u : Unsupported) : String :=
  located s!"encountered {u.context} of kind '{u.actual}' but expected '{u.expected}'"
    ((u.enclosing.map fun i => s!"interface '{i}'").toList ++ lineLocation u.line)

end Unsupported

def Conflict.message (c : Conflict) : String :=
  let whatDiffers := "is redeclared with a different type or optionality"
  located s!"property '{c.property}' of interface '{c.interface}' {whatDiffers}" (lineLocation c.line)

namespace Failure

def message : Failure → String
  | usage m _ => m
  | unreadable path cause => s!"Failed to open {path}: {cause.message}"
  | dialect m => m
  | notParsed m line => located m (lineLocation line)
  | extraction m => m
  | unsupported u => u.message
  | conflict c => c.message
  | generation m => m
  | configuration m => m
  | other m => m

def title : Failure → String
  | usage _ _ => "Invalid usage"
  | unreadable _ _ => "Cannot read source"
  | notParsed _ _ => "Syntax error"
  | extraction _ | unsupported _ | conflict _ => "Extraction failed"
  | generation _ => "Generation failed"
  | configuration _ => "Invalid configuration"
  | dialect _ | other _ => "Guard generation failed"

def lineRow (line : Option Int) : List (String × String) :=
  (line.map fun l => ("Line", toString l)).toList

def rows : Failure → List (String × String)
  | usage _ missing => missing.map fun path => ("Missing", path.toString)
  | unreadable path cause => [("File", path.toString), ("Cause", cause.message)]
  | notParsed _ line => lineRow line
  | unsupported u =>
      (u.enclosing.map fun i => ("Interface", i)).toList ++
        [("Found", u.actual), ("Expected", u.expected)] ++ lineRow u.line
  | conflict c => [("Interface", c.interface), ("Property", c.property)] ++ lineRow c.line
  | _ => []

/-- The failure in one sentence, without what the rows say. -/
def headline : Failure → String
  | usage m missing => if missing.isEmpty then m else "Input file(s) not found"
  | unreadable _ _ => "Failed to open source file"
  | notParsed m _ => m
  | unsupported u => s!"Unsupported syntax: {u.context}"
  | conflict _ => "Merged declarations disagree on a property"
  | failure => failure.message

end Failure

def GenerationError.failure (e : GenerationError) : Failure := .generation e.message

end TypeGuards
