import TypeGuards.Data.Printed
import TypeGuards.Encoding.Codec
import TypeGuards.Yaml.File
/-!
Why logging cannot be set up as asked for.
-/
namespace TypeGuards.Logging

inductive Misshape where
  | notIterable (typeName : String)
  | notAssignable (typeName : String)
  | notSubscriptable (typeName : String)
  /-- What a sequence is called, and the type that is no place in it. -/
  | notPlace (sequence typeName : String)
  | noPlaceInText (typeName : String)
  | beyondEnd (sequence : String)
  | noEntries (typeName : String)
  | notName (typeName : String)
  | notComparable (typeName other : String)
  /-- A mapping got a new key while its keys were gone through. -/
  | changedSize
deriving DecidableEq, Repr, Inhabited

namespace Misshape

def message : Misshape → String
  | notIterable t => s!"'{t}' object is not iterable"
  | notAssignable t => s!"'{t}' object does not support item assignment"
  | notSubscriptable t => s!"'{t}' object is not subscriptable"
  | notPlace sequence t => s!"{sequence} indices must be integers or slices, not {t}"
  | noPlaceInText t => s!"string indices must be integers, not '{t}'"
  | beyondEnd sequence => s!"{sequence}index out of range"
  | noEntries t => s!"'{t}' object has no attribute 'items'"
  | notName t => s!"attribute name must be string, not '{t}'"
  | notComparable t other => s!"'<' not supported between instances of '{t}' and '{other}'"
  | changedSize => "dictionary changed size during iteration"

/-- Whether the setup goes on with basic logging after it. -/
def isHandled : Misshape → Bool
  | beyondEnd _ | noEntries _ | changedSize => false
  | _ => true

end Misshape

inductive Part where
  | formatter
  | filter
  | handler
  | logger
deriving DecidableEq, Repr, Inhabited

def Part.name : Part → String
  | formatter => "formatter"
  | filter => "filter"
  | handler => "handler"
  | logger => "logger"

inductive Fault where
  | level (text : String)
  /-- A text that basic logging takes for the name of a level, though it is none. -/
  | notLevel (text : String)
  /-- A value that basic logging takes for a level, as it is shown. -/
  | notLevelType (shown : String)
  | notRecord (path : Path)
  | malformed (path : Path)
  | unreadable (path : Path) (e : AccessError)
  | access (e : AccessError)
  | undecodable (e : Encoding.DecodeError)
  | scalar (e : Yaml.ScalarError)
  | tooDeep
  | misshape (e : Misshape)
  | noVersion
  | version (value : Data)
  | unable (part : Part) (name : Data)
  | unableRoot
  | noHandler (name : Data)
deriving Repr, Inhabited

def shown : Data → String
  | .scalar (.text s) => s
  | d => d.printed

namespace Fault

def message : Fault → String
  | level text => s!"Invalid log level: {text}"
  | notLevel text => s!"Unknown level: {(Scalar.text text).printed}"
  | notLevelType shown => "Level not an integer or a valid string: " ++ shown
  | notRecord p => s!"Invalid configuration format in {p}"
  | malformed p => s!"Failed to parse YAML config {p}"
  | unreadable p e => s!"Failed to read config file {p}: {e.message}"
  | access e => e.message
  | undecodable e => e.message
  | scalar e => e.message
  | tooDeep => Yaml.tooDeepMessage
  | misshape e => e.message
  | noVersion => "dictionary doesn't specify a version"
  | version value => s!"Unsupported version: {shown value}"
  | unable part name => s!"Unable to configure {part.name} {name.printed}"
  | unableRoot => "Unable to configure root logger"
  | noHandler name => s!"No handler found with name {name.printed}"

def scalarIsHandled : Yaml.ScalarError → Bool
  | .emptyNumber | .notTimestamp => false
  | .character number => number ≤ Yaml.ScalarError.greatestCode
  | _ => true

def isHandled : Fault → Bool
  | access e => e.fault = .nullInPath
  | misshape e => e.isHandled
  | scalar e => scalarIsHandled e
  | tooDeep => false
  | _ => true

end Fault

end TypeGuards.Logging
