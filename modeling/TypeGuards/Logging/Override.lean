import TypeGuards.Data.Store
import TypeGuards.Logging.Fault
import TypeGuards.Logging.Level
/-!
A level that is asked for on top of a setting: every logger and the root get it, and handlers that
would hold back its records get it too. It is put into the mappings where they are, so that it is seen
in all the places that share one.
-/
namespace TypeGuards.Logging

open Store (Value)

section

variable {α : Type}

/-- The name of a type where values of it are used in a wrong way. -/
def fullTypeName : Layer α → String
  | .scalar (.date _) => "datetime.date"
  | .scalar (.moment _) => "datetime.datetime"
  | d => d.typeName

/-- The values that are gone through one by one: the keys of a record, the parts of others. -/
def members (ofScalar : Scalar → α) : Layer α → Except Misshape (List α)
  | .list items => .ok items
  | .pair a b => .ok [a, b]
  | .set items => .ok (items.map ofScalar)
  | .map entries => .ok (entries.map fun e => ofScalar e.1)
  | .scalar (.text s) => .ok (s.toList.map fun c => ofScalar (.text (String.singleton c)))
  | .scalar (.bytes bs) => .ok (bs.map fun b => ofScalar (.int b.toNat))
  | d => .error (.notIterable (fullTypeName d))

/-- A place in a sequence; negative numbers count from its end. -/
def place? (size : Nat) (n : Int) : Option Nat :=
  let n := if n < 0 then n + size else n
  if 0 ≤ n && n < size then some n.toNat else none

def memberAt (sequence : String) (items : List α) (key : Layer α) : Except Misshape α :=
  match key with
  | .scalar k =>
      match k.integer? with
      | some n =>
          match (place? items.length n).bind (items[·]?) with
          | some d => .ok d
          | none => .error (.beyondEnd (if sequence = "byte" then "" else sequence ++ " "))
      | none => .error (.notPlace sequence (fullTypeName key))
  | _ => .error (.notPlace sequence (fullTypeName key))

def member (ofScalar : Scalar → α) (d key : Layer α) : Except Misshape α :=
  match d with
  | .list items => memberAt "list" items key
  | .pair a b => memberAt "tuple" [a, b] key
  | .scalar (.bytes bs) => memberAt "byte" (bs.map fun b => ofScalar (.int b.toNat)) key
  | .scalar (.text _) => .error (.noPlaceInText (fullTypeName key))
  | d => .error (.notSubscriptable (fullTypeName d))

end

/-- A change of a setting. What was changed before it failed stays changed. -/
abbrev Edit := ExceptT Misshape (StateM Store)

namespace Override

def unassignable : Layer Value → Misshape
  | .list _ => .notPlace "list" "str"
  | d => .notAssignable (fullTypeName d)

def withLevel (level : String) (m : Mapping) : Mapping :=
  m.insert (.text "level") (.scalar (.text level))

def setLevel (level : String) (v : Value) : Edit Unit := do
  let s ← get
  match s.mapping? v with
  | some (n, m) => set (s.put n (.map (withLevel level m)))
  | none => throw (unassignable (s.layer v))

/-- Puts a level into the members of a record under some keys, while it keeps its size. -/
def setLevelsUnder (level : String) (n size : Nat) : List Scalar → Edit Unit
  | [] => return ()
  | key :: rest => do
      setLevel level (((← get).mapping n).valueOf key)
      if ((← get).mapping n).entries.length ≠ size then throw .changedSize
      else setLevelsUnder level n size rest

/-- Puts a level into the members of a value that is no record, by the places that its members name. -/
def setLevelsAt (level : String) (v : Value) : List Value → Edit Unit
  | [] => return ()
  | key :: rest => do
      let s ← get
      setLevel level (← member Value.scalar (s.layer v) (s.layer key))
      setLevelsAt level v rest

/-- Puts a level into every member. Only records of records can be gone through to their end. -/
def setLevels (level : String) (v : Value) : Edit Unit := do
  let s ← get
  match s.mapping? v with
  | some (n, m) => setLevelsUnder level n m.entries.length (m.entries.map (·.1))
  | none => setLevelsAt level v (← members Value.scalar (s.layer v))

/-- Names that are no levels but of something that is not comparable with one, by its type. -/
def otherNames : List (String × List String) :=
  [("function",
    ["debug", "info", "warn", "warning", "error", "critical", "fatal", "exception", "log", "disable",
     "addLevelName", "basicConfig", "captureWarnings", "currentframe", "getLevelName",
     "getLevelNamesMapping", "getLogRecordFactory", "getLogger", "getLoggerClass", "makeLogRecord",
     "setLogRecordFactory", "setLoggerClass", "shutdown", "_acquireLock", "_addHandlerRef",
     "_after_at_fork_child_reinit_locks", "_checkLevel", "_is_internal_frame",
     "_register_at_fork_reinit_lock", "_releaseLock", "_removeHandlerRef", "_showwarning"]),
   ("type",
    ["BufferingFormatter", "FileHandler", "Filter", "Filterer", "Formatter", "GenericAlias", "Handler",
     "LogRecord", "Logger", "LoggerAdapter", "Manager", "NullHandler", "PercentStyle", "PlaceHolder",
     "RootLogger", "StrFormatStyle", "StreamHandler", "StringTemplateStyle", "Template",
     "_StderrHandler", "__class__", "_logRecordFactory", "_loggerClass"]),
   ("module",
    ["atexit", "collections", "config", "handlers", "io", "os", "re", "sys", "threading", "time",
     "traceback", "warnings", "weakref"]),
   ("str",
    ["BASIC_FORMAT", "__author__", "__cached__", "__date__", "__doc__", "__file__", "__name__",
     "__package__", "__status__", "__version__", "_srcfile"]),
   ("dict",
    ["_STYLES", "__annotations__", "__builtins__", "__dict__", "_levelToName", "_nameToLevel"]),
   ("list", ["__all__", "__path__", "_handlerList"]),
   ("method-wrapper",
    ["__delattr__", "__eq__", "__ge__", "__getattribute__", "__gt__", "__hash__", "__init__", "__le__",
     "__lt__", "__ne__", "__repr__", "__setattr__", "__str__"]),
   ("builtin_function_or_method",
    ["__dir__", "__format__", "__getstate__", "__init_subclass__", "__new__", "__reduce__",
     "__reduce_ex__", "__sizeof__", "__subclasshook__"]),
   ("Formatter", ["_defaultFormatter", "_str_formatter"]),
   ("_StderrHandler", ["_defaultLastResort", "lastResort"]),
   ("SourceFileLoader", ["__loader__"]),
   ("ModuleSpec", ["__spec__"]),
   ("WeakValueDictionary", ["_handlers"]),
   ("_thread.RLock", ["_lock"]),
   ("NoneType", ["_warnings_showwarning"]),
   ("RootLogger", ["root"])]

/-- A collection that compares its members with those of a level, which has none. -/
def weakSetName : String := "_at_fork_reinit_lock_weakset"

/-- Names that are no levels but of truth values, which count as numbers. -/
def switchNames : List String := ["raiseExceptions", "logThreads", "logMultiprocessing", "logProcesses"]

/-- The name of the time the program started at, in seconds. Any such time is above every level. -/
def startName : String := "_startTime"

/-- The level of a handler as it is compared; an unknown name counts as that of information. -/
def handlerNumber : Layer Value → Except Misshape Int
  | .scalar (.text name) =>
      match otherNames.find? (·.2.contains name) with
      | some (type, _) => .error (.notComparable "int" type)
      | none =>
          if name = weakSetName then .error (.notIterable "int")
          else if switchNames.contains name then .ok 1
          else if name = startName then .ok (Level.critical.number + 1)
          else .ok ((Level.number? name).getD Level.info.number)
  | d => .error (.notName (fullTypeName d))

def lowerHandler (level : String) (number : Int) (v : Value) : Edit Unit := do
  let s ← get
  match (s.mapping? v).bind (·.2.find? "level") with
  | some current => if number < (← handlerNumber (s.layer current)) then setLevel level v
  | none => return ()

def lowerHandlersUnder (level : String) (number : Int) (n : Nat) : List Scalar → Edit Unit
  | [] => return ()
  | key :: rest => do
      lowerHandler level number (((← get).mapping n).valueOf key)
      lowerHandlersUnder level number n rest

def lowerHandlers (level : String) (number : Int) (v : Value) : Edit Unit := do
  let s ← get
  match s.mapping? v with
  | some (n, m) => lowerHandlersUnder level number n (m.entries.map (·.1))
  | none => throw (.noEntries (fullTypeName (s.layer v)))

def change (root : Nat) (key : String) (f : Value → Edit Unit) : Edit Unit := do
  match ((← get).mapping root).find? key with
  | some v => f v
  | none => return ()

def apply (level : String) (number : Int) (root : Nat) : Edit Unit := do
  change root "loggers" (setLevels level)
  change root "root" (setLevel level)
  change root "handlers" (lowerHandlers level number)

end Override

def override (level : String) (root : Nat) : ExceptT Fault (StateM Store) Unit :=
  let name := Level.upperName level
  match Level.number? name with
  | some number => (Override.apply name number root).adapt .misshape
  | none => throw (.level level)

end TypeGuards.Logging
