import TypeGuards.Output.Target
import TypeGuards.Platform
import TypeGuards.Text.Case
import TypeGuards.TypeScript.Modules
import TypeGuards.Validation.Report
import TypeGuards.Validation.Shape
/-!
What a run is configured by. A configuration is stated as a record of the five fields; a field that
is left out has its default, and nothing else may be stated.
-/
namespace TypeGuards

inductive DebugOutput where
  | outline
deriving DecidableEq, Repr, Inhabited

def DebugOutput.name : DebugOutput → String
  | outline => "ast"

def DebugOutput.all : List DebugOutput := [.outline]

def DebugOutput.ofName? (text : String) : Option DebugOutput := all.find? (·.name = text)

structure Config where
  pattern : String := "<FILE>-guard.ts"
  /-- The directory that the pattern is seen from; without one, that of the run. -/
  outputDir : Option Path := none
  encoding : String := "utf-8"
  /-- The dialect of all files; without one, that of each file. -/
  dialect : Option TypeScript.Dialect := none
  debug : List DebugOutput := []
deriving DecidableEq, Repr, Inhabited

namespace Config

def writesToStream (c : Config) : Bool := c.pattern = streamPattern

def showsOutline (c : Config) : Bool := c.debug.contains .outline

/-- A pattern says where to write, so it is not blank. -/
def checkPattern (d : Data) : Checked String := do
  let s ← Checked.text d
  if Text.trim s.toList = [] then Checked.fault (.refused "output_pattern must not be empty") d
  else .ok s

def checkPath (d : Data) : Checked Path :=
  match d with
  | .scalar (.text s) => .ok (Path.ofString s)
  | d => Checked.fault .notPath d

def checkEncoding [Platform] (d : Data) : Checked String := do
  let s ← Checked.text d
  match Encoding.lookUp s with
  | .ok _ => .ok s
  | .error (.unknown _) => Checked.fault (.refused s!"Unknown encoding: {s}") d
  | .error e => Checked.fault (.refused e.message) d

/-- The name of a dialect in any case, blanks around it allowed. -/
def checkDialect (d : Data) : Checked TypeScript.Dialect := do
  let s ← Checked.text d
  match TypeScript.Dialect.ofName? (String.ofList (Text.lower (Text.trim s.toList))) with
  | some dialect => .ok dialect
  | none => Checked.fault (.refused s!"dialect must be one of ['typescript', 'tsx'], got: {s}") d

def checkDebug : Data → Checked (List DebugOutput) :=
  Checked.list (Checked.oneOf (DebugOutput.all.map (·.name)) DebugOutput.ofName?)

def fieldNames : List String := ["output_pattern", "output_dir", "encoding", "dialect", "debug"]

/-- How a key that is no text is shown as a step: truth values as numbers. -/
def keyStep : Scalar → Step
  | .bool b => .field (if b then "1" else "0")
  | k => .field k.printed

def unknownEntry : Scalar × Data → List Finding
  | (.text name, value) =>
      if fieldNames.contains name then []
      else [{ place := [.field name], defect := .unknownField, value }]
  | (key, _) => [{ place := [keyStep key], defect := .keyNotText, value := .scalar key }]

def checkNoOthers (entries : List (Scalar × Data)) : Checked Unit :=
  match entries.flatMap unknownEntry with
  | [] => .ok ()
  | findings => .error findings

def shapeName : String := "GuardGenConfig"

def ofEntries [Platform] (entries : List (Scalar × Data)) : Checked Config := do
  let default : Config := {}
  let pattern := Checked.field entries "output_pattern" default.pattern checkPattern
  let outputDir := Checked.field entries "output_dir" default.outputDir (Checked.optional checkPath)
  let encoding := Checked.field entries "encoding" default.encoding checkEncoding
  let dialect := Checked.field entries "dialect" default.dialect (Checked.optional checkDialect)
  let debug := Checked.field entries "debug" default.debug checkDebug
  let (pattern, outputDir, encoding, dialect, debug, _) ←
    Checked.both pattern (Checked.both outputDir (Checked.both encoding (Checked.both dialect
      (Checked.both debug (checkNoOthers entries)))))
  return { pattern, outputDir, encoding, dialect, debug }

def check [Platform] (d : Data) : Checked Config := do ofEntries (← Checked.record shapeName d)

def ofData [Platform] (d : Data) : Except String Config :=
  match check d with
  | .ok c => .ok c
  | .error findings =>
      .error ("Invalid tsguard configuration: " ++ report shapeName findings)

end Config

end TypeGuards
