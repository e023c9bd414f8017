import TypeGuards.Command.Arguments
import TypeGuards.Config
import TypeGuards.Files
/-!
The options of the command, checked as far as they can be before the run.
-/
namespace TypeGuards.Command

structure Options where
  files : List Path := []
  output : Option String := none
  outputDir : Option Path := none
  debug : List DebugOutput := []
  encoding : Option String := none
  dialect : Option String := none
  config : Option Path := none
  isVerbose : Bool := false
  logLevel : Option String := none
deriving DecidableEq, Repr, Inhabited

inductive NoOptions where
  | help
  | misuse (m : Misuse)
  | access (e : AccessError)
deriving DecidableEq, Repr, Inhabited

namespace Options

def endsAsDirectory (text : String) : Bool :=
  match (Text.partsBetween '/' text.toList).getLast? with
  | some part => part = [] || part = ['.']
  | none => true

/-- What lies at a path, if anything does. Asking is an error only for a path with a null. -/
def entryAt (fs : Files) (dir : Path) (text : String) : Except NoOptions (Option Entry) :=
  let p := Path.ofString text
  match fs.look dir p with
  | .ok (.file bytes) => .ok (if endsAsDirectory text then none else some (.file bytes))
  | .ok .directory => .ok (if text = "" then none else some .directory)
  | .error .nullInPath => .error (.access ⟨.nullInPath, p⟩)
  | .error _ => .ok none

def debugOutput? (text : String) : Option DebugOutput :=
  let upper (s : String) := Text.upper s.toList
  DebugOutput.all.find? fun o => upper o.name = upper text

def refuse (m : Misuse) : Except NoOptions α := .error (.misuse m)

def check (fs : Files) (dir : Path) (a : Arguments) : Opt → Except NoOptions Unit
  | .file => (a.values .file).forM fun text => do let _ ← entryAt fs dir text
  | .outputDir => (a.value? .outputDir).forM fun text => do
      match ← entryAt fs dir text with
      | some (.file _) => refuse (.isFile "--output-dir" text)
      | _ => return ()
  | .debug => (a.values .debug).forM fun text =>
      if (debugOutput? text).isSome then .ok () else refuse (.noSuchChoice "--debug" text)
  | .config => (a.value? .config).forM fun text => do
      match ← entryAt fs dir text with
      | none => refuse (.notFound "--config" text)
      | some .directory => refuse (.isDirectory "--config" text)
      | some (.file _) => return ()
  | _ => .ok ()

def stated (a : Arguments) : Options :=
  { files := (a.values .file).map Path.ofString
    output := a.value? .output
    outputDir := (a.value? .outputDir).map Path.ofString
    debug := (a.values .debug).filterMap debugOutput?
    encoding := a.value? .encoding
    dialect := a.value? .dialect
    config := (a.value? .config).map Path.ofString
    isVerbose := a.has .verbose
    logLevel := a.value? .logLevel }

/-- Reads the options of a command line. Help goes before what is wrong with a value. -/
def read (fs : Files) (dir : Path) (arguments : List String) : Except NoOptions Options := do
  let a ← (Arguments.read arguments).mapError .misuse
  if a.has .help then throw .help
  a.present.forM (check fs dir a)
  match a.others with
  | [] => return stated a
  | text :: _ => refuse (.unexpectedArgument text)

def level (o : Options) : Option String := if o.isVerbose then some "DEBUG" else o.logLevel

def overrides (o : Options) : List (Scalar × Data) :=
  let optional (text : Option String) : Data := (text.map Data.text).getD .null
  [(.text "output_pattern", optional o.output),
   (.text "output_dir", optional (o.outputDir.map Path.toString)),
   (.text "debug", .list (o.debug.map fun d => .text d.name)),
   (.text "encoding", optional o.encoding),
   (.text "dialect", optional o.dialect)]

end Options

end TypeGuards.Command
