import TypeGuards.Command.Options
import TypeGuards.Config.OfFile
import TypeGuards.Display.Summary
import TypeGuards.Logging.Setup
/-!
The command. It sets up logging, makes a configuration of a file and of options, runs, and ends
with a summary; its exit code is zero if every file has its guards.
-/
namespace TypeGuards

namespace Command

structure World where
  files : Files
  loggers : Logging.Loggers := .initial
deriving Repr, Inhabited

structure Place where
  dir : Path
  environment : Option String := none
  stamp : Logging.Stamp
  /-- The columns of the terminal. -/
  width : Nat := 80

/-- An error that is not reported as a failure. -/
inductive Escape where
  | abort (a : Abort)
  | markup (e : Display.MarkupError)
  | logging (e : Logging.Fault)
deriving Repr, Inhabited

structure Result where
  exitCode : Nat := 0
  output : String := ""
  /-- What was written to standard error. -/
  messages : String := ""
  escape : Option Escape := none
deriving Repr, Inhabited

def success : Nat := 0

def failure : Nat := 1

def misused : Nat := 2

def printed (lines : List String) : String := String.join (lines.map (· ++ "\n"))

def failedRecord : Logging.Record :=
  { level := .debug, logger := "tsguard.cli.errors", activity := "cli_error_handler"
    message := "Command failed" }

def filesFailedRecord (count : Nat) : Logging.Record :=
  { level := .error, logger := "tsguard.cli.generate", activity := "generate_guards_command"
    message := s!"Guard generation failed for {count} file(s)" }

def generate [Platform] (dir : Path) (o : Options) (parser : TypeScript.Parser := TypeScript.Dialect.parse) :
    Action (List Outcome) := do
  let c ← Action.orAbort id (Config.build (← get).files dir o.config o.overrides)
  run c dir o.files parser

/-- How the command ends: what is printed after the records of the run. -/
def ending (width : Nat) (tell : Logging.Record → String) : Except Abort (List Outcome) → Result
  | .error (.failure f) =>
      { exitCode := failure, messages := tell failedRecord ++ printed (Display.panel width f none) }
  | .error a => { exitCode := failure, escape := some (.abort a) }
  | .ok outcomes =>
      match Display.summary width outcomes with
      | .error e => { exitCode := failure, escape := some (.markup e) }
      | .ok lines =>
          let failed := (outcomes.filter (!·.success)).length
          if failed = 0 then { messages := printed lines }
          else { exitCode := failure, messages := printed lines ++ tell (filesFailedRecord failed) }

def execute [Platform] (p : Place) (o : Options) (w : World)
    (parser : TypeScript.Parser := TypeScript.Dialect.parse) : Result × World :=
  let surroundings : Logging.Surroundings :=
    { files := w.files, dir := p.dir, environment := p.environment }
  match (Logging.setUp surroundings { level := o.level }).run.run w.loggers with
  | (.error e, loggers) =>
      ({ exitCode := failure, escape := some (.logging e) }, { w with loggers })
  | (.ok told, loggers) =>
      let tell := loggers.write .standardError p.stamp
      let (out, progress) := ((generate p.dir o parser).run.run { files := w.files })
      let e := ending p.width tell out
      let records := told.toList ++ progress.records
      ({ e with output := progress.output, messages := String.join (records.map tell) ++ e.messages },
       { files := progress.files, loggers })

def help : String :=
  printed
    ["Usage: tsguard [OPTIONS]", "", "Generate type guards for all interfaces in the specified files.",
     "", "Options:",
     "  -f, --file PATH       Input source file. Can be specified multiple times.",
     "  -o, --output TEXT     Pattern for output file names; '-' writes to stdout.",
     "  --output-dir DIR      Directory output file names are resolved against.",
     "  -d, --debug [ast]     Print the syntax tree of each source file.",
     "  --encoding TEXT       Encoding of input and output files.",
     "  --dialect TEXT        TypeScript dialect (typescript, tsx).",
     "  --config FILE         YAML configuration file; options take precedence.",
     "  -v, --verbose         Set the log level to DEBUG.",
     "  --log-level TEXT      Set the log level.",
     "  -h, --help            Show this message and exit."]

end Command

def command [Platform] (p : Command.Place) (arguments : List String) (w : Command.World) :
    Command.Result × Command.World :=
  match Command.Options.read w.files p.dir arguments with
  | .ok o => Command.execute p o w
  | .error .help => ({ output := Command.help }, w)
  | .error (.misuse m) =>
      ({ exitCode := Command.misused, messages := Command.printed ["Error: " ++ m.message] }, w)
  | .error (.access e) =>
      ({ exitCode := Command.failure, escape := some (.abort (.access e)) }, w)

end TypeGuards
