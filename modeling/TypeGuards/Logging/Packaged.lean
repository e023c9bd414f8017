import TypeGuards.Files
import TypeGuards.Encoding.Utf8
import TypeGuards.Text.Case
/-!
The settings that come with the program: one for use and one for development. They lie in a
directory of their own, and are found by a name or by the environment the program runs in.
-/
namespace TypeGuards.Logging.Packaged

def text (lines : List String) : List Char := lines.flatMap fun line => line.toList ++ ['\n']

/-- Both settings differ in a format, in three levels and in names. -/
def setting (formatter handlerLevel loggerLevel rootLevel : String) (format : List String) :
    List String :=
  [ "version: 1",
    "disable_existing_loggers: false",
    "",
    "formatters:",
    "  " ++ formatter ++ ":"] ++ format.map ("    " ++ ·) ++ [
    "",
    "handlers:",
    "  console:",
    "    class: logging.StreamHandler",
    "    level: " ++ handlerLevel,
    "    formatter: " ++ formatter,
    "    stream: ext://sys.stderr",
    "",
    "loggers:",
    "  tsguard:",
    "    level: " ++ loggerLevel,
    "    propagate: true",
    "",
    "root:",
    "  level: " ++ rootLevel,
    "  handlers: [console]"]

def forUse : List String :=
  setting "console" "WARNING" "WARNING" "WARNING"
    ["format: \"%(levelname)s - %(name)s - %(message)s\""]

def forDevelopment : List String :=
  setting "detailed" "DEBUG" "DEBUG" "INFO"
    ["format: \"%(asctime)s - %(name)s - %(levelname)s - %(funcName)s:%(lineno)d - %(message)s\"",
     "datefmt: \"%Y-%m-%d %H:%M:%S\""]

def directory : Path := .ofString "/resources"

def defaultName : String := "logging.yaml"

def files : Files :=
  { entries := [
      (directory.steps, .directory),
      (directory.steps ++ [defaultName], .file (Encoding.Utf8.encode (text forUse))),
      (directory.steps ++ ["logging-dev.yaml"], .file (Encoding.Utf8.encode (text forDevelopment)))] }

def environments : List (String × String) :=
  [("dev", "dev"), ("test", "test"), ("prod", "prod"), ("development", "dev"), ("production", "prod")]

def settingFor (environment : String) : String := s!"logging-{environment}.yaml"

def given (text : Option String) : Option String := text.filter (· ≠ "")

/-- The setting that is meant: the one named, else that of the environment asked for, else that of
the environment the program runs in. -/
def meant (name environment running : Option String) : String :=
  match given name, given environment with
  | some name, _ => s!"{name}.yaml"
  | none, some environment => settingFor environment
  | none, none =>
      let running := String.ofList (Text.lower (running.getD "").toList)
      ((environments.lookup running).map settingFor).getD defaultName

/-- The path of a setting by its name; where none lies there, that of the default one. A name may be
too long to look for. -/
def located (name : String) : Except AccessError Path :=
  let p := Path.ofString name
  match files.look directory p with
  | .ok _ => .ok p
  | .error .nameTooLong => .error ⟨.nameTooLong, directory.join p⟩
  | .error _ => .ok (Path.ofString defaultName)

def path (name environment running : Option String) : Except AccessError Path :=
  located (meant name environment running)

end TypeGuards.Logging.Packaged
