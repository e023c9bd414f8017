import Std.Time.Format
import TypeGuards.Command
/-!
The command on a real file system: what its arguments name is read first, then it is run, and then
what it has changed is written.
-/
namespace TypeGuards.Main

def named (arguments : List String) : List Path :=
  match Command.Arguments.read arguments with
  | .ok a => ((a.values .file) ++ (a.values .outputDir) ++ (a.values .config)).map Path.ofString
  | .error _ => []

def targets (fs : Files) (dir : Path) (arguments : List String) : List Path :=
  match Command.Options.read fs dir arguments with
  | .ok o =>
      match Config.build fs dir o.config o.overrides with
      | .ok c => o.files.filterMap (Target.of c)
      | .error _ => []
  | .error _ => []

def escapeMessage : Command.Escape → String
  | .abort (.failure f) => f.message
  | .abort (.access e) => e.message
  | .abort (.codec e) => e.message
  | .abort (.scalar e) => e.message
  | .abort .tooDeep => Yaml.tooDeepMessage
  | .abort (.source _) => "A source has an interface that cannot be guarded"
  | .markup e => e.message
  | .logging e => e.message

def location (place : List String) : String := "/" ++ String.intercalate "/" place

def refusal : IO.Error → Refusal
  | .permissionDenied _ number text => { number := number.toNat, text, isShut := true }
  | .hardwareFault number text => { number := number.toNat, text, isShut := false }
  | .otherError number text => { number := number.toNat, text, isShut := false }
  | e => { number := 5, text := toString e, isShut := false }

/-- Takes over what lies at a place; false if there is nothing or no way further. -/
def takeOver (place : List String) : StateT Files IO Bool := do
  let p := System.mkFilePath [location place]
  if ← p.isDir then
    modify (·.put place .directory)
    return true
  if ← p.pathExists then
    try
      modify (·.put place (.file (← IO.FS.readBinFile p).toList))
    catch e =>
      modify fun fs => { fs.put place (.file []) with refusals := (place, refusal e) :: fs.refusals }
  return false

/-- Takes over what lies on the way along some steps. -/
def survey (here : List String) : List String → StateT Files IO Unit
  | [] => do let _ ← takeOver here
  | step :: rest => do
      if ← takeOver here then
        survey (if step = ".." then here.dropLast else here ++ [step]) rest

def surveyAll (dir : Path) (paths : List Path) : StateT Files IO Unit :=
  paths.forM fun p => survey [] (if p.isAbsolute then p.steps else dir.steps ++ p.steps)

def store (before after : Files) : IO Unit :=
  after.entries.forM fun (place, e) => do
    if before.entry? place ≠ some e then
      match e with
      | .directory => IO.FS.createDirAll (location place)
      | .file bytes => IO.FS.writeBinFile (location place) ⟨bytes.toArray⟩

end TypeGuards.Main

open TypeGuards in
def main (arguments : List String) : IO UInt32 := do
  let dir := Path.ofString (← IO.currentDir).toString
  let survey : StateT Files IO Unit := do
    Main.surveyAll dir (Path.ofString "." :: Main.named arguments)
    Main.surveyAll dir (Main.targets (← get) dir arguments)
  let (_, files) ← survey.run { entries := [] }
  let time := (← Std.Time.PlainDateTime.now).format "uuuu-MM-dd HH:mm:ss"
  let place : Command.Place :=
    { dir, environment := ← IO.getEnv "TSGUARD_ENV", stamp := { time, line := "0" }
      width := ((← IO.getEnv "COLUMNS").bind String.toNat?).getD 80 }
  let (result, after) := command place arguments { files }
  Main.store files after.files
  IO.print result.output
  IO.eprint result.messages
  if let some e := result.escape then
    IO.eprintln (Main.escapeMessage e)
  return result.exitCode.toUInt32
