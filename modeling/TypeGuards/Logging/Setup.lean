import TypeGuards.Logging.Packaged
import TypeGuards.Logging.Setting
/-!
Setting up logging. Whatever is wrong with a setting, logging is set up all the same: if a setting
cannot be used, records are written to standard error in a basic way.
-/
namespace TypeGuards.Logging

structure Request where
  /-- A file with a setting; without one, a packaged setting. -/
  file : Option Path := none
  level : Option String := none
  environment : Option String := none
  isBasic : Bool := false
deriving DecidableEq, Repr, Inhabited

structure Surroundings where
  files : Files
  dir : Path
  environment : Option String := none

/-- A setting: the record of a number, among objects that its parts may share. -/
structure Shared where
  store : Store
  root : Nat
deriving Repr, Inhabited

def Shared.entries (d : Shared) : List (Scalar × Data) :=
  (d.store.mapping d.root).entries.map fun (k, v) => (k, d.store.data v)

def Shared.of? (d : Stored) : Option Shared :=
  (d.store.mapping? d.value).map fun (root, _) => { store := d.store, root }

def loadSetting [Platform] (fs : Files) (dir p : Path) : Except Fault Shared :=
  match Yaml.loadFile fs dir p with
  | .ok d =>
      match Shared.of? d with
      | some shared => .ok shared
      | none => .error (.notRecord p)
  | .error (.content .malformed) => .error (.malformed p)
  | .error (.content (.scalar e)) => .error (.scalar e)
  | .error (.content .tooDeep) => .error .tooDeep
  | .error (.undecodable e) => .error (.undecodable e)
  | .error (.access e) =>
      if e.fault = .nullInPath then .error (.access e) else .error (.unreadable p e)

namespace Setup

def partName : String := Loggers.programName ++ ".logging"

def record (level : Level) (message : String) : Record :=
  { level, logger := partName, activity := "setup_logging", message }

def basicFormat : Format := .ofPercent "%(asctime)s - %(name)s - %(levelname)s - %(message)s"

/-- A name of the same kind as those of levels, and the format that it stands for. -/
def formatName : String × String := ("BASIC_FORMAT", "%(levelname)s:%(name)s:%(message)s")

/-- A name of the same kind, and the styles of formats that it stands for. -/
def stylesName : String × String :=
  ("_STYLES",
    "\x7b'%': (<class 'logging.PercentStyle'>, '%(levelname)s:%(name)s:%(message)s'), " ++
    "'\x7b': (<class 'logging.StrFormatStyle'>, '\x7blevelname\x7d:\x7bname\x7d:\x7bmessage\x7d'), " ++
    "'$': (<class 'logging.StringTemplateStyle'>, '$\x7blevelname\x7d:$\x7bname\x7d:$\x7bmessage\x7d')\x7d")

/-- The number of a level for basic logging; an unknown name counts as that of information. -/
def basicNumber (level : String) : Except Fault Int :=
  let name := Level.upperName level
  if name = formatName.1 then .error (.notLevel formatName.2)
  else if name = stylesName.1 then .error (.notLevelType stylesName.2)
  else .ok ((Level.number? name).getD Level.info.number)

def basic (level : String) : Setup Unit := do
  modify fun ls => { ls with root := { ls.root with handlers := [{ format := some basicFormat }] } }
  match basicNumber level with
  | .ok number => modify fun ls => { ls with root := { ls.root with level := number } }
  | .error e => throw e

def setting [Platform] (s : Surroundings) (r : Request) : Except Fault (Path × Shared) :=
  match r.file with
  | some p => do return (p, ← loadSetting s.files s.dir p)
  | none => do
      let p ← (Packaged.path none r.environment s.environment).mapError .access
      return (p, ← loadSetting Packaged.files Packaged.directory p)

def levelled [Platform] (s : Surroundings) (r : Request) : Except Fault (Path × Shared) := do
  let (p, d) ← setting s r
  match Packaged.given r.level with
  | some level =>
      match (override level d.root).run.run d.store with
      | (.ok _, store) => return (p, { d with store })
      | (.error e, _) => throw e
  | none => return (p, d)

def ofSetting [Platform] (s : Surroundings) (r : Request) (apply : Shared → Setup Unit) :
    Setup Record := do
  let (p, d) ← levelled s r
  apply d
  return record .debug s!"Logging configured from: {p.name}"

def defaultLevel : String := "INFO"

/-- Sets up basic logging in place of a setting that cannot be used. -/
def fallBack (level : String) (e : Fault) : Setup Record := do
  basic level
  return record .warning <|
    s!"Failed to configure logging from file ({e.message}), using basic console logging at " ++
      s!"{level} level"

end Setup

def Shared.apply (d : Shared) : Setup Unit := Setting.apply d.entries

/-- Sets up logging, and gives the record to be told of it. -/
def setUp [Platform] (s : Surroundings) (r : Request) (apply : Shared → Setup Unit := Shared.apply) :
    Setup (Option Record) := do
  let level := (Packaged.given r.level).getD Setup.defaultLevel
  if r.isBasic then do
    Setup.basic level
    return none
  else
    some <$> tryCatch (Setup.ofSetting s r apply) fun e =>
      if e.isHandled then Setup.fallBack level e else throw e

end TypeGuards.Logging
