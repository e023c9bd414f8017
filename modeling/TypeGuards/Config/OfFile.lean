import TypeGuards.Config
import TypeGuards.Run.Abort
import TypeGuards.Yaml.File
/-!
Configurations from a file and from what is stated on top of it, field by field.
-/
namespace TypeGuards.Config

def refuse (message : String) : Except Abort α := .error (.failure (.configuration message))

/-- The entries of a configuration file; an empty file has none. -/
def loadEntries [Platform] (fs : Files) (dir p : Path) : Except Abort (List (Scalar × Data)) :=
  match (Yaml.loadFile fs dir p).map Stored.data with
  | .ok (.scalar .null) => .ok []
  | .ok (.map entries) => .ok entries
  | .ok _ => refuse s!"Invalid configuration format in {p}"
  | .error (.content .malformed) => refuse s!"Failed to parse YAML config {p}"
  | .error (.content (.scalar e)) => .error (.scalar e)
  | .error (.content .tooDeep) => .error .tooDeep
  | .error (.undecodable e) => .error (.codec (.undecodable e))
  | .error (.access e) =>
      if e.fault = .nullInPath then .error (.access e)
      else refuse s!"Failed to read config file {p}: {e.message}"

def isUnset : Data → Bool
  | .scalar .null => true
  | .list [] => true
  | _ => false

/-- Puts entries in the place of those with the same key, unless they state nothing. -/
def override (entries overrides : List (Scalar × Data)) : List (Scalar × Data) :=
  overrides.foldl (fun es (k, v) => if isUnset v then es else Data.insert k v es) entries

def build [Platform] (fs : Files) (dir : Path) (file : Option Path) (overrides : List (Scalar × Data)) :
    Except Abort Config := do
  let entries ← match file with
    | some p => loadEntries fs dir p
    | none => .ok []
  match ofData (.map (override entries overrides)) with
  | .ok c => .ok c
  | .error message => refuse message

end TypeGuards.Config
