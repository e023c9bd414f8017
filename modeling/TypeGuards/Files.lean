import TypeGuards.Data.Printed
import TypeGuards.Path
/-!
A tree of files without links. Places in it are lists of names from the root. Each step of a path
must lead out of a directory, and an action that fails changes nothing. At some places files refuse to be
read and written.
-/
namespace TypeGuards

inductive Entry where
  | file (bytes : List UInt8)
  | directory
deriving DecidableEq, Repr, Inhabited

/-- Why a file at a place cannot be used, by the number of the fault and what it says. -/
structure Refusal where
  number : Nat
  text : String
  /-- Whether the file cannot even be opened. -/
  isShut : Bool
deriving DecidableEq, Repr, Inhabited

structure Files where
  entries : List (List String × Entry) := []
  refusals : List (List String × Refusal) := []
deriving DecidableEq, Repr, Inhabited

inductive AccessFault where
  | missing
  | present
  | notDirectory
  | isDirectory
  | nameTooLong
  | nullInPath
  | refused (r : Refusal)
deriving DecidableEq, Repr, Inhabited

structure AccessError where
  fault : AccessFault
  path : Path
deriving DecidableEq, Repr, Inhabited

namespace AccessError

/-- The number of a fault and what it says; no number where no path was looked up. -/
def numbered : AccessFault → Option (Nat × String)
  | .missing => some (2, "No such file or directory")
  | .present => some (17, "File exists")
  | .notDirectory => some (20, "Not a directory")
  | .isDirectory => some (21, "Is a directory")
  | .nameTooLong => some (36, "File name too long")
  | .nullInPath => none
  | .refused r => some (r.number, r.text)

/-- Whether the path is known where the fault comes up; that of an open file is not. -/
def namesPath : AccessFault → Bool
  | .refused r => r.isShut
  | _ => true

def message (e : AccessError) : String :=
  match numbered e.fault with
  | some (n, text) =>
      let named := if namesPath e.fault then s!": {(Scalar.text e.path.toString).printed}" else ""
      s!"[Errno {n}] {text}{named}"
  | none => "embedded null byte"

end AccessError

namespace Files

/-- The root is always a directory. -/
def entry? (fs : Files) (place : List String) : Option Entry :=
  if place = [] then some .directory else fs.entries.lookup place

def putEntry (place : List String) (e : Entry) :
    List (List String × Entry) → List (List String × Entry)
  | [] => [(place, e)]
  | (p, old) :: rest => if p = place then (p, e) :: rest else (p, old) :: putEntry place e rest

def put (place : List String) (e : Entry) (fs : Files) : Files :=
  { fs with entries := putEntry place e fs.entries }

def remove (place : List String) (fs : Files) : Files :=
  { fs with entries := fs.entries.filter fun (p, _) => !place.isPrefixOf p }

/-- The longest name, and the bound on a path as a whole, in bytes. -/
def longestName : Nat := 255

def pathBound : Nat := 4096

/-- The place that steps lead to; nothing need lie there. -/
def follow (fs : Files) (here : List String) : List String → Except AccessFault (List String)
  | [] => .ok here
  | step :: rest =>
      match fs.entry? here with
      | none => .error .missing
      | some (.file _) => .error .notDirectory
      | some .directory =>
          if step = ".." then follow fs here.dropLast rest
          else if longestName < step.utf8ByteSize then .error .nameTooLong
          else follow fs (here ++ [step]) rest

def place (fs : Files) (dir p : Path) : Except AccessFault (List String) :=
  let text := p.toString
  if text.toList.contains (Char.ofNat 0) then .error .nullInPath
  else if pathBound ≤ text.utf8ByteSize then .error .nameTooLong
  else fs.follow (if p.isAbsolute then [] else dir.steps) p.steps

def look (fs : Files) (dir p : Path) : Except AccessFault Entry := do
  match fs.entry? (← fs.place dir p) with
  | some e => .ok e
  | none => .error .missing

/-- A path that leads nowhere leads to nothing of any kind. -/
def leadsTo (fs : Files) (isMeant : Entry → Bool) (dir p : Path) : Except AccessError Bool :=
  match fs.look dir p with
  | .ok e => .ok (isMeant e)
  | .error .nameTooLong => .error ⟨.nameTooLong, p⟩
  | .error _ => .ok false

def isFile (fs : Files) (dir p : Path) : Except AccessError Bool :=
  fs.leadsTo (fun | .file _ => true | .directory => false) dir p

def isDirectory (fs : Files) (dir p : Path) : Except AccessError Bool :=
  fs.leadsTo (fun | .file _ => false | .directory => true) dir p

/-- Why the file that a path leads to refuses to be read, if it does. -/
def refusal? (fs : Files) (dir p : Path) : Option Refusal :=
  match fs.place dir p with
  | .ok place => fs.refusals.lookup place
  | .error _ => none

/-- Opens a file to read it: its bytes, or why they cannot be read though the file is open. -/
def opened (fs : Files) (dir p : Path) : Except AccessError (Except AccessError (List UInt8)) :=
  match fs.look dir p with
  | .ok (.file bytes) =>
      match fs.refusal? dir p with
      | none => .ok (.ok bytes)
      | some r =>
          if r.isShut then .error ⟨.refused r, p⟩ else .ok (.error ⟨.refused r, p⟩)
  | .ok .directory => .error ⟨.isDirectory, p⟩
  | .error fault => .error ⟨fault, p⟩

def read (fs : Files) (dir p : Path) : Except AccessError (List UInt8) := do
  ← fs.opened dir p

def makeDirectory (fs : Files) (dir p : Path) : Except AccessError Files :=
  match fs.place dir p with
  | .error fault => .error ⟨fault, p⟩
  | .ok place =>
      match fs.entry? place with
      | some _ => .error ⟨.present, p⟩
      | none => .ok (fs.put place .directory)

/-- An error is none if a directory lies there all the same. -/
def unlessDirectory (fs : Files) (dir p : Path) (e : AccessError) : Except AccessError Unit := do
  if ← fs.isDirectory dir p then return () else .error e

/-- Makes a directory and those it lies in, as far as they are missing. What was made stays, also
when a later one cannot be made. -/
def makeDirectories (fs : Files) (dir p : Path) : Except AccessError Unit × Files :=
  match fs.makeDirectory dir p with
  | .ok fs => (.ok (), fs)
  | .error ⟨.missing, path⟩ =>
      if _ : p.steps = [] then (.error ⟨.missing, path⟩, fs)
      else
        match makeDirectories fs dir p.parent with
        | (.error e, fs) => (.error e, fs)
        | (.ok _, fs) =>
            match fs.makeDirectory dir p with
            | .ok fs => (.ok (), fs)
            | .error e => (fs.unlessDirectory dir p e, fs)
  | .error e => (fs.unlessDirectory dir p e, fs)
termination_by p.steps.length
decreasing_by
  have : 0 < p.steps.length := List.length_pos_iff.mpr ‹¬p.steps = []›
  simp only [Path.parent, List.length_dropLast]
  omega

def write (fs : Files) (dir p : Path) (bytes : List UInt8) : Except AccessError Files :=
  match fs.place dir p with
  | .error fault => .error ⟨fault, p⟩
  | .ok place =>
      match fs.entry? place, fs.refusals.lookup place with
      | some .directory, _ => .error ⟨.isDirectory, p⟩
      | _, some r => .error ⟨.refused r, p⟩
      | _, none => .ok (fs.put place (.file bytes))

def below (fs : Files) (root : List String) : List (List String × List UInt8) :=
  fs.entries.filterMap fun (place, e) =>
    match e with
    | .file bytes => if root.isPrefixOf place then some (place.drop root.length, bytes) else none
    | .directory => none

end Files

end TypeGuards
