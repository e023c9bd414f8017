import TypeGuards.Config
import TypeGuards.Logging.Record
import TypeGuards.Run.Abort
import TypeGuards.Run.Extractors
/-!
Reading source files. All of them are found and read before anything is written.
-/
namespace TypeGuards

structure Progress where
  files : Files
  output : String := ""
  records : List Logging.Record := []
  extractors : Extractors := .empty
deriving Repr, Inhabited

/-- A part of a run. What was done before it aborts stays done. -/
abbrev Action := ExceptT Abort (StateM Progress)

namespace Action

def tell (level : Logging.Level) (logger activity message : String) : Action Unit :=
  modify fun s => { s with records := s.records ++ [{ level, logger, activity, message }] }

def print (text : String) : Action Unit := modify fun s => { s with output := s.output ++ text }

/-- Passes a result on, or aborts. -/
def orAbort (wrap : ε → Abort) : Except ε α → Action α
  | .ok a => return a
  | .error e => throw (wrap e)

end Action

structure Source where
  path : Path
  text : String
deriving DecidableEq, Repr, Inhabited

namespace Source

variable [Platform]

def missing (fs : Files) (dir : Path) : List Path → Except AccessError (List Path)
  | [] => .ok []
  | p :: rest => do
      let isFile ← fs.isFile dir p
      let others ← missing fs dir rest
      return if isFile then others else p :: others

def require (fs : Files) (dir : Path) (paths : List Path) : Except Abort Unit :=
  if paths.isEmpty then
    .error (.failure (.usage "At least one file must be specified via the -f FILE flag." []))
  else
    match missing fs dir paths with
    | .error e => .error (.access e)
    | .ok [] => .ok ()
    | .ok absent =>
        let names := String.intercalate "," (absent.map Path.toString)
        .error (.failure (.usage ("Input file(s) not found: " ++ names) absent))

def unreadable (p : Path) (cause : ReadCause) : Abort := .failure (.unreadable p cause)

/-- A file that cannot be used, other than by a path that no file can have. -/
def inaccessible (p : Path) (e : AccessError) : Abort :=
  if e.fault = .nullInPath then .access e else unreadable p (.access e)

/-- The text of a file, each line ending in a newline. The encoding is looked up when the file is open. -/
def textOf (fs : Files) (dir : Path) (encoding : String) (p : Path) : Except Abort String := do
  let content ← (fs.opened dir p).mapError (inaccessible p)
  let scheme ← (Encoding.lookUpText encoding).mapError Abort.codec
  let bytes ← content.mapError (inaccessible p)
  let chars ← (scheme.decode bytes).mapError fun
    | .undecodable e => unreadable p (.undecodable e)
    | e => Abort.codec e
  return String.ofList (Encoding.joinLineEndings chars)

def partName : String := "tsguard.io"

def read (dir : Path) (encoding : String) (p : Path) : Action Source := do
  match textOf (← get).files dir encoding p with
  | .ok text =>
      Action.tell .debug partName "read" s!"Read {text.length} characters from {p}"
      return { path := p, text }
  | .error (.failure (.unreadable path cause)) =>
      Action.tell .debug partName "read" s!"Failed to read {p}: {cause.message}"
      throw (.failure (.unreadable path cause))
  | .error e => throw e

end Source

end TypeGuards
