import TypeGuards.Data
import TypeGuards.Logging.Format
/-!
Where records go. Loggers lie in a tree: a record of `a.b` goes to the handlers of `a.b`, of `a` and
of the root, unless one of the loggers on the way keeps it to itself.
-/
namespace TypeGuards.Logging

inductive Stream where
  | standardOutput
  | standardError
  | nowhere
deriving DecidableEq, Repr, Inhabited

structure Handler where
  name : Option Scalar := none
  level : Int := 0
  /-- Without a format the message alone is written. -/
  format : Option Format := none
  stream : Stream := .standardError
  parts : List String := []
deriving DecidableEq, Repr, Inhabited

structure Logger where
  level : Int := 0
  handlers : List Handler := []
  parts : List String := []
  propagates : Bool := true
  isDisabled : Bool := false
deriving DecidableEq, Repr, Inhabited

structure Loggers where
  root : Logger := { level := Level.warning.number }
  named : List (String × Logger) := []
deriving DecidableEq, Repr, Inhabited

/-- Whether a logger belongs to a part of the program; every one belongs to the part without a name. -/
def isWithin (part logger : String) : Bool :=
  part = "" || logger = part || (part ++ ".").isPrefixOf logger

namespace Handler

def passes (r : Record) (h : Handler) : Bool :=
  h.level ≤ r.level.number && h.parts.all (isWithin · r.logger)

def line? (stamp : Stamp) (r : Record) (h : Handler) : Option String :=
  match h.format with
  | some f => f.render stamp r
  | none => some r.message

def write (stream : Stream) (stamp : Stamp) (r : Record) (h : Handler) : String :=
  if h.stream = stream && h.passes r then ((h.line? stamp r).map (· ++ "\n")).getD "" else ""

end Handler

namespace Loggers

def programName : String := "tsguard"

def partNames : List String :=
  ["cli.errors", "cli.generate", "extractor", "generator", "io", "logging", "parser", "pipeline",
   "syntax.convert"].map fun name => programName ++ "." ++ name

/-- Before anything is set up, warnings are told, and no one listens. -/
def initial : Loggers :=
  { named := (programName, { level := Level.warning.number }) :: partNames.map fun name => (name, {}) }

def get (ls : Loggers) (name : String) : Logger := (ls.named.lookup name).getD {}

def set (name : String) (l : Logger) (ls : Loggers) : Loggers :=
  if name = "" then { ls with root := l }
  else if (ls.named.lookup name).isSome then
    { ls with named := ls.named.map fun (n, old) => (n, if n = name then l else old) }
  else { ls with named := ls.named ++ [(name, l)] }

/-- A logger and those above it, the nearest first. -/
def lineage (ls : Loggers) (name : String) : List Logger :=
  let above := ls.named.filter fun (n, _) => isWithin n name
  let ordered := above.mergeSort fun a b => b.1.length ≤ a.1.length
  ordered.map (·.2) ++ [ls.root]

/-- The level of the nearest logger that has one. -/
def levelOf (ls : Loggers) (name : String) : Int :=
  (((ls.lineage name).map (·.level)).find? (· ≠ 0)).getD 0

def reached : List Logger → List Handler
  | [] => []
  | l :: above => l.handlers ++ if l.propagates then reached above else []

def admits (ls : Loggers) (r : Record) : Bool :=
  let l := ls.get r.logger
  !l.isDisabled && ls.levelOf r.logger ≤ r.level.number && l.parts.all (isWithin · r.logger)

/-- What is written when there is no handler. -/
def lastResort : Handler := { level := Level.warning.number }

def write (stream : Stream) (stamp : Stamp) (ls : Loggers) (r : Record) : String :=
  if ls.admits r then
    match reached (ls.lineage r.logger) with
    | [] => lastResort.write stream stamp r
    | handlers => String.join (handlers.map (Handler.write stream stamp r))
  else ""

end Loggers

end TypeGuards.Logging
