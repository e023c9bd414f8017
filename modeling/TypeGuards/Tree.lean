/-!
Concrete syntax trees. Every node has a type, a span of bytes, the row it starts on and its children
in order. The main function finds the first node that marks an error.
-/
namespace TypeGuards

/-- A node of a concrete syntax tree. Rows count from zero; a span is `start` inclusive to `stop`
exclusive. -/
structure Tree where
  type : String
  start : Nat
  stop : Nat
  row : Nat
  isNamed : Bool
  field : Option String
  isMissing : Bool
  /-- Whether an error is known to be somewhere inside. -/
  hasError : Bool
  children : List Tree
deriving Inhabited

namespace Tree

/-- Lines count from one. -/
def line (t : Tree) : Nat := t.row + 1

def isError (t : Tree) : Bool := t.type = "ERROR"

def marksError (t : Tree) : Bool := t.isError || t.isMissing

def namedChildren (t : Tree) : List Tree := t.children.filter (·.isNamed)

def child? (t : Tree) (field : String) : Option Tree := t.children.find? (·.field = some field)

mutual

/-- The first node that marks an error, looking only inside nodes known to contain one. -/
def firstError? : Tree → Option Tree
  | ⟨type, start, stop, row, isNamed, field, isMissing, hasError, children⟩ =>
      let t : Tree := ⟨type, start, stop, row, isNamed, field, isMissing, hasError, children⟩
      if t.marksError then some t
      else if hasError then firstErrorIn? children
      else none

def firstErrorIn? : List Tree → Option Tree
  | [] => none
  | t :: rest =>
      match firstError? t with
      | some e => some e
      | none => firstErrorIn? rest

end

end Tree

end TypeGuards
