import TypeGuards.Yaml.Token
/-!
What the tokens of a text say: scalars, sequences and mappings, each with a tag for its type. Nodes have
numbers, and an alias is the number of what it names, so that a node may be part of itself.
-/
namespace TypeGuards.Yaml

inductive Tag where
  | null
  | bool
  | int
  | float
  | binary
  | timestamp
  | orderedMap
  | pairs
  | set
  | text
  | sequence
  | mapping
  | merge
  | value
  | unknown
deriving DecidableEq, Repr, Inhabited

/-- A node, its parts by their numbers. -/
inductive Node where
  | scalar (tag : Tag) (text : String)
  | sequence (tag : Tag) (items : List Nat)
  | mapping (tag : Tag) (entries : List (Nat × Nat))
deriving DecidableEq, Repr, Inhabited

namespace Tag

def standard : String := "tag:yaml.org,2002:"

def ofName (name : String) : Tag :=
  let names : List (String × Tag) :=
    [("null", null), ("bool", bool), ("int", int), ("float", float), ("binary", binary),
     ("timestamp", timestamp), ("omap", orderedMap), ("pairs", pairs), ("set", set), ("str", text),
     ("seq", sequence), ("map", mapping), ("merge", merge), ("value", value)]
  match names.find? fun (n, _) => standard ++ n = name with
  | some (_, tag) => tag
  | none => unknown

end Tag

namespace Node

def tag : Node → Tag
  | scalar t _ => t
  | sequence t _ => t
  | mapping t _ => t

end Node

end TypeGuards.Yaml
