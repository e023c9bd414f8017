/-!
Grammar rules as data. A rule is built from literal tokens and references by sequencing, choice and
repetition; ranks and associativities on a rule settle which of two readings of a text wins, and a
dynamic rank decides between readings that are both kept to the end.
-/
namespace TypeGuards.Grammar

/-- The rank of a rule. Named ranks are ordered by the lists a grammar states. -/
inductive Rank where
  | unranked
  | level (value : Int)
  | named (name : String)
deriving DecidableEq, Hashable, Inhabited

inductive Associativity where
  | left
  | right
deriving DecidableEq, Hashable

/-- The name a node is shown under, and whether it is a named node or a bare token. -/
structure Label where
  name : String
  isNamed : Bool
deriving DecidableEq, Hashable, Inhabited

inductive Rule where
  | blank
  /-- A token described by a reader instead of a literal text. -/
  | lexeme
  | literal (text : String)
  | ref (name : String)
  | seq (first second : Rule)
  | choice (first second : Rule)
  | repeat1 (body : Rule)
  | field (name : String) (body : Rule)
  | labelled (label : Label) (body : Rule)
  | ranked (rank : Rank) (side : Option Associativity) (body : Rule)
  | dynamic (rank : Int) (body : Rule)
deriving DecidableEq, Hashable, Inhabited

namespace Rule

instance : Coe String Rule := ⟨literal⟩

def all : List Rule → Rule
  | [] => blank
  | [r] => r
  | r :: rest => seq r (all rest)

def oneOf : List Rule → Rule
  | [] => blank
  | [r] => r
  | r :: rest => choice r (oneOf rest)

def maybe (r : Rule) : Rule := choice r blank

def many (r : Rule) : Rule := maybe (repeat1 r)

def sepBy1 (separator item : Rule) : Rule := seq item (many (seq separator item))

def list1 (item : Rule) : Rule := sepBy1 "," item

def list (item : Rule) : Rule := maybe (list1 item)

def shownAs (name : String) (body : Rule) : Rule := labelled ⟨name, true⟩ body

def shownAsToken (name : String) (body : Rule) : Rule := labelled ⟨name, false⟩ body

def rank (name : String) (body : Rule) : Rule := ranked (.named name) none body

def rankLevel (level : Int) (body : Rule) : Rule := ranked (.level level) none body

def left (body : Rule) : Rule := ranked (.level 0) (some .left) body

def right (body : Rule) : Rule := ranked (.level 0) (some .right) body

def leftRank (name : String) (body : Rule) : Rule := ranked (.named name) (some .left) body

def rightRank (name : String) (body : Rule) : Rule := ranked (.named name) (some .right) body

/-- The ways to resolve every choice, each a rule without choices. -/
def alternatives : Rule → List Rule
  | seq a b =>
      let bs := b.alternatives
      a.alternatives.flatMap fun x => bs.map (seq x)
  | choice a b => a.alternatives ++ b.alternatives
  | field n r => r.alternatives.map (field n)
  | labelled l r => r.alternatives.map (labelled l)
  | ranked k s r => r.alternatives.map (ranked k s)
  | dynamic k r => r.alternatives.map (dynamic k)
  | r => [r]

def literals : Rule → List String
  | literal t => [t]
  | seq a b => a.literals ++ b.literals
  | choice a b => a.literals ++ b.literals
  | repeat1 r => r.literals
  | field _ r => r.literals
  | labelled _ r => r.literals
  | ranked _ _ r => r.literals
  | dynamic _ r => r.literals
  | blank => []
  | lexeme => []
  | ref _ => []

end Rule

inductive Ranking where
  | rank (name : String)
  | rule (name : String)
deriving DecidableEq, Inhabited

/-- A grammar: its named rules, the first of which describes whole texts, and how ranks compare. -/
structure Definition where
  rules : List (String × Rule)
  /-- Rules written out in place wherever they are used. -/
  expanded : List String
  /-- Rules whose node is never shown, besides those whose name starts with an underscore. -/
  transparent : List String
  /-- Each list names ranks and rules from the strongest to the weakest. -/
  orderings : List (List Ranking)
  extras : List String
  /-- The token that keywords look like. -/
  word : String

end TypeGuards.Grammar
