import TypeGuards.Grammar.Automaton
import TypeGuards.Parsing.Source
/-!
The trees a parse builds. A branch knows how much of the text it covers, what its errors cost and
what speaks for it against another reading of the same text.
-/
namespace TypeGuards.Parsing

open TypeGuards.Grammar

inductive Kind where
  | symbol (number : Nat)
  /-- A part of the text that no rule covers. -/
  | error
  /-- Tokens skipped on the way to such a part. -/
  | skipped
deriving DecidableEq, Inhabited

namespace Kind

def order : Kind → Nat
  | symbol n => n
  | skipped => 1 <<< 32
  | error => 1 <<< 32 + 1

def isError (k : Kind) : Bool := k = error || k = skipped

end Kind

/-- A position range; `before` is where the blanks in front begin. -/
structure Extent where
  before : Nat
  start : Nat
  stop : Nat
deriving Inhabited

structure Branch where
  kind : Kind
  extent : Extent
  production : Option Nat := none
  isVisible : Bool := false
  isExtra : Bool := false
  /-- Made up by the parser at a place where it fits. -/
  isMissing : Bool := false
  /-- Read as a word that may also be a keyword. -/
  isKeyword : Bool := false
  errorCost : Nat := 0
  dynamicRank : Int := 0
  visibleChildren : Nat := 0
  visibleDescendants : Nat := 0
  children : List Branch := []
deriving Inhabited

/-! What errors cost: a recovery, a made-up token, a skipped tree, byte and row. -/

def costOfRecovery : Nat := 500

def costOfMissing : Nat := 110

def costOfTree : Nat := 100

def costOfByte : Nat := 1

def costOfRow : Nat := 30

namespace Branch

def isError (b : Branch) : Bool := b.kind = .error

def isEnd (b : Branch) : Bool := b.kind = .symbol 0

def cost (b : Branch) : Nat := if b.isMissing then costOfMissing + costOfRecovery else b.errorCost

/-- The number of nodes a branch adds to its stack, skipped tokens included. -/
def nodeCount (b : Branch) : Nat :=
  b.visibleDescendants + (if b.isVisible then 1 else 0) + (if b.kind = .skipped then 1 else 0)

def leaf (g : Analysis) (symbol : Nat) (extent : Extent) (isKeyword : Bool) : Branch :=
  { kind := .symbol symbol, extent, isKeyword
    isVisible := (g.grammar.symbols.getD symbol default).isVisible
    isExtra := symbol = 0 }

def missing (g : Analysis) (symbol : Nat) (position : Nat) : Branch :=
  { leaf g symbol ⟨position, position, position⟩ false with isMissing := true }

/-- A stretch of characters that no token covers. -/
def errorLeaf (extent : Extent) : Branch := { kind := .error, extent, isVisible := true }

/-- The name a production gives to its child at a place, extras not counted. -/
def labelOf (g : Analysis) (production : Option Nat) (place : Nat) : Option Label :=
  (production.bind fun p => (g.grammar.productions.getD p default).steps[place]?).bind (·.label)

structure Sums where
  cost : Nat := 0
  dynamicRank : Int := 0
  visibleChildren : Nat := 0
  visibleDescendants : Nat := 0
  places : Nat := 0

def sum (g : Analysis) (kind : Kind) (production : Option Nat) (s : Sums) (child : Branch) : Sums :=
  let own := if child.kind = .skipped then 0 else child.cost
  let isLeaf := child.children.isEmpty
  let skipping :=
    if kind.isError && !child.isExtra && !(child.isError && isLeaf) then
      if child.isVisible then costOfTree
      else if isLeaf then 0 else costOfTree * child.visibleChildren
    else 0
  let labelled := !child.isExtra && (labelOf g production s.places).isSome
  let (shownHere, below) :=
    if labelled || child.isVisible then (1, 1) else (child.visibleChildren, 0)
  { cost := s.cost + own + skipping
    dynamicRank := s.dynamicRank + child.dynamicRank
    visibleChildren := s.visibleChildren + shownHere
    visibleDescendants := s.visibleDescendants + child.visibleDescendants + below
    places := if child.isExtra then s.places else s.places + 1 }

/-- A branch over children; `position` is where it lies if there are none. -/
def node (g : Analysis) (source : Source) (kind : Kind) (production : Option Nat)
    (isExtra : Bool) (position : Nat) (children : List Branch) : Branch :=
  let sums := children.foldl (sum g kind production) {}
  let extent := match children.head?, children.getLast? with
    | some a, some z => ⟨a.extent.before, a.extent.start, z.extent.stop⟩
    | _, _ => ⟨position, position, position⟩
  let own := if kind.isError then
      costOfRecovery + costOfByte * source.bytesBetween extent.start extent.stop +
        costOfRow * source.rowsBetween extent.start extent.stop
    else 0
  let isVisible := match kind with
    | .symbol n => (g.grammar.symbols.getD n default).isVisible
    | .error => true
    | .skipped => false
  { kind, extent, production, isVisible, isExtra
    errorCost := sums.cost + own
    dynamicRank := sums.dynamicRank
    visibleChildren := sums.visibleChildren
    visibleDescendants := sums.visibleDescendants
    children }

/-- Orders branches by kind, then by number of children, then by the children in order. -/
def order : Nat → Branch → Branch → Ordering
  | 0, _, _ => .eq
  | fuel + 1, a, b =>
      (compare a.kind.order b.kind.order).then <|
      (compare a.children.length b.children.length).then <|
      (a.children.zip b.children).foldl (fun o (x, y) => o.then (order fuel x y)) .eq

def isReplacedBy (a b : Branch) : Bool :=
  if b.cost < a.cost then true
  else if a.cost < b.cost then false
  else if b.dynamicRank > a.dynamicRank then true
  else if a.dynamicRank > b.dynamicRank then false
  else if a.cost > 0 then true
  else order (a.extent.stop - a.extent.before + 64) a b = .gt

end Branch

def splitExtras (bs : List Branch) : List Branch × List Branch :=
  let extras := bs.reverse.takeWhile (·.isExtra)
  (bs.take (bs.length - extras.length), extras.reverse)

end TypeGuards.Parsing
