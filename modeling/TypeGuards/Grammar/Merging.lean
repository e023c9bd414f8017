import TypeGuards.Grammar.Exploration
import TypeGuards.Grammar.Partition
/-!
Which states of a grammar can be one. States with the same items may differ in what follows the
items. They are one unless then a token would be expected where its text reads as another, or a token
that each of them expects would be acted on in another way.
-/
namespace TypeGuards.Grammar

/-- By token: the tokens that may stand right behind it. Extra tokens may stand anywhere. -/
def Analysis.behind (g : Analysis) : Array TokenSet :=
  let p := g.grammar
  let bySymbol := p.productions.foldl (fun table q =>
    (q.steps.zip (q.steps.extract 1 q.steps.size)).foldl (fun table (a, b) =>
      table.modify a.symbol (· ||| g.firsts.getD b.symbol 0)) table)
    (Array.replicate p.symbols.size (0 : TokenSet))
  let extras := p.extras.foldl (fun set t => set ||| TokenSet.single t) 0
  let byToken := (p.lastSets.zip bySymbol).foldl (fun table (last, next) =>
    (TokenSet.members last p.tokenCount).foldl (fun table t => table.modify t (· ||| next)) table)
    (Array.replicate p.tokenCount extras)
  p.extras.foldl (fun table t => table.setIfInBounds t ((1 <<< p.tokenCount) - 1)) byToken

/-- Which tokens a state may come to expect. -/
structure Compatibility where
  /-- The tokens that no state comes to expect. -/
  fixed : TokenSet
  /-- Tokens, each with those that a state expecting it does not come to expect. -/
  rivals : List (Nat × TokenSet)

def Compatibility.barred (c : Compatibility) (expected : TokenSet) : TokenSet :=
  c.rivals.foldl (fun barred (t, rivals) => if expected.testBit t then barred ||| rivals else barred)
    c.fixed

/-- What tells states with the same items apart. -/
structure Profile where
  kernel : Kernel
  expected : TokenSet
  barred : TokenSet
  ends : Array TokenSet
  destinations : Array Nat
deriving Inhabited

/-- States alike in these ways are alike in all that can keep them apart. -/
instance : BEq Profile where
  beq a b := a.expected == b.expected && a.ends == b.ends && a.destinations == b.destinations

def Profile.conflicts (g : Analysis) (a b : Profile) : Bool :=
  let both := a.expected &&& b.expected
  if a.destinations != b.destinations then true
  else if (a.expected ^^^ both) &&& b.barred ≠ 0 || (b.expected ^^^ both) &&& a.barred ≠ 0 then true
  else
    -- only tokens behind an item's end in one of them can have other actions in the other
    let changed := (a.ends.zip b.ends).foldl (fun set (x, y) => set ||| (x ^^^ y)) 0
    if changed &&& both = 0 then false
    else
      let s := g.state a.kernel
      let t := g.state b.kernel
      (TokenSet.members (changed &&& both) g.grammar.tokenCount).any fun token =>
        g.actionsOn s token != g.actionsOn t token

namespace Exploration

variable (e : Exploration)

def byItems : Partition :=
  let (groups, groupOf, _) := e.kernels.foldl (fun (groups, groupOf, known) kernel =>
    let items := kernel.map (·.1)
    let i := (groupOf : Array Nat).size
    match (known : Std.HashMap (Array Nat) Nat)[items]? with
    | some k => ((groups : Array (List Nat)).modify k (i :: ·), groupOf.push k, known)
    | none => (groups.push [i], groupOf.push groups.size, known.insert items groups.size))
    (#[], #[], ∅)
  { groups := groups.map (·.reverse), groupOf }

def profile (g : Analysis) (c : Compatibility) (groupOf : Array Nat) (i : Nat) : Profile :=
  let v := e.visits.getD i default
  let reads := v.moves.filter fun m => m.1 < g.grammar.tokenCount
  { kernel := e.kernels.getD i #[]
    expected := v.expected
    barred := c.barred v.expected
    ends := v.ends
    destinations := reads.map fun m => groupOf.getD m.2 0 }

def destinations (groupOf : Array Nat) (i : Nat) : Array Nat :=
  (e.visits.getD i default).moves.map fun m => groupOf.getD m.2 0

/-- The groups of states that are one. The symbols lead from states that are one to states that are
one. -/
def merged (g : Analysis) (c : Compatibility) : Partition :=
  let apart := e.byItems.split (e.profile g c) (Profile.conflicts g)
  let step (p : Partition) : Partition × Bool :=
    let q := p.split e.destinations (· != ·)
    (q, q.groups.size != p.groups.size)
  untilStable e.kernels.size step apart

end Exploration

end TypeGuards.Grammar
