import TypeGuards.Grammar.Action
/-!
The states of a grammar. They are found breadth-first, so that the number of a state tells how soon a
parse can be in it; two ways to the same items with the same followers lead to one state.
-/
namespace TypeGuards.Grammar

/-- Puts an item in its place among items; an item that is there already gets more followers. -/
def Kernel.insert (kernel : Kernel) (item : Nat) (follow : TokenSet) : Kernel :=
  let place := (kernel.takeWhile (·.1 < item)).size
  match kernel[place]? with
  | some (other, old) =>
      if other = item then kernel.setIfInBounds place (item, old ||| follow)
      else kernel.insertIdxIfInBounds place (item, follow)
  | none => kernel.push (item, follow)

/-- By symbol: the items that it brings a state forward to; none where it cannot be next. -/
def Analysis.successors (g : Analysis) (s : State) : Array Kernel :=
  let begun := s.followers.zipIdx.foldl (fun table (follow, k) =>
    if follow = 0 then table
    else
      (g.starts.getD (k + g.grammar.tokenCount) #[]).foldl
        (fun table (symbol, item) => table.modify symbol (·.push (item, follow))) table)
    (Array.replicate g.grammar.symbols.size (#[] : Kernel))
  s.kernel.foldl (fun table (item, follow) =>
    match g.next? item with
    | some symbol => table.modify symbol (·.insert (g.advance item) follow)
    | none => table) begun

structure Visit where
  expected : TokenSet
  /-- What may follow the items at their end, item by item. -/
  ends : Array TokenSet
  /-- The symbols that can be read next, in order, each with the state it leads to. -/
  moves : Array (Nat × Nat)
deriving Inhabited

structure Exploration where
  kernels : Array Kernel
  numbers : Std.HashMap Kernel Nat
  /-- The states visited, which are the first of those found. -/
  visits : Array Visit
deriving Inhabited

namespace Exploration

def number (e : Exploration) (kernel : Kernel) : Nat × Exploration :=
  match e.numbers[kernel]? with
  | some n => (n, e)
  | none =>
      let n := e.kernels.size
      (n, { e with kernels := e.kernels.push kernel, numbers := e.numbers.insert kernel n })

/-- Visits a state. A token that reductions win over leads to a state, but not by a move. -/
def visit (g : Analysis) (order : Array Nat) (e : Exploration) (kernel : Kernel) : Exploration :=
  let s := g.state kernel
  let successors := g.successors s
  let ends := (g.completed s).map (·.2)
  let ended := ends.foldl (· ||| ·) 0
  let isRead (symbol : Nat) : Bool :=
    symbol ≥ g.grammar.tokenCount || !ended.testBit symbol || (g.actionsOn s symbol).any (·.isShift)
  let (moves, e) := order.foldl (fun (moves, e) symbol =>
    let next := successors.getD symbol #[]
    if next.isEmpty then (moves, e)
    else
      let (n, e) := number e next
      (if isRead symbol then (moves : Array (Nat × Nat)).push (symbol, n) else moves, e)) (#[], e)
  { e with visits := e.visits.push ⟨s.expected, ends, moves⟩ }

/-- Visits the states found that have not been visited, at most `fuel` of them. -/
def run (g : Analysis) (order : Array Nat) : Nat → Exploration → Exploration
  | 0, e => e
  | fuel + 1, e =>
      match e.kernels[e.visits.size]? with
      | some kernel => run g order fuel (visit g order e kernel)
      | none => e

def limit : Nat := 100000

/-- The states of a grammar, the start first; the symbols that can be next are followed in a given
order. -/
def ofAnalysis (g : Analysis) (order : Array Nat) : Exploration :=
  let whole := g.firstItem.getD (g.grammar.productions.size - 1) 0
  let start := #[(whole, TokenSet.single 0)]
  run g order limit (number { kernels := #[], numbers := ∅, visits := #[] } start).2

end Exploration

end TypeGuards.Grammar
