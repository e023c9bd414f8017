import TypeGuards.Grammar.Merging
/-!
The shift-reduce automaton of a grammar. Its states are groups of states that are one: what may follow
an item in one of them may follow it in all.
-/
namespace TypeGuards.Grammar

/-- State `0` is the state of a parse that skips tokens; nothing is expected there. State `1` is the
state that a parse starts in. -/
structure Automaton where
  states : Array State
  moves : Std.HashMap (Nat × Nat) Nat
deriving Inhabited

namespace Automaton

def skipping : Nat := 0

def starting : Nat := 1

def expected (a : Automaton) (state : Nat) : TokenSet := (a.states.getD state default).expected

def move? (a : Automaton) (state symbol : Nat) : Option Nat := a.moves[(state, symbol)]?

def actionsOn (a : Automaton) (g : Analysis) (state token : Nat) : Array Action :=
  if state = skipping then #[.recover] else g.actionsOn (a.states.getD state default) token

/-- The automaton whose states are the groups of a partition. The symbols lead from each state of a
group to the same groups, so the first one tells where. -/
def ofPartition (g : Analysis) (e : Exploration) (p : Partition) : Automaton :=
  let states := p.groups.map fun members =>
    match members.map fun i => e.kernels.getD i #[] with
    | [] => default
    | kernel :: kernels => g.state (kernels.foldl Kernel.union kernel)
  let moves := p.groups.zipIdx.foldl (fun moves (members, k) =>
    let row := (members.head?.map fun i => (e.visits.getD i default).moves).getD #[]
    row.foldl (fun moves (symbol, n) => moves.insert (k + 1, symbol) (p.groupOf.getD n 0 + 1)) moves)
    (∅ : Std.HashMap (Nat × Nat) Nat)
  { states := #[default] ++ states, moves }

def ofAnalysis (g : Analysis) (c : Compatibility) (order : Array Nat) : Automaton :=
  let e := Exploration.ofAnalysis g order
  ofPartition g e (e.merged g c)

end Automaton

end TypeGuards.Grammar
