import Std.Data.HashMap
import TypeGuards.Grammar.Production
/-!
The states of a parse. A state is a set of items, productions read up to a position, each with the
tokens that may follow it. A symbol leads from a state to the state of the items it brings forward.

Sets of tokens are numbers whose bit `t` tells whether token `t` is a member.
-/
namespace TypeGuards.Grammar

abbrev TokenSet := Nat

namespace TokenSet

def single (t : Nat) : TokenSet := 1 <<< t

def has (s : TokenSet) (t : Nat) : Bool := s.testBit t

def members (s : TokenSet) (bound : Nat) : List Nat := (List.range bound).filter s.has

end TokenSet

/-! ### Items -/

/-- A production with a position in it. -/
structure ItemInfo where
  production : Nat
  position : Nat
deriving Inhabited

structure Analysis where
  grammar : Productions
  firstItem : Array Nat
  items : Array ItemInfo
  /-- The least item that behaves like an item: what was read before may differ. -/
  canonical : Array Nat
  firsts : Array TokenSet
  /-- By rule: the symbols its productions begin with, each with the item behind it, in the order of
  the items. -/
  starts : Array (Array (Nat × Nat))
  startedBy : Array (Array Nat)
  /-- The rules a rule may begin with, the tokens that may then follow them, and whether what
  follows the outer rule may too. -/
  openings : Array (Array (Nat × TokenSet × Bool))
  empty : Array Nat
deriving Inhabited

namespace Analysis

variable (g : Analysis)

def production (i : Nat) : Production := g.grammar.productions.getD (g.items.getD i default).production default

def position (i : Nat) : Nat := (g.items.getD i default).position

def next? (i : Nat) : Option Nat := ((g.production i).steps[g.position i]?).map (·.symbol)

def previous? (i : Nat) : Option (Step Nat) :=
  match g.position i with
  | 0 => none
  | k + 1 => (g.production i).steps[k]?

def rank (i : Nat) : Rank := ((g.previous? i).map (·.rank)).getD .unranked

def side (i : Nat) : Option Associativity := (g.previous? i).bind (·.side)

def advance (i : Nat) : Nat := g.canonical.getD (i + 1) (i + 1)

def ruleName (head : Nat) : String := (g.grammar.symbols.getD head default).name

end Analysis

/-- Repeats a step until it reports no change, at most `fuel` times. -/
def untilStable (fuel : Nat) (step : α → α × Bool) (a : α) : α :=
  match fuel with
  | 0 => a
  | fuel + 1 =>
      match step a with
      | (a, false) => a
      | (a, true) => untilStable fuel step a

def Productions.edges (p : Productions) (edge? : Production → Option (Step Nat)) : List (Nat × Nat) :=
  let pairs := p.productions.toList.filterMap fun q =>
    if q.head < p.symbols.size then (edge? q).map fun s => (q.head, s.symbol) else none
  (pairs.foldl (fun (seen, found) pair =>
    if (seen : Std.HashMap (Nat × Nat) Unit).contains pair then (seen, found)
    else (seen.insert pair (), pair :: found)) (∅, [])).2.reverse

def Productions.edgeSets (p : Productions) (edge? : Production → Option (Step Nat)) :
    Array TokenSet :=
  let edges := p.edges edge?
  let initial := (Array.range p.symbols.size).map fun s =>
    if s < p.tokenCount then TokenSet.single s else 0
  let step := fun sets => edges.foldl (fun (sets, changed) (head, symbol) =>
    let old := (sets : Array TokenSet).getD head 0
    let new := old ||| sets.getD symbol 0
    if new = old then (sets, changed) else (sets.setIfInBounds head new, true)) (sets, false)
  untilStable p.symbols.size step initial

def Productions.firstSets (p : Productions) : Array TokenSet := p.edgeSets (·.steps[0]?)

def Productions.lastSets (p : Productions) : Array TokenSet := p.edgeSets (·.steps.back?)

/-- The openings of a rule found so far, by the rules they open, and the rules yet to visit. -/
structure Search where
  found : Std.HashMap Nat (TokenSet × Bool)
  todo : List Nat

/-- Adds an opening found by way of a rule whose own opening is known. -/
def Search.extend (tokens : TokenSet) (handed : Bool) (s : Search) (opening : Nat × TokenSet × Bool) :
    Search :=
  let (m, t, h) := opening
  let old := s.found.getD m (0, false)
  let new := (old.1 ||| t ||| (if h then tokens else 0), old.2 || (h && handed))
  if new.1 = old.1 && new.2 = old.2 && s.found.contains m then s
  else { found := s.found.insert m new, todo := if s.todo.contains m then s.todo else m :: s.todo }

def openingsOf (direct : Array (Array (Nat × TokenSet × Bool))) (rule : Nat) :
    Array (Nat × TokenSet × Bool) :=
  let visit (s : Search) : Search × Bool :=
    match s.todo with
    | [] => (s, false)
    | r :: todo =>
        let (tokens, handed) := s.found.getD r (0, false)
        let extend := Search.extend tokens (handed || r = rule)
        ((direct.getD r #[]).foldl extend { s with todo }, true)
  let searched := untilStable (64 * direct.size + 64) visit { found := ∅, todo := [rule] }
  searched.found.toArray.map fun (m, t, h) => (m, t, h)

def Productions.analyse (p : Productions) : Analysis :=
  let whole : Production :=
    { head := p.symbols.size, steps := #[⟨p.start, .unranked, none, none, none⟩], dynamicRank := 0 }
  let p := { p with productions := p.productions.push whole }
  let (items, firstItem) := p.productions.foldl (fun (items, starts) q =>
    (Nat.fold (q.steps.size + 1) (fun k _ items =>
        (items : Array ItemInfo).push ⟨(starts : Array Nat).size, k⟩) items,
      starts.push items.size)) (#[], #[])
  let (canonical, _) := items.foldl (fun (canonical, seen) i =>
    let q := p.productions.getD i.production default
    let steps := q.steps.toList
    let last := (steps.take i.position).getLast?
    let key := (q.head, i.position, q.dynamicRank, steps.length,
      (last.map fun s => (s.rank, s.side)),
      (steps.take i.position).map fun s => (s.label, s.field), steps.drop i.position)
    let own := (canonical : Array Nat).size
    match (seen : Std.HashMap _ Nat)[key]? with
    | some j => (canonical.push j, seen)
    | none => (canonical.push own, seen.insert key own)) (#[], ∅)
  let firsts := p.firstSets
  let count := p.symbols.size
  let starts := p.productions.zipIdx.foldl (fun table (q, k) =>
    match q.steps[0]? with
    | some s =>
        let behind := firstItem.getD k 0 + 1
        let start := (s.symbol, canonical.getD behind behind)
        table.modify q.head fun all => if all.contains start then all else all.push start
    | none => table) (Array.replicate count (#[] : Array (Nat × Nat)))
  let starts := starts.map fun all => all.qsort fun a b => a.2 < b.2
  let startedBy := starts.zipIdx.foldl (fun table (all, rule) =>
    all.foldl (fun table (symbol, _) =>
      table.modify symbol fun rules => if rules.contains rule then rules else rules.push rule) table)
    (Array.replicate count (#[] : Array Nat))
  let empty := (p.productions.zipIdx.filter fun (q, _) => q.steps.isEmpty).map (·.2)
  let direct := p.productions.foldl (fun table q =>
    match q.steps[0]? with
    | some s =>
        if s.symbol < p.tokenCount then table
        else
          let entry := match q.steps[1]? with
            | some t => (s.symbol, firsts.getD t.symbol 0, false)
            | none => (s.symbol, 0, true)
          table.modify q.head fun es => if es.contains entry then es else es.push entry
    | none => table) (Array.replicate count (#[] : Array (Nat × TokenSet × Bool)))
  let openings := (Array.range count).map fun r =>
    if r < p.tokenCount then #[] else openingsOf direct r
  { grammar := p, firstItem, items, canonical, firsts, starts, startedBy, openings, empty }

/-! ### States -/

abbrev Kernel := Array (Nat × TokenSet)

def Kernel.union (a b : Kernel) : Kernel :=
  (a.zip b).map fun ((item, follow), (_, more)) => (item, follow ||| more)

/-- A state: its items in order, each with what may follow it, and what may follow the rules that
may begin there. -/
structure State where
  kernel : Kernel
  /-- By rule; zero where the rule cannot begin. -/
  followers : Array TokenSet
  expected : TokenSet
deriving Inhabited

def Analysis.state (g : Analysis) (kernel : Kernel) : State :=
  let p := g.grammar
  let add := fun (fs : Array TokenSet) (rule : Nat) (t : TokenSet) =>
    fs.modify (rule - p.tokenCount) (· ||| t)
  let enter := fun (fs : Array TokenSet) (rule : Nat) (follow : TokenSet) =>
    (g.openings.getD rule #[]).foldl
      (fun fs (m, t, handed) => add fs m (if handed then t ||| follow else t)) (add fs rule follow)
  let (followers, expected) := kernel.foldl (fun (fs, expected) (i, follow) =>
    match g.next? i with
    | none => (fs, expected ||| follow)
    | some s =>
        let expected := expected ||| g.firsts.getD s 0
        if s < p.tokenCount then (fs, expected)
        else
          let after := match (g.production i).steps[g.position i + 1]? with
            | some t => g.firsts.getD t.symbol 0
            | none => follow
          (enter fs s after, expected)) (Array.replicate (p.symbols.size - p.tokenCount) 0, 0)
  let expected := g.empty.foldl (fun e q =>
    e ||| followers.getD ((p.productions.getD q default).head - p.tokenCount) 0) expected
  { kernel, followers, expected := p.extras.foldl (fun e t => e ||| TokenSet.single t) expected }

end TypeGuards.Grammar
