import TypeGuards.Grammar.State
/-!
What a parse may do in a state. Where a token allows several actions, ranks and associativities drop
the weaker ones, and what they leave open stays open.
-/
namespace TypeGuards.Grammar

inductive Action where
  /-- Reads the token; `isRepetition` marks the reading a repetition does without. -/
  | shift (isRepetition : Bool)
  | shiftExtra
  | reduce (production : Nat)
  | accept
  | recover
deriving DecidableEq, Inhabited

def Action.isShift : Action → Bool
  | .shift _ => true
  | _ => false

def Ranking.applies (r : Ranking) (rank : Rank) (rules : List String) : Bool :=
  match r with
  | .rank n => rank = .named n
  | .rule n => rules.contains n

/-- Compares two sides by one ordering: the side met first is the stronger. -/
def compareInOrdering (l : Rank) (ls : List String) (r : Rank) (rs : List String) :
    Bool → Bool → List Ranking → Option Ordering
  | _, _, [] => none
  | sawLeft, sawRight, e :: rest =>
      if e.applies l ls then
        if sawRight then some .lt else compareInOrdering l ls r rs true sawRight rest
      else if e.applies r rs then
        if sawLeft then some .gt else compareInOrdering l ls r rs sawLeft true rest
      else compareInOrdering l ls r rs sawLeft sawRight rest

/-- Levels compare as numbers, with no rank as zero; names compare by the orderings. -/
def compareRanks (orderings : List (List Ranking)) (l : Rank) (ls : List String) (r : Rank)
    (rs : List String) : Ordering :=
  let byName := (orderings.findSome? (compareInOrdering l ls r rs false false)).getD .eq
  match l, r with
  | .level a, .level b => if a ≠ 0 || b ≠ 0 then compare a b else byName
  | .level a, .unranked => if a ≠ 0 then compare a 0 else byName
  | .unranked, .level b => if b ≠ 0 then compare 0 b else byName
  | _, _ => byName

/-- The reductions that one token allows, with what is needed to weigh them against reading it. -/
structure Reductions where
  actions : Array Action := #[]
  rank : Rank := .unranked
  rules : List String := []
  left : Bool := false
  right : Bool := false
  neither : Bool := false

namespace Analysis

variable (g : Analysis)

/-- Adds a reduction unless a stronger one is there; drops the weaker ones. -/
def addReduction (r : Reductions) (i : Nat) : Reductions :=
  let q := (g.items.getD i default).production
  let head := (g.production i).head
  let action := if head < g.grammar.symbols.size then Action.reduce q else .accept
  let rule := g.ruleName head
  let join (r : Reductions) : Reductions :=
    let r := { r with
      actions := r.actions.push action
      rank := g.rank i
      rules := if r.rules.contains rule then r.rules else rule :: r.rules }
    match g.side i with
    | some .left => { r with left := true }
    | some .right => { r with right := true }
    | none => { r with neither := true }
  if r.actions.isEmpty then join r
  else
    match compareRanks g.grammar.orderings (g.rank i) [rule] r.rank r.rules with
    | .gt => join {}
    | .eq => join r
    | .lt => r

def completed (s : State) : Array (Nat × TokenSet) :=
  let fromEmpty := g.empty.filterMap fun q =>
    let head := (g.grammar.productions.getD q default).head
    let follow := s.followers.getD (head - g.grammar.tokenCount) 0
    if follow = 0 then none else some (g.firstItem.getD q 0, follow)
  fromEmpty ++ s.kernel.filter fun (i, _) => (g.next? i).isNone

def resolve (s : State) (token : Nat) (r : Reductions) : Array Action :=
  let p := g.grammar
  let shifting := s.kernel.filter fun (i, _) =>
    g.position i > 0 && match g.next? i with
      | some n => (g.firsts.getD n 0).testBit token
      | none => false
  let reducing := (g.completed s).filter fun (_, follow) => follow.testBit token
  let heads := (shifting ++ reducing).toList.map fun (i, _) => (g.production i).head
  let heads := heads.filter (· < p.symbols.size)
  let isRepetition := match heads with
    | h :: rest => (p.symbols.getD h default).isRepetition && rest.all (· = h)
    | [] => false
  if isRepetition then r.actions.push (.shift true)
  else
    let orders := shifting.toList.map fun (i, _) =>
      compareRanks p.orderings (g.rank i) [g.ruleName (g.production i).head] r.rank r.rules
    let more := orders.contains .gt
    let less := orders.contains .lt
    if more && !less then #[.shift false]
    else if less && !more then r.actions
    else if !less && !more && r.left && !r.right && !r.neither then r.actions
    else if !less && !more && r.right && !r.left && !r.neither then #[.shift false]
    else r.actions.push (.shift false)

def actionsOn (s : State) (token : Nat) : Array Action :=
  let p := g.grammar
  let reductions := (g.completed s).foldl
    (fun r (i, follow) => if follow.testBit token then g.addReduction r i else r) ({} : Reductions)
  let reads := s.kernel.any (fun (i, _) => g.next? i = some token) ||
    (g.startedBy.getD token #[]).any fun rule => s.followers.getD (rule - p.tokenCount) 0 ≠ 0
  if reads then
    if reductions.actions.isEmpty then #[.shift false] else g.resolve s token reductions
  else if reductions.actions.isEmpty then
    if p.extras.contains token then #[.shiftExtra] else #[]
  else reductions.actions

end Analysis

end TypeGuards.Grammar
