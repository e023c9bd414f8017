import TypeGuards.Parsing.Branch
/-!
The stacks of a parse that follows several readings at once. Readings that reach the same state at
the same position share their stack: a node then has several links downwards. Each version is a
reading still followed.
-/
namespace TypeGuards.Parsing

open TypeGuards.Grammar

structure Link where
  node : Nat
  /-- Nothing where skipping began. -/
  branch : Option Branch
deriving Inhabited

structure StackNode where
  state : Nat
  position : Nat
  errorCost : Nat := 0
  nodeCount : Nat := 0
  dynamicRank : Int := 0
  links : Array Link := #[]
deriving Inhabited

/-- A state below the top of a stack that was about to skip tokens. -/
structure Landmark where
  state : Nat
  position : Nat
  depth : Nat
deriving Inhabited

inductive Status where
  | active
  /-- Stopped before a token that does not fit. -/
  | paused (token : Branch)
  | halted
deriving Inhabited

structure Version where
  node : Nat
  status : Status := .active
  nodeCountAtError : Nat := 0
  landmarks : Option (Array Landmark) := none
deriving Inhabited

namespace Version

def isActive (v : Version) : Bool := match v.status with
  | .active => true
  | _ => false

def isPaused (v : Version) : Bool := match v.status with
  | .paused _ => true
  | _ => false

def isHalted (v : Version) : Bool := match v.status with
  | .halted => true
  | _ => false

end Version

structure Stacks where
  nodes : Array StackNode
  versions : Array Version
deriving Inhabited

def maxLinks : Nat := 8

def maxPaths : Nat := 64

namespace Stacks

def initial : Stacks :=
  { nodes := #[{ state := Automaton.starting, position := 0 }], versions := #[{ node := 0 }] }

def node (s : Stacks) (i : Nat) : StackNode := s.nodes.getD i default

def version (s : Stacks) (v : Nat) : Version := s.versions.getD v default

def top (s : Stacks) (v : Nat) : StackNode := s.node (s.version v).node

def state (s : Stacks) (v : Nat) : Nat := (s.top v).state

def position (s : Stacks) (v : Nat) : Nat := (s.top v).position

def modifyVersion (s : Stacks) (v : Nat) (f : Version → Version) : Stacks :=
  { s with versions := s.versions.modify v f }

def halt (s : Stacks) (v : Nat) : Stacks := s.modifyVersion v ({ · with status := .halted })

def remove (s : Stacks) (v : Nat) : Stacks := { s with versions := s.versions.eraseIdxIfInBounds v }

def renumber (s : Stacks) (v w : Nat) : Stacks :=
  if v = w then s
  else
    let landmarks := (s.version v).landmarks.or (s.version w).landmarks
    let moved := { s.version v with landmarks }
    { s with versions := (s.versions.setIfInBounds w moved).eraseIdxIfInBounds v }

def swap (s : Stacks) (v w : Nat) : Stacks := { s with versions := s.versions.swapIfInBounds v w }

def copy (s : Stacks) (v : Nat) : Stacks × Nat :=
  ({ s with versions := s.versions.push { s.version v with landmarks := none } }, s.versions.size)

/-- The node above `below` after a branch; nothing stands for the start of skipping. -/
def above (s : Stacks) (below : Nat) (branch : Option Branch) (state : Nat) : StackNode :=
  let n := s.node below
  match branch with
  | none => { n with state, links := #[⟨below, none⟩] }
  | some b =>
      { state
        position := b.extent.stop
        errorCost := n.errorCost + b.cost
        nodeCount := n.nodeCount + b.nodeCount
        dynamicRank := n.dynamicRank + b.dynamicRank
        links := #[⟨below, branch⟩] }

def push (s : Stacks) (v : Nat) (branch : Option Branch) (state : Nat) : Stacks :=
  let new := s.above (s.version v).node branch state
  let i := s.nodes.size
  { nodes := s.nodes.push new
    versions := s.versions.modify v fun x =>
      { x with node := i
               nodeCountAtError := if branch.isNone then new.nodeCount else x.nodeCountAtError } }

/-! ### Popping -/

/-- A way down a stack; the branches passed are in order from the lowest. -/
structure Path where
  node : Nat
  branches : List Branch := []
  /-- The number of branches passed that are no extras. -/
  count : Nat := 0

def Path.follow (p : Path) (l : Link) : Path :=
  match l.branch with
  | none => { p with node := l.node, count := p.count + 1 }
  | some b =>
      { node := l.node
        branches := b :: p.branches
        count := if b.isExtra then p.count else p.count + 1 }

/-- What to do with a path: keep it as an answer, go on down. -/
structure Verdict where
  isAnswer : Bool
  goesOn : Bool

/-- Follows all paths at once, one link a round. A node's first link continues a path, its other
links start new ones after all others. -/
def walk (s : Stacks) (judge : Path → Verdict) : Nat → List Path → List Path → List Path
  | 0, _, answers => answers.reverse
  | _, [], answers => answers.reverse
  | fuel + 1, paths, answers =>
      let round := paths.foldl (fun (kept, fresh, answers) p =>
        let verdict := judge p
        let answers := if verdict.isAnswer then p :: answers else answers
        let links := (s.node p.node).links
        if !verdict.goesOn then (kept, fresh, answers)
        else
          match links[0]? with
          | none => (kept, fresh, answers)
          | some first =>
              let room := maxPaths - (paths.length + (fresh : List Path).length)
              let others := ((links.toList.drop 1).take room).map p.follow
              (p.follow first :: kept, others.reverse ++ fresh, answers)) ([], [], answers)
      let (kept, fresh, answers) := round
      walk s judge fuel (kept.reverse ++ fresh.reverse) answers

def paths (s : Stacks) (v : Nat) (judge : Path → Verdict) : List Path :=
  walk s judge (s.nodes.size + 1) [{ node := (s.version v).node }] []

/-- Groups paths by the node they end in; each group is a new version, whose number comes with it. -/
def fork (s : Stacks) (v : Nat) (ps : List Path) : Stacks × List (Nat × List (List Branch)) :=
  let old := s.version v
  let (s, groups) := ps.foldl (fun (s, groups) p =>
    match (groups : List (Nat × Nat × List (List Branch))).find? (·.1 = p.node) with
    | some _ =>
        (s, groups.map fun (n, w, bs) => if n = p.node then (n, w, p.branches :: bs) else (n, w, bs))
    | none =>
        let new : Version := { node := p.node, nodeCountAtError := old.nodeCountAtError }
        ({ s with versions := s.versions.push new : Stacks },
          (p.node, s.versions.size, [p.branches]) :: groups)) (s, [])
  (s, groups.reverse.map fun (_, w, bs) => (w, bs.reverse))

/-- Takes `count` branches, extras not counted, off a version in every way. -/
def pop (s : Stacks) (v count : Nat) : Stacks × List (Nat × List (List Branch)) :=
  s.fork v (s.paths v fun p => ⟨p.count = count, p.count ≠ count⟩)

def popAll (s : Stacks) (v : Nat) : Stacks × List (Nat × List (List Branch)) :=
  s.fork v (s.paths v fun p => ⟨(s.node p.node).links.isEmpty, true⟩)

def landmarks (s : Stacks) (v depth : Nat) : Array Landmark :=
  let rec go (fuel : Nat) (paths : List Path) (found : Array Landmark) : Array Landmark :=
    match fuel, paths with
    | 0, _ => found
    | _, [] => found
    | fuel + 1, paths =>
        let (kept, fresh, found) := paths.foldl (fun (kept, fresh, found) p =>
          if p.count > depth then (kept, fresh, found)
          else
            let n := s.node p.node
            let isKnown := (found : Array Landmark).any fun l => l.depth = p.count && l.state = n.state
            let found := if isKnown then found else found.push ⟨n.state, n.position, p.count⟩
            match n.links[0]? with
            | none => (kept, fresh, found)
            | some first =>
                let room := maxPaths - (paths.length + (fresh : List Path).length)
                let others := ((n.links.toList.drop 1).take room).map p.follow
                (p.follow first :: kept, others.reverse ++ fresh, found)) ([], [], found)
        go fuel (kept.reverse ++ fresh.reverse) found
  go (s.nodes.size + 1) [{ node := (s.version v).node }] #[]

/-! ### Merging -/

/-- Whether two branches cover the same text in the same shape, or both contain errors. -/
def similar (a b : Option Branch) : Bool :=
  match a, b with
  | none, none => true
  | some a, some b =>
      a.kind = b.kind &&
        ((a.cost > 0 && b.cost > 0) ||
          (a.extent.before = b.extent.before && a.extent.start = b.extent.start &&
            a.extent.stop = b.extent.stop && a.children.length = b.children.length &&
            a.isExtra = b.isExtra))
  | _, _ => false

def rankOf (b : Option Branch) : Int := (b.map (·.dynamicRank)).getD 0

/-- Adds a link to a node unless the node has one as good. -/
def addLink : Nat → Stacks → Nat → Link → Stacks
  | 0, s, _, _ => s
  | fuel + 1, s, target, link =>
      if link.node = target then s
      else
        let n := s.node target
        let below := s.node link.node
        let mergeable (l : Link) : Bool :=
          let other := s.node l.node
          similar l.branch link.branch &&
            (l.node = link.node ||
              (other.state = below.state && other.position = below.position &&
                other.errorCost = below.errorCost))
        match n.links.findIdx? mergeable with
        | some i =>
            let old := n.links.getD i default
            if old.node = link.node then
              if rankOf link.branch > rankOf old.branch then
                let n := { n with
                  links := n.links.setIfInBounds i { old with branch := link.branch }
                  dynamicRank := below.dynamicRank + rankOf link.branch }
                { s with nodes := s.nodes.setIfInBounds target n }
              else s
            else
              let s := below.links.foldl (fun s l => addLink fuel s old.node l) s
              let rank := below.dynamicRank + rankOf link.branch
              let raise (n : StackNode) : StackNode := { n with dynamicRank := max n.dynamicRank rank }
              { s with nodes := s.nodes.modify target raise }
        | none =>
            if n.links.size = maxLinks then s
            else
              let count := below.nodeCount + ((link.branch.map (·.nodeCount)).getD 0)
              let rank := below.dynamicRank + rankOf link.branch
              let n := { n with
                links := n.links.push link
                nodeCount := max n.nodeCount count
                dynamicRank := max n.dynamicRank rank }
              { s with nodes := s.nodes.setIfInBounds target n }

def canMerge (s : Stacks) (v w : Nat) : Bool :=
  let a := s.top v
  let b := s.top w
  (s.version v).isActive && (s.version w).isActive && a.state = b.state &&
    a.position = b.position && a.errorCost = b.errorCost

/-- Merges version `w` into version `v` if they agree; tells whether they did. -/
def merge (s : Stacks) (v w : Nat) : Stacks × Bool :=
  if s.canMerge v w then
    let target := (s.version v).node
    let s := (s.top w).links.foldl (fun s l => addLink (s.nodes.size + 1) s target l) s
    let n := s.node target
    let s := if n.state = Automaton.skipping then
        s.modifyVersion v ({ · with nodeCountAtError := n.nodeCount })
      else s
    (s.remove w, true)
  else (s, false)

/-! ### Errors -/

def errorCost (s : Stacks) (v : Nat) : Nat :=
  let n := s.top v
  let isFresh := n.state = Automaton.skipping && match n.links[0]? with
    | some l => l.branch.isNone
    | none => true
  n.errorCost + (if (s.version v).isPaused || isFresh then costOfRecovery else 0)

def nodesSinceError (s : Stacks) (v : Nat) : Nat := (s.top v).nodeCount - (s.version v).nodeCountAtError

def hasAdvanced (source : Source) (s : Stacks) (v : Nat) : Bool :=
  let rec go (fuel i : Nat) : Bool :=
    match fuel with
    | 0 => false
    | fuel + 1 =>
        let n := s.node i
        match (n.links[0]? : Option Link) with
        | some { node := below, branch := some b } =>
            if source.bytesBetween b.extent.before b.extent.stop > 0 then true
            else if n.nodeCount > (s.version v).nodeCountAtError && b.cost = 0 then go fuel below
            else false
        | _ => false
  (s.top v).errorCost = 0 || go (s.nodes.size + 1) (s.version v).node

end Stacks

end TypeGuards.Parsing
