import TypeGuards.Parsing.Stack
/-!
Parsing a text by the automaton of a grammar, with every open choice followed to the end and with
recovery from errors: a token that fits nowhere is skipped, made up, or closes what was open before
it, whichever costs least. The result is always a tree; what no rule covers is an error in it.
-/
namespace TypeGuards.Parsing

open TypeGuards.Grammar

structure Token where
  symbol : Nat
  start : Nat
  stop : Nat
deriving Inhabited

structure Lexer where
  /-- Tokens that depend on more than their own text. -/
  contextual : (allowed : TokenSet) → Source → Nat → Option Token
  /-- All other tokens; the first flag tells the end of the text apart. -/
  plain : (allowed : TokenSet) → Source → Nat → Option Token
  skipBlanks : Source → Nat → Nat
  whileSkipping : TokenSet
  keyword? : Source → Token → Option Nat

structure Language where
  analysis : Analysis
  automaton : Automaton
  lexer : Lexer

/-- The tokens that a state expects, but for the end of the text. -/
def Language.expectedTokens (lang : Language) (state : Nat) : List Nat :=
  (TokenSet.members (lang.automaton.expected state) lang.analysis.grammar.tokenCount).filter (· > 0)

structure Run where
  stackSet : Stacks
  finished : Option Branch := none
  accepted : Nat := 0
deriving Inhabited

/-- The greatest number of readings followed from one token to the next. -/
def maxVersions : Nat := 6

/-- By how much more they may exceed it for a moment. -/
def versionOverflow : Nat := 4

def maxDepth : Nat := 16

/-- A difference in cost, weighed by progress, beyond which the dearer reading is given up. -/
def maxCostDifference : Nat := 18 * costOfTree

abbrev Parse := StateM Run

section

variable (lang : Language) (source : Source)

def stackSet : Parse Stacks := return (← get).stackSet

def modifyStacks (f : Stacks → Stacks) : Parse Unit :=
  modify fun r =>
    let s := r.stackSet
    let r := { r with stackSet := default }
    { r with stackSet := f s }

def actionsOn (state token : Nat) : Array Action :=
  lang.automaton.actionsOn lang.analysis state token

def stateAfter (state symbol : Nat) : Nat :=
  (lang.automaton.move? state symbol).getD Automaton.skipping

/-! ### Tokens -/

/-- Skips characters up to the next token that can be read while skipping. -/
def errorEnd : Nat → Nat → Nat
  | 0, i => i
  | fuel + 1, i =>
      if i ≥ source.size || (lang.lexer.plain lang.lexer.whileSkipping source i).isSome then i
      else
        let j := lang.lexer.skipBlanks source i
        errorEnd fuel (if j = i then i + 1 else j)

def readToken (v : Nat) : Parse Branch := do
  let s ← stackSet
  let state := s.state v
  let position := s.position v
  let isSkipping := state = Automaton.skipping
  let expected := lang.automaton.expected state
  let allowed := if isSkipping then lang.lexer.whileSkipping else expected
  let leaf (t : Token) (isKeyword : Bool) : Branch :=
    Branch.leaf lang.analysis t.symbol ⟨position, t.start, t.stop⟩ isKeyword
  if !isSkipping then
    if let some t := lang.lexer.contextual allowed source position then
      if t.stop > position then return leaf t false
      let isExtra := (actionsOn lang state t.symbol).back? = some .shiftExtra
      if s.hasAdvanced source v && !isExtra then return leaf t false
  let found := match lang.lexer.plain allowed source position with
    | some t => some t
    | none => if isSkipping then none else lang.lexer.plain lang.lexer.whileSkipping source position
  match found with
  | some t =>
      if t.symbol = lang.analysis.grammar.word then
        match lang.lexer.keyword? source t with
        | some k =>
            if (actionsOn lang state k).isEmpty then return leaf t true
            else return leaf { t with symbol := k } true
        | none => return leaf t false
      else return leaf t false
  | none =>
      let start := lang.lexer.skipBlanks source position
      let stop := errorEnd lang source (source.size + 1) (start + 1)
      return Branch.errorLeaf ⟨position, start, stop⟩

/-! ### Weighing readings -/

structure Standing where
  cost : Nat
  nodes : Nat
  rank : Int
  isInError : Bool

def standing (s : Stacks) (v : Nat) : Standing :=
  let isPaused := (s.version v).isPaused
  { cost := s.errorCost v + (if isPaused then costOfTree else 0)
    nodes := s.nodesSinceError v
    rank := (s.top v).dynamicRank
    isInError := isPaused || s.state v = Automaton.skipping }

inductive Preference where
  | takeLeft
  | preferLeft
  | none
  | preferRight
  | takeRight
deriving DecidableEq

def Standing.compare (a b : Standing) : Preference :=
  if !a.isInError && b.isInError then
    if a.cost < b.cost then .takeLeft else .preferLeft
  else if a.isInError && !b.isInError then
    if b.cost < a.cost then .takeRight else .preferRight
  else if a.cost < b.cost then
    if (b.cost - a.cost) * (1 + a.nodes) > maxCostDifference then .takeLeft else .preferLeft
  else if b.cost < a.cost then
    if (a.cost - b.cost) * (1 + b.nodes) > maxCostDifference then .takeRight else .preferRight
  else if a.rank > b.rank then .preferLeft
  else if b.rank > a.rank then .preferRight
  else .none

/-- Whether some other reading makes it pointless to go on with one at a cost. -/
def betterExists (r : Run) (v : Nat) (isInError : Bool) (cost : Nat) : Bool :=
  let s := r.stackSet
  let isBeaten := match r.finished with
    | some t => t.cost ≤ cost
    | none => false
  let own := { standing s v with cost, isInError }
  isBeaten || (List.range s.versions.size).any fun i =>
    i ≠ v && (s.version i).isActive && s.position i ≥ s.position v &&
      match own.compare (standing s i) with
      | .takeRight => true
      | .preferRight => s.canMerge i v
      | _ => false

/-! ### Reducing -/

def chooseChildren (kind : Kind) (production : Option Nat) (position : Nat)
    (first : List Branch) (others : List (List Branch)) : Branch × List Branch :=
  let build (bs : List Branch) : Branch × List Branch :=
    let (children, extras) := splitExtras bs
    (Branch.node lang.analysis source kind production false position children, extras)
  others.foldl (fun (best, extras) bs =>
    let (other, otherExtras) := build bs
    if (best : Branch).isReplacedBy other then (other, otherExtras) else (best, extras)) (build first)

/-- Reduces the top of a version by a production. Gives the first version made, if any. -/
def reduce (v production : Nat) : Parse (Option Nat) := do
  let q := lang.analysis.grammar.productions.getD production default
  let before := (← stackSet).versions.size
  let halted := ((← stackSet).versions.filter (·.isHalted)).size
  let (s, groups) := (← stackSet).pop v q.steps.size
  modifyStacks fun _ => s
  let mut removed := 0
  for (w, alternatives) in groups do
    let w := w - removed
    if w > maxVersions + versionOverflow + halted then
      modifyStacks (·.remove w)
      removed := removed + 1
    else
      let s ← stackSet
      let (parent, extras) := chooseChildren lang source (.symbol q.head) (some production)
        (s.position w) (alternatives.headD []) alternatives.tail
      let parent := { parent with dynamicRank := parent.dynamicRank + q.dynamicRank }
      let next := stateAfter lang (s.state w) q.head
      modifyStacks (·.push w (some parent) next)
      for e in extras do
        modifyStacks (·.push w (some e) next)
      let mut isMerged := false
      for j in [0:w] do
        if !isMerged && j ≠ v then
          let (s, merged) := (← stackSet).merge j w
          if merged then
            modifyStacks fun _ => s
            removed := removed + 1
            isMerged := true
  return if (← stackSet).versions.size > before then some before else none

def accept (v : Nat) (token : Branch) : Parse Unit := do
  modifyStacks (·.push v (some token) Automaton.starting)
  let (s, groups) := (← stackSet).popAll v
  modifyStacks fun _ => s
  for (_, alternatives) in groups do
    for branches in alternatives do
      let (kept, after) := splitExtras branches
      let root := kept.getLastD default
      let whole := Branch.node lang.analysis source root.kind root.production false 0
        (kept.dropLast ++ root.children ++ after)
      modify fun r => { r with
        accepted := r.accepted + 1
        finished := match r.finished with
          | some old => if old.isReplacedBy whole then some whole else some old
          | none => some whole }
  match groups with
  | (w, _) :: _ => modifyStacks (·.remove w)
  | [] => pure ()
  modifyStacks (·.halt v)

/-! ### Recovery -/

/-- Goes back to a state below skipped tokens, which become an error node. -/
def recoverTo (v depth goal : Nat) : Parse Bool := do
  let (s, groups) := (← stackSet).pop v depth
  modifyStacks fun _ => s
  let mut isDone := false
  for (w, alternatives) in groups do
    let s ← stackSet
    if s.state w ≠ goal then modifyStacks (·.halt w)
    else
      let mut branches := alternatives.headD []
      let top := s.top w
      -- an error right below joins the new one
      if top.links.any fun l => (l.branch.map (·.isError)).getD false then
        let isError (p : Stacks.Path) : Bool := (p.branches.head?.map (·.isError)).getD false
        let found := (s.paths w fun p => ⟨isError p, p.branches.isEmpty⟩).head?
        if let some p := found then
          modifyStacks (·.modifyVersion w ({ · with node := p.node }))
          branches := ((p.branches.head?.map (·.children)).getD []) ++ branches
      let (children, extras) := splitExtras branches
      if !children.isEmpty then
        let error := Branch.node lang.analysis source .error none true 0 children
        modifyStacks (·.push w (some error) goal)
      for e in extras do
        modifyStacks (·.push w (some e) goal)
      isDone := true
  return isDone

/-- Looks for a state below in which the token fits; gives up where that costs too much. -/
def recoverToLandmark (v : Nat) (token : Branch) (versions nodes cost : Nat) :
    List Landmark → Parse Bool
  | [] => return false
  | l :: rest => do
      let s ← stackSet
      let position := s.position v
      let isTaken := (List.range versions).any fun j =>
        s.state j = l.state && s.position j = position
      if l.state = Automaton.skipping || l.position = position || isTaken then
        recoverToLandmark v token versions nodes cost rest
      else
        let newCost := cost + l.depth * costOfTree +
          source.bytesBetween l.position position * costOfByte +
          source.rowsBetween l.position position * costOfRow
        if betterExists (← get) v false newCost then return false
        else
          let symbol := match token.kind with
            | .symbol n => n
            | _ => 0
          let depth := if nodes > 0 then l.depth + 1 else l.depth
          let isRecovered ←
            if (actionsOn lang l.state symbol).isEmpty then pure false
            else recoverTo lang source v depth l.state
          if isRecovered then return true else recoverToLandmark v token versions nodes cost rest

/-- Handles a token while skipping: goes back to where it fits, and also skips it. -/
def recover (v : Nat) (token : Branch) : Parse Unit := do
  let s ← stackSet
  let before := s.versions.size
  let nodes := s.nodesSinceError v
  let cost := s.errorCost v
  let landmarks := if token.isError then [] else ((s.version v).landmarks.getD #[]).toList
  let isRecovered ← recoverToLandmark lang source v token before nodes cost landmarks
  modifyStacks fun s => { s with
    versions := s.versions.extract 0 before ++
      (s.versions.extract before s.versions.size).filter (·.isActive) }
  if token.isEnd then
    let error := Branch.node lang.analysis source .error none false (s.position v) []
    modifyStacks (·.push v (some error) Automaton.starting)
    accept lang source v token
  else
    let skipCost := cost + costOfTree +
      source.bytesBetween token.extent.before token.extent.stop * costOfByte +
      source.rowsBetween token.extent.before token.extent.stop * costOfRow
    if isRecovered && (← stackSet).versions.size > maxVersions then modifyStacks (·.halt v)
    else if betterExists (← get) v false skipCost then modifyStacks (·.halt v)
    else
      let isExtra := match token.kind with
        | .symbol n => lang.analysis.grammar.extras.contains n
        | _ => false
      let token := if isExtra then { token with isExtra := true } else token
      let skip (bs : List Branch) : Branch :=
        Branch.node lang.analysis source .skipped none false 0 bs
      let mut skipped := skip [token]
      if nodes > 0 then
        let (s, groups) := (← stackSet).pop v 1
        modifyStacks fun _ => s
        match groups with
        | (w, alternatives) :: _ =>
            modifyStacks fun s => { s with versions := s.versions.extract 0 (w + 1) }
            modifyStacks (·.renumber w v)
            skipped := skip (alternatives.headD [] ++ [skipped])
        | [] => pure ()
      modifyStacks (·.push v (some skipped) Automaton.skipping)

/-- The reductions of a state on some tokens, each rule and length once, and whether the state reads
one of the tokens. -/
def reductionsOn (state : Nat) (tokens : List Nat) : List Nat × Bool :=
  let productions := lang.analysis.grammar.productions
  let isAlike (p q : Production) : Bool := p.head = q.head && p.steps.size = q.steps.size
  (tokens.flatMap fun t => (actionsOn lang state t).toList).foldl (fun (found, reads) action =>
    match action with
    | .shift false => (found, true)
    | .recover => (found, true)
    | .reduce p =>
        let q := productions.getD p default
        let isKnown := found.any fun k => isAlike (productions.getD k default) q
        (if q.steps.size > 0 && !isKnown then found ++ [p] else found, reads)
    | _ => (found, reads)) ([], false)

/-- Reduces a version in every way that some token, or the given one, allows, and the versions made
as well. Tells whether the token can be read at last. -/
def reduceAll (first : Nat) (token : Option Nat) : Parse Bool := do
  let before := (← stackSet).versions.size
  let rec go (fuel turn v : Nat) (canRead : Bool) : Parse Bool := do
    match fuel with
    | 0 => return canRead
    | fuel + 1 =>
        let count := (← stackSet).versions.size
        if v ≥ count then return canRead
        let mut isMerged := false
        for j in [before:v] do
          if !isMerged then
            let (s, merged) := (← stackSet).merge j v
            if merged then
              modifyStacks fun _ => s
              isMerged := true
        if isMerged then go fuel (turn + 1) v canRead
        else
          let state := (← stackSet).state v
          let tokens := match token with
            | some t => [t]
            | none => lang.expectedTokens state
          let (reductions, reads) := reductionsOn lang state tokens
          let mut made : Option Nat := none
          for p in reductions do
            made := (← reduce lang source v p)
          let next := if v = first then count else v + 1
          if reads then go fuel (turn + 1) next true
          else
            match made with
            | some w =>
                if turn < maxVersions then
                  modifyStacks (·.renumber w v)
                  go fuel (turn + 1) v canRead
                else
                  if token.isSome then modifyStacks (·.remove v)
                  go fuel (turn + 1) next canRead
            | none =>
                if token.isSome then modifyStacks (·.remove v)
                go fuel (turn + 1) next canRead
  go 1000 0 first false

/-- Makes up the first token that lets a version read on; tells whether there is one. -/
def insertMissing (v : Nat) (token : Branch) : List Nat → Parse Bool
  | [] => return false
  | m :: rest => do
      let s ← stackSet
      let state := s.state v
      let reads := match (actionsOn lang state m).back? with
        | some (.shift _) => true
        | _ => false
      let symbol := match token.kind with
        | .symbol n => n
        | _ => 0
      if reads && token.kind ≠ .error then
        let after := stateAfter lang state m
        let reduces := match (actionsOn lang after symbol)[0]? with
          | some (.reduce _) => true
          | _ => false
        if after ≠ state && reduces then
          let (s, w) := (← stackSet).copy v
          modifyStacks fun _ => s
          modifyStacks (·.push w (some (Branch.missing lang.analysis m (s.position v))) after)
          -- the end of the text is never read, so there it is enough that some token can be
          if (← reduceAll lang source w (if symbol = 0 then none else some symbol)) then return true
          else insertMissing v token rest
        else insertMissing v token rest
      else insertMissing v token rest

def handleError (v : Nat) (token : Branch) : Parse Unit := do
  let before := (← stackSet).versions.size
  let _ ← reduceAll lang source v none
  let count := (← stackSet).versions.size
  let order := v :: (List.range count).drop before
  let mut isInserted := false
  for w in order do
    if !isInserted then
      let state := (← stackSet).state w
      isInserted := (← insertMissing lang source w token (lang.expectedTokens state))
    modifyStacks (·.push w none Automaton.skipping)
  for _ in [before:count] do
    modifyStacks fun s => (s.merge v before).1
  modifyStacks fun s =>
    let marks := s.landmarks v maxDepth
    s.modifyVersion v ({ · with landmarks := some marks })
  recover lang source v token

/-! ### Going on -/

def actOn (v : Nat) : Nat → Branch → Parse Unit
  | 0, _ => modifyStacks (·.halt v)
  | fuel + 1, token => do
      let state := (← stackSet).state v
      let symbol := match token.kind with
        | .symbol n => n
        | _ => lang.analysis.grammar.symbols.size
      let actions := if token.isError then #[] else actionsOn lang state symbol
      let mut last : Option Nat := none
      let mut hasReduced := false
      for action in actions do
        match action with
        | .shift true => pure ()
        | .shift false =>
            let next := stateAfter lang state symbol
            modifyStacks (·.push v (some { token with isExtra := false }) next)
            return
        | .shiftExtra =>
            modifyStacks (·.push v (some { token with isExtra := true }) state)
            return
        | .reduce p =>
            hasReduced := true
            if let some w ← reduce lang source v p then last := some w
        | .accept =>
            accept lang source v token
            return
        | .recover =>
            recover lang source v token
            return
      match last with
      | some w =>
          modifyStacks (·.renumber w v)
          actOn v fuel token
      | none =>
          if hasReduced then modifyStacks (·.halt v)
          else
            let word := lang.analysis.grammar.word
            if token.isKeyword && symbol ≠ word && !(actionsOn lang state word).isEmpty then
              let kind := Kind.symbol word
              let isVisible := (lang.analysis.grammar.symbols.getD word default).isVisible
              actOn v fuel { token with kind, isVisible }
            else if state = Automaton.skipping then recover lang source v token
            else modifyStacks (·.modifyVersion v ({ · with status := .paused token }))

/-- Advances one version until it has read text that no version before it has read. -/
def advance (v : Nat) : Nat → Nat → Parse Nat
  | 0, reached => return reached
  | fuel + 1, reached => do
      if !((← stackSet).version v).isActive || v ≥ (← stackSet).versions.size then return reached
      let token ← readToken lang source v
      actOn lang source v (4 * source.size + 1000) token
      let s ← stackSet
      let position := s.position v
      if v < s.versions.size && (position > reached || (v > 0 && position = reached)) then return position
      else advance v fuel reached

def advanceAll : Nat → Nat → Nat → Parse Nat
  | 0, _, reached => return reached
  | fuel + 1, v, reached => do
      if v ≥ (← stackSet).versions.size then return reached
      let reached ← advance lang source v (source.size + 1000) reached
      advanceAll fuel (v + 1) reached

/-- Compares version `i` with the versions `j` before it; drops and merges. Gives the place to go on
from. The standing is that of the version that was at `i` at first. -/
def settle (own : Standing) (i : Nat) : Nat → Nat → Parse Nat
  | 0, _ => return i + 1
  | fuel + 1, j => do
      if j ≥ i then return i + 1
      let s ← stackSet
      match (standing s j).compare own with
      | .takeLeft =>
          modifyStacks (·.remove i)
          return i
      | .preferLeft | .none =>
          let (s, merged) := s.merge j i
          if merged then
            modifyStacks fun _ => s
            return i
          else settle own i fuel (j + 1)
      | .preferRight =>
          let (s, merged) := s.merge j i
          if merged then
            modifyStacks fun _ => s
            return i
          else
            modifyStacks (·.swap i j)
            settle own i fuel (j + 1)
      | .takeRight =>
          modifyStacks (·.remove j)
          settle own (i - 1) fuel j

/-- Drops what is beaten and puts the best first; gives the least cost of a version without error. -/
def settleAll : Nat → Nat → Option Nat → Parse (Option Nat)
  | 0, _, least => return least
  | fuel + 1, i, least => do
      let s ← stackSet
      if i ≥ s.versions.size then return least
      else if (s.version i).isHalted then
        modifyStacks (·.remove i)
        settleAll fuel i least
      else
        let own := standing s i
        let least := if own.isInError then least else some ((least.getD own.cost).min own.cost)
        let next ← settle own i (s.versions.size + 1) 0
        settleAll fuel next least

/-- Resumes the best version if none can go on by itself; drops all other paused ones. -/
def resume : Nat → Nat → Bool → Option Nat → Parse (Option Nat)
  | 0, _, _, least => return least
  | fuel + 1, i, hasActive, least => do
      let r ← get
      if i ≥ r.stackSet.versions.size then return least
      match (r.stackSet.version i).status with
      | .paused token =>
          if !hasActive && r.accepted < maxVersions then
            let least := r.stackSet.errorCost i
            let count := r.stackSet.versions.size
            modifyStacks (·.modifyVersion i ({ · with status := .active }))
            handleError lang source i token
            -- versions made by the recovery are left alone
            resumeRest (count - (i + 1)) (i + 1)
            return some least
          else
            modifyStacks (·.remove i)
            resume fuel i hasActive least
      | _ => resume fuel (i + 1) true least
where
  resumeRest : Nat → Nat → Parse Unit
    | 0, _ => return
    | fuel + 1, i => do
        if ((← stackSet).version i).isPaused then
          modifyStacks (·.remove i)
          resumeRest fuel i
        else resumeRest fuel (i + 1)

/-- Drops the versions beyond the greatest number and resumes or drops the paused ones. -/
def condense : Parse (Option Nat) := do
  let least ← settleAll 1000 0 none
  modifyStacks fun s => { s with versions := s.versions.extract 0 maxVersions }
  resume lang source 1000 0 false least

/-- Goes on until no version is left or none can beat the finished tree. -/
def loop : Nat → Nat → Parse Unit
  | 0, _ => return
  | fuel + 1, reached => do
      let reached ← advanceAll lang source 1000 0 reached
      let least ← condense lang source
      let r ← get
      let isOver := match r.finished, least with
        | some t, some c => t.cost < c
        | some _, none => true
        | none, _ => false
      if isOver || r.stackSet.versions.isEmpty then return
      loop fuel reached

def parse : Branch :=
  let (_, r) := (loop lang source (8 * source.size + 1000) 0).run { stackSet := .initial }
  r.finished.getD (Branch.node lang.analysis source .error none false 0 [])

end

end TypeGuards.Parsing
