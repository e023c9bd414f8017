import Std.Data.HashMap
import TypeGuards.Grammar.Rule
/-!
Rules as productions. Repetitions become rules of their own that split anywhere, choices become one
production each, and the rules a grammar expands are written out where they are used. Symbols are
numbered: the end of the text is `0`, then come the tokens, then the rules.
-/
namespace TypeGuards.Grammar

inductive SymbolName where
  | literal (text : String)
  | named (name : String)
deriving DecidableEq, Hashable, Inhabited

/-- One symbol of a production, with what the rules around it say about it. -/
structure Step (σ : Type) where
  symbol : σ
  rank : Rank
  side : Option Associativity
  label : Option Label
  field : Option String
deriving DecidableEq, Hashable, Inhabited

structure Sequence (σ : Type) where
  steps : List (Step σ)
  dynamicRank : Int
deriving DecidableEq, Hashable, Inhabited

/-! ### Repetitions -/

structure Repetitions where
  made : List (Rule × String) := []
  rules : List (String × Rule) := []

def Rule.nameRepetitions (owner : String) : Rule → StateM (Nat × Repetitions) Rule
  | .seq a b => return .seq (← a.nameRepetitions owner) (← b.nameRepetitions owner)
  | .choice a b => return .choice (← a.nameRepetitions owner) (← b.nameRepetitions owner)
  | .field n r => return .field n (← r.nameRepetitions owner)
  | .labelled l r => return .labelled l (← r.nameRepetitions owner)
  | .ranked k s r => return .ranked k s (← r.nameRepetitions owner)
  | .dynamic k r => return .dynamic k (← r.nameRepetitions owner)
  | .repeat1 r => do
      let body ← r.nameRepetitions owner
      let (count, known) ← get
      match known.made.lookup body with
      | some name => return .ref name
      | none =>
          let name := s!"{owner}_repeat{count + 1}"
          let rule := .choice (.seq (.ref name) (.ref name)) body
          set (count + 1, { made := (body, name) :: known.made
                            rules := (name, rule) :: known.rules : Repetitions })
          return .ref name
  | r => return r

def nameRepetitions (rules : List (String × Rule)) : List (String × Rule) × List (String × Rule) :=
  let add := fun ((done, known) : List (String × Rule) × Repetitions) (name, rule) =>
    let (rule, _, known) := (Rule.nameRepetitions name rule).run (0, known)
    ((name, rule) :: done, known)
  let (named, known) := rules.foldl add ([], {})
  (named.reverse, known.rules.reverse)

/-! ### Sequences -/

structure Surroundings where
  rank : Rank := .unranked
  side : Option Associativity := none
  label : Option Label := none
  field : Option String := none

/-- Appends the steps of a rule without choices. A rank ends with the rule that carries it, so the
last step inside takes the rank outside unless nothing follows. -/
def Rule.appendTo (out : Sequence SymbolName) (around : Surroundings) (atEnd : Bool) :
    Rule → Sequence SymbolName
  | .blank => out
  | .lexeme => out
  | .repeat1 _ => out
  | .choice _ _ => out
  | .literal t =>
      { out with steps := ⟨.literal t, around.rank, around.side, around.label, around.field⟩ :: out.steps }
  | .ref n =>
      { out with steps := ⟨.named n, around.rank, around.side, around.label, around.field⟩ :: out.steps }
  | .seq a b => b.appendTo (a.appendTo out around false) around atEnd
  | .field n r => r.appendTo out { around with field := some n } atEnd
  | .labelled l r => r.appendTo out { around with label := some l } atEnd
  | .dynamic k r =>
      let out := if k.natAbs > out.dynamicRank.natAbs then { out with dynamicRank := k } else out
      r.appendTo out around atEnd
  | .ranked k s r =>
      let before := out.steps.length
      let inside := { around with rank := k, side := s.or around.side }
      let out := r.appendTo out inside atEnd
      match out.steps with
      | last :: rest =>
          if atEnd || out.steps.length = before then out
          else
            let last := { last with rank := around.rank }
            let last := if s.isSome then { last with side := around.side } else last
            { out with steps := last :: rest }
      | [] => out

def Rule.sequences (r : Rule) : List (Sequence SymbolName) :=
  let flat := r.alternatives.map fun a =>
    let s := a.appendTo ⟨[], 0⟩ {} true
    { s with steps := s.steps.reverse }
  (flat.foldl (fun (seen, done) s =>
    if seen.contains s then (seen, done) else (seen.insert s (), s :: done))
    ((∅ : Std.HashMap (Sequence SymbolName) Unit), [])).2.reverse

/-! ### Expansion -/

/-- Writes a sequence out in place of one step, which hands on its label, its field and, to the last
step, its rank and side where that step has none. -/
def Step.substitute (step : Step SymbolName) (body : List (Step SymbolName)) :
    List (Step SymbolName) :=
  let handed := body.map fun s => { s with label := step.label.or s.label, field := step.field.or s.field }
  match handed.reverse with
  | last :: before =>
      let last := if last.rank = .unranked then { last with rank := step.rank } else last
      let last := { last with side := last.side.or step.side }
      (last :: before).reverse
  | [] => []

/-- Expands the rules of the table in a sequence, at most `fuel` deep. -/
def Sequence.expand (table : Std.HashMap String (List (Sequence SymbolName))) :
    Nat → List (Step SymbolName) → List (Sequence SymbolName)
  | 0, steps => [⟨steps, 0⟩]
  | _, [] => [⟨[], 0⟩]
  | fuel + 1, step :: rest =>
      let tails := Sequence.expand table fuel rest
      let larger (a b : Int) : Int := if b.natAbs > a.natAbs then b else a
      match step.symbol with
      | .literal _ => tails.map fun t => { t with steps := step :: t.steps }
      | .named n =>
          match table[n]? with
          | none => tails.map fun t => { t with steps := step :: t.steps }
          | some bodies =>
              bodies.flatMap fun body =>
                let heads := Sequence.expand table fuel (step.substitute body.steps)
                heads.flatMap fun h => tails.map fun t =>
                  ⟨h.steps ++ t.steps, larger (larger t.dynamicRank h.dynamicRank) body.dynamicRank⟩

/-! ### Numbering -/

structure SymbolInfo where
  name : String
  text : Option String
  isVisible : Bool
  isNamed : Bool
  /-- Made for a repetition. -/
  isRepetition : Bool
deriving Inhabited

structure Production where
  head : Nat
  steps : Array (Step Nat)
  dynamicRank : Int
deriving Inhabited

/-- A grammar whose symbols are numbers: below `tokenCount` the tokens, above it the rules. -/
structure Productions where
  symbols : Array SymbolInfo
  tokenCount : Nat
  productions : Array Production
  orderings : List (List Ranking)
  extras : List Nat
  word : Nat
  start : Nat
deriving Inhabited

/-- A literal names a token by its text unless a rule consists of it and it is used nowhere else. -/
def tokenRules (rules : List (String × Rule)) : List (String × Option String) :=
  let uses := (rules.flatMap fun r => r.2.literals).foldl
    (fun (m : Std.HashMap String Nat) t => m.insert t (m.getD t 0 + 1)) ∅
  rules.filterMap fun (name, rule) =>
    match rule with
    | .lexeme => some (name, none)
    | .literal t => if uses.getD t 0 = 1 then some (name, some t) else none
    | _ => none

/-- The tokens in the order in which the rules bring them up, the word first. -/
def tokenOrder (word : String) (rules : List (String × Rule)) : List SymbolName :=
  let own := Std.HashMap.ofList (tokenRules rules)
  let all := rules.flatMap fun (name, rule) =>
    if own.contains name then [SymbolName.named name] else rule.literals.map .literal
  let step := fun (seen, done) s =>
    if (seen : Std.HashMap SymbolName Unit).contains s then (seen, done) else (seen.insert s (), s :: done)
  ((SymbolName.named word :: all).foldl step (∅, [])).2.reverse

def isHidden (name : String) : Bool := name.startsWith "_"

def Definition.productions (d : Definition) : Productions :=
  let own := tokenRules d.rules
  let tokens := tokenOrder d.word d.rules
  let isToken (name : String) : Bool := own.any (·.1 = name)
  let (named, repeated) := nameRepetitions (d.rules.filter fun r => !isToken r.1)
  let rules := named ++ repeated
  let bodies := rules.map fun (name, rule) => (name, rule.sequences)
  let table := Std.HashMap.ofList (bodies.filter fun r => d.expanded.contains r.1)
  let kept := bodies.filter fun r => !d.expanded.contains r.1
  let isRepetition (name : String) : Bool := repeated.any (·.1 = name)
  let tokenInfos := tokens.map fun
    | .literal t => (⟨t, some t, true, false, false⟩ : SymbolInfo)
    | .named n => ⟨n, (own.lookup n).join, !isHidden n, true, false⟩
  let ruleInfos := kept.map fun (name, _) =>
    let hidden := isHidden name || d.transparent.contains name || isRepetition name
    (⟨name, none, !hidden, !hidden, isRepetition name⟩ : SymbolInfo)
  let tokenCount := tokens.length + 1
  let numbers : Std.HashMap SymbolName Nat := Std.HashMap.ofList <|
    (tokens.zipIdx 1) ++ ((kept.map fun r => SymbolName.named r.1).zipIdx tokenCount)
  let number (s : SymbolName) : Nat := numbers.getD s 0
  let productions := kept.flatMap fun (name, sequences) =>
    let head := number (.named name)
    let written := sequences.flatMap fun s =>
      (Sequence.expand table 64 s.steps).map fun e =>
        if e.dynamicRank.natAbs > s.dynamicRank.natAbs then e else { e with dynamicRank := s.dynamicRank }
    let distinct := (written.foldl (fun (seen, done) s =>
      if (seen : Std.HashMap (Sequence SymbolName) Unit).contains s then (seen, done)
      else (seen.insert s (), s :: done)) (∅, [])).2.reverse
    distinct.map fun s =>
      { head, dynamicRank := s.dynamicRank
        steps := (s.steps.map fun t => { t with symbol := number t.symbol : Step Nat }).toArray : Production }
  { symbols := (⟨"end", none, false, false, false⟩ :: tokenInfos ++ ruleInfos).toArray
    tokenCount
    productions := productions.toArray
    orderings := d.orderings
    extras := d.extras.map fun n => number (.named n)
    word := number (.named d.word)
    start := tokenCount }

end TypeGuards.Grammar
