import TypeGuards.Yaml.Error
import TypeGuards.Yaml.Plain
/-!
The grammar of documents. A text holds at most one of them.
-/
namespace TypeGuards.Yaml

structure Reading where
  tokens : List Token
  fault : Option Error := none
  nodes : List Node := []
  anchors : List (String × Nat) := []
  handles : List (String × String) := []
  /-- The most levels in one another so far. -/
  deepest : Nat := 0
deriving Inhabited

abbrev Reader := ExceptT Error (StateM Reading)

namespace Reader

def refuse {α : Type} : Reader α := throw .malformed

def peek : Reader (Option Token) := do
  let s ← get
  match s.tokens, s.fault with
  | t :: _, _ => return some t
  | [], none => return none
  | [], some e => throw e

def next : Reader Unit := modify fun s => { s with tokens := s.tokens.tail }

def skips (t : Token) : Reader Bool := do
  if (← peek) = some t then
    next
    return true
  else return false

def isAt (ts : List Token) : Reader Bool := return (← peek).all (ts.contains ·)

def anchor? : Reader (Option String) := do
  match ← peek with
  | some (.anchor name) =>
      next
      return some name
  | _ => return none

def tagName? : Reader (Option String) := do
  match ← peek with
  | some (.tag handle rest) =>
      next
      match handle with
      | none => return some rest
      | some h =>
          match (← get).handles.lookup h with
          | some meaning => return some (meaning ++ rest)
          | none => refuse
  | _ => return none

def properties : Reader (Option String × Option String) := do
  match ← anchor? with
  | some name => return (some name, ← tagName?)
  | none =>
      let tag ← tagName?
      return (← anchor?, tag)

def add (name : Option String) (n : Node) : Reader Nat := do
  let s ← get
  let isTaken := name.any fun a => (s.anchors.lookup a).isSome
  if isTaken then refuse
  else
    let number := s.nodes.length
    set { s with
      nodes := s.nodes ++ [n], anchors := (name.map fun a => (a, number)).toList ++ s.anchors }
    return number

/-- An empty place, which has no value. -/
def empty : Reader Nat := add none (.scalar .null "")

/-- The tag of a collection; the tag of one mark says nothing. -/
def collectionTag (default : Tag) : Option String → Tag
  | none => default
  | some "!" => default
  | some name => .ofName name

/-- The tag of a scalar: by its spelling if it is plain, or if its tag is the one of one mark. -/
def scalarTag (isPlain : Bool) (text : String) : Option String → Tag
  | none => if isPlain then Plain.tag text else .text
  | some "!" => Plain.tag text
  | some name => .ofName name

/-- A collection, which its own name stands for already where its parts are read. -/
def collection {α : Type} (name : Option String) (make : List α → Node) (parts : Reader (List α)) :
    Reader Nat := do
  let number ← add name (make [])
  let node := make (← parts)
  modify fun s => { s with nodes := s.nodes.set number node }
  return number

def sequence (name tag : Option String) (items : Reader (List Nat)) : Reader Nat :=
  collection name (.sequence (collectionTag .sequence tag)) items

def mapping (name tag : Option String) (entries : Reader (List (Nat × Nat))) : Reader Nat :=
  collection name (.mapping (collectionTag .mapping tag)) entries

/-- A name or a tag alone stands for an empty scalar. -/
def emptyNode (name tag : Option String) : Reader Nat :=
  if name = none && tag = none then refuse else add name (.scalar (scalarTag true "" tag) "")

def reach (level : Nat) : Reader Unit := modify fun s => { s with deepest := max s.deepest level }

inductive Place where
  | block
  | blockValue
  | flow
deriving DecidableEq, Repr, Inhabited

mutual

def node (fuel level : Nat) (place : Place) : Reader Nat :=
  match fuel with
  | 0 => refuse
  | fuel + 1 => do
      reach level
      match ← peek with
      | some (.reference name) =>
          next
          match (← get).anchors.lookup name with
          | some n => return n
          | none => refuse
      | _ =>
          let (name, tag) ← properties
          match ← peek with
          | some (.scalar isPlain text) =>
              next
              add name (.scalar (scalarTag isPlain text tag) text)
          | some .listOpen =>
              next
              sequence name tag (flowItems fuel (level + 1) true)
          | some .recordOpen =>
              next
              mapping name tag (flowEntries fuel (level + 1) true)
          | some .blockSequence =>
              if place = .flow then refuse
              else
                next
                sequence name tag (blockItems fuel (level + 1))
          | some .blockMapping =>
              if place = .flow then refuse
              else
                next
                mapping name tag (blockEntries fuel (level + 1))
          | some .dash =>
              if place = .blockValue then sequence name tag (looseItems fuel (level + 1))
              else emptyNode name tag
          | _ => emptyNode name tag

def nodeUnless (fuel level : Nat) (place : Place) (ends : List Token) : Reader Nat :=
  match fuel with
  | 0 => refuse
  | fuel + 1 => do
      if ← isAt ends then empty else node fuel level place

def blockItems (fuel level : Nat) : Reader (List Nat) :=
  match fuel with
  | 0 => refuse
  | fuel + 1 => do
      if ← skips .dash then
        let n ← nodeUnless fuel level .block [.dash, .blockEnd]
        return n :: (← blockItems fuel level)
      else if ← skips .blockEnd then return []
      else refuse

/-- The items of a sequence that ends where no dash follows. -/
def looseItems (fuel level : Nat) : Reader (List Nat) :=
  match fuel with
  | 0 => refuse
  | fuel + 1 => do
      if ← skips .dash then
        let n ← nodeUnless fuel level .block [.dash, .key, .value, .blockEnd]
        return n :: (← looseItems fuel level)
      else return []

def blockEntries (fuel level : Nat) : Reader (List (Nat × Nat)) :=
  match fuel with
  | 0 => refuse
  | fuel + 1 => do
      if ← skips .key then
        let k ← nodeUnless fuel level .blockValue [.key, .value, .blockEnd]
        let v ← blockEntryValue fuel level
        return (k, v) :: (← blockEntries fuel level)
      else if ← skips .blockEnd then return []
      else refuse

def blockEntryValue (fuel level : Nat) : Reader Nat :=
  match fuel with
  | 0 => refuse
  | fuel + 1 => do
      if ← skips .value then nodeUnless fuel level .blockValue [.key, .value, .blockEnd] else empty

def flowItems (fuel level : Nat) (isFirst : Bool) : Reader (List Nat) :=
  match fuel with
  | 0 => refuse
  | fuel + 1 => do
      if ← skips .listClose then return []
      else
        unless isFirst do
          unless ← skips .comma do refuse
        if ← skips .key then
          reach level
          let n ← mapping none none (flowPair fuel (level + 1))
          return n :: (← flowItems fuel level false)
        else if ← skips .listClose then return []
        else
          let n ← node fuel level .flow
          return n :: (← flowItems fuel level false)

/-- The one entry of a mapping that stands without brackets in a sequence. -/
def flowPair (fuel level : Nat) : Reader (List (Nat × Nat)) :=
  match fuel with
  | 0 => refuse
  | fuel + 1 => do
      let k ← nodeUnless fuel level .flow [.value, .comma, .listClose]
      let v ← flowEntryValue fuel level .listClose
      return [(k, v)]

def flowEntries (fuel level : Nat) (isFirst : Bool) : Reader (List (Nat × Nat)) :=
  match fuel with
  | 0 => refuse
  | fuel + 1 => do
      if ← skips .recordClose then return []
      else
        unless isFirst do
          unless ← skips .comma do refuse
        if ← skips .key then
          let k ← nodeUnless fuel level .flow [.value, .comma, .recordClose]
          let v ← flowEntryValue fuel level .recordClose
          return (k, v) :: (← flowEntries fuel level false)
        else if ← skips .recordClose then return []
        else
          let k ← node fuel level .flow
          let v ← empty
          return (k, v) :: (← flowEntries fuel level false)

def flowEntryValue (fuel level : Nat) (close : Token) : Reader Nat :=
  match fuel with
  | 0 => refuse
  | fuel + 1 => do
      if ← skips .value then nodeUnless fuel level .flow [.comma, close] else empty

end

/-- Handles that need no directive. -/
def defaultHandles : List (String × String) := [("!", "!"), ("!!", Tag.standard)]

/-- The directives in front of a document. There is one version at most, and one meaning a handle. -/
def directives (hasVersion : Bool) (handles : List (String × String)) (fuel : Nat) :
    Reader (List (String × String)) :=
  match fuel with
  | 0 => refuse
  | fuel + 1 => do
      match ← peek with
      | some (.version major) =>
          next
          if hasVersion || major ≠ 1 then refuse else directives true handles fuel
      | some (.tagShorthand handle meaning) =>
          next
          if (handles.lookup handle).isSome then refuse
          else directives hasVersion ((handle, meaning) :: handles) fuel
      | some .otherDirective =>
          next
          directives hasVersion handles fuel
      | _ => return handles

def skipDocumentEnds (fuel : Nat) : Reader Unit :=
  match fuel with
  | 0 => return ()
  | fuel + 1 => do
      if ← skips .documentEnd then skipDocumentEnds fuel

def markedDocument (fuel : Nat) : Reader Nat := do
  let handles ← directives false [] fuel
  modify fun s => { s with handles := handles ++ defaultHandles }
  if ← skips .documentStart then
    match ← peek with
    | none | some .documentStart | some .documentEnd | some .otherDirective | some (.version _)
    | some (.tagShorthand _ _) => empty
    | _ => node fuel 1 .block
  else refuse

def isDirective : Token → Bool
  | .version _ | .tagShorthand _ _ | .otherDirective => true
  | _ => false

/-- The one document of a text, if there is any. -/
def document (fuel : Nat) : Reader (Option Nat) := do
  let n ← match ← peek with
    | none => pure none
    | some t =>
        if t = .documentStart || isDirective t then some <$> markedDocument fuel
        else do
          modify fun s => { s with handles := defaultHandles }
          some <$> node fuel 1 .block
  skipDocumentEnds fuel
  if (← peek).isSome then refuse else return n

end Reader

/-- The root of the document that a text holds, of which there may be none, and what was read. -/
def readDocument (tokens : List Token) (fault : Option Error) : Except Error (Option Nat) × Reading :=
  (Reader.document (4 * tokens.length + 8)).run.run { tokens, fault }

end TypeGuards.Yaml
