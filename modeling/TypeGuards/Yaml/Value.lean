import TypeGuards.Data.Store
import TypeGuards.Encoding.Base64
import TypeGuards.Platform
import TypeGuards.Text.Blank
import TypeGuards.Text.Case
import TypeGuards.Text.Digits
import TypeGuards.Yaml.Node.OfTokens
import TypeGuards.Yaml.Token.Layout
/-!
The values of documents. A scalar has its value at once; a collection is an empty object at first, which
is filled when all that was met before it is. So a node has one object in all its places.
-/
namespace TypeGuards.Yaml

open Store (Value)

/-- A character as numbers are read: a digit of any script is one of ASCII, and a blank beyond ASCII
is a space. -/
def asAscii (c : Char) : Char :=
  if c.toNat < 0x80 then c
  else if Text.isTrimmed c then ' '
  else
    match Text.digitValue? c with
    | some d => Char.ofNat ('0'.toNat + d)
    | none => c

def bare (text : List Char) : List Char :=
  let text := (text.map asAscii).dropWhile Text.isAsciiBlank
  (text.reverse.dropWhile Text.isAsciiBlank).reverse

def isNegative (text : List Char) : Bool := text.head? = some '-'

def baseLetters (base : Nat) : List Char :=
  if base = 2 then ['b', 'B'] else if base = 8 then ['o', 'O'] else if base = 16 then ['x', 'X'] else []

def dropBase (base : Nat) : List Char → List Char
  | '0' :: letter :: rest => if (baseLetters base).contains letter then rest else '0' :: letter :: rest
  | text => text

/-- A number in a base. A sign may stand before it, and blanks around it. -/
def number (base : Nat) (text : List Char) : Except ScalarError Int :=
  let signed := bare text
  let (digits, rest) := (dropBase base (Plain.dropSign signed)).span fun c =>
    isHexDigit c && hexDigitValue c < base
  if base = 10 && ScalarError.longestNumber < digits.length then .error (.tooLong digits.length)
  else if digits = [] || rest ≠ [] then .error (.notNumber base (String.ofList text))
  else
    let n : Int := digits.foldl (fun n c => n * base + hexDigitValue c) 0
    .ok (if isNegative signed then -n else n)

def unsignedInteger (text : List Char) : Except ScalarError Int :=
  match text with
  | ['0'] => .ok 0
  | '0' :: 'b' :: digits => number 2 digits
  | '0' :: 'x' :: digits => number 16 digits
  | '0' :: _ => number 8 text
  | [] => .error .emptyNumber
  | text => do
      let parts ← (Text.partsBetween ':' text).mapM (number 10)
      return parts.foldl (fun n d => n * 60 + d) 0

/-- Underscores between digits mean nothing. -/
def integer (text : String) : Except ScalarError Int := do
  let chars := text.toList.filter (· ≠ '_')
  if chars = [] then .error .emptyNumber
  else
    let n ← unsignedInteger (Plain.dropSign chars)
    return if isNegative chars then -n else n

/-- Digits with a point and an exponent of ten where they are given. -/
def decimal? (text : List Char) : Option Float := do
  let (whole, rest) := text.span Char.isDigit
  let (fraction, rest) :=
    match rest with
    | '.' :: rest => rest.span Char.isDigit
    | rest => ([], rest)
  let digits := whole ++ fraction
  if digits = [] then none
  else
    let mantissa := decimalValue digits
    let exponent : Int ←
      match rest with
      | [] => some 0
      | 'e' :: rest =>
          let sign := Plain.dropSign rest
          if sign ≠ [] && sign.all Char.isDigit then
            let n : Int := decimalValue sign
            some (if isNegative rest then -n else n)
          else none
      | _ => none
    let exponent := exponent - fraction.length
    let least := 1200
    return if exponent < 0 then
        if exponent < -(least + digits.length : Int) then 0
        else Float.ofScientific mantissa true exponent.natAbs
      else if mantissa = 0 then 0
      else if exponent > least then 1 / 0
      else Float.ofScientific mantissa false exponent.natAbs

def infinityNames : List String := ["inf", "infinity"]

/-- A decimal number, infinity or none. A sign may stand before it, and blanks around it. -/
def decimal (text : List Char) : Except ScalarError Float :=
  let signed := bare text
  let unsigned := Plain.dropSign signed
  let size? : Option Float :=
    if infinityNames.contains (String.ofList unsigned) then some (1 / 0)
    else if unsigned = "nan".toList then some (0 / 0)
    else decimal? unsigned
  match size? with
  | some size => .ok (if isNegative signed then -size else size)
  | none => .error (.notFloat (String.ofList text))

def float (text : String) : Except ScalarError Double := do
  let chars := Text.lower (text.toList.filter (· ≠ '_'))
  let unsigned := Plain.dropSign chars
  let sign : Float := if isNegative chars then -1 else 1
  if chars = [] then .error .emptyNumber
  else if unsigned = ".inf".toList then return .ofFloat (sign * (1 / 0))
  else if unsigned = ".nan".toList then return .ofFloat (0 / 0)
  else
    let parts ← (Text.partsBetween ':' unsigned).mapM decimal
    let (sum, _) := parts.reverse.foldl
      (fun ((sum, base) : Float × Float) d => (sum + d * base, base * 60)) (0, 1)
    return .ofFloat (sign * if parts.length = 1 then parts.headD 0 else sum)

def boolean (text : String) : Except ScalarError Bool :=
  let word := String.ofList (Text.lower text.toList)
  if ["yes", "true", "on"].contains word then .ok true
  else if ["no", "false", "off"].contains word then .ok false
  else .error (.notBoolean word)

def isLeap (year : Nat) : Bool := year % 4 = 0 && (year % 100 ≠ 0 || year % 400 = 0)

def daysIn (year month : Nat) : Nat :=
  if month = 2 then (if isLeap year then 29 else 28)
  else if [4, 6, 9, 11].contains month then 30
  else 31

def date (year month day : Nat) : Except ScalarError Date :=
  if year = 0 then .error (.year year)
  else if month = 0 || 12 < month then .error .month
  else if day = 0 || daysIn year month < day then .error .day
  else .ok { year, month, day }

/-- The first six digits after a point. -/
def microseconds (fraction : List Char) : Nat :=
  let digits := fraction.take 6
  decimalValue (digits ++ List.replicate (6 - digits.length) '0')

/-- Minutes from universal time, less than a day of them. -/
def offset : Option (Char × List Char × List Char) → Except ScalarError Int
  | none => .ok 0
  | some (sign, hours, minutes) =>
      let n : Int := decimalValue hours * 60 + decimalValue minutes
      let n := if sign = '-' then -n else n
      if n.natAbs < 1440 then .ok n else .error (.offset n)

def timestamp (text : String) : Except ScalarError Scalar := do
  let chars := text.toList
  match Plain.timeParts? (if chars.getLast? = some '\n' then chars.dropLast else chars) with
  | none => .error .notTimestamp
  | some p =>
      let year := decimalValue p.year
      let month := decimalValue p.month
      let day := decimalValue p.day
      match p.time with
      | none => return .date (← date year month day)
      | some (hour, minute, second, fraction) =>
          let offset ← p.zone.mapM offset
          let date ← date year month day
          let hour := decimalValue hour
          let minute := decimalValue minute
          let second := decimalValue second
          if 23 < hour then .error .hour
          else if 59 < minute then .error .minute
          else if 59 < second then .error .second
          else
            return .moment
              { date, hour, minute, second, microsecond := microseconds fraction, offset }

def scalarValue (tag : Tag) (text : String) : Except Error Scalar :=
  match tag with
  | .null => .ok .null
  | .bool => ((boolean text).map .bool).mapError .scalar
  | .int => ((integer text).map .int).mapError .scalar
  | .float => ((float text).map .float).mapError .scalar
  | .binary =>
      if text.toList.all (·.toNat < 0x80) then
        match Encoding.Base64.decode text.toList with
        | some bytes => .ok (.bytes bytes)
        | none => .error .malformed
      else .error .malformed
  | .timestamp => (timestamp text).mapError .scalar
  | .text => .ok (.text text)
  | _ => .error .malformed

structure Building where
  nodes : List Node
  store : Store := {}
  pending : List Nat := []
  deepest : Nat := 0
deriving Inhabited

namespace Building

def node (s : Building) (n : Nat) : Node := s.nodes[n]?.getD default

def entries (s : Building) (n : Nat) : List (Nat × Nat) :=
  match s.node n with
  | .mapping _ entries => entries
  | _ => []

def isMapping (s : Building) (n : Nat) : Bool :=
  match s.node n with
  | .mapping _ _ => true
  | _ => false

def setEntries (n : Nat) (entries : List (Nat × Nat)) (s : Building) : Building :=
  { s with nodes := s.nodes.set n (.mapping (s.node n).tag entries) }

/-- Makes texts of the scalars among some nodes that say that a mapping has a value. -/
def retag (ns : List Nat) (s : Building) : Building :=
  ns.foldl
    (fun s n =>
      match s.node n with
      | .scalar .value text => { s with nodes := s.nodes.set n (.scalar .text text) }
      | .sequence .value items => { s with nodes := s.nodes.set n (.sequence .text items) }
      | .mapping .value entries => { s with nodes := s.nodes.set n (.mapping .text entries) }
      | _ => s)
    s

def reach (level : Nat) (s : Building) : Building := { s with deepest := max s.deepest level }

end Building

abbrev Builder := ExceptT Error (StateM Building)

namespace Builder

def refuse {α : Type} : Builder α := throw .malformed

/-- The text of a scalar, or of the one that a mapping stands for because one of its keys says so. -/
def scalarText (fuel level n : Nat) : Builder String :=
  match fuel with
  | 0 => throw .tooDeep
  | fuel + 1 => do
      modify (·.reach level)
      let s ← get
      match s.node n with
      | .scalar _ text => return text
      | .sequence _ _ => refuse
      | .mapping _ entries =>
          match entries.find? fun e => (s.node e.1).tag = .value with
          | some (_, v) => scalarText fuel (level + 1) v
          | none => refuse

def isScalar : Tag → Bool
  | .null | .bool | .int | .float | .binary | .timestamp | .text => true
  | _ => false

def scalar (n : Nat) : Builder Scalar := do
  let s ← get
  let tag := (s.node n).tag
  if isScalar tag then
    let text ← scalarText (s.nodes.length + 1) 1 n
    if tag = .timestamp && s.isMapping n then throw (.scalar .notText)
    else liftM (scalarValue tag text)
  else refuse

/-- What a collection of a type is before it has any parts. -/
def emptyObject? : Tag → Option Object
  | .sequence | .orderedMap | .pairs => some (.list [])
  | .set => some (.set [])
  | .mapping => some (.map default)
  | _ => none

def value (n : Nat) : Builder Value := do
  let s ← get
  match s.store.object? n, emptyObject? (s.node n).tag with
  | some _, _ => return .object n
  | none, some o =>
      set { s with store := s.store.put n o, pending := s.pending ++ [n] }
      return .object n
  | none, none => return .scalar (← scalar n)

def key (n : Nat) : Builder Scalar := do
  match ← value n with
  | .scalar s => return s
  | _ => refuse

/-- Takes the first merge key out of a mapping, and gives what it merges. -/
def takeMerge (n : Nat) : Builder (Option Nat) := do
  let s ← get
  match (s.entries n).span fun e => (s.node e.1).tag ≠ .merge with
  | (_, []) => return none
  | (before, (_, v) :: after) =>
      set (s.setEntries n (before ++ after))
      return some v

/-- The entries that a merge key brings: those of a mapping, or of several with those of the first last,
all of them with their own merge keys resolved. -/
def gather (flatten : Nat → Builder Unit) (v : Nat) : Builder (List (Nat × Nat)) := do
  let entriesOf (m : Nat) : Builder (List (Nat × Nat)) := do
    if (← get).isMapping m then
      flatten m
      return (← get).entries m
    else refuse
  match (← get).node v with
  | .mapping _ _ => entriesOf v
  | .sequence _ items => return (← items.mapM entriesOf).reverse.flatten
  | .scalar _ _ => refuse

/-- Resolves the merge keys of a mapping; what they bring stands in front. -/
def flatten (fuel level n : Nat) : Builder Unit :=
  match fuel with
  | 0 => throw .tooDeep
  | fuel + 1 => do
      modify (·.reach level)
      let s ← get
      let count := ((s.entries n).filter fun e => (s.node e.1).tag = .merge).length
      let parts ← (List.range count).mapM fun _ => do
        match ← takeMerge n with
        | some v => gather (flatten fuel (level + 1)) v
        | none => return []
      modify fun s => (s.retag ((s.entries n).map (·.1))).setEntries n (parts.flatten ++ s.entries n)

def mapping (n : Nat) : Builder Mapping := do
  let s ← get
  if s.isMapping n then
    let merges := s.nodes.foldl (fun count m =>
      match m with
      | .mapping _ entries => count + entries.length
      | _ => count) 0
    flatten (merges + 1) 1 n
    let entries ← ((← get).entries n).mapM fun (k, v) => do
      let k ← key k
      return (k, ← value v)
    return .ofEntries entries
  else refuse

def single (n : Nat) : Builder Value := do
  match (← get).node n with
  | .mapping _ [(k, v)] => return .pair (← value k) (← value v)
  | _ => refuse

def fill (n : Nat) : Builder Unit := do
  let o : Object ← match (← get).node n with
    | .sequence .sequence items => Object.list <$> items.mapM value
    | .sequence .orderedMap items | .sequence .pairs items => Object.list <$> items.mapM single
    | .mapping .mapping _ => Object.map <$> mapping n
    | .mapping .set _ => (fun m => Object.set (m.entries.map (·.1))) <$> mapping n
    | _ => refuse
  modify fun s => { s with store := s.store.put n o }

def fillAll : Nat → Builder Unit
  | 0 => return ()
  | fuel + 1 => do
      match (← get).pending with
      | [] => return ()
      | n :: rest =>
          modify ({ · with pending := rest })
          fill n
          fillAll fuel

def document (root : Nat) : Builder Value := do
  let v ← value root
  fillAll ((← get).nodes.length + 1)
  return v

end Builder

/-- The value of the document that a text holds, and how many calls lie in one another where it is read.
A text without a document is null. -/
def loadCounted (text : List Char) : Except Error Stored × Nat :=
  let (tokens, fault) := tokens text
  match readDocument tokens fault with
  | (.error e, reading) => (.error e, 2 * reading.deepest)
  | (.ok none, reading) => (.ok { value := .scalar .null }, 2 * reading.deepest)
  | (.ok (some root), reading) =>
      let (v, s) := (Builder.document root).run.run { nodes := reading.nodes }
      (v.map fun value => { store := s.store, value }, max (2 * reading.deepest) s.deepest)

/-- The value of the document that a text holds, as far as readers can go into it. -/
def load [Platform] (text : List Char) : Except Error Stored :=
  let (result, calls) := loadCounted text
  if Platform.depth < calls then .error .tooDeep else result

end TypeGuards.Yaml
