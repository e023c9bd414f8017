import TypeGuards.Text.Parts
import TypeGuards.Yaml.Node
/-!
The types of plain scalars, which are read off their spelling.
-/
namespace TypeGuards.Yaml.Plain

def isDigitOrGap (c : Char) : Bool := c.isDigit || c = '_'

def dropSign : List Char → List Char
  | '-' :: rest => rest
  | '+' :: rest => rest
  | text => text

/-- A part of a number in base sixty: one digit or two, below sixty. -/
def isSixtieth (part : List Char) : Bool :=
  match part with
  | [a] => a.isDigit
  | [a, b] => '0' ≤ a && a ≤ '5' && b.isDigit
  | _ => false

def startsWithDigit (text : List Char) : Bool := text.head?.any Char.isDigit

def nullWords : List String := ["", "~", "null", "Null", "NULL"]

def boolWords : List String :=
  ["yes", "Yes", "YES", "no", "No", "NO", "true", "True", "TRUE", "false", "False", "FALSE",
   "on", "On", "ON", "off", "Off", "OFF"]

/-- An exponent of ten has a sign. -/
def isExponent (text : List Char) : Bool :=
  match text with
  | [] => true
  | e :: sign :: digits =>
      (e = 'e' || e = 'E') && (sign = '-' || sign = '+') && digits ≠ [] && digits.all Char.isDigit
  | _ => false

/-- Digits with a point in or before them. A sign is not allowed in front of a point. -/
def isDecimal (text : List Char) : Bool :=
  match text with
  | '.' :: rest => startsWithDigit rest && isExponent (rest.dropWhile isDigitOrGap)
  | text =>
      let unsigned := dropSign text
      match unsigned.dropWhile isDigitOrGap with
      | '.' :: rest => startsWithDigit unsigned && isExponent (rest.dropWhile isDigitOrGap)
      | _ => false

/-- Parts in base sixty, the last with a point. -/
def isSexagesimalFloat (text : List Char) : Bool :=
  match (Text.partsBetween ':' (dropSign text)).reverse with
  | last :: middle@(_ :: _) =>
      let first := middle.getLast?.getD []
      let (whole, fraction) := last.span (· ≠ '.')
      startsWithDigit first && first.all isDigitOrGap && middle.dropLast.all isSixtieth &&
        isSixtieth whole && fraction ≠ [] && fraction.tail.all isDigitOrGap
  | _ => false

def infinityWords : List String := [".inf", ".Inf", ".INF"]

def nanWords : List String := [".nan", ".NaN", ".NAN"]

def isFloat (text : List Char) : Bool :=
  isDecimal text || isSexagesimalFloat text || nanWords.contains (String.ofList text) ||
    infinityWords.contains (String.ofList (dropSign text))

/-- Whole numbers in base two, eight, ten, sixteen or sixty. -/
def isInt (text : List Char) : Bool :=
  match dropSign text with
  | ['0'] => true
  | '0' :: 'b' :: digits => digits ≠ [] && digits.all fun c => c = '0' || c = '1' || c = '_'
  | '0' :: 'x' :: digits =>
      digits ≠ [] && digits.all fun c =>
        isDigitOrGap c || ('a' ≤ c && c ≤ 'f') || ('A' ≤ c && c ≤ 'F')
  | '0' :: digits => digits.all fun c => ('0' ≤ c && c ≤ '7') || c = '_'
  | text =>
      match Text.partsBetween ':' text with
      | first :: rest => startsWithDigit first && first.all isDigitOrGap && rest.all isSixtieth
      | [] => false

/-- The parts of a date and of a time of day as they are spelled. -/
structure TimeParts where
  year : List Char
  month : List Char
  day : List Char
  time : Option (List Char × List Char × List Char × List Char) := none
  /-- The sign, the hours and the minutes of the distance from universal time; no sign for `Z`. -/
  zone : Option (Option (Char × List Char × List Char)) := none
deriving Repr, Inhabited

def digits? (least most : Nat) (text : List Char) : Option (List Char × List Char) :=
  let digits := (text.take most).takeWhile Char.isDigit
  if least ≤ digits.length then some (digits, text.drop digits.length) else none

def expect? (c : Char) : List Char → Option (List Char)
  | [] => none
  | a :: rest => if a = c then some rest else none

/-- A distance from universal time that ends the text, blanks in front of it. -/
def zone? (text : List Char) : Option (Option (Option (Char × List Char × List Char))) :=
  if text = [] then some none
  else
    match text.dropWhile fun c => c = ' ' || c = '\t' with
    | ['Z'] => some (some none)
    | sign :: rest =>
        if sign = '-' || sign = '+' then do
          let (hours, rest) ← digits? 1 2 rest
          match rest with
          | [] => some (some (some (sign, hours, [])))
          | ':' :: rest =>
              match digits? 2 2 rest with
              | some (minutes, []) => some (some (some (sign, hours, minutes)))
              | _ => none
          | _ => none
        else none
    | [] => none

def timeSeparator? (text : List Char) : Option (List Char) :=
  match text with
  | 'T' :: rest => some rest
  | 't' :: rest => some rest
  | c :: rest => if c = ' ' || c = '\t' then some (rest.dropWhile fun c => c = ' ' || c = '\t') else none
  | [] => none

def timeParts? (text : List Char) : Option TimeParts := do
  let (year, rest) ← digits? 4 4 text
  let (month, rest) ← digits? 1 2 (← expect? '-' rest)
  let (day, rest) ← digits? 1 2 (← expect? '-' rest)
  if rest = [] then return { year, month, day }
  else
    let (hour, rest) ← digits? 1 2 (← timeSeparator? rest)
    let (minute, rest) ← digits? 2 2 (← expect? ':' rest)
    let (second, rest) ← digits? 2 2 (← expect? ':' rest)
    let (fraction, rest) :=
      match rest with
      | '.' :: rest => rest.span Char.isDigit
      | rest => ([], rest)
    let zone ← zone? rest
    return { year, month, day, time := some (hour, minute, second, fraction), zone }

/-- A date by itself has two digits for the month and for the day. -/
def isTimestamp (text : List Char) : Bool :=
  match timeParts? text with
  | some p => p.time.isSome || (p.month.length = 2 && p.day.length = 2)
  | none => false

def tag (text : String) : Tag :=
  let chars := text.toList
  if boolWords.contains text then .bool
  else if isFloat chars then .float
  else if isInt chars then .int
  else if text = "<<" then .merge
  else if nullWords.contains text then .null
  else if isTimestamp chars then .timestamp
  else if text = "=" then .value
  else .text

end TypeGuards.Yaml.Plain
