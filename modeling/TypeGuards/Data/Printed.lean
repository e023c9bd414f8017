import TypeGuards.Data
import TypeGuards.Decimal.Shortest
import TypeGuards.Text.Quoted
/-!
Values as they are shown in messages: texts in quotes, other values by the expressions that make
them, and the names of their types.
-/
namespace TypeGuards

namespace Double

def isNegative (x : Double) : Bool := Nat.pow 2 63 ≤ x.bits.toNat

def exponentField (x : Double) : Nat := x.bits.toNat / Nat.pow 2 52 % Nat.pow 2 11

def fractionField (x : Double) : Nat := x.bits.toNat % Nat.pow 2 52

/-- Zeros in front of or after digits, to put the point after a number of them. -/
def positional (digits : List Char) (point : Int) : List Char :=
  match point with
  | .negSucc n => "0.".toList ++ List.replicate (n + 1) '0' ++ digits
  | .ofNat 0 => "0.".toList ++ digits
  | .ofNat n =>
      if digits.length ≤ n then digits ++ List.replicate (n - digits.length) '0' ++ ".0".toList
      else digits.take n ++ ['.'] ++ digits.drop n

/-- One digit before the point, and the exponent of ten with two digits or more. -/
def scientific (digits : List Char) (exponent : Int) : List Char :=
  let sign := if exponent < 0 then '-' else '+'
  let size := Nat.toDigits 10 exponent.natAbs
  let mark := ['e', sign] ++ List.replicate (2 - size.length) '0' ++ size
  match digits with
  | [d] => d :: mark
  | d :: rest => d :: '.' :: rest ++ mark
  | [] => mark

/-- Digits with the point after a number of them; from -4 to 15 the exponent of ten is not shown. -/
def withPoint (digits : List Char) (point : Int) : List Char :=
  if -4 < point && point ≤ 16 then positional digits point else scientific digits (point - 1)

def printedSize (x : Double) : List Char :=
  let f := x.fractionField
  let e := x.exponentField
  if e = 0 && f = 0 then "0.0".toList
  else
    let (n, exponent) :=
      if e = 0 then Decimal.shortest f (-1074) false
      else Decimal.shortest (Nat.pow 2 52 + f) (e - 1075) (f = 0 && 1 < e)
    let digits := Nat.toDigits 10 n
    withPoint digits (digits.length + exponent)

def printed (x : Double) : String :=
  let sign := if x.isNegative then ['-'] else []
  if x.exponentField = 2047 then
    if x.fractionField = 0 then String.ofList (sign ++ "inf".toList) else "nan"
  else String.ofList (sign ++ x.printedSize)

end Double

def Date.arguments (d : Date) : List String := [d.year, d.month, d.day].map toString

def printedDistance (minutes : Int) : String :=
  let days := minutes.fdiv 1440
  let seconds := minutes.fmod 1440 * 60
  let parts := (if days = 0 then [] else [s!"days={days}"]) ++
    (if seconds = 0 then [] else [s!"seconds={seconds}"])
  "datetime.timedelta(" ++ String.intercalate ", " parts ++ ")"

def Moment.printedZone (minutes : Int) : String :=
  if minutes = 0 then "tzinfo=datetime.timezone.utc"
  else s!"tzinfo=datetime.timezone({printedDistance minutes})"

/-- Seconds and their parts are left out if they are zero. -/
def Moment.arguments (m : Moment) : List String :=
  let seconds :=
    if m.microsecond ≠ 0 then [toString m.second, toString m.microsecond]
    else if m.second ≠ 0 then [toString m.second]
    else []
  m.date.arguments ++ [toString m.hour, toString m.minute] ++ seconds ++
    (m.offset.map Moment.printedZone).toList

def printedCall (name : String) (arguments : List String) : String :=
  name ++ "(" ++ String.intercalate ", " arguments ++ ")"

namespace Scalar

def printed : Scalar → String
  | null => "None"
  | bool b => if b then "True" else "False"
  | int n => toString n
  | float x => x.printed
  | text s => String.ofList (Text.quoted s.toList)
  | bytes bs => String.ofList (Text.quotedBytes bs)
  | date d => printedCall "datetime.date" d.arguments
  | moment m => printedCall "datetime.datetime" m.arguments

def typeName : Scalar → String
  | null => "NoneType"
  | bool _ => "bool"
  | int _ => "int"
  | float _ => "float"
  | text _ => "str"
  | bytes _ => "bytes"
  | date _ => "date"
  | moment _ => "datetime"

end Scalar

namespace Data

def bracketed (left right : String) (items : List String) : String :=
  left ++ String.intercalate ", " items ++ right

mutual

def printed : Data → String
  | scalar s => s.printed
  | list items => bracketed "[" "]" (printedItems items)
  | pair a b => bracketed "(" ")" [printed a, printed b]
  | set items =>
      if items.isEmpty then "set()" else bracketed "\x7b" "\x7d" (items.map Scalar.printed)
  | map entries => bracketed "\x7b" "\x7d" (printedEntries entries)

def printedItems : List Data → List String
  | [] => []
  | d :: rest => printed d :: printedItems rest

def printedEntries : List (Scalar × Data) → List String
  | [] => []
  | (k, v) :: rest => (k.printed ++ ": " ++ printed v) :: printedEntries rest

end

end Data

def Layer.typeName {α : Type} : Layer α → String
  | scalar s => s.typeName
  | list _ => "list"
  | pair _ _ => "tuple"
  | set _ => "set"
  | map _ => "dict"

end TypeGuards
