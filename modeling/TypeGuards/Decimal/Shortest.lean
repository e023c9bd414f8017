/-!
The shortest decimal number that reads back as a given binary number: among the decimals nearer to
it than to any other binary number it has the fewest digits, and of those it is the nearest.
-/
namespace TypeGuards.Decimal

structure Fraction where
  num : Nat
  den : Nat
deriving DecidableEq, Repr, Inhabited

namespace Fraction

def scaled (n base : Nat) (exponent : Int) : Fraction :=
  match exponent with
  | .ofNat e => ⟨n * base.pow e, 1⟩
  | .negSucc e => ⟨n, base.pow (e + 1)⟩

def isBelow (x y : Fraction) : Bool := x.num * y.den < y.num * x.den

def isAtMost (x y : Fraction) : Bool := x.num * y.den ≤ y.num * x.den

def floor (x : Fraction) : Nat := x.num / x.den

def times (x y : Fraction) : Fraction := ⟨x.num * y.num, x.den * y.den⟩

def distance (x y : Fraction) : Fraction :=
  let a := x.num * y.den
  let b := y.num * x.den
  ⟨(a - b) + (b - a), x.den * y.den⟩

end Fraction

def digitCount (n : Nat) : Nat := if n = 0 then 0 else (Nat.toDigits 10 n).length

/-- The greatest exponent of ten whose power is not above a number. -/
def magnitude (x : Fraction) : Int :=
  if x.den ≤ x.num then digitCount x.floor - 1
  else -(digitCount ((x.den + x.num - 1) / x.num - 1) : Int)

/-- A binary number and the bounds of those that are nearer to it than to its neighbours. -/
structure Rounding where
  value : Fraction
  low : Fraction
  high : Fraction
  /-- Whether the bounds themselves are rounded to the number. -/
  isClosed : Bool
deriving Repr, Inhabited

namespace Rounding

def holds (r : Rounding) (x : Fraction) : Bool :=
  if r.isClosed then r.low.isAtMost x && x.isAtMost r.high
  else r.low.isBelow x && x.isBelow r.high

/-- The value `m * 2 ^ q`; below the least mantissa of its length the gap is half as wide. -/
def ofBinary (m : Nat) (q : Int) (isLeast : Bool) : Rounding :=
  { value := .scaled (4 * m) 2 (q - 2)
    low := .scaled (4 * m - if isLeast then 1 else 2) 2 (q - 2)
    high := .scaled (4 * m + 2) 2 (q - 2)
    isClosed := m % 2 = 0 }

/-- The nearer of the two multiples of a power of ten around a value that are rounded to it. -/
def onGrid? (r : Rounding) (exponent : Int) : Option Nat :=
  let below := (r.value.times (.scaled 1 10 (-exponent))).floor
  let point (n : Nat) : Fraction := .scaled n 10 exponent
  let hits := [below, below + 1].filter fun n => r.holds (point n)
  match hits with
  | [a, b] =>
      let da := (point a).distance r.value
      let db := (point b).distance r.value
      if da.isBelow db then some a
      else if db.isBelow da then some b
      else some (if a % 2 = 0 then a else b)
  | hits => hits.head?

/-- Tries more and more digits; a number with one digit more than that is a power of ten. -/
def search (r : Rounding) (top : Int) (digits : Nat) : Nat → Option (Nat × Int)
  | 0 => none
  | left + 1 =>
      let exponent := top - digits
      match r.onGrid? exponent with
      | some n => some (if n = Nat.pow 10 (digits + 1) then (1, top + 1) else (n, exponent))
      | none => search r top (digits + 1) left

end Rounding

/-- The digits of a positive number of double precision, and the exponent of ten of the last. -/
def shortest (m : Nat) (q : Int) (isLeast : Bool) : Nat × Int :=
  let r := Rounding.ofBinary m q isLeast
  (r.search (magnitude r.value) 0 17).getD (m, q)

end TypeGuards.Decimal
