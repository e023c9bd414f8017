/-!
Values as configuration files and callers state them, before anything is known of their shape.
-/
namespace TypeGuards

structure Double where
  bits : UInt64
deriving DecidableEq, Repr, Inhabited

namespace Double

def ofFloat (x : Float) : Double := ⟨x.toBits⟩

def toFloat (d : Double) : Float := Float.ofBits d.bits

end Double

structure Date where
  year : Nat
  month : Nat
  day : Nat
deriving DecidableEq, Repr, Inhabited

/-- A time of a day, with its distance from universal time in minutes where it is known. -/
structure Moment where
  date : Date
  hour : Nat := 0
  minute : Nat := 0
  second : Nat := 0
  microsecond : Nat := 0
  offset : Option Int := none
deriving DecidableEq, Repr, Inhabited

/-- A value without parts. Only such values can be keys. -/
inductive Scalar where
  | null
  | bool (value : Bool)
  | int (value : Int)
  | float (value : Double)
  | text (value : String)
  | bytes (value : List UInt8)
  | date (value : Date)
  | moment (value : Moment)
deriving DecidableEq, Repr, Inhabited

inductive Data where
  | scalar (value : Scalar)
  | list (items : List Data)
  | pair (first second : Data)
  | set (items : List Scalar)
  /-- The entries in order, no two with the same key. -/
  | map (entries : List (Scalar × Data))
deriving Repr, Inhabited

namespace Scalar

/-- Numbers that are equal are one key whatever their type; truth values count as 1 and 0. -/
def number? : Scalar → Option Double
  | bool b => some (.ofFloat (if b then 1 else 0))
  | int n => some (.ofFloat (Float.ofInt n))
  | float x => some x
  | _ => none

def integer? : Scalar → Option Int
  | bool b => some (if b then 1 else 0)
  | int n => some n
  | _ => none

def isSameKey (a b : Scalar) : Bool :=
  match a.integer?, b.integer? with
  | some m, some n => m = n
  | _, _ =>
      match a.number?, b.number? with
      | some x, some y => x.toFloat == y.toFloat || x = y
      | _, _ => a = b

end Scalar

namespace Data

def null : Data := .scalar .null

def bool (b : Bool) : Data := .scalar (.bool b)

def int (n : Int) : Data := .scalar (.int n)

def text (s : String) : Data := .scalar (.text s)

section

variable {α : Type}

/-- Sets the value of a key; a key that is there keeps its place. -/
def insert (key : Scalar) (value : α) : List (Scalar × α) → List (Scalar × α)
  | [] => [(key, value)]
  | (k, v) :: rest => if k.isSameKey key then (k, value) :: rest else (k, v) :: insert key value rest

def find? (entries : List (Scalar × α)) (key : String) : Option α :=
  (entries.find? fun e => e.1 = .text key).map (·.2)

end

end Data

/-- The outermost constructor of a value, whose parts are of some type. -/
inductive Layer (α : Type) where
  | scalar (value : Scalar)
  | list (items : List α)
  | pair (first second : α)
  | set (items : List Scalar)
  | map (entries : List (Scalar × α))
deriving DecidableEq, Repr, Inhabited

def Data.layer : Data → Layer Data
  | scalar s => .scalar s
  | list items => .list items
  | pair a b => .pair a b
  | set items => .set items
  | map entries => .map entries

end TypeGuards
