import TypeGuards.Data.Printed
/-!
Why a text has no value. It may be no document at all, or hold a scalar that is spelled like a value
of its type and yet stands for none, such as a day that no month has.
-/
namespace TypeGuards.Yaml

/-- Why a scalar has no value of its type. -/
inductive ScalarError where
  | notNumber (base : Nat) (text : String)
  | tooLong (digits : Nat)
  | notFloat (text : String)
  | emptyNumber
  | notBoolean (text : String)
  | notTimestamp
  | notText
  | year (value : Nat)
  | month
  | day
  | hour
  | minute
  | second
  | offset (minutes : Int)
  | character (number : Nat)
deriving DecidableEq, Repr, Inhabited

inductive Error where
  | malformed
  | scalar (e : ScalarError)
  | tooDeep
deriving DecidableEq, Repr, Inhabited

namespace ScalarError

/-- The most decimal digits that a number is read from. -/
def longestNumber : Nat := 4300

/-- Numbers beyond this one are not compared with the last character. -/
def greatestCode : Nat := 0x7fffffff

def message : ScalarError → String
  | notNumber base text =>
      let shown := (Scalar.text text).printed.toList.take 200
      s!"invalid literal for int() with base {base}: {String.ofList shown}"
  | tooLong digits =>
      s!"Exceeds the limit ({longestNumber} digits) for integer string conversion: value has " ++
        s!"{digits} digits; use sys.set_int_max_str_digits() to increase the limit"
  | notFloat text => s!"could not convert string to float: {(Scalar.text text).printed}"
  | emptyNumber => "string index out of range"
  | notBoolean text => (Scalar.text text).printed
  | notTimestamp => "'NoneType' object has no attribute 'groupdict'"
  | notText => "expected string or bytes-like object, got 'list'"
  | year n => s!"year {n} is out of range"
  | month => "month must be in 1..12"
  | day => "day is out of range for month"
  | hour => "hour must be in 0..23"
  | minute => "minute must be in 0..59"
  | second => "second must be in 0..59"
  | offset minutes =>
      let bound := "timedelta(hours=24)"
      s!"offset must be a timedelta strictly between -{bound} and {bound}, not " ++
        printedDistance minutes ++ "."
  | character number =>
      if number ≤ greatestCode then "chr() arg not in range(0x110000)"
      else "Python int too large to convert to C int"

end ScalarError

def tooDeepMessage : String := "maximum recursion depth exceeded"

def orMalformed : Option α → Except Error α
  | some a => .ok a
  | none => .error .malformed

end TypeGuards.Yaml
