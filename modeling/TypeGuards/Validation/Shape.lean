import TypeGuards.Encoding.Utf8
import TypeGuards.Text.Blank
import TypeGuards.Validation.Finding
/-!
Checks of single values. They are lenient: a text may spell a number or a truth value, and a number
may stand for another type that holds it.
-/
namespace TypeGuards.Checked

def text (d : Data) : Checked String :=
  match d with
  | .scalar (.text s) => .ok s
  | .scalar (.bytes bs) =>
      match Encoding.Utf8.decode bs with
      | .ok cs => .ok (String.ofList cs)
      | .error _ => fault .unreadableText d
  | _ => fault .notText d

def nonemptyText (d : Data) : Checked String := do
  let s ← text d
  if s = "" then fault .emptyText d else .ok s

def digitsValue (digits : List Char) : Nat :=
  digits.foldl (fun n c => n * 10 + (c.toNat - '0'.toNat)) 0

/-- Underscores are allowed between digits, one at a time. -/
def isGrouped : List Char → Bool
  | '_' :: '_' :: _ => false
  | ['_'] => false
  | _ :: rest => isGrouped rest
  | [] => true

/-- Reads digits with a sign, underscores between them, and a fraction of zeros. -/
def readInteger (chars : List Char) : Option Int :=
  let (isNegative, unsigned) := match chars with
    | '-' :: rest => (true, rest)
    | '+' :: rest => (false, rest)
    | rest => (false, rest)
  let (whole, fraction) := unsigned.span (· ≠ '.')
  let digits := whole.filter (· ≠ '_')
  let isWritten := whole.head? ≠ some '_' && isGrouped whole && !digits.isEmpty &&
    digits.all Char.isDigit && (fraction.drop 1).all (· = '0')
  if isWritten then
    let n : Int := digitsValue digits
    some (if isNegative then -n else n)
  else none

/-- An integer: a whole number of any type, a truth value, or a text that spells one. -/
def integer (d : Data) : Checked Int :=
  match d with
  | .scalar (.int n) => .ok n
  | .scalar (.bool b) => .ok (if b then 1 else 0)
  | .scalar (.float x) =>
      let f := x.toFloat
      if f.isNaN || f.isInf then fault .notFinite d
      else if f.floor == f then .ok (if f < 0 then -((-f).toUInt64.toNat : Int) else f.toUInt64.toNat)
      else fault .fractional d
  | .scalar (.text s) =>
      match readInteger (Text.trim s.toList) with
      | some n => .ok n
      | none => fault .unparsableInteger d
  | _ => fault .notInteger d

def trueWords : List String := ["1", "on", "t", "true", "y", "yes"]

def falseWords : List String := ["0", "off", "f", "false", "n", "no"]

/-- A truth value: 1 or 0 of any numeric type, or a word for one in upper or lower case. -/
def boolean (d : Data) : Checked Bool :=
  match d with
  | .scalar (.bool b) => .ok b
  | .scalar (.text s) =>
      let word := String.ofList (s.toList.map Char.toLower)
      if trueWords.contains word then .ok true
      else if falseWords.contains word then .ok false
      else fault .unparsableBoolean d
  | .scalar (.int n) =>
      if n = 0 then .ok false else if n = 1 then .ok true else fault .unparsableBoolean d
  | .scalar (.float x) =>
      if x.toFloat == 0 then .ok false
      else if x.toFloat == 1 then .ok true
      else fault (if x.toFloat.floor == x.toFloat then .unparsableBoolean else .notBoolean) d
  | _ => fault .notBoolean d

def list (check : Data → Checked α) (d : Data) : Checked (List α) :=
  match d with
  | .list items => listFrom check 0 items
  | .set items => listFrom check 0 (items.map .scalar)
  | _ => fault .notList d

def optional (check : Data → Checked α) (d : Data) : Checked (Option α) :=
  match d with
  | .scalar .null => .ok none
  | d => some <$> check d

def oneOf (names : List String) (ofName? : String → Option α) (d : Data) : Checked α :=
  match d with
  | .scalar (.text s) =>
      match ofName? s with
      | some a => .ok a
      | none => fault (.notOneOf names) d
  | _ => fault (.notOneOf names) d

def record (shape : String) (d : Data) : Checked (List (Scalar × Data)) :=
  match d with
  | .map entries => .ok entries
  | d => fault (.notRecord shape) d

def field (entries : List (Scalar × Data)) (name : String) (default : α) (check : Data → Checked α) :
    Checked α :=
  match Data.find? entries name with
  | some d => (check d).under (.field name)
  | none => .ok default

def requiredField (entries : List (Scalar × Data)) (name : String) (check : Data → Checked α) :
    Checked α :=
  match Data.find? entries name with
  | some d => (check d).under (.field name)
  | none => (fault .missing (.map entries)).under (.field name)

end TypeGuards.Checked
