import TypeGuards.Proofs.Script.Token
/-!
The expressions, statements and functions of the scripting language. Expressions are read a token
at a time: what waits for its last operand stands on a stack and is completed as soon as an
operator comes that binds no tighter. Types are read and forgotten.
-/
namespace TypeGuards.Script

inductive Expr where
  | name (text : String)
  | null
  | boolean (value : Bool)
  | text (value : String)
  | member (object : Expr) (key : String)
  | typeOf (operand : Expr)
  | not (operand : Expr)
  | isIn (key : String) (object : Expr)
  | same (first second : Expr)
  | differ (first second : Expr)
  | both (first second : Expr)
  | either (first second : Expr)

inductive Frame where
  | group
  | waiting (level : Nat) (complete : Expr → Expr)

inductive Phase where
  | operand
  | operator (read : Expr)
  | key (object : Expr)
  | cast (read : Expr)
  | typed (read : Expr)
  | arguments (read : Expr) (depth : Nat)

structure Reading where
  frames : List Frame
  phase : Phase

/-- Completes what waits on top of the stack with operators of at least a level. -/
def settle (level : Nat) : List Frame → Expr → List Frame × Expr
  | .waiting l complete :: frames, e =>
      if level ≤ l then settle level frames (complete e) else (.waiting l complete :: frames, e)
  | frames, e => (frames, e)

/-- The level of an operator between two operands, and what it makes of the first. The key that is
looked for in an object has to be a literal. -/
def operator? : Token → Option (Nat × (Expr → Option (Expr → Expr)))
  | .sign .either => some (1, fun a => some (.either a))
  | .sign .both => some (2, fun a => some (.both a))
  | .sign .same => some (3, fun a => some (.same a))
  | .sign .differ => some (3, fun a => some (.differ a))
  | .word text =>
      if text = "in" then
        some (4, fun a => match a with | .text key => some (.isIn key) | _ => none)
      else none
  | _ => none

def unaryLevel : Nat := 5

def castLevel : Nat := 4

namespace Reading

def ofWord (frames : List Frame) (text : String) : Reading :=
  if text = "typeof" then ⟨.waiting unaryLevel .typeOf :: frames, .operand⟩
  else if text = "null" then ⟨frames, .operator .null⟩
  else if text = "true" then ⟨frames, .operator (.boolean true)⟩
  else if text = "false" then ⟨frames, .operator (.boolean false)⟩
  else ⟨frames, .operator (.name text)⟩

def afterOperand (frames : List Frame) (e : Expr) (t : Token) : Option Reading :=
  if t = .sign .dot then some ⟨frames, .key e⟩
  else if t = .sign .closeParen then
    match settle 0 frames e with
    | (.group :: frames, e) => some ⟨frames, .operator e⟩
    | _ => none
  else if t = .word "as" then
    let (frames, e) := settle castLevel frames e
    some ⟨frames, .cast e⟩
  else
    match operator? t with
    | none => none
    | some (level, complete) =>
        let (frames, e) := settle level frames e
        (complete e).map fun f => ⟨.waiting level f :: frames, .operand⟩

def next (r : Reading) (t : Token) : Option Reading :=
  match r.phase, t with
  | .operand, .literal v => some ⟨r.frames, .operator (.text v)⟩
  | .operand, .word w => some (ofWord r.frames w)
  | .operand, .sign .bang => some ⟨.waiting unaryLevel .not :: r.frames, .operand⟩
  | .operand, .sign .openParen => some ⟨.group :: r.frames, .operand⟩
  | .operator e, t => afterOperand r.frames e t
  | .key e, .word w => some ⟨r.frames, .operator (.member e w)⟩
  | .cast e, .word _ => some ⟨r.frames, .typed e⟩
  | .typed _, .sign .dot => none
  | .typed e, .sign .less => some ⟨r.frames, .arguments e 0⟩
  | .typed e, t => afterOperand r.frames e t
  | .arguments e n, .sign .less => some ⟨r.frames, .arguments e (n + 1)⟩
  | .arguments e (n + 1), .sign .greater => some ⟨r.frames, .arguments e n⟩
  | .arguments e 0, .sign .greater => some ⟨r.frames, .operator e⟩
  | .arguments e n, .word _ => some ⟨r.frames, .arguments e n⟩
  | .arguments e n, .sign .comma => some ⟨r.frames, .arguments e n⟩
  | _, _ => none

def run (r : Reading) (ts : List Token) : Option Reading := ts.foldlM next r

theorem run_cons (r : Reading) (t : Token) (ts : List Token) :
    r.run (t :: ts) = (r.next t).bind fun s => s.run ts := rfl

def finish (r : Reading) : Option Expr :=
  match r.phase with
  | .operator e | .typed e =>
      match settle 0 r.frames e with
      | ([], e) => some e
      | _ => none
  | _ => none

end Reading

def Expr.ofTokens (ts : List Token) : Option Expr := (Reading.run ⟨[], .operand⟩ ts).bind Reading.finish

inductive Stmt where
  | ifThen (condition : Expr) (body : List Stmt)
  | const (name : String) (value : Expr)
  | returns (value : Expr)

def Stmt.ofTokens : List Token → Option Stmt
  | .word "return" :: ts => (Expr.ofTokens ts).map .returns
  | .word "const" :: .word name :: .sign .assign :: ts => (Expr.ofTokens ts).map (.const name)
  | _ => none

def condition? : List Token → Option Expr
  | .word "if" :: .sign .openParen :: ts =>
      if ts.getLast? = some (.sign .closeParen) then Expr.ofTokens ts.dropLast else none
  | _ => none

structure Body where
  /-- What precedes each open block, with its condition; the innermost comes first. -/
  blocks : List (List Stmt × Expr)
  done : List Stmt
  pending : List Token

namespace Body

def next (b : Body) (t : Token) : Option Body :=
  match t with
  | .sign .semicolon =>
      (Stmt.ofTokens b.pending).map fun s => { b with done := b.done ++ [s], pending := [] }
  | .sign .openBrace =>
      (condition? b.pending).map fun c =>
        { blocks := (b.done, c) :: b.blocks, done := [], pending := [] }
  | .sign .closeBrace =>
      match b.blocks, b.pending with
      | (before, c) :: blocks, [] =>
          some { blocks, done := before ++ [.ifThen c b.done], pending := [] }
      | _, _ => none
  | t => some { b with pending := b.pending ++ [t] }

def run (b : Body) (ts : List Token) : Option Body := ts.foldlM next b

theorem run_cons (b : Body) (t : Token) (ts : List Token) :
    b.run (t :: ts) = (b.next t).bind fun c => c.run ts := rfl

def finish (b : Body) : Option (List Stmt) :=
  if b.blocks.isEmpty && b.pending.isEmpty then some b.done else none

end Body

structure Function where
  name : String
  parameter : String
  type : String
  body : List Stmt

def Function.ofTokens : List Token → Option Function
  | .word "export" :: .word "function" :: .word name :: .sign .openParen :: .word parameter ::
      .sign .colon :: .word _ :: .sign .closeParen :: .sign .colon :: .word subject :: .word "is" ::
      .word type :: .sign .openBrace :: ts =>
      if subject = parameter ∧ ts.getLast? = some (.sign .closeBrace) then
        ((Body.run ⟨[], [], []⟩ ts.dropLast).bind Body.finish).map fun body =>
          { name, parameter, type, body }
      else none
  | _ => none

def Function.ofText (text : String) : Option Function := (tokens text).bind Function.ofTokens

end TypeGuards.Script
