import TypeGuards.Primitive
import TypeGuards.Proofs.Script.Program
/-!
What the names in a module refer to. Types and values are named apart: an import of types binds types
alone; functions, their parameters and their constants bind values alone. A name that nothing binds
refers to what surrounds all modules.
-/
namespace TypeGuards.Script

/-- Where a name is used. -/
inductive Role where
  | parameterType
  | subject
  | predicate
  | operand
  | cast
  | argument
deriving DecidableEq

structure Use where
  role : Role
  name : String
deriving DecidableEq

/-- A use with the function it stands in and the constants that are in force there. -/
structure Mention extends Use where
  head : Head
  constants : List String

def Use.mention (head : Head) (constants : List String) (u : Use) : Mention :=
  { u with head, constants }

/-- What is noted of the tokens that a reader takes. -/
def noted {σ τ α : Type} (next : σ → τ → Option σ) (note : σ → τ → List α) : σ → List τ → List α
  | _, [] => []
  | s, t :: ts => note s t ++ ((next s t).map fun u => noted next note u ts).getD []

section

variable {σ τ α : Type} {next : σ → τ → Option σ} {note : σ → τ → List α} {s u : σ}

theorem noted_cons {t : τ} (ts : List τ) (h : next s t = some u) :
    noted next note s (t :: ts) = note s t ++ noted next note u ts := by
  rw [noted, h]
  rfl

theorem noted_singleton (s : σ) (t : τ) : noted next note s [t] = note s t := by
  cases h : next s t <;> simp [noted, h]

/-- Reading can be cut anywhere, and what is noted is joined. -/
theorem noted_append {ts : List τ} (us : List τ) (h : ts.foldlM next s = some u) :
    noted next note s (ts ++ us) = noted next note s ts ++ noted next note u us := by
  induction ts generalizing s with
  | nil =>
    obtain rfl := Option.some.inj h
    rfl
  | cons t ts ih =>
    rw [List.foldlM_cons] at h
    obtain ⟨v, hnext, hrest⟩ := Option.bind_eq_some_iff.mp h
    rw [List.cons_append, noted_cons _ hnext, noted_cons _ hnext, ih hrest, List.append_assoc]

end

/-! ### The names in a text -/

/-- A word that is an operand is a name unless it is an operator or a literal. -/
def operandWords : List String := ["typeof", "null", "true", "false"]

def Reading.note (r : Reading) (t : Token) : List Use :=
  match r.phase, t with
  | .operand, .word w => if w ∈ operandWords then [] else [⟨.operand, w⟩]
  | .cast _, .word w => [⟨.cast, w⟩]
  | .arguments _ _, .word w => [⟨.argument, w⟩]
  | _, _ => []

def Expr.uses (ts : List Token) : List Use := noted Reading.next Reading.note ⟨[], .operand⟩ ts

def Stmt.uses : List Token → List Use
  | .word "return" :: ts => Expr.uses ts
  | .word "const" :: .word _ :: .sign .assign :: ts => Expr.uses ts
  | _ => []

def conditionUses : List Token → List Use
  | .word "if" :: .sign .openParen :: ts => Expr.uses ts.dropLast
  | _ => []

def Stmt.declared? : Stmt → Option String
  | .const name _ => some name
  | _ => none

namespace Body

/-- The constants declared so far in the blocks that are open. -/
def constants (b : Body) : List String :=
  (b.done ++ b.blocks.flatMap (·.1)).filterMap Stmt.declared?

def uses (b : Body) (t : Token) : List Use :=
  if t = .sign .semicolon then Stmt.uses b.pending
  else if t = .sign .openBrace then conditionUses b.pending
  else []

def note (head : Head) (b : Body) (t : Token) : List Mention :=
  (b.uses t).map (Use.mention head b.constants)

end Body

def Head.uses : List Token → List Use
  | [_, _, _, _, _, _, .word type, _, _, .word subject, _, .word predicate] =>
      [⟨.parameterType, type⟩, ⟨.subject, subject⟩, ⟨.predicate, predicate⟩]
  | _ => []

def Functions.note (s : Functions) (t : Token) : List Mention :=
  match s.place with
  | .outside pending =>
      if t = .sign .openBrace then
        (Head.ofTokens pending).toList.flatMap fun head => (Head.uses pending).map (Use.mention head [])
      else []
  | .inside head b => b.note head t

/-- Before a body nothing is noted. -/
theorem noted_outside {done : List Function} {pending ts : List Token} (us : List Token)
    (h : .sign .openBrace ∉ ts) :
    noted Functions.next Functions.note ⟨done, .outside pending⟩ (ts ++ us) =
      noted Functions.next Functions.note ⟨done, .outside (pending ++ ts)⟩ us := by
  induction ts generalizing pending with
  | nil => simp
  | cons t ts ih =>
    rw [List.mem_cons, not_or] at h
    have ht : t ≠ .sign .openBrace := Ne.symm h.1
    have hnext : Functions.next ⟨done, .outside pending⟩ t =
        some ⟨done, .outside (pending ++ [t])⟩ := if_neg ht
    have hnote : Functions.note ⟨done, .outside pending⟩ t = [] := if_neg ht
    rw [List.cons_append, noted_cons _ hnext, hnote, ih h.2, List.append_assoc]
    rfl

/-- Inside a function the names in its body are noted. -/
theorem noted_inside {done : List Function} {head : Head} {b b' : Body} {ts : List Token}
    (hrun : b.run ts = some b') : noted Functions.next Functions.note ⟨done, .inside head b⟩ ts =
      noted Body.next (Body.note head) b ts := by
  induction ts generalizing b with
  | nil => rfl
  | cons t ts ih =>
    rw [Body.run_cons] at hrun
    obtain ⟨c, hnext, hrest⟩ := Option.bind_eq_some_iff.mp hrun
    have hstep : Functions.next ⟨done, .inside head b⟩ t = some ⟨done, .inside head c⟩ := by
      simp only [Functions.next, hnext]
    rw [noted_cons _ hstep, noted_cons _ hnext, ih hrest]
    rfl

namespace Program

def mentionsIn (ts : List Token) : List Mention :=
  noted Functions.next Functions.note ⟨[], .outside []⟩ (((Import.ofTokens ts).map (·.2)).getD ts)

/-- The names in the functions of a module. -/
def mentions (text : String) : List Mention := ((tokens text).map mentionsIn).getD []

end Program

/-! ### What names refer to -/

def reservedWords : List String :=
  ["break", "case", "catch", "class", "const", "continue", "debugger", "default", "delete", "do",
   "else", "enum", "export", "extends", "false", "finally", "for", "function", "if", "import", "in",
   "instanceof", "new", "null", "return", "super", "switch", "this", "throw", "true", "try", "typeof",
   "var", "void", "while", "with", "await", "yield", "let", "static", "implements", "interface",
   "package", "private", "protected", "public"]

def typeOperators : List String := ["keyof", "unique", "readonly", "infer"]

inductive Referent where
  | primitive (type : Primitive)
  | imported (name origin : String)
  | parameter
  | constant
  | function
  | ambient
  | nothing
deriving DecidableEq

namespace Program

/-- A keyword for a primitive type stands for that type whatever is imported. -/
def typeReferent (m : Program) (name : String) : Referent :=
  match Primitive.ofName? name with
  | some p => .primitive p
  | none =>
      if name ∈ reservedWords ++ typeOperators then .nothing
      else
        match m.imported with
        | some i => if name ∈ i.names then .imported name i.origin else .ambient
        | none => .ambient

/-- The innermost binding counts. -/
def valueReferent (m : Program) (u : Mention) : Referent :=
  if u.name ∈ u.constants then .constant
  else if u.name = u.head.parameter then .parameter
  else if u.name ∈ m.functions.map (·.name) then .function
  else .ambient

def referent (m : Program) (u : Mention) : Referent :=
  match u.role with
  | .subject | .operand => m.valueReferent u
  | .parameterType | .predicate | .cast | .argument => m.typeReferent u.name

end Program

/-- A word that can name a type of a module. -/
def IsTypeName (name : String) : Prop :=
  Primitive.ofName? name = none ∧ name ∉ reservedWords ++ typeOperators

instance (name : String) : Decidable (IsTypeName name) := inferInstanceAs (Decidable (_ ∧ _))

section

variable {m : Program} {name : String}

/-- The keyword of a primitive type is never taken for a name. -/
theorem typeReferent_primitive (m : Program) (p : Primitive) : m.typeReferent p.name = .primitive p := by
  rw [Program.typeReferent, Primitive.ofName?_name]

/-- A name that is imported refers to its import exactly if it can name a type. -/
theorem typeReferent_imported {i : Import} (himport : m.imported = some i) (hname : name ∈ i.names) :
    m.typeReferent name = .imported name i.origin ↔ IsTypeName name := by
  unfold Program.typeReferent IsTypeName
  cases hprimitive : Primitive.ofName? name with
  | some p => simp
  | none =>
    by_cases hword : name ∈ reservedWords ++ typeOperators
    · simp [hword]
    · simp [hword, himport, hname]

/-- A name refers to the surroundings exactly if no import takes it. -/
theorem typeReferent_ambient (h : IsTypeName name) :
    m.typeReferent name = .ambient ↔ ∀ i ∈ m.imported, name ∉ i.names := by
  unfold Program.typeReferent
  rw [h.1]
  simp only [if_neg h.2]
  cases m.imported with
  | none => simp
  | some i => by_cases hname : name ∈ i.names <;> simp [hname]

theorem valueReferent_constant {u : Mention} (h : u.name ∈ u.constants) :
    m.valueReferent u = .constant := if_pos h

theorem valueReferent_parameter {u : Mention} (hconstants : u.name ∉ u.constants)
    (h : u.name = u.head.parameter) : m.valueReferent u = .parameter := by
  rw [Program.valueReferent, if_neg hconstants, if_pos h]

/-- A name that nothing in the module binds refers to the surroundings. -/
theorem valueReferent_ambient {u : Mention} (hconstants : u.name ∉ u.constants)
    (hparameter : u.name ≠ u.head.parameter) (h : u.name ∉ m.functions.map (·.name)) :
    m.valueReferent u = .ambient := by
  rw [Program.valueReferent, if_neg hconstants, if_neg hparameter, if_neg h]

end

end TypeGuards.Script
