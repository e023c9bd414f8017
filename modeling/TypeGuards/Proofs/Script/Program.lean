import TypeGuards.Proofs.Script.Syntax
/-!
Modules of the scripting language: an import of types, if there is one, and functions. The head of a
function goes up to the brace that opens its body, and the function up to the brace that closes it.
-/
namespace TypeGuards.Script

structure Import where
  names : List String
  origin : String
deriving DecidableEq, Repr

/-- Names with commas between them, up to the brace behind them. -/
def names? : List Token → Option (List String × List Token)
  | .word name :: .sign .comma :: ts => (names? ts).map fun (names, rest) => (name :: names, rest)
  | .word name :: .sign .closeBrace :: ts => some ([name], ts)
  | _ => none

def Import.ofTokens : List Token → Option (Import × List Token)
  | .word "import" :: .word "type" :: .sign .openBrace :: ts =>
      match names? ts with
      | some (names, .word "from" :: .literal origin :: .sign .semicolon :: rest) =>
          some ({ names, origin }, rest)
      | _ => none
  | _ => none

structure Head where
  name : String
  parameter : String
  type : String

def Head.ofTokens : List Token → Option Head
  | [.word "export", .word "function", .word name, .sign .openParen, .word parameter, .sign .colon,
      .word _, .sign .closeParen, .sign .colon, .word subject, .word "is", .word type] =>
      if subject = parameter then some { name, parameter, type } else none
  | _ => none

def Head.function (h : Head) (body : List Stmt) : Function :=
  { name := h.name, parameter := h.parameter, type := h.type, body }

inductive Place where
  /-- Between functions, behind the beginning of a head. -/
  | outside (pending : List Token)
  | inside (head : Head) (body : Body)

/-- Functions read up to some token. -/
structure Functions where
  done : List Function
  place : Place

namespace Functions

def next (s : Functions) (t : Token) : Option Functions :=
  match s.place with
  | .outside pending =>
      if t = .sign .openBrace then
        (Head.ofTokens pending).map fun h => { s with place := .inside h ⟨[], [], []⟩ }
      else some { s with place := .outside (pending ++ [t]) }
  | .inside h b =>
      match b.next t with
      | some b => some { s with place := .inside h b }
      | none =>
          -- A brace that closes no block inside the body closes the body.
          if t = .sign .closeBrace then
            b.finish.map fun body => ⟨s.done ++ [h.function body], .outside []⟩
          else none

def run (s : Functions) (ts : List Token) : Option Functions := ts.foldlM next s

def finish (s : Functions) : Option (List Function) :=
  match s.place with
  | .outside [] => some s.done
  | _ => none

def ofTokens (ts : List Token) : Option (List Function) :=
  (run ⟨[], .outside []⟩ ts).bind finish

theorem run_cons (s : Functions) (t : Token) (ts : List Token) :
    s.run (t :: ts) = (s.next t).bind fun u => u.run ts := rfl

theorem run_append (s : Functions) (ts us : List Token) :
    s.run (ts ++ us) = (s.run ts).bind fun u => u.run us := List.foldlM_append

/-- Inside a function its body is read. -/
theorem run_inside {done : List Function} {h : Head} {b b' : Body} {ts : List Token}
    (hrun : b.run ts = some b') : run ⟨done, .inside h b⟩ ts = some ⟨done, .inside h b'⟩ := by
  induction ts generalizing b with
  | nil =>
    obtain rfl := Option.some.inj hrun
    rfl
  | cons t ts ih =>
    rw [Body.run_cons] at hrun
    obtain ⟨c, hnext, hrest⟩ := Option.bind_eq_some_iff.mp hrun
    have hstep : next ⟨done, .inside h b⟩ t = some ⟨done, .inside h c⟩ := by
      simp only [next, hnext]
    rw [run_cons, hstep, Option.bind_some, ih hrest]

theorem next_end {done : List Function} {h : Head} {body : List Stmt} :
    next ⟨done, .inside h ⟨[], body, []⟩⟩ (.sign .closeBrace) =
      some ⟨done ++ [h.function body], .outside []⟩ := rfl

end Functions

structure Program where
  imported : Option Import
  functions : List Function

namespace Program

def ofTokens (ts : List Token) : Option Program :=
  match Import.ofTokens ts with
  | some (imported, rest) =>
      (Functions.ofTokens rest).map fun functions => { imported := some imported, functions }
  | none => (Functions.ofTokens ts).map fun functions => { imported := none, functions }

def ofText (text : String) : Option Program := (tokens text).bind ofTokens

end Program

end TypeGuards.Script
