import TypeGuards.Guard
import TypeGuards.Proofs.Guard.Expression
/-!
The text of a guard declares one function. It takes one value, tells whether that value is of the
type of the interface, and its body is made of the statements of the guard.
-/
namespace TypeGuards

open Script TypeScript

namespace Statement

def IsPlain : Statement → Prop
  | refuseIf c => c.IsPlain
  | bindRecord | accept => True

def script : Statement → Stmt
  | refuseIf c => .ifThen c.script [.returns (.boolean false)]
  | bindRecord => .const "record" (.name "value")
  | accept => .returns (.boolean true)

def tokens : Statement → List Token
  | refuseIf c =>
      [.word "if", .sign .openParen] ++ c.tokens ++
        [.sign .closeParen, .sign .openBrace, .word "return", .word "false", .sign .semicolon,
         .sign .closeBrace]
  | bindRecord =>
      [.word "const", .word "record", .sign .assign, .word "value", .word "as", .word "Record",
       .sign .less, .word "string", .sign .comma, .word "unknown", .sign .greater, .sign .semicolon]
  | accept => [.word "return", .word "true", .sign .semicolon]

end Statement

/-- Lines as they stand in a text, each with its end. -/
def written (lines : List String) : List Char := lines.flatMap fun line => line.toList ++ ['\n']

theorem toList_intercalate (line : String) (rest : List String) :
    (String.intercalate "\n" (line :: rest) ++ "\n").toList = written (line :: rest) := by
  induction rest generalizing line with
  | nil => simp [written]
  | cons next rest ih =>
    rw [String.intercalate_cons_cons, String.append_assoc, String.toList_append, ih]
    simp [written]

theorem written_append (first second : List String) :
    written (first ++ second) = written first ++ written second := List.flatMap_append

/-- A statement is cut into its tokens, line ends included. -/
theorem cuts_statement (s : Statement) (h : s.IsPlain) : Cuts (written s.lines) s.tokens := by
  cases s with
  | bindRecord => exact cuts_of_run rfl
  | accept => exact cuts_of_run rfl
  | refuseIf c =>
    have hopen : Cuts "  if (".toList [.word "if", .sign .openParen] := cuts_of_run rfl
    have hclose : Cuts (')' :: " \x7b\n    return false;\n  \x7d\n".toList)
        [.sign .closeParen, .sign .openBrace, .word "return", .word "false", .sign .semicolon,
         .sign .closeBrace] := cuts_of_run rfl
    have hcondition := (Expression.spells_render c h).cuts_append (by decide) hclose
    have hall := hopen.append hcondition
    simpa [written, Statement.lines, Statement.tokens] using hall

theorem cuts_statements (body : List Statement) (h : ∀ s ∈ body, s.IsPlain) :
    Cuts (written (body.flatMap Statement.lines)) (body.flatMap Statement.tokens) := by
  induction body with
  | nil => exact cuts_of_run rfl
  | cons s rest ih =>
    have hfirst := cuts_statement s (h s List.mem_cons_self)
    have hrest := ih fun t ht => h t (List.mem_cons_of_mem s ht)
    rw [List.flatMap_cons, List.flatMap_cons, written_append]
    exact hfirst.append hrest

namespace Guard

/-- The comment of a guard ends where it should, for the name in it has no star. -/
theorem cuts_comment {interface : String} (h : IsIdentifier interface) :
    Cuts (written
      ["/**", " * Ensures that value is a " ++ interface ++ " interface.",
       " * @param value To check.",
       " * @returns True if value is " ++ interface ++ ", false otherwise.",
       " */"]) [] := by
  have hstar : '*' ∉ interface.toList := h.notMem (by decide)
  have hopen : Scan.run ⟨[], .between⟩
      ("/**".toList ++ '\n' :: " * Ensures that value is a ".toList) = some ⟨[], .blockComment⟩ := rfl
  have hmiddle : Scan.run ⟨[], .blockComment⟩
      (" interface.".toList ++ '\n' :: (" * @param value To check.".toList ++
        '\n' :: " * @returns True if value is ".toList)) = some ⟨[], .blockComment⟩ := rfl
  have hclose : Scan.run ⟨[], .blockComment⟩
      (", false otherwise.".toList ++ '\n' :: (" */".toList ++ ['\n'])) = some ⟨[], .between⟩ := rfl
  have hrun : Scan.run ⟨[], .between⟩
      (("/**".toList ++ '\n' :: " * Ensures that value is a ".toList) ++ (interface.toList ++
        ((" interface.".toList ++ '\n' :: (" * @param value To check.".toList ++
          '\n' :: " * @returns True if value is ".toList)) ++ (interface.toList ++
            (", false otherwise.".toList ++ '\n' :: (" */".toList ++ ['\n'])))))) =
      some ⟨[], .between⟩ := by
    rw [Scan.run_append, hopen, Option.bind_some, run_comment _ _ _ hstar, Scan.run_append, hmiddle,
      Option.bind_some, run_comment _ _ _ hstar, hclose]
  apply cuts_of_run
  simpa only [written, List.flatMap_cons, List.flatMap_nil, String.toList_append, List.append_assoc,
    List.cons_append, List.nil_append, List.append_nil] using hrun

theorem cuts_header {name interface : String} (hname : IsIdentifier name)
    (hinterface : IsIdentifier interface) :
    Cuts (written ["export function " ++ name ++ "(value: unknown): value is " ++ interface ++ " \x7b"])
      [.word "export", .word "function", .word name, .sign .openParen, .word "value", .sign .colon,
       .word "unknown", .sign .closeParen, .sign .colon, .word "value", .word "is",
       .word interface, .sign .openBrace] := by
  have hexport : Cuts "export function ".toList [.word "export", .word "function"] :=
    cuts_of_run rfl
  have hparameter : Cuts ('(' :: "value: unknown): value is ".toList)
      [.sign .openParen, .word "value", .sign .colon, .word "unknown", .sign .closeParen,
       .sign .colon, .word "value", .word "is"] := cuts_of_run rfl
  have hbrace : Cuts (' ' :: ("\x7b".toList ++ ['\n'])) [.sign .openBrace] := cuts_of_run rfl
  have hfront := (spells_word hname).cuts_append (by decide) hparameter
  have hback := (spells_word hinterface).cuts_append (by decide) hbrace
  have hall := hexport.append (hfront.append hback)
  simp only [written, List.flatMap_cons, List.flatMap_nil, String.toList_append, List.append_assoc,
    List.append_nil]
  simp only [List.append_assoc] at hall
  exact hall

def tokens (g : Guard) : List Token :=
  [.word "export", .word "function", .word g.name, .sign .openParen, .word "value", .sign .colon,
   .word "unknown", .sign .closeParen, .sign .colon, .word "value", .word "is",
   .word g.interface, .sign .openBrace] ++
  (g.body.flatMap Statement.tokens ++ [.sign .closeBrace])

theorem cuts_lines (g : Guard) (hname : IsIdentifier g.name) (hinterface : IsIdentifier g.interface)
    (hbody : ∀ s ∈ g.body, s.IsPlain) : Cuts (written g.lines) g.tokens := by
  have hclose : Cuts (written ["\x7d"]) [.sign .closeBrace] := cuts_of_run rfl
  have hhead := (cuts_comment hinterface).append (cuts_header hname hinterface)
  have hall := hhead.append ((cuts_statements g.body hbody).append hclose)
  rw [← written_append, ← written_append, ← written_append, ← List.append_assoc] at hall
  exact hall

/-- The text of a guard is cut into its tokens. -/
theorem cuts_render (g : Guard) (hname : IsIdentifier g.name) (hinterface : IsIdentifier g.interface)
    (hbody : ∀ s ∈ g.body, s.IsPlain) : Cuts g.render.toList g.tokens := by
  have hrender : g.render.toList = written g.lines := toList_intercalate _ _
  rw [hrender]
  exact cuts_lines g hname hinterface hbody

end Guard

/-! ### The tokens are read as the statements -/

/-- A token that ends no statement and bounds no block. -/
def Script.Token.IsInner (t : Token) : Prop :=
  t ≠ .sign .semicolon ∧ t ≠ .sign .openBrace ∧ t ≠ .sign .closeBrace

theorem Expression.isInner_of_mem (e : Expression) : ∀ t ∈ e.tokens, t.IsInner := by
  induction e with
  | name | null | undefined | text => simp [tokens, Token.IsInner]
  | member o k ih =>
    intro t ht
    rcases List.mem_append.mp ht with ht | ht
    · exact ih t ht
    · simp only [List.mem_cons, List.not_mem_nil, or_false] at ht
      rcases ht with rfl | rfl <;> simp [Token.IsInner]
  | typeOf v ih => simpa [tokens, Token.IsInner] using ih
  | isIn k o ih => simpa [tokens, Token.IsInner] using ih
  | not v ih =>
    intro t ht
    simp only [tokens, List.mem_cons, List.mem_append, List.not_mem_nil, or_false] at ht
    rcases ht with rfl | rfl | ht | rfl
    · simp [Token.IsInner]
    · simp [Token.IsInner]
    · exact ih t ht
    · simp [Token.IsInner]
  | and a b iha ihb | or a b iha ihb | equal a b iha ihb | differ a b iha ihb =>
    intro t ht
    simp only [tokens, List.mem_append, List.mem_cons] at ht
    rcases ht with ht | rfl | ht
    · exact iha t ht
    · simp [Token.IsInner]
    · exact ihb t ht

theorem next_of_isInner (b : Body) {t : Token} (h : t.IsInner) :
    b.next t = some { b with pending := b.pending ++ [t] } := by
  obtain ⟨hsemicolon, hopen, hclose⟩ := h
  unfold Body.next
  split <;> first | contradiction | rfl

theorem run_of_isInner (b : Body) (ts us : List Token) (h : ∀ t ∈ ts, t.IsInner) :
    b.run (ts ++ us) = Body.run { b with pending := b.pending ++ ts } us := by
  induction ts generalizing b with
  | nil => simp
  | cons t ts ih =>
    have hrest := ih { b with pending := b.pending ++ [t] } fun u hu => h u (List.mem_cons_of_mem t hu)
    rw [List.cons_append, Body.run_cons, next_of_isInner b (h t List.mem_cons_self),
      Option.bind_some, hrest]
    simp

/-! A condition is read up to the brace that opens its block. -/

def Expression.conditionTokens (c : Expression) : List Token :=
  [.word "if", .sign .openParen] ++ c.tokens ++ [.sign .closeParen]

theorem tokens_refuseIf (c : Expression) (ts : List Token) : (Statement.refuseIf c).tokens ++ ts =
    c.conditionTokens ++ (.sign .openBrace :: (([.word "return", .word "false", .sign .semicolon,
      .sign .closeBrace] : List Token) ++ ts)) := by
  simp [Statement.tokens, Expression.conditionTokens]

theorem Expression.isInner_condition (c : Expression) : ∀ t ∈ c.conditionTokens, t.IsInner := by
  intro t ht
  simp only [conditionTokens, List.mem_append, List.mem_cons, List.not_mem_nil, or_false] at ht
  rcases ht with ((rfl | rfl) | ht) | rfl
  · simp [Token.IsInner]
  · simp [Token.IsInner]
  · exact c.isInner_of_mem t ht
  · simp [Token.IsInner]

/-- The brace of a block settles the condition before it. -/
theorem next_condition (c : Expression) (h : c.IsPlain) (blocks : List (List Stmt × Expr))
    (done : List Stmt) : Body.next ⟨blocks, done, c.conditionTokens⟩ (.sign .openBrace) =
      some ⟨(done, c.script) :: blocks, [], []⟩ := by
  have hcondition : condition? c.conditionTokens = some c.script := by
    simp [condition?, Expression.conditionTokens, Expression.ofTokens_tokens c h]
  simp only [Body.next, hcondition, Option.map_some]

/-- The statement whose tokens these are is done when they have been read. -/
theorem run_statement (s : Statement) (h : s.IsPlain) (blocks : List (List Stmt × Expr))
    (done : List Stmt) (ts : List Token) :
    Body.run ⟨blocks, done, []⟩ (s.tokens ++ ts) = Body.run ⟨blocks, done ++ [s.script], []⟩ ts := by
  cases s with
  | bindRecord => rfl
  | accept => rfl
  | refuseIf c =>
    rw [tokens_refuseIf, run_of_isInner _ _ _ c.isInner_condition, List.nil_append, Body.run_cons,
      next_condition c h]
    rfl

/-- The tokens of plain statements are read back as what these stand for. -/
theorem run_statements (body : List Statement) (h : ∀ s ∈ body, s.IsPlain)
    (blocks : List (List Stmt × Expr)) (done : List Stmt) :
    Body.run ⟨blocks, done, []⟩ (body.flatMap Statement.tokens) =
      some ⟨blocks, done ++ body.map Statement.script, []⟩ := by
  induction body generalizing done with
  | nil => simp [Body.run]
  | cons s rest ih =>
    have hrest := ih (fun t ht => h t (List.mem_cons_of_mem s ht)) (done ++ [s.script])
    rw [List.flatMap_cons, run_statement s (h s List.mem_cons_self), hrest, List.map_cons,
      List.append_assoc]
    rfl

def Guard.function (g : Guard) : Function :=
  { name := g.name, parameter := "value", type := g.interface, body := g.body.map Statement.script }

/-- The text of a guard declares the function that the guard is. -/
theorem ofText_render (g : Guard) (hname : IsIdentifier g.name) (hinterface : IsIdentifier g.interface)
    (hbody : ∀ s ∈ g.body, s.IsPlain) : Function.ofText g.render = some g.function := by
  have hrun := run_statements g.body hbody [] []
  have hlast : (g.body.flatMap Statement.tokens ++ [Token.sign .closeBrace]).getLast? =
      some (Token.sign .closeBrace) := List.getLast?_concat
  have hfront : (g.body.flatMap Statement.tokens ++ [Token.sign .closeBrace]).dropLast =
      g.body.flatMap Statement.tokens := List.dropLast_concat
  have htokens := tokens_of_cuts (g.cuts_render hname hinterface hbody)
  rw [Function.ofText, htokens, Option.bind_some, Guard.tokens]
  simp only [List.cons_append, List.nil_append, Function.ofTokens, hlast, hfront, hrun, and_self,
    if_true, Option.bind_some]
  rfl

end TypeGuards
