import TypeGuards.Proofs.Guard.Module
import TypeGuards.Proofs.Script.Names
/-!
The names in the text of a module of guards. They are read off the text as off any module, and are those
of the heads, conditions and casts of its guards.
-/
namespace TypeGuards

open Script TypeScript

/-! ### Names in expressions -/

namespace Expression

def names : Expression → List String
  | name t => [t]
  | undefined => ["undefined"]
  | null | text _ => []
  | member o _ | isIn _ o => o.names
  | typeOf v | not v => v.names
  | and a b | or a b | equal a b | differ a b => a.names ++ b.names

def uses (e : Expression) : List Use := e.names.map (Use.mk .operand)

theorem note_operator (frames : List Frame) (e : Expr) (t : Token) :
    Reading.note ⟨frames, .operator e⟩ t = [] := by
  simp [Reading.note]

/-- Reading an expression leaves its operators on the stack and its last operand behind them. -/
theorem run_operand (e : Expression) (h : e.IsPlain) (frames : List Frame)
    (hframes : e.level < unaryLevel → Admits frames e.level) :
    Reading.run ⟨frames, .operand⟩ e.tokens = some ⟨e.spine ++ frames, .operator e.tip⟩ := by
  have hrun := run_tokens e h frames [] hframes
  rwa [List.append_nil] at hrun

/-- Between two operands no name is noted. -/
theorem noted_infix {a b : Expression} {t : Token} {p : Nat} {f : Expr → Expr → Expr}
    (hop : ∀ frames e, Reading.afterOperand frames e t =
      some ⟨.waiting p (f (settle p frames e).2) :: (settle p frames e).1, .operand⟩)
    (ha : a.IsPlain) (hfirst : p ≤ a.level) (hsecond : p + 1 ≤ b.level) {frames : List Frame}
    (hframes : Admits frames p)
    (iha : ∀ frames, (a.level < unaryLevel → Admits frames a.level) →
      noted Reading.next Reading.note ⟨frames, .operand⟩ a.tokens = a.uses)
    (ihb : ∀ frames, (b.level < unaryLevel → Admits frames b.level) →
      noted Reading.next Reading.note ⟨frames, .operand⟩ b.tokens = b.uses) :
    noted Reading.next Reading.note ⟨frames, .operand⟩ (a.tokens ++ t :: b.tokens) =
      a.uses ++ b.uses := by
  have hadmits : Admits frames a.level := hframes.mono hfirst
  have hrun := run_operand a ha frames fun _ => hadmits
  have hnext := next_infix hop (settle_spine a ha p hfirst) hframes
  have hrest := ihb (.waiting p (f a.script) :: frames) fun _ => admits_waiting hsecond _ _
  rw [noted_append _ hrun, noted_cons _ hnext, note_operator, iha frames fun _ => hadmits, hrest,
    List.nil_append]

/-- The names noted of an expression are its names. -/
theorem noted_tokens (e : Expression) (h : e.IsPlain) (frames : List Frame)
    (hframes : e.level < unaryLevel → Admits frames e.level) :
    noted Reading.next Reading.note ⟨frames, .operand⟩ e.tokens = e.uses := by
  induction e generalizing frames with
  | name t =>
    have hword : t ∉ operandWords := h.2
    have hnote : Reading.note ⟨frames, .operand⟩ (.word t) = [⟨.operand, t⟩] := by
      simp only [Reading.note, if_neg hword]
    rw [tokens, noted_singleton, hnote]
    rfl
  | null => rfl
  | undefined => rfl
  | text v => rfl
  | member o k ih =>
    have hobject : o.level < unaryLevel → Admits frames o.level := by
      intro hlow
      have hlevel := h.2.1
      simp only [unaryLevel] at hlow
      omega
    have hkey : noted Reading.next Reading.note ⟨o.spine ++ frames, .operator o.tip⟩
        [.sign .dot, .word k] = [] := rfl
    rw [tokens, noted_append _ (run_operand o h.1 frames hobject), ih h.1 frames hobject, hkey,
      List.append_nil]
    rfl
  | typeOf v ih =>
    exact ih h.1 (.waiting unaryLevel .typeOf :: frames) fun hlow =>
      absurd hlow (Nat.not_lt.mpr h.2)
  | isIn k o ih =>
    have hkey : Reading.next ⟨frames, .operand⟩ (.literal k) =
        some ⟨frames, .operator (.text k)⟩ := rfl
    have hin := next_in (hframes (show 4 < unaryLevel by decide)) k
    have hoperand := ih h.2.1 (.waiting 4 (.isIn k) :: frames) fun hlow =>
      absurd hlow (Nat.not_lt.mpr h.2.2)
    rw [tokens, noted_cons _ hkey, noted_cons _ hin, note_operator, hoperand]
    rfl
  | not v ih =>
    have hgroup : Admits (.group :: .waiting unaryLevel .not :: frames) v.level := admits_group _ _
    have hoperand := ih h (.group :: .waiting unaryLevel .not :: frames) fun _ => hgroup
    have hbang : Reading.next ⟨frames, .operand⟩ (.sign .bang) =
        some ⟨.waiting unaryLevel .not :: frames, .operand⟩ := rfl
    have hopen : Reading.next ⟨.waiting unaryLevel .not :: frames, .operand⟩ (.sign .openParen) =
        some ⟨.group :: .waiting unaryLevel .not :: frames, .operand⟩ := rfl
    rw [tokens, noted_cons _ hbang, noted_cons _ hopen,
      noted_append _ (run_operand v h _ fun _ => hgroup), hoperand, noted_singleton, note_operator,
      List.append_nil]
    rfl
  | and a b iha ihb | or a b iha ihb | equal a b iha ihb | differ a b iha ihb =>
    obtain ⟨ha, hb, hfirst, hsecond⟩ := h
    rw [uses, names, List.map_append]
    exact noted_infix (fun _ _ => rfl) ha hfirst hsecond (hframes (by simp [level, unaryLevel]))
      (iha ha) (ihb hb)

end Expression

/-! ### Names in bodies -/

namespace Statement

def uses : Statement → List Use
  | refuseIf c => c.uses
  | bindRecord =>
      [⟨.operand, "value"⟩, ⟨.cast, "Record"⟩, ⟨.argument, "string"⟩, ⟨.argument, "unknown"⟩]
  | accept => []

def declared : Statement → List String
  | bindRecord => ["record"]
  | refuseIf _ | accept => []

/-- The names in a body, with the constants in force where each stands. -/
def mentions (head : Head) : List String → List Statement → List Mention
  | _, [] => []
  | constants, s :: rest =>
      s.uses.map (Use.mention head constants) ++ mentions head (constants ++ s.declared) rest

end Statement

section

variable {head : Head}

theorem uses_of_isInner (b : Body) {t : Token} (h : t.IsInner) : b.uses t = [] := by
  obtain ⟨hsemicolon, hopen, -⟩ := h
  rw [Body.uses, if_neg hsemicolon, if_neg hopen]

theorem noted_of_isInner (b : Body) (ts us : List Token) (h : ∀ t ∈ ts, t.IsInner) :
    noted Body.next (Body.note head) b (ts ++ us) =
      noted Body.next (Body.note head) { b with pending := b.pending ++ ts } us := by
  induction ts generalizing b with
  | nil => simp
  | cons t ts ih =>
    have ht : t.IsInner := h t List.mem_cons_self
    have hrest := ih { b with pending := b.pending ++ [t] } fun u hu => h u (List.mem_cons_of_mem t hu)
    have hnote : Body.note head b t = [] := by rw [Body.note, uses_of_isInner b ht, List.map_nil]
    rw [List.cons_append, noted_cons _ (next_of_isInner b ht), hnote, hrest]
    simp

/-- Reading a statement notes its names, with the constants of the blocks around it. -/
theorem noted_statement (s : Statement) (h : s.IsPlain) (blocks : List (List Stmt × Expr))
    (done : List Stmt) : noted Body.next (Body.note head) ⟨blocks, done, []⟩ s.tokens =
      s.uses.map (Use.mention head (Body.constants ⟨blocks, done, []⟩)) := by
  cases s with
  | bindRecord => rfl
  | accept => rfl
  | refuseIf c =>
    have hcondition : conditionUses c.conditionTokens = c.uses := by
      have hnoted : Expr.uses c.tokens = c.uses :=
        Expression.noted_tokens c h [] fun _ l complete rest heq => nomatch heq
      simpa [conditionUses, Expression.conditionTokens] using hnoted
    have hnote : Body.note head ⟨blocks, done, c.conditionTokens⟩ (.sign .openBrace) =
        c.uses.map (Use.mention head (Body.constants ⟨blocks, done, []⟩)) := by
      rw [← hcondition]
      rfl
    have hblock : noted Body.next (Body.note head) ⟨(done, c.script) :: blocks, [], []⟩
        [.word "return", .word "false", .sign .semicolon, .sign .closeBrace] = [] := rfl
    rw [← List.append_nil (Statement.refuseIf c).tokens, tokens_refuseIf,
      noted_of_isInner _ _ _ c.isInner_condition, List.nil_append,
      noted_cons _ (next_condition c h blocks done), hnote, List.append_nil, hblock, List.append_nil]
    rfl

theorem constants_concat (done : List Stmt) (s : Statement) :
    Body.constants ⟨[], done ++ [s.script], []⟩ = Body.constants ⟨[], done, []⟩ ++ s.declared := by
  cases s <;> simp [Body.constants, Statement.script, Statement.declared, Stmt.declared?]

/-- The names of a body are noted with the constants declared before them. -/
theorem noted_statements (body : List Statement) (h : ∀ s ∈ body, s.IsPlain) (done : List Stmt) :
    noted Body.next (Body.note head) ⟨[], done, []⟩ (body.flatMap Statement.tokens) =
      Statement.mentions head (Body.constants ⟨[], done, []⟩) body := by
  induction body generalizing done with
  | nil => rfl
  | cons s rest ih =>
    have hs : s.IsPlain := h s List.mem_cons_self
    have hrest := ih (fun t ht => h t (List.mem_cons_of_mem s ht)) (done ++ [s.script])
    have hrun := run_statement s hs [] done []
    rw [List.append_nil] at hrun
    rw [List.flatMap_cons, noted_append _ hrun, noted_statement s hs, hrest, constants_concat]
    rfl

end

theorem mentions_append (head : Head) (constants : List String) (before after : List Statement) :
    Statement.mentions head constants (before ++ after) = Statement.mentions head constants before ++
      Statement.mentions head (constants ++ before.flatMap Statement.declared) after := by
  induction before generalizing constants with
  | nil => simp [Statement.mentions]
  | cons s before ih =>
    rw [List.cons_append, Statement.mentions, ih, Statement.mentions, List.flatMap_cons,
      List.append_assoc, List.append_assoc]

/-- A condition declares no constant. -/
theorem mem_mentions_refusals {head : Head} {constants : List String} {conditions : List Expression}
    {u : Mention}
    (h : u ∈ Statement.mentions head constants (conditions.map .refuseIf ++ [.accept])) :
    ∃ c ∈ conditions, ∃ n ∈ c.names, u = Use.mention head constants ⟨.operand, n⟩ := by
  induction conditions with
  | nil => exact absurd h List.not_mem_nil
  | cons c rest ih =>
    rw [List.map_cons, List.cons_append, Statement.mentions, List.mem_append] at h
    rcases h with h | h
    · obtain ⟨v, hv, rfl⟩ := List.mem_map.mp h
      obtain ⟨n, hn, rfl⟩ := List.mem_map.mp hv
      exact ⟨c, List.mem_cons_self, n, hn, rfl⟩
    · rw [Statement.declared, List.append_nil] at h
      obtain ⟨d, hd, hn⟩ := ih h
      exact ⟨d, List.mem_cons_of_mem c hd, hn⟩

/-! ### Names in guards -/

namespace Guard

def head (g : Guard) : Head := { name := g.name, parameter := "value", type := g.interface }

def headUses (g : Guard) : List Use :=
  [⟨.parameterType, "unknown"⟩, ⟨.subject, "value"⟩, ⟨.predicate, g.interface⟩]

def headTokens (g : Guard) : List Token :=
  [.word "export", .word "function", .word g.name, .sign .openParen, .word "value", .sign .colon,
   .word "unknown", .sign .closeParen, .sign .colon, .word "value", .word "is", .word g.interface]

theorem tokens_eq (g : Guard) : g.tokens =
    (g.headTokens ++ ([.sign .openBrace] : List Token)) ++
      (g.body.flatMap Statement.tokens ++ ([.sign .closeBrace] : List Token)) := rfl

def mentions (g : Guard) : List Mention :=
  g.headUses.map (Use.mention g.head []) ++ Statement.mentions g.head [] g.body

end Guard

/-- Reading a guard notes what it mentions. -/
theorem noted_guard (g : Guard) (hbody : ∀ s ∈ g.body, s.IsPlain) (done : List Function) :
    noted Functions.next Functions.note ⟨done, .outside []⟩ g.tokens = g.mentions := by
  have hhead : Functions.run ⟨done, .outside []⟩ (g.headTokens ++ [.sign .openBrace]) =
      some ⟨done, .inside g.head ⟨[], [], []⟩⟩ := rfl
  have hbrace : .sign .openBrace ∉ g.headTokens := by simp [Guard.headTokens]
  have hnoted : Functions.note ⟨done, .outside ([] ++ g.headTokens)⟩ (.sign .openBrace) =
      g.headUses.map (Use.mention g.head []) := rfl
  have hrun := run_statements g.body hbody [] []
  have hclose : ∀ b : Body, Functions.note ⟨done, .inside g.head b⟩ (.sign .closeBrace) = [] :=
    fun _ => rfl
  rw [g.tokens_eq, noted_append _ hhead, noted_append _ (Functions.run_inside hrun),
    noted_inside hrun, noted_statements g.body hbody, noted_singleton, hclose, List.append_nil,
    noted_outside _ hbrace, noted_singleton, hnoted]
  rfl

/-- Guards are read one after another, and constants of one are not in force in the next. -/
theorem noted_guards (gs : List Guard) (h : ∀ g ∈ gs, ∀ s ∈ g.body, s.IsPlain)
    (done : List Function) : noted Functions.next Functions.note ⟨done, .outside []⟩
      (gs.map Guard.tokens).flatten = gs.flatMap Guard.mentions := by
  induction gs generalizing done with
  | nil => rfl
  | cons g gs ih =>
    have hg := h g List.mem_cons_self
    have hrest := ih (fun f hf => h f (List.mem_cons_of_mem g hf)) (done ++ [g.function])
    have hrun := run_guard g hg done []
    rw [List.append_nil] at hrun
    rw [List.map_cons, List.flatten_cons, noted_append _ hrun, noted_guard g hg, hrest]
    rfl

section

variable {is : List Interface} {gs : List Guard} {specifier text : String}

/-- The names noted in the text are those mentioned in its guards. -/
theorem mentions_moduleText (hspelled : ∀ i ∈ is, i.IsSpelled) (hspecifier : IsPlainText specifier)
    (h : guards is = .ok gs) :
    Program.mentions (moduleText is specifier gs) = gs.flatMap Guard.mentions := by
  rw [Program.mentions, tokens_moduleText hspelled hspecifier h, Option.map_some, Option.getD_some]
  cases is with
  | nil =>
    obtain rfl := Except.ok.inj h
    rfl
  | cons i rest =>
    simp only [moduleTokens, Program.mentionsIn, ofTokens_importTokens, Option.map_some,
      Option.getD_some]
    exact noted_guards gs (isPlain_guards hspelled h) []

end

end TypeGuards
