import TypeGuards.Guard.Expression
import TypeGuards.Proofs.Script.Syntax
/-!
The expressions of guards as expressions of the language. An expression that needs no parentheses
beyond those of a negation is read back from its text as what it stands for.
-/
namespace TypeGuards.Expression

open Script TypeScript

def level : Expression → Nat
  | or _ _ => 1
  | and _ _ => 2
  | equal _ _ | differ _ _ => 3
  | isIn _ _ => 4
  | typeOf _ | not _ => 5
  | name _ | null | undefined | text _ | member _ _ => 6

/-- The operands bind tightly enough to stand without parentheses; names and texts are written as
they are. -/
def IsPlain : Expression → Prop
  | name t => IsIdentifier t ∧ t ∉ ["typeof", "null", "true", "false"]
  | null | undefined => True
  | text v => IsPlainText v
  | member o k => o.IsPlain ∧ 6 ≤ o.level ∧ IsIdentifier k
  | typeOf v => v.IsPlain ∧ 5 ≤ v.level
  | isIn k o => IsPlainText k ∧ o.IsPlain ∧ 5 ≤ o.level
  | not v => v.IsPlain
  | and a b => a.IsPlain ∧ b.IsPlain ∧ 2 ≤ a.level ∧ 3 ≤ b.level
  | or a b => a.IsPlain ∧ b.IsPlain ∧ 1 ≤ a.level ∧ 2 ≤ b.level
  | equal a b | differ a b => a.IsPlain ∧ b.IsPlain ∧ 3 ≤ a.level ∧ 4 ≤ b.level

instance decidableIsPlain : (e : Expression) → Decidable e.IsPlain
  | name _ => inferInstanceAs (Decidable (_ ∧ _))
  | null | undefined => inferInstanceAs (Decidable True)
  | text v => inferInstanceAs (Decidable (IsPlainText v))
  | member o k =>
      have := decidableIsPlain o
      inferInstanceAs (Decidable (o.IsPlain ∧ 6 ≤ o.level ∧ IsIdentifier k))
  | typeOf v =>
      have := decidableIsPlain v
      inferInstanceAs (Decidable (v.IsPlain ∧ 5 ≤ v.level))
  | isIn k o =>
      have := decidableIsPlain o
      inferInstanceAs (Decidable (IsPlainText k ∧ o.IsPlain ∧ 5 ≤ o.level))
  | not v => decidableIsPlain v
  | and a b | or a b | equal a b | differ a b =>
      have := decidableIsPlain a
      have := decidableIsPlain b
      inferInstanceAs (Decidable (a.IsPlain ∧ b.IsPlain ∧ _ ≤ a.level ∧ _ ≤ b.level))

def script : Expression → Expr
  | name t => .name t
  | null => .null
  | undefined => .name "undefined"
  | text v => .text v
  | member o k => .member o.script k
  | typeOf v => .typeOf v.script
  | isIn k o => .isIn k o.script
  | not v => .not v.script
  | and a b => .both a.script b.script
  | or a b => .either a.script b.script
  | equal a b => .same a.script b.script
  | differ a b => .differ a.script b.script

def tokens : Expression → List Token
  | name t => [.word t]
  | null => [.word "null"]
  | undefined => [.word "undefined"]
  | text v => [.literal v]
  | member o k => o.tokens ++ [.sign .dot, .word k]
  | typeOf v => .word "typeof" :: v.tokens
  | isIn k o => .literal k :: .word "in" :: o.tokens
  | not v => .sign .bang :: .sign .openParen :: (v.tokens ++ [.sign .closeParen])
  | and a b => a.tokens ++ .sign .both :: b.tokens
  | or a b => a.tokens ++ .sign .either :: b.tokens
  | equal a b => a.tokens ++ .sign .same :: b.tokens
  | differ a b => a.tokens ++ .sign .differ :: b.tokens

/-! ### The text is cut into the tokens -/

theorem spells_infix {a b : List Char} {ts us : List Token} (c : Char) (sign : List Char) (s : Sign)
    (ha : Spells a ts) (hb : Spells b us) (hc : isPunctuation c = true)
    (hsign : Cuts (c :: sign) [.sign s]) :
    Spells (a ++ (c :: sign) ++ b) (ts ++ .sign s :: us) := by
  have hrest : Spells (c :: (sign ++ b)) (.sign s :: us) := hsign.spells_append hb
  rw [List.append_assoc, List.cons_append]
  exact ha.append hc hrest

/-- The text of an expression is cut into its tokens. -/
theorem spells_render (e : Expression) (h : e.IsPlain) : Spells e.render.toList e.tokens := by
  induction e with
  | name t => exact spells_word h.1
  | null => exact spells_word (by decide)
  | undefined => exact spells_word (by decide)
  | text v =>
    have hcuts := cuts_literal h
    simpa [render, tokens] using hcuts.spells
  | member o k ih =>
    have hmember := (ih h.1).append (by decide) (spells_member h.2.2)
    simpa [render, tokens] using hmember
  | typeOf v ih =>
    have hword : Cuts "typeof ".toList [.word "typeof"] := cuts_of_run rfl
    simpa [render, tokens] using hword.spells_append (ih h.1)
  | isIn k o ih =>
    have hword : Cuts " in ".toList [.word "in"] := cuts_of_run rfl
    have hkey := (cuts_literal h.1).append hword
    simpa [render, tokens] using hkey.spells_append (ih h.2.1)
  | not v ih =>
    have hopen : Cuts "!(".toList [.sign .bang, .sign .openParen] := cuts_of_run rfl
    have hclose : Cuts [')'] [.sign .closeParen] := cuts_of_run rfl
    have hvalue := (ih h).cuts_append (by decide) hclose
    simpa [render, tokens] using (hopen.append hvalue).spells
  | and a b iha ihb =>
    simpa [render, tokens] using
      spells_infix ' ' "&& ".toList .both (iha h.1) (ihb h.2.1) (by decide) (cuts_of_run rfl)
  | or a b iha ihb =>
    simpa [render, tokens] using
      spells_infix ' ' "|| ".toList .either (iha h.1) (ihb h.2.1) (by decide) (cuts_of_run rfl)
  | equal a b iha ihb =>
    simpa [render, tokens] using
      spells_infix ' ' "=== ".toList .same (iha h.1) (ihb h.2.1) (by decide) (cuts_of_run rfl)
  | differ a b iha ihb =>
    simpa [render, tokens] using
      spells_infix ' ' "!== ".toList .differ (iha h.1) (ihb h.2.1) (by decide) (cuts_of_run rfl)

/-! ### The tokens are read as what the expression stands for -/

/-- What waits on the stack once the tokens are read, for the operand read last. -/
def spine : Expression → List Frame
  | typeOf v => v.spine ++ [.waiting unaryLevel .typeOf]
  | isIn k o => o.spine ++ [.waiting 4 (.isIn k)]
  | not _ => [.waiting unaryLevel .not]
  | and a b => b.spine ++ [.waiting 2 (.both a.script)]
  | or a b => b.spine ++ [.waiting 1 (.either a.script)]
  | equal a b => b.spine ++ [.waiting 3 (.same a.script)]
  | differ a b => b.spine ++ [.waiting 3 (.differ a.script)]
  | name _ | null | undefined | text _ | member _ _ => []

def tip : Expression → Expr
  | typeOf v => v.tip
  | isIn _ o => o.tip
  | not v => v.script
  | and _ b | or _ b | equal _ b | differ _ b => b.tip
  | e => e.script

/-- What waits on the stack takes its last operand once that is settled. -/
theorem settle_waiting {b : Expression} {p l : Nat} (h : p ≤ l) (complete : Expr → Expr)
    (frames : List Frame)
    (hb : ∀ frames, settle p (b.spine ++ frames) b.tip = settle p frames b.script) :
    settle p ((b.spine ++ [.waiting l complete]) ++ frames) b.tip =
      settle p frames (complete b.script) := by
  rw [List.append_assoc, hb, List.singleton_append, settle, if_pos h]

/-- Whatever binds no tighter than an expression completes it. -/
theorem settle_spine (e : Expression) (h : e.IsPlain) (p : Nat) (hp : p ≤ e.level)
    (frames : List Frame) : settle p (e.spine ++ frames) e.tip = settle p frames e.script := by
  induction e generalizing frames with
  | name | null | undefined | text | member => rfl
  | typeOf v ih => exact settle_waiting hp _ frames (ih h.1 (Nat.le_trans hp h.2))
  | isIn k o ih =>
    exact settle_waiting hp _ frames (ih h.2.1 (Nat.le_trans hp (Nat.le_of_succ_le h.2.2)))
  | not v => exact if_pos hp
  | and a b _ ih =>
    exact settle_waiting hp _ frames (ih h.2.1 (Nat.le_trans hp (Nat.le_of_succ_le h.2.2.2)))
  | or a b _ ih =>
    exact settle_waiting hp _ frames (ih h.2.1 (Nat.le_trans hp (Nat.le_of_succ_le h.2.2.2)))
  | equal a b _ ih =>
    exact settle_waiting hp _ frames (ih h.2.1 (Nat.le_trans hp (Nat.le_of_succ_le h.2.2.2)))
  | differ a b _ ih =>
    exact settle_waiting hp _ frames (ih h.2.1 (Nat.le_trans hp (Nat.le_of_succ_le h.2.2.2)))

/-- The stack holds back no operator of a level: what waits on top of it binds less tightly. -/
def Admits (frames : List Frame) (p : Nat) : Prop :=
  ∀ l complete rest, frames = .waiting l complete :: rest → l < p

/-- Nothing that binds less tightly is settled. -/
theorem settle_of_admits {frames : List Frame} {p : Nat} (h : Admits frames p) (e : Expr) :
    settle p frames e = (frames, e) := by
  cases frames with
  | nil => rfl
  | cons frame rest =>
    cases frame with
    | group => rfl
    | waiting l complete =>
      have hl : l < p := h l complete rest rfl
      rw [settle, if_neg (Nat.not_le.mpr hl)]

theorem admits_waiting {l p : Nat} (h : l < p) (complete : Expr → Expr) (frames : List Frame) :
    Admits (.waiting l complete :: frames) p := by
  intro k f rest heq
  obtain ⟨hframe, -⟩ := List.cons.inj heq
  obtain ⟨rfl, -⟩ := Frame.waiting.inj hframe
  exact h

theorem admits_group (frames : List Frame) (p : Nat) : Admits (.group :: frames) p := by
  intro l complete rest heq
  exact Frame.noConfusion (List.cons.inj heq).1

/-- What holds back no operator of a level holds back none of a higher one. -/
theorem Admits.mono {frames : List Frame} {p q : Nat} (h : Admits frames p) (hpq : p ≤ q) :
    Admits frames q := by
  intro l complete rest heq
  exact Nat.lt_of_lt_of_le (h l complete rest heq) hpq

theorem spine_tip_of_level {e : Expression} (h : 6 ≤ e.level) : e.spine = [] ∧ e.tip = e.script := by
  cases e with
  | name | null | undefined | text | member => exact ⟨rfl, rfl⟩
  | typeOf | isIn | not | and | or | equal | differ => simp only [level] at h; omega

/-- An operator finds its first operand complete. -/
theorem next_infix {a : Expression} {t : Token} {p : Nat} {f : Expr → Expr → Expr}
    (hop : ∀ frames e, Reading.afterOperand frames e t =
      some ⟨.waiting p (f (settle p frames e).2) :: (settle p frames e).1, .operand⟩)
    (hsettle : ∀ frames, settle p (a.spine ++ frames) a.tip = settle p frames a.script)
    {frames : List Frame} (hframes : Admits frames p) :
    Reading.next ⟨a.spine ++ frames, .operator a.tip⟩ t =
      some ⟨.waiting p (f a.script) :: frames, .operand⟩ := by
  have hstep := hop (a.spine ++ frames) a.tip
  rw [hsettle, settle_of_admits hframes] at hstep
  exact hstep

theorem next_in {frames : List Frame} (h : Admits frames 4) (key : String) :
    Reading.next ⟨frames, .operator (.text key)⟩ (.word "in") =
      some ⟨.waiting 4 (.isIn key) :: frames, .operand⟩ := by
  have hsettle := settle_of_admits h (.text key)
  simp [Reading.next, Reading.afterOperand, operator?, hsettle]

/-- An operator between two operands: the first is complete when it comes, the second follows. -/
theorem run_infix {a b : Expression} {t : Token} {p : Nat} {f : Expr → Expr → Expr}
    (hop : ∀ frames e, Reading.afterOperand frames e t =
      some ⟨.waiting p (f (settle p frames e).2) :: (settle p frames e).1, .operand⟩)
    (ha : ∀ frames ts, Admits frames p →
      Reading.run ⟨frames, .operand⟩ (a.tokens ++ ts) =
        Reading.run ⟨a.spine ++ frames, .operator a.tip⟩ ts)
    (hb : ∀ frames ts, Admits frames (p + 1) →
      Reading.run ⟨frames, .operand⟩ (b.tokens ++ ts) =
        Reading.run ⟨b.spine ++ frames, .operator b.tip⟩ ts)
    (hsettle : ∀ frames, settle p (a.spine ++ frames) a.tip = settle p frames a.script)
    (frames : List Frame) (ts : List Token) (hframes : Admits frames p) :
    Reading.run ⟨frames, .operand⟩ ((a.tokens ++ t :: b.tokens) ++ ts) =
      Reading.run ⟨(b.spine ++ [.waiting p (f a.script)]) ++ frames, .operator b.tip⟩ ts := by
  have hnext := next_infix hop hsettle hframes
  have hsecond := hb (.waiting p (f a.script) :: frames) ts (admits_waiting p.lt_succ_self _ _)
  rw [List.append_assoc, ha frames _ hframes, List.cons_append, Reading.run_cons, hnext,
    Option.bind_some, hsecond, List.append_assoc]
  rfl

/-- The tokens of an expression leave its last operand, with what waits for it on the stack. -/
theorem run_tokens (e : Expression) (h : e.IsPlain) (frames : List Frame) (ts : List Token)
    (hframes : e.level < unaryLevel → Admits frames e.level) :
    Reading.run ⟨frames, .operand⟩ (e.tokens ++ ts) =
      Reading.run ⟨e.spine ++ frames, .operator e.tip⟩ ts := by
  induction e generalizing frames ts with
  | name t =>
    obtain ⟨-, hkeyword⟩ := h
    simp only [List.mem_cons, List.not_mem_nil, or_false, not_or] at hkeyword
    obtain ⟨htypeof, hnull, htrue, hfalse⟩ := hkeyword
    have hword : Reading.ofWord frames t = ⟨frames, .operator (.name t)⟩ := by
      simp only [Reading.ofWord, htypeof, hnull, htrue, hfalse, if_false]
    have hnext : Reading.next ⟨frames, .operand⟩ (.word t) = some ⟨frames, .operator (.name t)⟩ :=
      congrArg some hword
    rw [tokens, List.singleton_append, Reading.run_cons, hnext]
    rfl
  | null => rfl
  | undefined => rfl
  | text v => rfl
  | member o k ih =>
    obtain ⟨hspine, htip⟩ := spine_tip_of_level h.2.1
    have hobject := ih h.1 frames ([.sign .dot, .word k] ++ ts) fun hlow => by
      have hlevel := h.2.1
      simp only [unaryLevel] at hlow
      omega
    rw [tokens, List.append_assoc, hobject, hspine, htip]
    rfl
  | typeOf v ih =>
    have hoperand := ih h.1 (.waiting unaryLevel .typeOf :: frames) ts fun hlow =>
      absurd hlow (Nat.not_lt.mpr h.2)
    rw [spine, tip, List.append_assoc]
    exact hoperand
  | isIn k o ih =>
    have hoperand := ih h.2.1 (.waiting 4 (.isIn k) :: frames) ts fun hlow =>
      absurd hlow (Nat.not_lt.mpr h.2.2)
    have hkey : Reading.next ⟨frames, .operand⟩ (.literal k) =
        some ⟨frames, .operator (.text k)⟩ := rfl
    have hin := next_in (hframes (show 4 < unaryLevel by decide)) k
    rw [tokens, List.cons_append, List.cons_append, Reading.run_cons, hkey, Option.bind_some,
      Reading.run_cons, hin, Option.bind_some, hoperand, spine, tip, List.append_assoc]
    rfl
  | not v ih =>
    have hoperand := ih h (.group :: .waiting unaryLevel .not :: frames)
      (.sign .closeParen :: ts) fun _ => admits_group _ _
    have hclose : Reading.next ⟨v.spine ++ .group :: .waiting unaryLevel .not :: frames,
        .operator v.tip⟩ (.sign .closeParen) =
        some ⟨.waiting unaryLevel .not :: frames, .operator v.script⟩ := by
      have hsettle := settle_spine v h 0 (Nat.zero_le _) (.group :: .waiting unaryLevel .not :: frames)
      simp [Reading.next, Reading.afterOperand, hsettle, settle]
    have hbang : Reading.next ⟨frames, .operand⟩ (.sign .bang) =
        some ⟨.waiting unaryLevel .not :: frames, .operand⟩ := rfl
    have hopen : Reading.next ⟨.waiting unaryLevel .not :: frames, .operand⟩ (.sign .openParen) =
        some ⟨.group :: .waiting unaryLevel .not :: frames, .operand⟩ := rfl
    rw [tokens, List.cons_append, List.cons_append, List.append_assoc, List.singleton_append,
      Reading.run_cons, hbang, Option.bind_some, Reading.run_cons, hopen, Option.bind_some,
      hoperand, Reading.run_cons, hclose]
    rfl
  | and a b iha ihb =>
    exact run_infix (fun _ _ => rfl) (fun f us hf => iha h.1 f us fun _ => hf.mono h.2.2.1)
      (fun f us hf => ihb h.2.1 f us fun _ => hf.mono h.2.2.2) (settle_spine a h.1 2 h.2.2.1)
      frames ts (hframes (show 2 < unaryLevel by decide))
  | or a b iha ihb =>
    exact run_infix (fun _ _ => rfl) (fun f us hf => iha h.1 f us fun _ => hf.mono h.2.2.1)
      (fun f us hf => ihb h.2.1 f us fun _ => hf.mono h.2.2.2) (settle_spine a h.1 1 h.2.2.1)
      frames ts (hframes (show 1 < unaryLevel by decide))
  | equal a b iha ihb =>
    exact run_infix (fun _ _ => rfl) (fun f us hf => iha h.1 f us fun _ => hf.mono h.2.2.1)
      (fun f us hf => ihb h.2.1 f us fun _ => hf.mono h.2.2.2) (settle_spine a h.1 3 h.2.2.1)
      frames ts (hframes (show 3 < unaryLevel by decide))
  | differ a b iha ihb =>
    exact run_infix (fun _ _ => rfl) (fun f us hf => iha h.1 f us fun _ => hf.mono h.2.2.1)
      (fun f us hf => ihb h.2.1 f us fun _ => hf.mono h.2.2.2) (settle_spine a h.1 3 h.2.2.1)
      frames ts (hframes (show 3 < unaryLevel by decide))

/-- The text of an expression reads as what the expression stands for. -/
theorem ofTokens_tokens (e : Expression) (h : e.IsPlain) : Expr.ofTokens e.tokens = some e.script := by
  have hrun := run_tokens e h [] [] fun _ l complete rest heq => nomatch heq
  have hsettle := settle_spine e h 0 (Nat.zero_le _) []
  rw [List.append_nil, List.append_nil] at hrun
  rw [List.append_nil] at hsettle
  have hfinish : Reading.finish ⟨e.spine, .operator e.tip⟩ = some e.script := by
    simp only [Reading.finish, hsettle, settle]
  rw [Expr.ofTokens, hrun]
  exact hfinish

end TypeGuards.Expression
