import TypeGuards.TypeScript.Lexer
/-!
Tokens of the scripting language that guards are written in. A text is read a character at a time
and cut into words, string literals without escapes, and signs that are as long as can be; blanks
and comments are passed over. A text outside this fragment has no tokens.
-/
namespace TypeGuards.Script

open TypeScript

inductive Sign where
  | openParen
  | closeParen
  | openBrace
  | closeBrace
  | dot
  | comma
  | colon
  | semicolon
  | less
  | greater
  | bang
  | assign
  | same
  | differ
  | both
  | either
  | other (text : List Char)
deriving DecidableEq

/-- Signs that no guard holds. They matter to where a sign ends. -/
def otherSigns : List (List Char) :=
  ["[", "]", "...", "<=", ">=", "==", "!=", "+", "-", "*", "%", "**", "++", "--", "<<", ">>", ">>>",
   "&", "|", "^", "~", "??", "?", "?.", "+=", "-=", "*=", "%=", "**=", "<<=", ">>=", ">>>=", "&=",
   "|=", "^=", "&&=", "||=", "??=", "=>", "/", "/="].map String.toList

def signs : List (List Char × Sign) :=
  [("(".toList, .openParen), (")".toList, .closeParen), ("\x7b".toList, .openBrace),
   ("\x7d".toList, .closeBrace), (".".toList, .dot), (",".toList, .comma), (":".toList, .colon),
   (";".toList, .semicolon), ("<".toList, .less), (">".toList, .greater), ("!".toList, .bang),
   ("=".toList, .assign), ("===".toList, .same), ("!==".toList, .differ), ("&&".toList, .both),
   ("||".toList, .either)] ++ otherSigns.map fun text => (text, .other text)

def startsSign (text : List Char) : Bool := signs.any fun s => text.isPrefixOf s.1

def startsLongerSign (text : List Char) : Bool := signs.any fun s => text ≠ s.1 && text.isPrefixOf s.1

inductive Token where
  | word (text : String)
  | literal (value : String)
  | sign (kind : Sign)
deriving DecidableEq

inductive Mode where
  | between
  | word (text : List Char)
  | literal (text : List Char)
  | sign (text : List Char)
  | lineComment
  | blockComment
  | star
deriving DecidableEq

structure Scan where
  tokens : List Token
  mode : Mode
deriving DecidableEq

def endsLine (c : Char) : Bool := c = '\n' || c = '\r' || c = '\u2028' || c = '\u2029'

namespace Scan

/-- A sign ends at once where no longer one can follow. -/
def ofSign (tokens : List Token) (text : List Char) : Option Scan :=
  if startsLongerSign text then some ⟨tokens, .sign text⟩
  else (signs.lookup text).map fun s => ⟨tokens ++ [.sign s], .between⟩

def start (tokens : List Token) (c : Char) : Option Scan :=
  if isBlank c then some ⟨tokens, .between⟩
  else if c = '"' then some ⟨tokens, .literal []⟩
  else if isPunctuation c then ofSign tokens [c]
  else if isDigit c then none
  else some ⟨tokens, .word [c]⟩

def step (s : Scan) (c : Char) : Option Scan :=
  match s.mode with
  | .between => start s.tokens c
  | .word text =>
      if isPunctuation c then start (s.tokens ++ [.word (String.ofList text)]) c
      else some { s with mode := .word (text ++ [c]) }
  | .literal text =>
      if c = '"' then some ⟨s.tokens ++ [.literal (String.ofList text)], .between⟩
      else if c = '\\' || c = '\n' || c = '\r' then none
      else some { s with mode := .literal (text ++ [c]) }
  | .sign text =>
      let longer := text ++ [c]
      if longer = "//".toList then some { s with mode := .lineComment }
      else if longer = "/*".toList then some { s with mode := .blockComment }
      else if startsSign longer then ofSign s.tokens longer
      else (signs.lookup text).bind fun found => start (s.tokens ++ [.sign found]) c
  | .lineComment => some { s with mode := if endsLine c then .between else .lineComment }
  | .blockComment => some { s with mode := if c = '*' then .star else .blockComment }
  | .star =>
      some { s with mode := if c = '/' then .between else if c = '*' then .star else .blockComment }

def run (s : Scan) (text : List Char) : Option Scan := text.foldlM step s

def finish (s : Scan) : Option (List Token) :=
  match s.mode with
  | .between | .lineComment => some s.tokens
  | .word text => some (s.tokens ++ [.word (String.ofList text)])
  | .sign text => (signs.lookup text).map fun found => s.tokens ++ [.sign found]
  | .literal _ | .blockComment | .star => none

end Scan

def tokens (text : String) : Option (List Token) :=
  (Scan.run ⟨[], .between⟩ text.toList).bind Scan.finish

/-- A name without escapes. The identifiers of the language are among these names. -/
def IsIdentifier (name : String) : Prop :=
  name.toList.all (fun c => !isPunctuation c) = true ∧
    (name.toList.head?.any fun c => !isDigit c) = true

instance (name : String) : Decidable (IsIdentifier name) := inferInstanceAs (Decidable (_ ∧ _))

/-- A text that a string literal holds as it is. -/
def IsPlainText (text : String) : Prop :=
  ∀ c ∈ text.toList, c ≠ '"' ∧ c ≠ '\\' ∧ c ≠ '\n' ∧ c ≠ '\r'

instance (text : String) : Decidable (IsPlainText text) := List.decidableBAll _ _

example : tokens "if (!(\"a\" in b)) { c.d !== null; } // e" =
    some [.word "if", .sign .openParen, .sign .bang, .sign .openParen, .literal "a", .word "in",
      .word "b", .sign .closeParen, .sign .closeParen, .sign .openBrace, .word "c", .sign .dot,
      .word "d", .sign .differ, .word "null", .sign .semicolon, .sign .closeBrace] := by decide +kernel

namespace Scan

theorem run_append (s : Scan) (first second : List Char) :
    s.run (first ++ second) = (s.run first).bind fun t => t.run second := by
  unfold run
  exact List.foldlM_append

theorem run_cons (s : Scan) (c : Char) (rest : List Char) :
    s.run (c :: rest) = (s.step c).bind fun t => t.run rest := rfl

def behind (before : List Token) (s : Scan) : Scan := { s with tokens := before ++ s.tokens }

theorem ofSign_behind (before tokens : List Token) (text : List Char) :
    ofSign (before ++ tokens) text = (ofSign tokens text).map (behind before) := by
  unfold ofSign
  split
  · rfl
  · cases signs.lookup text with
    | none => rfl
    | some found => simp [behind]

theorem start_behind (before tokens : List Token) (c : Char) :
    start (before ++ tokens) c = (start tokens c).map (behind before) := by
  unfold start
  split
  · rfl
  split
  · rfl
  split
  · exact ofSign_behind before tokens [c]
  split <;> rfl

/-- What has been read before does not matter to how a character is read. -/
theorem step_behind (before : List Token) (s : Scan) (c : Char) :
    (s.behind before).step c = (s.step c).map (behind before) := by
  obtain ⟨done, mode⟩ := s
  cases mode with
  | between => exact start_behind before done c
  | word text =>
    simp only [step, behind, List.append_assoc, start_behind]
    split <;> rfl
  | literal text =>
    simp only [step, behind, List.append_assoc]
    split
    · rfl
    split <;> rfl
  | sign text =>
    simp only [step, behind, List.append_assoc, ofSign_behind, start_behind]
    split
    · rfl
    split
    · rfl
    split
    · rfl
    cases signs.lookup text <;> rfl
  | lineComment => rfl
  | blockComment => rfl
  | star => rfl

/-- Cutting does not look back at the tokens before it. -/
theorem run_behind (before : List Token) (s : Scan) (text : List Char) :
    (s.behind before).run text = (s.run text).map (behind before) := by
  induction text generalizing s with
  | nil => rfl
  | cons c rest ih =>
    rw [run_cons, run_cons, step_behind]
    cases s.step c with
    | none => rfl
    | some t => exact ih t

end Scan

/-! ### Texts that spell tokens -/

/-- A text that is cut into tokens whatever follows it. -/
def Cuts (text : List Char) (spelled : List Token) : Prop :=
  ∀ done rest, Scan.run ⟨done, .between⟩ (text ++ rest) = Scan.run ⟨done ++ spelled, .between⟩ rest

/-- A text that is cut into tokens if no letter follows it. -/
def Spells (text : List Char) (spelled : List Token) : Prop :=
  ∀ done c rest, isPunctuation c = true →
    Scan.run ⟨done, .between⟩ (text ++ c :: rest) = Scan.run ⟨done ++ spelled, .between⟩ (c :: rest)

/-- A text that is cut to its end on its own is cut so in any text. -/
theorem cuts_of_run {text : List Char} {spelled : List Token}
    (h : Scan.run ⟨[], .between⟩ text = some ⟨spelled, .between⟩) : Cuts text spelled := by
  intro done rest
  have hrun := Scan.run_behind done ⟨[], .between⟩ text
  rw [h] at hrun
  simp only [Scan.behind, List.append_nil, Option.map_some] at hrun
  rw [Scan.run_append, hrun]
  rfl

/-- Texts that are cut whatever follows can be put one behind the other. -/
theorem Cuts.append {first second : List Char} {ts us : List Token}
    (hfirst : Cuts first ts) (hsecond : Cuts second us) : Cuts (first ++ second) (ts ++ us) := by
  intro done rest
  rw [List.append_assoc, hfirst, hsecond, List.append_assoc]

theorem Cuts.spells_append {first second : List Char} {ts us : List Token}
    (hfirst : Cuts first ts) (hsecond : Spells second us) : Spells (first ++ second) (ts ++ us) := by
  intro done c rest hc
  rw [List.append_assoc, hfirst, hsecond _ _ _ hc, List.append_assoc]

theorem Cuts.spells {text : List Char} {ts : List Token} (h : Cuts text ts) : Spells text ts := by
  intro done c rest _
  exact h done (c :: rest)

/-- A text that must not run into a letter may be followed by punctuation. -/
theorem Spells.append {first second : List Char} {c : Char} {ts us : List Token}
    (hfirst : Spells first ts) (hc : isPunctuation c = true) (hsecond : Spells (c :: second) us) :
    Spells (first ++ c :: second) (ts ++ us) := by
  intro done d rest hd
  have hnext := hsecond (done ++ ts) d rest hd
  rw [List.append_assoc, List.cons_append, hfirst _ _ _ hc, ← List.cons_append, hnext,
    List.append_assoc]

theorem Spells.cuts_append {first second : List Char} {c : Char} {ts us : List Token}
    (hfirst : Spells first ts) (hc : isPunctuation c = true) (hsecond : Cuts (c :: second) us) :
    Cuts (first ++ c :: second) (ts ++ us) := by
  intro done rest
  have hnext := hsecond (done ++ ts) rest
  rw [List.append_assoc, List.cons_append, hfirst _ _ _ hc, ← List.cons_append, hnext,
    List.append_assoc]

theorem tokens_of_cuts {text : String} {spelled : List Token} (h : Cuts text.toList spelled) :
    tokens text = some spelled := by
  have hrun := h [] []
  simp only [List.append_nil, List.nil_append] at hrun
  unfold tokens
  rw [hrun]
  rfl

theorem run_word (done : List Token) (text more : List Char) (c : Char) (rest : List Char)
    (hmore : ∀ d ∈ more, isPunctuation d = false) (hc : isPunctuation c = true) :
    Scan.run ⟨done, .word text⟩ (more ++ c :: rest) =
      Scan.run ⟨done ++ [.word (String.ofList (text ++ more))], .between⟩ (c :: rest) := by
  induction more generalizing text with
  | nil =>
    rw [List.nil_append, List.append_nil, Scan.run_cons, Scan.run_cons]
    simp only [Scan.step, hc, if_true]
  | cons d more ih =>
    have hd : isPunctuation d = false := hmore d List.mem_cons_self
    have htail := ih (text ++ [d]) fun e he => hmore e (List.mem_cons_of_mem d he)
    rw [List.cons_append, Scan.run_cons]
    simp only [Scan.step, hd, Bool.false_eq_true, if_false, Option.bind_some]
    rw [htail, List.append_assoc]
    rfl

theorem isPunctuation_of_isBlank {c : Char} (h : isBlank c = true) : isPunctuation c = true := by
  simp [isPunctuation, h]

theorem isPunctuation_quote : isPunctuation '"' = true := by decide

theorem start_letter (done : List Token) {c : Char} (hc : isPunctuation c = false)
    (hdigit : isDigit c = false) : Scan.start done c = some ⟨done, .word [c]⟩ := by
  have hblank : isBlank c = false := by
    cases hb : isBlank c with
    | false => rfl
    | true => rw [isPunctuation_of_isBlank hb] at hc; exact absurd hc (by decide)
  have hquote : c ≠ '"' := by
    rintro rfl
    rw [isPunctuation_quote] at hc
    exact absurd hc (by decide)
  simp [Scan.start, hblank, hquote, hc, hdigit]

theorem IsIdentifier.exists_cons {name : String} (h : IsIdentifier name) :
    ∃ c more, name.toList = c :: more ∧ isPunctuation c = false ∧ isDigit c = false ∧
      ∀ d ∈ more, isPunctuation d = false := by
  obtain ⟨hall, hhead⟩ := h
  cases hname : name.toList with
  | nil => rw [hname] at hhead; exact absurd hhead (by decide)
  | cons c more =>
    rw [hname] at hall hhead
    simp only [List.all_cons, Bool.and_eq_true, Bool.not_eq_true', List.all_eq_true] at hall
    simp only [List.head?_cons, Option.any_some, Bool.not_eq_true'] at hhead
    exact ⟨c, more, rfl, hall.1, hhead, hall.2⟩

/-- An identifier is one word, if no letter follows it. -/
theorem spells_word {name : String} (h : IsIdentifier name) : Spells name.toList [.word name] := by
  obtain ⟨c, more, hname, hc, hdigit, hmore⟩ := h.exists_cons
  intro done d rest hd
  have hword : String.ofList (c :: more) = name := by rw [← hname, String.ofList_toList]
  rw [hname, List.cons_append, Scan.run_cons]
  simp only [Scan.step, start_letter done hc hdigit, Option.bind_some]
  rw [run_word done [c] more d rest hmore hd, List.singleton_append, hword]

theorem isPunctuation_of_mem_signs : ∀ s ∈ signs, s.1.all isPunctuation = true := by
  decide +kernel

/-- A letter ends a sign. -/
theorem step_sign_letter (done : List Token) {text : List Char} {found : Sign} {c : Char}
    (hfound : signs.lookup text = some found) (hc : isPunctuation c = false) :
    Scan.step ⟨done, .sign text⟩ c = Scan.start (done ++ [.sign found]) c := by
  have hlast : ∀ other : List Char, other.all isPunctuation = true → c ∉ other := by
    intro other hother hmem
    rw [List.all_eq_true.mp hother c hmem] at hc
    exact absurd hc (by decide)
  have hline : text ++ [c] ≠ "//".toList := by
    intro heq
    exact hlast "//".toList (by decide) (heq ▸ List.mem_append_right text List.mem_cons_self)
  have hblock : text ++ [c] ≠ "/*".toList := by
    intro heq
    exact hlast "/*".toList (by decide) (heq ▸ List.mem_append_right text List.mem_cons_self)
  have hstarts : startsSign (text ++ [c]) = false := by
    rw [startsSign, List.any_eq_false]
    intro s hs hstart
    obtain ⟨more, heq⟩ := List.isPrefixOf_iff_prefix.mp hstart
    refine hlast s.1 (isPunctuation_of_mem_signs s hs) ?_
    rw [← heq]
    exact List.mem_append_left more (List.mem_append_right text List.mem_cons_self)
  simp only [Scan.step, hline, hblock, hstarts, hfound, if_false, Bool.false_eq_true,
    Option.bind_some]

/-- The name of a member: the point ends where its letters begin. -/
theorem spells_member {name : String} (h : IsIdentifier name) :
    Spells ('.' :: name.toList) [.sign .dot, .word name] := by
  obtain ⟨c, more, hname, hc, hdigit, hmore⟩ := h.exists_cons
  intro done d rest hd
  have hpoint : Scan.step ⟨done, .between⟩ '.' = some ⟨done, .sign ['.']⟩ := rfl
  have hletter : Scan.step ⟨done, .sign ['.']⟩ c = Scan.step ⟨done ++ [.sign .dot], .between⟩ c :=
    step_sign_letter done rfl hc
  have hword := spells_word h (done ++ [.sign .dot]) d rest hd
  rw [hname, List.cons_append, Scan.run_cons, List.append_assoc] at hword
  rw [hname, List.cons_append, Scan.run_cons, hpoint, Option.bind_some, List.cons_append,
    Scan.run_cons, hletter, hword]
  rfl

theorem run_literal (done : List Token) (text more rest : List Char)
    (hmore : ∀ c ∈ more, c ≠ '"' ∧ c ≠ '\\' ∧ c ≠ '\n' ∧ c ≠ '\r') :
    Scan.run ⟨done, .literal text⟩ (more ++ '"' :: rest) =
      Scan.run ⟨done ++ [.literal (String.ofList (text ++ more))], .between⟩ rest := by
  induction more generalizing text with
  | nil => rw [List.append_nil]; rfl
  | cons c more ih =>
    obtain ⟨hquote, hescape, hline, hreturn⟩ := hmore c List.mem_cons_self
    have htail := ih (text ++ [c]) fun d hd => hmore d (List.mem_cons_of_mem c hd)
    rw [List.cons_append, Scan.run_cons]
    simp only [Scan.step, hquote, hescape, hline, hreturn, if_false, decide_false, Bool.or_self,
      Bool.false_eq_true, Option.bind_some]
    rw [htail, List.append_assoc]
    rfl

/-- A text without quotes, backslashes and line ends is one literal. -/
theorem cuts_literal {text : String} (h : IsPlainText text) :
    Cuts ('"' :: text.toList ++ ['"']) [.literal text] := by
  intro done rest
  have hquote : Scan.step ⟨done, .between⟩ '"' = some ⟨done, .literal []⟩ := rfl
  rw [List.cons_append, List.cons_append, Scan.run_cons, hquote, Option.bind_some,
    List.append_assoc, List.singleton_append, run_literal done [] text.toList rest h,
    List.nil_append, String.ofList_toList]

/-- A comment goes on over a text without stars. -/
theorem run_comment (done : List Token) (text rest : List Char) (h : '*' ∉ text) :
    Scan.run ⟨done, .blockComment⟩ (text ++ rest) = Scan.run ⟨done, .blockComment⟩ rest := by
  induction text with
  | nil => rfl
  | cons c text ih =>
    simp only [List.mem_cons, not_or] at h
    obtain ⟨hc, htext⟩ := h
    have hstep : Scan.step ⟨done, .blockComment⟩ c = some ⟨done, .blockComment⟩ := by
      simp only [Scan.step, Ne.symm hc, if_false]
    rw [List.cons_append, Scan.run_cons, hstep, Option.bind_some, ih htext]

theorem IsIdentifier.notMem {name : String} (h : IsIdentifier name) {c : Char}
    (hc : isPunctuation c = true) : c ∉ name.toList := by
  intro hmem
  have hletter := List.all_eq_true.mp h.1 c hmem
  rw [hc] at hletter
  exact absurd hletter (by decide)

theorem IsIdentifier.plainText {name : String} (h : IsIdentifier name) : IsPlainText name := by
  intro c hc
  refine ⟨?_, ?_, ?_, ?_⟩
  all_goals
    rintro rfl
    exact h.notMem (by decide) hc

end TypeGuards.Script
