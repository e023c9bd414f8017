import TypeGuards.Proofs.Guard.Decision
import TypeGuards.Proofs.Guard.Distinct
import TypeGuards.Proofs.Script.Program
/-!
The text of a module of guards. It is read back as a module of the language with one function for each
interface, in order, which imports the types of these interfaces.
-/
namespace TypeGuards

open Script TypeScript

/-! ### The text is cut into tokens -/

/-- A line break between texts that are cut into tokens adds none. -/
theorem cuts_intercalate {texts : List String} {spelled : List (List Token)}
    (h : List.Forall₂ (fun text ts => Cuts text.toList ts) texts spelled) :
    Cuts (String.intercalate "\n" texts).toList spelled.flatten := by
  have hbreak : Cuts "\n".toList [] := cuts_of_run rfl
  induction h with
  | nil => exact cuts_of_run rfl
  | @cons text ts texts spelled hfirst hrest ih =>
    cases hrest with
    | nil => simpa using hfirst
    | cons hsecond hmore =>
      rw [String.intercalate_cons_cons, String.toList_append, String.toList_append]
      have hall := (hfirst.append hbreak).append ih
      rwa [List.append_nil] at hall

theorem cuts_banner : Cuts (banner ++ "\n").toList [] := cuts_of_run (by decide +kernel)

def nameTokens (name : String) (rest : List String) : List Token :=
  .word name :: rest.flatMap fun other => [.sign .comma, .word other]

theorem spells_names (name : String) (rest : List String) (h : ∀ n ∈ name :: rest, IsIdentifier n) :
    Spells (String.intercalate ", " (name :: rest)).toList (nameTokens name rest) := by
  induction rest generalizing name with
  | nil => simpa [nameTokens] using spells_word (h name List.mem_cons_self)
  | cons next rest ih =>
    have hcomma : Cuts (',' :: [' ']) [.sign .comma] := cuts_of_run rfl
    have hrest := ih next fun n hn => h n (List.mem_cons_of_mem name hn)
    have hword := spells_word (h name List.mem_cons_self)
    have hall := hword.append (by decide) (hcomma.spells_append hrest)
    rw [String.intercalate_cons_cons, String.append_assoc, String.toList_append,
      String.toList_append]
    exact hall

def importTokens (name : String) (rest : List String) (specifier : String) : List Token :=
  [.word "import", .word "type", .sign .openBrace] ++ (nameTokens name rest ++
    [.sign .closeBrace, .word "from", .literal specifier, .sign .semicolon])

theorem toList_importLine (is : List Interface) (specifier : String) :
    (importLine is specifier ++ "\n").toList = "import type \x7b ".toList ++
      ((String.intercalate ", " (is.map (·.name))).toList ++
        (' ' :: "\x7d from ".toList ++ (('"' :: specifier.toList ++ ['"']) ++ [';', '\n']))) := by
  have hline : importLine is specifier = "import type \x7b " ++
      String.intercalate ", " (is.map (·.name)) ++ " \x7d from \"" ++ specifier ++ "\";" := rfl
  have hfrom : " \x7d from \"".toList = ' ' :: "\x7d from ".toList ++ ['"'] := by decide
  have hend : "\";".toList = '"' :: [';'] := by decide
  rw [hline]
  simp only [String.toList_append, hfrom, hend, List.append_assoc, List.cons_append,
    List.nil_append]
  rfl

/-- The import is cut into its tokens, whatever follows it. -/
theorem cuts_importLine (i : Interface) (rest : List Interface) {specifier : String}
    (hnames : ∀ j ∈ i :: rest, IsIdentifier j.name) (hspecifier : IsPlainText specifier) :
    Cuts (importLine (i :: rest) specifier ++ "\n").toList
      (importTokens i.name (rest.map (·.name)) specifier) := by
  have hopen : Cuts "import type \x7b ".toList [.word "import", .word "type", .sign .openBrace] :=
    cuts_of_run rfl
  have hfrom : Cuts (' ' :: "\x7d from ".toList) [.sign .closeBrace, .word "from"] := cuts_of_run rfl
  have hend : Cuts [';', '\n'] [.sign .semicolon] := cuts_of_run rfl
  have hall : ∀ n ∈ i.name :: rest.map (·.name), IsIdentifier n := by
    rw [← List.map_cons, List.forall_mem_map]
    exact hnames
  have hback := hfrom.append ((cuts_literal hspecifier).append hend)
  rw [toList_importLine]
  exact hopen.append ((spells_names i.name _ hall).cuts_append (by decide) hback)

/-- Interfaces whose names, and whose properties' names, are identifiers. -/
def Interface.IsSpelled (i : Interface) : Prop :=
  IsIdentifier i.name ∧ ∀ p ∈ i.properties, IsIdentifier p.name

/-- A guard of identifiers is cut into its tokens, whatever follows it. -/
theorem cuts_guard {i : Interface} {g : Guard} (hguard : i.guard = .ok g) (h : i.IsSpelled) :
    Cuts g.render.toList g.tokens := by
  obtain ⟨name, hname, hidentifier⟩ := guardName_of_isIdentifier h.1
  rw [Interface.guard, hname] at hguard
  obtain rfl := Except.ok.inj hguard
  exact Guard.cuts_render _ hidentifier h.1 (isPlain_checks h.2)

/-! ### The tokens are read as the functions -/

theorem names?_nameTokens (name : String) (rest : List String) (ts : List Token) :
    names? (nameTokens name rest ++ .sign .closeBrace :: ts) = some (name :: rest, ts) := by
  induction rest generalizing name with
  | nil => rfl
  | cons next rest ih =>
    have hrest := ih next
    simp only [nameTokens, List.flatMap_cons, List.cons_append, List.nil_append] at hrest ⊢
    rw [names?, hrest]
    rfl

/-- The import is read back: its names in order, and where they come from. -/
theorem ofTokens_importTokens (name : String) (rest : List String) (specifier : String)
    (ts : List Token) : Import.ofTokens (importTokens name rest specifier ++ ts) =
      some ({ names := name :: rest, origin := specifier }, ts) := by
  have htokens : importTokens name rest specifier ++ ts = .word "import" :: .word "type" ::
      .sign .openBrace :: (nameTokens name rest ++ .sign .closeBrace ::
        ([.word "from", .literal specifier, .sign .semicolon] ++ ts)) := by
    simp [importTokens]
  rw [htokens, Import.ofTokens, names?_nameTokens]
  rfl

/-- The function is done when the tokens of the guard have been read. -/
theorem run_guard (g : Guard) (hbody : ∀ s ∈ g.body, s.IsPlain) (done : List Function)
    (ts : List Token) : Functions.run ⟨done, .outside []⟩ (g.tokens ++ ts) =
      Functions.run ⟨done ++ [g.function], .outside []⟩ ts := by
  let head : Head := { name := g.name, parameter := "value", type := g.interface }
  have hhead : Functions.run ⟨done, .outside []⟩
      [.word "export", .word "function", .word g.name, .sign .openParen, .word "value", .sign .colon,
       .word "unknown", .sign .closeParen, .sign .colon, .word "value", .word "is",
       .word g.interface, .sign .openBrace] = some ⟨done, .inside head ⟨[], [], []⟩⟩ := rfl
  have hstatements : Functions.run ⟨done, .inside head ⟨[], [], []⟩⟩
      (g.body.flatMap Statement.tokens) =
        some ⟨done, .inside head ⟨[], [] ++ g.body.map Statement.script, []⟩⟩ :=
    Functions.run_inside (run_statements g.body hbody [] [])
  rw [Guard.tokens, List.append_assoc, Functions.run_append, hhead, Option.bind_some,
    List.append_assoc, Functions.run_append, hstatements, Option.bind_some, List.singleton_append,
    Functions.run_cons, List.nil_append, Functions.next_end]
  rfl

/-- Guards are read back as the functions they are, one after another. -/
theorem run_guards (gs : List Guard) (h : ∀ g ∈ gs, ∀ s ∈ g.body, s.IsPlain)
    (done : List Function) : Functions.run ⟨done, .outside []⟩ (gs.map Guard.tokens).flatten =
      some ⟨done ++ gs.map Guard.function, .outside []⟩ := by
  induction gs generalizing done with
  | nil => simp [Functions.run]
  | cons g gs ih =>
    have hrest := ih (fun f hf => h f (List.mem_cons_of_mem g hf)) (done ++ [g.function])
    rw [List.map_cons, List.flatten_cons, run_guard g (h g List.mem_cons_self), hrest, List.map_cons,
      List.append_assoc]
    rfl

/-! ### What the text of a module is -/

def moduleText (is : List Interface) (specifier : String) (gs : List Guard) : String :=
  String.intercalate "\n" ((banner ++ "\n") ::
    if is.isEmpty then [] else (importLine is specifier ++ "\n") :: gs.map Guard.render)

def moduleProgram (is : List Interface) (specifier : String) (gs : List Guard) : Program :=
  { imported := if is.isEmpty then none else some { names := is.map (·.name), origin := specifier }
    functions := gs.map Guard.function }

variable {is : List Interface} {gs : List Guard} {specifier text : String} {e : GenerationError}

theorem guard_eq_ok {i : Interface} {g : Guard} (h : i.guard = .ok g) :
    guardName i.name = .ok g.name ∧ g.interface = i.name ∧ g.body = i.checks := by
  rw [Interface.guard] at h
  obtain ⟨name, hname, hg⟩ := bind_eq_ok.mp h
  obtain rfl := Except.ok.inj hg
  exact ⟨hname, rfl, rfl⟩

/-- Distinct interfaces all have guards. -/
theorem exists_guards (h : Distinct is) : ∃ gs, guards is = .ok gs := by
  refine exists_mapM_eq_ok fun i hi => ?_
  obtain ⟨name, hname⟩ := exists_guardName (h.named i hi)
  exact ⟨⟨name, i.name, i.checks⟩, by rw [Interface.guard, hname]; rfl⟩

theorem guardModule_of_guards (h : Distinct is) (hguards : guards is = .ok gs) :
    guardModule is specifier = .ok (moduleText is specifier gs) := by
  unfold guardModule moduleText
  split
  · simp
  · rw [checkGuardNames_eq_ok.mpr h, hguards]
    rfl

/-- Only the check of names makes a module fail. -/
theorem guardModule_eq_error :
    guardModule is specifier = .error e ↔ checkGuardNames [] is = .error e := by
  cases hcheck : checkGuardNames [] is with
  | ok done =>
    have hdistinct := checkGuardNames_eq_ok.mp hcheck
    obtain ⟨gs, hguards⟩ := exists_guards hdistinct
    simp [guardModule_of_guards hdistinct hguards]
  | error cause =>
    have hsome : is.isEmpty = false := by
      cases is with
      | nil => contradiction
      | cons i rest => rfl
    simp only [guardModule, hsome, hcheck, Bool.false_eq_true, if_false, bind, Except.bind,
      Except.error.injEq]

/-- There is no module exactly if the interfaces are not distinct. -/
theorem exists_error_iff : (∃ e, guardModule is specifier = .error e) ↔ ¬Distinct is := by
  simp only [guardModule_eq_error, ← checkGuardNames_eq_ok]
  cases checkGuardNames [] is <;> simp

theorem names_of_guards (h : List.Forall₂ (fun i g => Interface.guard i = .ok g) is gs) :
    (gs.map fun g => (.ok g.name : Except GenerationError String)) =
      is.map fun i => guardName i.name := by
  induction h with
  | nil => rfl
  | cons hfirst _ ih => rw [List.map_cons, List.map_cons, ih, (guard_eq_ok hfirst).1]

/-- Distinct interfaces have distinct names, and so have their guards. -/
theorem nodup_names (hdistinct : Distinct is)
    (h : List.Forall₂ (fun i g => Interface.guard i = .ok g) is gs) :
    (gs.map (·.name)).Nodup ∧ (is.map (·.name)).Nodup := by
  have hnames : (is.map fun i => guardName i.name).Nodup := List.pairwise_map.mpr hdistinct.apart
  rw [← names_of_guards h] at hnames
  constructor
  · refine List.pairwise_map.mpr ((List.pairwise_map.mp hnames).imp fun hne heq => hne ?_)
    exact congrArg Except.ok heq
  · exact List.pairwise_map.mpr (hdistinct.apart.imp fun hne heq => hne (congrArg guardName heq))

theorem cuts_guards (hspelled : ∀ i ∈ is, i.IsSpelled) (h : guards is = .ok gs) :
    List.Forall₂ (fun text ts => Cuts text.toList ts) (gs.map Guard.render)
      (gs.map Guard.tokens) := by
  rw [List.forall₂_map_left_iff, List.forall₂_map_right_iff, List.forall₂_same]
  intro g hg
  obtain ⟨i, hi, hguard⟩ := exists_mem_of_mapM_eq_ok h hg
  exact cuts_guard hguard (hspelled i hi)

theorem isPlain_guards (hspelled : ∀ i ∈ is, i.IsSpelled) (h : guards is = .ok gs) :
    ∀ g ∈ gs, ∀ s ∈ g.body, s.IsPlain := by
  intro g hg
  obtain ⟨i, hi, hguard⟩ := exists_mem_of_mapM_eq_ok h hg
  rw [(guard_eq_ok hguard).2.2]
  exact isPlain_checks (hspelled i hi).2

theorem functions_ofTokens (hspelled : ∀ i ∈ is, i.IsSpelled) (h : guards is = .ok gs) :
    Functions.ofTokens (gs.map Guard.tokens).flatten = some (gs.map Guard.function) := by
  rw [Functions.ofTokens, run_guards gs (isPlain_guards hspelled h)]
  rfl

def moduleTokens (is : List Interface) (specifier : String) (gs : List Guard) : List Token :=
  (match is with
    | [] => []
    | i :: rest => importTokens i.name (rest.map (·.name)) specifier) ++
  (gs.map Guard.tokens).flatten

/-- The text is cut into the tokens of its parts. -/
theorem tokens_moduleText (hspelled : ∀ i ∈ is, i.IsSpelled) (hspecifier : IsPlainText specifier)
    (h : guards is = .ok gs) :
    Script.tokens (moduleText is specifier gs) = some (moduleTokens is specifier gs) := by
  have hguards := cuts_guards hspelled h
  cases is with
  | nil =>
    obtain rfl := Except.ok.inj h
    have hbanner := tokens_of_cuts (cuts_intercalate (.cons cuts_banner .nil))
    simp only [moduleText, List.isEmpty_nil, if_true, hbanner]
    rfl
  | cons i rest =>
    have hnames : ∀ j ∈ i :: rest, IsIdentifier j.name := fun j hj => (hspelled j hj).1
    have himport := cuts_importLine i rest hnames hspecifier
    exact tokens_of_cuts (cuts_intercalate (.cons cuts_banner (.cons himport hguards)))

/-- The text of a module is read back as the module. -/
theorem ofText_moduleText (hspelled : ∀ i ∈ is, i.IsSpelled) (hspecifier : IsPlainText specifier)
    (h : guards is = .ok gs) :
    Program.ofText (moduleText is specifier gs) = some (moduleProgram is specifier gs) := by
  have hfunctions := functions_ofTokens hspelled h
  rw [Program.ofText, tokens_moduleText hspelled hspecifier h, Option.bind_some]
  cases is with
  | nil =>
    obtain rfl := Except.ok.inj h
    rfl
  | cons i rest =>
    simp only [moduleTokens, Program.ofTokens, ofTokens_importTokens, hfunctions]
    rfl

/-- A text that holds one guard for each interface, in order, and imports each interface once. -/
structure Guards (is : List Interface) (specifier text : String) (gs : List Guard) : Prop where
  each : List.Forall₂ (fun i g => Interface.guard i = .ok g) is gs
  apart : (gs.map (·.name)).Nodup
  once : (is.map (·.name)).Nodup
  written : text = moduleText is specifier gs
  read : (∀ i ∈ is, i.IsSpelled) → IsPlainText specifier →
    Program.ofText text = some (moduleProgram is specifier gs)

/-- A module that is returned holds the guards of its interfaces. -/
theorem guards_of_guardModule (h : guardModule is specifier = .ok text) :
    ∃ gs, Guards is specifier text gs := by
  have hdistinct : Distinct is := by
    by_contra hnot
    obtain ⟨e, he⟩ := exists_error_iff.mpr hnot
    exact nomatch he.symm.trans h
  obtain ⟨gs, hguards⟩ := exists_guards hdistinct
  obtain rfl : moduleText is specifier gs = text :=
    Except.ok.inj ((guardModule_of_guards hdistinct hguards).symm.trans h)
  have heach := mapM_eq_ok.mp hguards
  obtain ⟨hapart, honce⟩ := nodup_names hdistinct heach
  exact ⟨gs, heach, hapart, honce, rfl, fun hspelled hspecifier =>
    ofText_moduleText hspelled hspecifier hguards⟩

/-- A module is refused for an interface without a name and for guards that would have one name, at
the first interface with which it happens; interfaces that were extracted are refused only if two
different names lead to one guard. Otherwise each interface gets its guard and is imported once. -/
theorem guardModule_distinct (is : List Interface) (specifier : String) :
    ((∃ e, guardModule is specifier = .error e) ↔ (∃ i ∈ is, i.name = "") ∨
      ∃ i j, List.Sublist [i, j] is ∧ guardName i.name = guardName j.name) ∧
    (∀ e, guardModule is specifier = .error e → ∃ before i after, is = before ++ i :: after ∧
      Distinct before ∧ Misnamed before i e) ∧
    (∀ r items, Extraction.all r items = .ok is →
      ((∃ e, guardModule is specifier = .error e) ↔
        ∃ i ∈ is, ∃ j ∈ is, i.name ≠ j.name ∧ guardName i.name = guardName j.name)) ∧
    ∀ text, guardModule is specifier = .ok text → ∃ gs, Guards is specifier text gs := by
  refine ⟨?_, fun e he => ?_, fun r items hall => ?_, fun text => guards_of_guardModule⟩
  · rw [exists_error_iff, distinct_iff, not_not]
  · obtain ⟨before, i, after, his, hbefore, hmisnamed⟩ :=
      misnamed_of_check records_nil distinct_nil (guardModule_eq_error.mp he)
    exact ⟨before, i, after, his, hbefore, hmisnamed⟩
  · rw [exists_error_iff, Extraction.distinct_iff_of_all hall, not_not]

def sharp : Interface := { name := "ßa" }

def capital : Interface := { name := "SSa" }

/-- The first letter of one name is in upper case what two letters of the other are. -/
theorem guardModule_distinct_sharp :
    (∃ before i after, [sharp, account, capital] = before ++ i :: after ∧
      Distinct before ∧ Misnamed before i (.collision "ßa" "SSa" "isSSa")) ∧
    ∃ text program, guardModule [sharp, account] "./names.ts" = .ok text ∧
      Program.ofText text = some program ∧
      program.imported = some { names := ["ßa", "Account"], origin := "./names.ts" } ∧
      program.functions.map (·.name) = ["isSSa", "isAccount"] := by
  obtain ⟨-, hfirst, -, -⟩ := guardModule_distinct [sharp, account, capital] "./names.ts"
  obtain ⟨-, -, -, hwritten⟩ := guardModule_distinct [sharp, account] "./names.ts"
  have hdistinct : Distinct [sharp, account] := checkGuardNames_eq_ok.mp (by decide +kernel)
  have hguards : guards [sharp, account] =
      .ok [⟨"isSSa", "ßa", sharp.checks⟩, ⟨"isAccount", "Account", account.checks⟩] := by
    decide +kernel
  have hspelled : ∀ i ∈ [sharp, account], i.IsSpelled := by
    unfold Interface.IsSpelled
    decide
  refine ⟨hfirst _ (by decide +kernel), ?_⟩
  have hmodule : guardModule [sharp, account] "./names.ts" = .ok _ :=
    guardModule_of_guards hdistinct hguards
  obtain ⟨gs, hgs⟩ := hwritten _ hmodule
  obtain rfl := Except.ok.inj (hguards.symm.trans (mapM_eq_ok.mpr hgs.each))
  exact ⟨_, _, hmodule, hgs.read hspelled (by decide), rfl, rfl⟩

end TypeGuards
