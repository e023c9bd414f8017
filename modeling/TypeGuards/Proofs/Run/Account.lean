import TypeGuards.Proofs.Run.Reading
/-!
What becomes of a source, told by the source alone. A run that returns has read every source before
it treats the first, and what it returns, prints and stores for each is told by the account of that
source.
-/
namespace TypeGuards

open TypeScript (Parser Extracted)

/-- What becomes of a source. -/
structure Account where
  outcome : Outcome
  printed : String := ""
  stored : Option (Path × String) := none

namespace Account

/-- The files after what is stored has been stored. -/
def Stores [Platform] (a : Account) (dir : Path) (encoding : String) (fs fs' : Files) : Prop :=
  match a.stored with
  | none => fs' = fs
  | some (p, text) => ∃ scheme bytes, Encoding.lookUpText encoding = .ok scheme ∧
      scheme.encode text.toList = .ok bytes ∧ fs.Stores dir p bytes fs'

end Account

/-- The module with the guards of a source. -/
def guardTextAt [Platform] (parser : Parser) (c : Config) (dir : Path) (fs : Files) (source : Path) :
    Option String := do
  let text ← (Source.textOf fs dir c.encoding source).toOption
  let found ← (TypeScript.extract (Run.dialectOf c source) .keywordsOnly text parser).toOption
  (guardModule found.interfaces (specifier dir source (Target.of c source))).toOption

namespace Run

def shown (c : Config) (source : Path) (module : Module) : String :=
  if c.showsOutline then s!"{source}\n" ++ (module.outline.render ++ "\n") else ""

/-- The account of a source by the interfaces found in it. -/
def accountOf (c : Config) (dir : Path) (source : Source) (found : Extracted) :
    Except Abort Account := do
  let target := Target.of c source.path
  let specifier ← (specifierFor dir source.path target).mapError .access
  let printed := shown c source.path found.module
  match guardModule found.interfaces specifier with
  | .error e => return { outcome := { source := source.path, error := some e.failure }, printed }
  | .ok text =>
      let interfaces := found.interfaces.map (·.name)
      match target with
      | none => return { outcome := { source := source.path, interfaces }, printed := printed ++ text }
      | some t => return { outcome := { source := source.path, interfaces, output := some t }
                           printed, stored := some (t, text) }

def account (parser : Parser) (c : Config) (dir : Path) (source : Source) : Except Abort Account :=
  match TypeScript.extract (dialectOf c source.path) .keywordsOnly source.text parser with
  | .error e =>
      match failureOf? e with
      | some f => .ok { outcome := { source := source.path, error := some f } }
      | none => .error (.source e)
  | .ok found => accountOf c dir source found

/-- The account of a path, which is read from the files there are. -/
def accountAt [Platform] (parser : Parser) (c : Config) (dir : Path) (fs : Files) (p : Path) :
    Except Abort Account := do
  account parser c dir { path := p, text := ← Source.textOf fs dir c.encoding p }

variable {platform : Platform} {parser : Parser} {c : Config} {dir : Path} {source : Source}
  {paths : List Path} {s t : Progress}

/-! ### The account of a path -/

def extractedAt [Platform] (parser : Parser) (c : Config) (dir : Path) (fs : Files) (p : Path) :
    Option Extracted := do
  let text ← (Source.textOf fs dir c.encoding p).toOption
  (TypeScript.extract (dialectOf c p) .keywordsOnly text parser).toOption

/-- What is wrong with a path: why its interfaces cannot be extracted, or their guards generated. -/
def failureAt [Platform] (parser : Parser) (c : Config) (dir : Path) (fs : Files) (p : Path) :
    Option Failure := do
  let text ← (Source.textOf fs dir c.encoding p).toOption
  match TypeScript.extract (dialectOf c p) .keywordsOnly text parser with
  | .error e => failureOf? e
  | .ok found =>
      match guardModule found.interfaces (specifier dir p (Target.of c p)) with
      | .error e => some e.failure
      | .ok _ => none

section

variable {p : Path} {fs : Files} {a : Account}

theorem specifierFor_eq_ok {target : Option Path} {text : String} :
    specifierFor dir p target = .ok text ↔
      (∀ t, target = some t → Char.ofNat 0 ∉ t.toString.toList) ∧ text = specifier dir p target := by
  unfold specifierFor
  cases target with
  | none => simp [eq_comm]
  | some t =>
    by_cases hnull : Char.ofNat 0 ∈ t.toString.toList <;> simp [Option.filter, hnull, eq_comm]

theorem extractedAt_eq {text : String} (h : Source.textOf fs dir c.encoding p = .ok text) :
    extractedAt parser c dir fs p =
      (TypeScript.extract (dialectOf c p) .keywordsOnly text parser).toOption := by
  unfold extractedAt
  rw [h]
  rfl

theorem guardTextAt_eq : guardTextAt parser c dir fs p = (extractedAt parser c dir fs p).bind
    fun found => (guardModule found.interfaces (specifier dir p (Target.of c p))).toOption := by
  unfold guardTextAt extractedAt
  simp only [Option.bind_eq_bind, Option.bind_assoc]

theorem target_eq_none : Target.of c p = none ↔ c.writesToStream := by
  unfold Target.of
  split_ifs with h <;> simp [h]

/-- The account of a path, by what is extracted from it and whether it has guards. -/
inductive AccountedAs [Platform] (parser : Parser) (c : Config) (dir : Path) (fs : Files) (p : Path) :
    Account → Prop
  | unextracted {f : Failure} : extractedAt parser c dir fs p = none →
      failureAt parser c dir fs p = some f →
      AccountedAs parser c dir fs p { outcome := { source := p, error := some f } }
  | unguarded {found : Extracted} {f : Failure} : extractedAt parser c dir fs p = some found →
      guardTextAt parser c dir fs p = none → failureAt parser c dir fs p = some f →
      AccountedAs parser c dir fs p
        { outcome := { source := p, error := some f }, printed := shown c p found.module }
  | guarded {found : Extracted} {guards : String} : extractedAt parser c dir fs p = some found →
      guardTextAt parser c dir fs p = some guards → failureAt parser c dir fs p = none →
      AccountedAs parser c dir fs p
        { outcome := { source := p, interfaces := found.interfaces.map (·.name)
                       output := Target.of c p }
          printed := shown c p found.module ++ if c.writesToStream then guards else ""
          stored := (Target.of c p).map (·, guards) }

/-- The account of a path, whichever of its kinds it is of. -/
theorem accounted (h : accountAt parser c dir fs p = .ok a) : AccountedAs parser c dir fs p a := by
  obtain ⟨text, htext, h⟩ := bind_eq_ok.mp h
  have hextracted := @extractedAt_eq platform parser c dir p fs text htext
  have hfailure : failureAt parser c dir fs p =
      match TypeScript.extract (dialectOf c p) .keywordsOnly text parser with
      | .error e => failureOf? e
      | .ok found =>
          match guardModule found.interfaces (specifier dir p (Target.of c p)) with
          | .error e => some e.failure
          | .ok _ => none := by
    unfold failureAt
    rw [htext]
    rfl
  have hguards := @guardTextAt_eq platform parser c dir p fs
  unfold account at h
  cases hfound : TypeScript.extract (dialectOf c p) .keywordsOnly text parser with
  | error e =>
    simp only [hfound, Except.toOption] at h hextracted hfailure
    split at h
    · rename_i f hf
      rw [← Except.ok.inj h]
      exact .unextracted hextracted (hfailure.trans hf)
    · contradiction
  | ok found =>
    simp only [hfound, Except.toOption] at h hextracted hfailure
    rw [hextracted, Option.bind_some] at hguards
    obtain ⟨imported, himported, h⟩ := bind_eq_ok.mp h
    obtain ⟨-, rfl⟩ := specifierFor_eq_ok.mp (mapError_eq_ok.mp himported)
    cases hmodule : guardModule found.interfaces (specifier dir p (Target.of c p)) with
    | error e =>
      simp only [hmodule, Except.toOption] at h hguards hfailure
      rw [← Except.ok.inj h]
      exact .unguarded hextracted hguards hfailure
    | ok guards =>
      simp only [hmodule, Except.toOption] at h hguards hfailure
      have hguarded := AccountedAs.guarded hextracted hguards hfailure
      cases htarget : Target.of c p with
      | none =>
        rw [htarget] at h hguarded
        rw [if_pos (target_eq_none.mp htarget)] at hguarded
        rwa [← Except.ok.inj h]
      | some target =>
        have hfile : ¬c.writesToStream := fun hstream => by
          rw [target_eq_none.mpr hstream] at htarget
          contradiction
        rw [htarget] at h hguarded
        rw [if_neg hfile, String.append_empty] at hguarded
        rwa [← Except.ok.inj h]

theorem source_of_accountAt (h : accountAt parser c dir fs p = .ok a) : a.outcome.source = p := by
  cases accounted h <;> rfl

end

/-! ### Extracting -/

theorem mem_of_find? {known : Extractors} {d : TypeScript.Dialect} {x : Extractor}
    (h : known.find? d = some x) : (d, x) ∈ known.entries := by
  obtain ⟨before, after, heq, -⟩ := List.lookup_eq_some_iff.mp h
  rw [heq]
  exact List.mem_append_right before List.mem_cons_self

/-- Whatever extractors there are, the one that is used is of the dialect asked for. -/
theorem dialect_of_extractorFor {d : TypeScript.Dialect} {x : Extractor}
    (h : (extractorFor d).Returns s x t) : x.dialect = d := by
  unfold extractorFor at h
  obtain ⟨u, v, hget, h⟩ := Action.returns_bind.mp h
  obtain ⟨rfl, rfl⟩ := Action.returns_get.mp hget
  split at h
  · rename_i y hfind
    obtain ⟨rfl, -⟩ := Action.returns_pure.mp h
    exact s.extractors.keyed _ (mem_of_find? hfind)
  · obtain ⟨i, v, -, h⟩ := Action.returns_bind.mp h
    obtain ⟨rfl, -⟩ := Action.returns_pure.mp h
    rfl

theorem silent_extractorFor (d : TypeScript.Dialect) : (extractorFor d).Silent := by
  refine Action.silent_get.bind fun s => ?_
  split
  · exact Action.silent_pure
  · refine Action.Silent.bind ?_ fun _ => Action.silent_pure
    exact Action.silent_modify fun _ => ⟨rfl, rfl⟩

theorem silent_tellParsed (parsed : Except TypeScript.SourceError Module) :
    (tellParsed parsed).Silent := by
  unfold tellParsed
  split
  · exact Action.silent_tell
  · exact Action.silent_tell
  · exact Action.silent_pure

theorem silent_tellMerged (merged : List (String × Option Int)) : (tellMerged merged).Silent := by
  induction merged with
  | nil => exact Action.silent_pure
  | cons first rest ih => exact Action.silent_tell.bind fun _ => ih

theorem silent_tellGenerated (interfaces : List Interface) : (tellGenerated interfaces).Silent := by
  induction interfaces with
  | nil => exact Action.silent_pure
  | cons i rest ih =>
    refine Action.Silent.bind ?_ fun _ => ih
    cases hname : guardName i.name with
    | ok name => simpa only [hname] using Action.silent_tell
    | error e => simpa only [hname] using Action.silent_pure

/-- Extraction touches neither files nor standard output. -/
theorem silent_extract (c : Config) (source : Source) (parser : Parser) :
    (extract c source parser).Silent := by
  refine (silent_extractorFor _).bind fun x => (silent_tellParsed _).bind fun _ => ?_
  split
  · exact Action.silent_pure
  · refine (silent_tellMerged _).bind fun _ => ?_
    split
    · exact Action.silent_pure
    · exact Action.silent_tell.bind fun _ => Action.silent_pure

/-- Extraction returns what its source and dialect determine. -/
theorem extract_returns {found : Except TypeScript.SourceError Extracted}
    (h : (extract c source parser).Returns s found t) :
    found = TypeScript.extract (dialectOf c source.path) .keywordsOnly source.text parser := by
  unfold extract at h
  obtain ⟨x, u, hx, h⟩ := Action.returns_bind.mp h
  rw [dialect_of_extractorFor hx] at h
  obtain ⟨i, v, -, h⟩ := Action.returns_bind.mp h
  unfold TypeScript.extract
  split at h
  · rename_i e he
    obtain ⟨rfl, -⟩ := Action.returns_pure.mp h
    rw [he]
    rfl
  · rename_i module hmodule
    rw [hmodule]
    obtain ⟨i, w, -, h⟩ := Action.returns_bind.mp h
    split at h
    · rename_i e he
      obtain ⟨rfl, -⟩ := Action.returns_pure.mp h
      simp only [bind, Except.bind, he]
    · rename_i interfaces hinterfaces
      obtain ⟨i, w', -, h⟩ := Action.returns_bind.mp h
      obtain ⟨rfl, -⟩ := Action.returns_pure.mp h
      simp only [bind, Except.bind, hinterfaces]
      rfl

/-! ### Generating -/

theorem silent_fail (p : Path) (task : String) (f : Failure) : (fail p task f).Silent :=
  Action.silent_tell.bind fun _ => Action.silent_pure

theorem fail_returns {p : Path} {task : String} {f : Failure} {o : Outcome}
    (h : (fail p task f).Returns s o t) : { source := p, error := some f } = o := by
  obtain ⟨i, u, -, h⟩ := Action.returns_bind.mp h
  exact (Action.returns_pure.mp h).1

/-- A file that is written has been encoded and stored, and nothing was printed. -/
theorem writeFile_returns {p : Path} {encoding text : String} {i : Unit}
    (h : (Target.writeFile dir encoding p text).Returns s i t) : t.output = s.output ∧
      ∃ scheme bytes, Encoding.lookUpText encoding = .ok scheme ∧
        scheme.encode text.toList = .ok bytes ∧ s.files.Stores dir p bytes t.files := by
  unfold Target.writeFile at h
  simp only [Action.returns_bind, Action.returns_get, Action.returns_modify,
    Action.returns_orAbort, and_assoc, exists_and_left, exists_eq_left'] at h
  obtain ⟨_, _, hmade, _, _, ⟨emptied, hemptied, rfl⟩, scheme, hscheme, bytes, hbytes, written,
    hwritten, rfl⟩ := h
  exact ⟨rfl, scheme, bytes, hscheme, hbytes, _, emptied, Prod.ext hmade rfl, hemptied, hwritten⟩

/-- What an action returns and does is as in an account. -/
def Follows [Platform] (a : Account) (dir : Path) (encoding : String) (s : Progress) (o : Outcome)
    (t : Progress) : Prop :=
  a.outcome = o ∧ t.output = s.output ++ a.printed ∧ a.Stores dir encoding s.files t.files

/-- Generating follows the account of its source. -/
theorem generate_returns {found : Extracted} {o : Outcome} {u : Progress}
    (hfiles : t.files = s.files)
    (houtput : t.output = s.output ++ shown c source.path found.module)
    (h : (generate c dir source found.interfaces).Returns t o u) :
    ∃ a, accountOf c dir source found = .ok a ∧ Follows a dir c.encoding s o u := by
  unfold generate at h
  unfold accountOf
  obtain ⟨specifier, v, hpassed, h⟩ := Action.returns_bind.mp h
  obtain ⟨hspecifier, rfl⟩ := Action.returns_orAbort.mp hpassed
  simp only [hspecifier, Except.mapError, bind, Except.bind]
  cases hguards : guardModule found.interfaces specifier with
  | error e =>
    rw [hguards] at h
    obtain ⟨hquiet, hquiet'⟩ := (silent_fail _ _ _).returns h
    exact ⟨_, rfl, fail_returns h, by rw [hquiet', houtput], hquiet.trans hfiles⟩
  | ok text =>
    rw [hguards] at h
    obtain ⟨i, v, htell, h⟩ := Action.returns_bind.mp h
    obtain ⟨hquiet, hquiet'⟩ := (silent_tellGenerated _).returns htell
    obtain ⟨output, w, hwrite, h⟩ := Action.returns_bind.mp h
    obtain ⟨rfl, rfl⟩ := Action.returns_pure.mp h
    unfold Target.write at hwrite
    cases htarget : Target.of c source.path with
    | none =>
      rw [htarget] at hwrite
      obtain ⟨i, w, hprint, h⟩ := Action.returns_bind.mp hwrite
      obtain rfl := Action.returns_print.mp hprint
      obtain ⟨rfl, rfl⟩ := Action.returns_pure.mp h
      refine ⟨_, rfl, rfl, ?_, hquiet.trans hfiles⟩
      simp only [hquiet', houtput, String.append_assoc]
    | some target =>
      rw [htarget] at hwrite
      obtain ⟨i, w, hstore, h⟩ := Action.returns_bind.mp hwrite
      obtain ⟨i, w', htell, h⟩ := Action.returns_bind.mp h
      obtain ⟨rfl, rfl⟩ := Action.returns_pure.mp h
      obtain ⟨hsame, hsame'⟩ := Action.silent_tell.returns htell
      obtain ⟨hstill, scheme, bytes, hscheme, hbytes, hstores⟩ := writeFile_returns hstore
      rw [hquiet, hfiles, ← hsame] at hstores
      refine ⟨_, rfl, rfl, ?_, scheme, bytes, hscheme, hbytes, hstores⟩
      rw [hsame', hstill, hquiet', houtput]

/-- Processing a source follows its account. -/
theorem process_returns {o : Outcome} (h : (process c dir source parser).Returns s o t) :
    ∃ a, account parser c dir source = .ok a ∧ Follows a dir c.encoding s o t := by
  unfold process at h
  unfold account
  obtain ⟨found, u, hfound, h⟩ := Action.returns_bind.mp h
  obtain ⟨hfiles, houtput⟩ := (silent_extract c source parser).returns hfound
  rw [← extract_returns hfound]
  split at h
  · rename_i e
    split at h
    · rename_i f hf
      obtain ⟨hquiet, hquiet'⟩ := (silent_fail _ _ _).returns h
      simp only [hf]
      refine ⟨_, rfl, fail_returns h, ?_, hquiet.trans hfiles⟩
      rw [hquiet', houtput]
      exact (String.append_empty).symm
    · exact absurd h Action.not_returns_throw
  · rename_i module interfaces
    have hprint : ∃ v, v.files = u.files ∧ v.output = u.output ++ shown c source.path module ∧
        (generate c dir source interfaces).Returns v o t := by
      unfold shown
      split_ifs at h ⊢ with hshows
      · simp only [Action.returns_bind, Action.returns_print] at h
        obtain ⟨_, _, rfl, _, _, rfl, h⟩ := h
        refine ⟨_, ?_, ?_, h⟩
        · rfl
        · simp only [String.append_assoc]
      · exact ⟨u, rfl, String.append_empty.symm, h⟩
    obtain ⟨v, hquiet, hquiet', hgenerate⟩ := hprint
    exact generate_returns (hquiet.trans hfiles) (by rw [hquiet', houtput]) hgenerate

/-! ### All sources -/

/-- The files after what each account stores has been stored, one after another. -/
inductive StoreAll [Platform] (dir : Path) (encoding : String) : List Account → Files → Files → Prop
  | nil {fs : Files} : StoreAll dir encoding [] fs fs
  | cons {a : Account} {rest : List Account} {fs fs' fs'' : Files} :
      a.Stores dir encoding fs fs' → StoreAll dir encoding rest fs' fs'' →
      StoreAll dir encoding (a :: rest) fs fs''

/-- Processing sources follows their accounts one after another. -/
theorem processAll_returns {sources : List Source} {outcomes : List Outcome}
    (h : (sources.mapM fun source => process c dir source parser).Returns s outcomes t) :
    ∃ accounts, sources.mapM (account parser c dir) = .ok accounts ∧
      accounts.map (·.outcome) = outcomes ∧
      t.output = s.output ++ String.join (accounts.map (·.printed)) ∧
      StoreAll dir c.encoding accounts s.files t.files := by
  induction sources generalizing s outcomes with
  | nil =>
    obtain ⟨rfl, rfl⟩ := Action.returns_mapM_nil.mp h
    exact ⟨[], rfl, rfl, by simp, .nil⟩
  | cons source sources ih =>
    obtain ⟨o, u, rest, hfirst, hrest, rfl⟩ := Action.returns_mapM_cons.mp h
    obtain ⟨a, ha, rfl, houtput, hstores⟩ := process_returns hfirst
    obtain ⟨accounts, haccounts, rfl, houtputs, hall⟩ := ih hrest
    refine ⟨a :: accounts, ?_, rfl, ?_, .cons hstores hall⟩
    · exact mapM_eq_ok.mpr (List.Forall₂.cons ha (mapM_eq_ok.mp haccounts))
    · rw [houtputs, houtput]
      simp [String.join_cons, String.append_assoc]

theorem read_returns {p : Path} (h : (Source.read dir c.encoding p).Returns s source t) :
    Source.textOf s.files dir c.encoding p = .ok source.text ∧ source.path = p := by
  unfold Source.read at h
  obtain ⟨u, v, hget, h⟩ := Action.returns_bind.mp h
  obtain ⟨rfl, rfl⟩ := Action.returns_get.mp hget
  split at h
  · rename_i text htext
    obtain ⟨i, v, -, h⟩ := Action.returns_bind.mp h
    obtain ⟨rfl, -⟩ := Action.returns_pure.mp h
    exact ⟨htext, rfl⟩
  · obtain ⟨i, v, -, h⟩ := Action.returns_bind.mp h
    exact absurd h Action.not_returns_throw
  · exact absurd h Action.not_returns_throw

/-- Reading goes before all writing, so every source has its text from the first files. -/
theorem readAll_returns {sources : List Source}
    (h : (paths.mapM (Source.read dir c.encoding)).Returns s sources t) :
    List.Forall₂ (fun p source => Source.textOf s.files dir c.encoding p = .ok source.text ∧
      source.path = p) paths sources := by
  induction paths generalizing s sources with
  | nil =>
    obtain ⟨rfl, -⟩ := Action.returns_mapM_nil.mp h
    exact .nil
  | cons p paths ih =>
    obtain ⟨source, u, rest, hfirst, hrest, rfl⟩ := Action.returns_mapM_cons.mp h
    have hfiles := ((Source.quiet_read dir c.encoding p).returns hfirst).1
    have htexts := ih hrest
    rw [hfiles] at htexts
    exact .cons (read_returns hfirst) htexts

theorem accounts_of_readAll {sources : List Source} {accounts : List Account} {fs : Files}
    (hread : List.Forall₂ (fun p source => Source.textOf fs dir c.encoding p = .ok source.text ∧
      source.path = p) paths sources)
    (haccounts : sources.mapM (account parser c dir) = .ok accounts) :
    paths.mapM (accountAt parser c dir fs) = .ok accounts := by
  rw [mapM_eq_ok] at haccounts ⊢
  induction hread generalizing accounts with
  | nil => rwa [List.forall₂_nil_left_iff] at haccounts ⊢
  | @cons p source paths sources hfirst _ ih =>
    obtain ⟨a, rest, ha, hrest, rfl⟩ := List.forall₂_cons_left_iff.mp haccounts
    obtain ⟨htext, rfl⟩ := hfirst
    refine .cons ?_ (ih hrest)
    rw [accountAt, htext]
    exact ha

end Run

open Run

/-- A run that returns returns, prints and stores what the accounts of its paths say, each told by
the files before the run. -/
theorem run_returns [Platform] {parser : Parser} {c : Config} {dir : Path} {paths : List Path}
    {s t : Progress} {outcomes : List Outcome} (h : (run c dir paths parser).Returns s outcomes t) :
    ∃ accounts, paths.mapM (accountAt parser c dir s.files) = .ok accounts ∧
      accounts.map (·.outcome) = outcomes ∧
      t.output = s.output ++ String.join (accounts.map (·.printed)) ∧
      StoreAll dir c.encoding accounts s.files t.files := by
  unfold run at h
  obtain ⟨u, v, hget, h⟩ := Action.returns_bind.mp h
  obtain ⟨rfl, rfl⟩ := Action.returns_get.mp hget
  obtain ⟨i, v, hrequire, h⟩ := Action.returns_bind.mp h
  obtain ⟨-, rfl⟩ := Action.returns_orAbort.mp hrequire
  obtain ⟨sources, v, hread, h⟩ := Action.returns_bind.mp h
  obtain ⟨hfiles, houtput⟩ :=
    (Action.Quiet.mapM (Source.quiet_read dir c.encoding) paths).returns hread
  obtain ⟨found, w, hprocess, h⟩ := Action.returns_bind.mp h
  obtain ⟨i, w', htell, h⟩ := Action.returns_bind.mp h
  obtain ⟨rfl, rfl⟩ := Action.returns_pure.mp h
  obtain ⟨hfiles', houtput'⟩ := Action.silent_tell.returns htell
  obtain ⟨accounts, haccounts, houtcomes, houtputs, hstores⟩ := processAll_returns hprocess
  refine ⟨accounts, accounts_of_readAll (readAll_returns hread) haccounts, houtcomes, ?_, ?_⟩
  · rw [houtput', houtputs, houtput]
  · rwa [hfiles', ← hfiles]

/-- Each outcome of a run is that of an account of its path. -/
theorem exists_account_of_outcome [Platform] {parser : Parser} {c : Config} {dir : Path}
    {paths : List Path} {s t : Progress} {outcomes : List Outcome}
    (h : (run c dir paths parser).Returns s outcomes t) {o : Outcome} (ho : o ∈ outcomes) :
    ∃ p a, accountAt parser c dir s.files p = .ok a ∧ a.outcome = o := by
  obtain ⟨accounts, haccounts, rfl, -, -⟩ := run_returns h
  obtain ⟨a, ha, rfl⟩ := List.mem_map.mp ho
  obtain ⟨p, -, haccount⟩ := exists_mem_of_mapM_eq_ok haccounts ha
  exact ⟨p, a, haccount, rfl⟩

end TypeGuards
