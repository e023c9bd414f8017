import TypeGuards.Proofs.Reportable
import TypeGuards.Proofs.Storing
import TypeGuards.Proofs.Run.Frame
/-!
When a run returns. A source that cannot be extracted, or has no guards, has a failure for its outcome;
but a source whose guards cannot be written ends the run. So a run whose sources can all be read
returns if and only if, in turn, each target accepts its guards, and otherwise what stands before that
source is written and what stands after it is not.
-/
namespace TypeGuards

open TypeScript (Parser Extracted)

namespace Target

variable {platform : Platform} {dir p : Path} {fs fs' : Files} {encoding text : String}
  {s t : Progress} {e : Abort}

/-- Why a text is not written to a file, and the files that are left. -/
inductive Refused [Platform] (fs : Files) (dir : Path) (encoding : String) (p : Path) (text : String) :
    Abort → Files → Prop
  | directory {made : Files} {cause : AccessError} :
      fs.makeDirectories dir p.parent = (.error cause, made) →
      Refused fs dir encoding p text (.access cause) made
  | file {made : Files} {cause : AccessError} :
      fs.makeDirectories dir p.parent = (.ok (), made) → made.write dir p [] = .error cause →
      Refused fs dir encoding p text (.access cause) made
  | encoding {made emptied : Files} {cause : Encoding.CodecError} :
      fs.makeDirectories dir p.parent = (.ok (), made) → made.write dir p [] = .ok emptied →
      Encoding.lookUpText encoding = .error cause →
      Refused fs dir encoding p text (.codec cause) emptied
  | text {made emptied : Files} {scheme : Encoding.Scheme} {cause : Encoding.CodecError} :
      fs.makeDirectories dir p.parent = (.ok (), made) → made.write dir p [] = .ok emptied →
      Encoding.lookUpText encoding = .ok scheme → scheme.encode text.toList = .error cause →
      Refused fs dir encoding p text (.codec cause) emptied

/-- A write that aborts has been refused, for one of the listed reasons. -/
theorem writeFile_aborts (h : (writeFile dir encoding p text).Aborts s e t) :
    Refused s.files dir encoding p text e t.files := by
  unfold writeFile at h
  simp only [Action.aborts_bind, Action.returns_bind, Action.returns_get, Action.returns_modify,
    Action.returns_orAbort, Action.aborts_orAbort, Action.not_aborts_get, Action.not_aborts_modify,
    false_or, and_false, exists_false, or_false, and_assoc, exists_and_left, exists_eq_left',
    exists_const] at h
  rcases h with ⟨⟨cause, hmade, rfl⟩, rfl⟩ | ⟨_, hmade, ⟨⟨cause, hwrite, rfl⟩, rfl⟩ |
    ⟨u, ⟨emptied, hemptied, rfl⟩, ⟨⟨cause, hscheme, rfl⟩, rfl⟩ | ⟨scheme, hscheme,
      ⟨⟨cause, hbytes, rfl⟩, rfl⟩ | ⟨bytes, -, ⟨cause, hwrite, -⟩, -⟩⟩⟩⟩
  · exact .directory (Prod.ext hmade rfl)
  · exact .file (Prod.ext hmade rfl) hwrite
  · exact .encoding (Prod.ext hmade rfl) hemptied hscheme
  · exact .text (Prod.ext hmade rfl) hemptied hscheme hbytes
  · -- What has been emptied can be written.
    obtain ⟨goal, hgoal, hgrows, hfile, -⟩ := Files.write_spec hemptied
    have hwilling := Files.willing_of_write hemptied hgoal
    rw [Files.write_eq_ok_of_place (hgrows.place hgoal) (by rw [hfile]; simp)
      (hgrows.refusals ▸ hwilling)] at hwrite
    contradiction

/-- What is refused cannot be stored. -/
theorem Refused.not_stores (h : Refused fs dir encoding p text e fs') {scheme : Encoding.Scheme}
    {bytes : List UInt8} (hscheme : Encoding.lookUpText encoding = .ok scheme)
    (hbytes : scheme.encode text.toList = .ok bytes) {fs'' : Files} : ¬fs.Stores dir p bytes fs'' := by
  rintro ⟨made, emptied, hmade, hemptied, hwritten⟩
  cases h with
  | directory hrefused =>
    rw [hmade] at hrefused
    exact absurd (Prod.mk.inj hrefused).1 (by simp)
  | file hmade' hrefused =>
    rw [hmade] at hmade'
    obtain ⟨-, rfl⟩ := Prod.mk.inj hmade'
    rw [hemptied] at hrefused
    contradiction
  | encoding _ _ hrefused =>
    rw [hscheme] at hrefused
    contradiction
  | text _ _ hscheme' hrefused =>
    rw [hscheme] at hscheme'
    obtain rfl := Except.ok.inj hscheme'
    rw [hbytes] at hrefused
    contradiction

/-- A text that is refused has still touched the path of its file, and nothing else. -/
theorem Refused.touched (h : Refused fs dir encoding p text e fs') {q : List String}
    (hchanged : fs'.entry? q ≠ fs.entry? q) : ∃ a : Path, a.Begins p ∧ fs'.place dir a = .ok q := by
  have hmade : ∀ {result : Except AccessError Unit} {made : Files},
      fs.makeDirectories dir p.parent = (result, made) → made.entry? q ≠ fs.entry? q →
      ∃ a : Path, a.Begins p ∧ made.place dir a = .ok q := by
    intro result made hmakes hnew
    have hmadeFor := @Files.madeFor_of_makeDirectories q fs dir p.parent
    rw [hmakes] at hmadeFor
    obtain ⟨a, hbegins, hplace⟩ := (hmadeFor hnew).path
    exact ⟨a, hbegins.of_parent, hplace⟩
  have hemptied : ∀ {made emptied : Files}, fs.makeDirectories dir p.parent = (.ok (), made) →
      made.write dir p [] = .ok emptied → emptied.entry? q ≠ fs.entry? q →
      ∃ a : Path, a.Begins p ∧ emptied.place dir a = .ok q := by
    intro made emptied hmakes hwrite hnew
    obtain ⟨goal, hgoal, hgrows, -, hothers⟩ := Files.write_spec hwrite
    by_cases hq : q = goal
    · subst q
      exact ⟨p, .refl p, hgrows.place hgoal⟩
    · rw [hothers q hq] at hnew
      obtain ⟨a, hbegins, hplace⟩ := hmade hmakes hnew
      exact ⟨a, hbegins, hgrows.place hplace⟩
  cases h with
  | directory hmakes => exact hmade hmakes hchanged
  | file hmakes _ => exact hmade hmakes hchanged
  | encoding hmakes hwrite _ => exact hemptied hmakes hwrite hchanged
  | text hmakes hwrite _ _ => exact hemptied hmakes hwrite hchanged

end Target

namespace Run

variable {platform : Platform} {parser : Parser} {c : Config} {dir p : Path} {source : Source}
  {a : Account} {accounts : List Account} {fs fs' fs₀ : Files} {paths before after : List Path}
  {s t : Progress} {e : Abort}

/-! ### One source -/

/-- How a source ends a run: it has no account, or what it has to store is refused. -/
inductive Breaks [Platform] (dir : Path) (encoding : String) (account : Except Abort Account) (fs : Files)
    (e : Abort) : Files → Prop
  | unaccounted : account = .error e → Breaks dir encoding account fs e fs
  | refused {a : Account} {target : Path} {text : String} {fs' : Files} : account = .ok a →
      a.stored = some (target, text) → Target.Refused fs dir encoding target text e fs' →
      Breaks dir encoding account fs e fs'

/-- Generating aborts only as its account says. -/
theorem generate_aborts {found : Extracted} (h : (generate c dir source found.interfaces).Aborts s e t) :
    Breaks dir c.encoding (accountOf c dir source found) s.files e t.files := by
  unfold generate at h
  unfold accountOf
  rcases Action.aborts_bind.mp h with h | ⟨specifier, u, hpassed, h⟩
  · obtain ⟨⟨cause, hcause, rfl⟩, rfl⟩ := Action.aborts_orAbort.mp h
    refine .unaccounted ?_
    simp only [hcause, Except.mapError, bind, Except.bind]
  · obtain ⟨hspecifier, rfl⟩ := Action.returns_orAbort.mp hpassed
    simp only [hspecifier, Except.mapError, bind, Except.bind]
    cases hguards : guardModule found.interfaces specifier with
    | error cause =>
      rw [hguards] at h
      exact absurd h (silent_fail _ _ _).not_aborts
    | ok text =>
      rw [hguards] at h
      rcases Action.aborts_bind.mp h with h | ⟨i, u, htell, h⟩
      · exact absurd h (silent_tellGenerated _).not_aborts
      · have hquiet := ((silent_tellGenerated _).returns htell).1
        rcases Action.aborts_bind.mp h with h | ⟨output, v, hwrite, h⟩
        · unfold Target.write at h
          cases htarget : Target.of c source.path with
          | none =>
            rw [htarget] at h
            exact absurd h (Action.total_print.bind fun _ => Action.total_pure).not_aborts
          | some target =>
            rw [htarget] at h
            rcases Action.aborts_bind.mp h with h | ⟨i, v, -, h⟩
            · have hrefused := Target.writeFile_aborts h
              rw [hquiet] at hrefused
              exact .refused rfl rfl hrefused
            · exact absurd h (Action.silent_tell.bind fun _ => Action.silent_pure).not_aborts
        · exact absurd h Action.not_aborts_pure

/-- Processing a source aborts only as its account says. -/
theorem process_aborts (h : (process c dir source parser).Aborts s e t) :
    Breaks dir c.encoding (account parser c dir source) s.files e t.files := by
  unfold process at h
  unfold account
  rcases Action.aborts_bind.mp h with h | ⟨found, u, hfound, h⟩
  · exact absurd h (silent_extract _ _ _).not_aborts
  · have hfiles := ((silent_extract c source parser).returns hfound).1
    rw [← extract_returns hfound, ← hfiles]
    split at h
    · split at h
      · exact absurd h (silent_fail _ _ _).not_aborts
      · rename_i hnone
        obtain ⟨rfl, rfl⟩ := Action.aborts_throw.mp h
        refine .unaccounted ?_
        simp only [hnone]
    · rename_i module interfaces
      have hgenerate : ∃ v, v.files = u.files ∧
          (generate c dir source interfaces).Aborts v e t := by
        split_ifs at h
        · simp only [Action.aborts_bind, Action.print, Action.not_aborts_modify, false_or,
            Action.returns_modify] at h
          obtain ⟨_, _, rfl, _, _, rfl, h⟩ := h
          refine ⟨_, ?_, h⟩
          rfl
        · exact ⟨u, rfl, h⟩
      obtain ⟨v, hquiet, hgenerate⟩ := hgenerate
      have hbreaks := @generate_aborts platform c dir source v t e ⟨module, interfaces⟩ hgenerate
      rwa [hquiet] at hbreaks

/-! ### Source after source -/

/-- All sources before the one that ends a run have been treated. -/
theorem processAll_aborts {sources : List Source}
    (h : (sources.mapM fun source => process c dir source parser).Aborts s e t) :
    ∃ before source after accounts fs, sources = before ++ source :: after ∧
      before.mapM (account parser c dir) = .ok accounts ∧
      StoreAll dir c.encoding accounts s.files fs ∧
      Breaks dir c.encoding (account parser c dir source) fs e t.files := by
  induction sources generalizing s with
  | nil => exact absurd h Action.not_aborts_pure
  | cons source rest ih =>
    rcases Action.aborts_mapM_cons.mp h with hfirst | ⟨o, u, hfirst, hrest⟩
    · exact ⟨[], source, rest, [], s.files, rfl, rfl, .nil, process_aborts hfirst⟩
    · obtain ⟨a, ha, -, -, hstores⟩ := process_returns hfirst
      obtain ⟨before, last, after, accounts, fs, rfl, haccounts, hall, hbreaks⟩ := ih hrest
      refine ⟨source :: before, last, after, a :: accounts, fs, rfl, ?_, .cons hstores hall, hbreaks⟩
      exact mapM_eq_ok.mpr (.cons ha (mapM_eq_ok.mp haccounts))

/-- Readable sources are all read. -/
theorem readAll_not_aborts (h : ∀ p ∈ paths, Source.Readable s.files dir c.encoding p) :
    ¬(paths.mapM (Source.read dir c.encoding)).Aborts s e t := by
  induction paths generalizing s with
  | nil => exact Action.not_aborts_pure
  | cons p rest ih =>
    obtain ⟨hp, hrest⟩ := List.forall_mem_cons.mp h
    obtain ⟨text, htext⟩ := Source.exists_textOf hp
    obtain ⟨u, hu⟩ := Source.read_of_textOf htext
    have hfiles := ((Source.quiet_read dir c.encoding p).returns hu).1
    rw [Action.aborts_mapM_cons]
    rintro (hfirst | ⟨source, v, hv, hlater⟩)
    · exact hu.not_aborts hfirst
    · obtain ⟨-, rfl⟩ := hu.unique hv
      rw [← hfiles] at hrest
      exact ih hrest hlater

/-- What a path does to the files: its guards, if it has guards and a target, are stored. They are
told by the files before the run. -/
inductive Saves [Platform] (parser : Parser) (c : Config) (dir : Path) (fs₀ : Files) (p : Path)
    (fs : Files) : Files → Prop
  | nothing : guardTextAt parser c dir fs₀ p = none ∨ Target.of c p = none →
      Saves parser c dir fs₀ p fs fs
  | file {guards : String} {target : Path} {scheme : Encoding.Scheme} {bytes : List UInt8}
      {fs' : Files} : guardTextAt parser c dir fs₀ p = some guards → Target.of c p = some target →
      Encoding.lookUpText c.encoding = .ok scheme → scheme.encode guards.toList = .ok bytes →
      fs.Stores dir target bytes fs' → Saves parser c dir fs₀ p fs fs'

/-- The guards of paths are stored in turn. -/
inductive SaveAll [Platform] (parser : Parser) (c : Config) (dir : Path) (fs₀ : Files) :
    List Path → Files → Files → Prop
  | nil {fs : Files} : SaveAll parser c dir fs₀ [] fs fs
  | cons {p : Path} {rest : List Path} {fs fs' fs'' : Files} : Saves parser c dir fs₀ p fs fs' →
      SaveAll parser c dir fs₀ rest fs' fs'' → SaveAll parser c dir fs₀ (p :: rest) fs fs''

/-- Nothing is against storing the guards of a path: its target can be named in them and accepts a
file, and all their characters can be encoded. -/
structure Writable [Platform] (parser : Parser) (c : Config) (dir : Path) (fs₀ : Files) (p : Path)
    (fs : Files) : Prop where
  named : extractedAt parser c dir fs₀ p ≠ none → ∀ target, Target.of c p = some target →
    Char.ofNat 0 ∉ target.toString.toList
  accepted : guardTextAt parser c dir fs₀ p ≠ none → ∀ target, Target.of c p = some target →
    fs.Accepts dir target
  encoded : ∀ guards, guardTextAt parser c dir fs₀ p = some guards → Target.of c p ≠ none →
    ∃ scheme bytes, Encoding.lookUpText c.encoding = .ok scheme ∧ scheme.encode guards.toList = .ok bytes

/-- What a path does to the files is determined. -/
theorem Saves.unique {fs'' : Files} (h : Saves parser c dir fs₀ p fs fs')
    (h' : Saves parser c dir fs₀ p fs fs'') : fs' = fs'' := by
  cases h with
  | nothing hnone =>
    cases h' with
    | nothing _ => rfl
    | file hguards htarget _ _ _ =>
      rw [hguards, htarget] at hnone
      simp at hnone
  | file hguards htarget hscheme hbytes hstores =>
    cases h' with
    | nothing hnone =>
      rw [hguards, htarget] at hnone
      simp at hnone
    | file hguards' htarget' hscheme' hbytes' hstores' =>
      obtain rfl := Option.some.inj (hguards.symm.trans hguards')
      obtain rfl := Option.some.inj (htarget.symm.trans htarget')
      obtain rfl := Except.ok.inj (hscheme.symm.trans hscheme')
      obtain rfl := Except.ok.inj (hbytes.symm.trans hbytes')
      exact hstores.unique hstores'

theorem SaveAll.unique {fs'' : Files} (h : SaveAll parser c dir fs₀ paths fs fs')
    (h' : SaveAll parser c dir fs₀ paths fs fs'') : fs' = fs'' := by
  induction h with
  | nil =>
    cases h'
    rfl
  | cons hfirst _ ih =>
    cases h' with
    | cons hfirst' hrest' =>
      obtain rfl := hfirst.unique hfirst'
      exact ih hrest'

/-- A path in the middle finds the files as those before it have left them. -/
theorem SaveAll.split (h : SaveAll parser c dir fs₀ (before ++ p :: after) fs fs') :
    ∃ fs₁ fs₂, SaveAll parser c dir fs₀ before fs fs₁ ∧ Saves parser c dir fs₀ p fs₁ fs₂ := by
  induction before generalizing fs with
  | nil =>
    cases h with
    | cons hfirst _ => exact ⟨fs, _, .nil, hfirst⟩
  | cons q before ih =>
    cases h with
    | cons hfirst hrest =>
      obtain ⟨fs₁, fs₂, hbefore, hsaves⟩ := ih hrest
      exact ⟨fs₁, fs₂, .cons hfirst hbefore, hsaves⟩

/-- Storing what the account holds is what the path does to the files. -/
theorem saves_of_account (h : accountAt parser c dir fs₀ p = .ok a)
    (hstores : a.Stores dir c.encoding fs fs') : Saves parser c dir fs₀ p fs fs' := by
  cases accounted h with
  | unextracted hextracted _ =>
    obtain rfl : fs' = fs := hstores
    exact .nothing (Or.inl (by rw [guardTextAt_eq, hextracted]; rfl))
  | unguarded _ hguards _ =>
    obtain rfl : fs' = fs := hstores
    exact .nothing (Or.inl hguards)
  | guarded _ hguards _ =>
    cases htarget : Target.of c p with
    | none =>
      rw [htarget] at hstores
      obtain rfl : fs' = fs := hstores
      exact .nothing (Or.inr htarget)
    | some target =>
      rw [htarget] at hstores
      obtain ⟨scheme, bytes, hscheme, hbytes, hstored⟩ := hstores
      exact .file hguards htarget hscheme hbytes hstored

theorem saveAll_of_accounts
    (haccounts : List.Forall₂ (fun p a => accountAt parser c dir fs₀ p = .ok a) paths accounts)
    (hstores : StoreAll dir c.encoding accounts fs fs') : SaveAll parser c dir fs₀ paths fs fs' := by
  induction haccounts generalizing fs with
  | nil =>
    cases hstores
    exact .nil
  | cons ha _ ih =>
    cases hstores with
    | cons hfirst hrest => exact .cons (saves_of_account ha hfirst) (ih hrest)

/-- A path with interfaces has an account only if its target can be named in the guards. -/
theorem named_of_account (h : accountAt parser c dir fs₀ p = .ok a)
    (hextracted : extractedAt parser c dir fs₀ p ≠ none) {target : Path}
    (htarget : Target.of c p = some target) : Char.ofNat 0 ∉ target.toString.toList := by
  obtain ⟨text, htext, h⟩ := bind_eq_ok.mp h
  rw [extractedAt_eq htext] at hextracted
  unfold account at h
  split at h
  · rename_i cause hcause
    rw [hcause] at hextracted
    exact absurd rfl hextracted
  · obtain ⟨imported, himported, -⟩ := bind_eq_ok.mp h
    exact (specifierFor_eq_ok.mp (mapError_eq_ok.mp himported)).1 target htarget

/-- Guards that have been stored were writable. -/
theorem writable_of_saves (h : accountAt parser c dir fs₀ p = .ok a)
    (hsaves : Saves parser c dir fs₀ p fs fs') : Writable parser c dir fs₀ p fs := by
  refine ⟨fun hextracted target htarget => named_of_account h hextracted htarget, ?_, ?_⟩
  · intro hguards target htarget
    cases hsaves with
    | nothing hnone =>
      rw [htarget] at hnone
      exact absurd (hnone.resolve_right (by simp)) hguards
    | file _ htarget' _ _ hstores =>
      obtain rfl := Option.some.inj (htarget.symm.trans htarget')
      exact hstores.accepts
  · intro guards hguards htarget
    cases hsaves with
    | nothing hnone =>
      rw [hguards] at hnone
      exact absurd (hnone.resolve_left (by simp)) htarget
    | @file guards' _ scheme bytes _ hguards' _ hscheme hbytes _ =>
      obtain rfl := Option.some.inj (hguards.symm.trans hguards')
      exact ⟨scheme, bytes, hscheme, hbytes⟩

/-- A path whose text is there has an account unless its target cannot be named. -/
theorem not_writable_of_no_account (hsound : TypeScript.IsSound parser)
    (hreadable : Source.Readable fs₀ dir c.encoding p)
    (h : accountAt parser c dir fs₀ p = .error e) : ¬Writable parser c dir fs₀ p fs := by
  obtain ⟨text, htext⟩ := Source.exists_textOf hreadable
  have hextracted := @extractedAt_eq platform parser c dir p fs₀ text htext
  have haccount : account parser c dir ⟨p, text⟩ = .error e := by
    rw [accountAt, htext] at h
    exact h
  unfold account at haccount
  split at haccount
  · rename_i cause hcause
    obtain ⟨f, hf⟩ := exists_failure_of_extract hsound hcause
    rw [hf] at haccount
    contradiction
  · rename_i found hfound
    rw [hfound] at hextracted
    rcases bind_eq_error.mp haccount with hspecifier | ⟨imported, -, hrest⟩
    · intro hwritable
      have hnamed := hwritable.named (by rw [hextracted]; simp [Except.toOption])
      have himported : specifierFor dir p (Target.of c p) = .ok _ :=
        specifierFor_eq_ok.mpr ⟨hnamed, rfl⟩
      rw [himported] at hspecifier
      contradiction
    · split at hrest
      · contradiction
      · split at hrest
        · contradiction
        · contradiction

theorem target_of_stored (h : accountAt parser c dir fs₀ p = .ok a) {target : Path} {text : String}
    (hstored : a.stored = some (target, text)) :
    Target.of c p = some target ∧ guardTextAt parser c dir fs₀ p = some text := by
  cases accounted h with
  | unextracted _ _ => contradiction
  | unguarded _ _ _ => contradiction
  | guarded _ hguards _ =>
    obtain ⟨goal, hgoal, heq⟩ := Option.map_eq_some_iff.mp hstored
    obtain ⟨rfl, rfl⟩ := Prod.mk.inj heq
    exact ⟨hgoal, hguards⟩

/-- Guards that have been refused were not writable. -/
theorem not_writable_of_refused (h : accountAt parser c dir fs₀ p = .ok a) {target : Path}
    {text : String} (hstored : a.stored = some (target, text))
    (hrefused : Target.Refused fs dir c.encoding target text e fs') :
    ¬Writable parser c dir fs₀ p fs := by
  intro hwritable
  obtain ⟨htarget, hguards⟩ := target_of_stored h hstored
  obtain ⟨scheme, bytes, hscheme, hbytes⟩ := hwritable.encoded text hguards (by rw [htarget]; simp)
  have haccepts := hwritable.accepted (by rw [hguards]; simp) target htarget
  obtain ⟨fs'', hstores⟩ := haccepts.exists_stores bytes
  exact hrefused.not_stores hscheme hbytes hstores

/-- What a run that returns has done: an outcome for each path, with what is wrong with it if anything
is, and the guards of all others. -/
structure Completes [Platform] (parser : Parser) (c : Config) (dir : Path) (paths : List Path)
    (s : Progress) (outcomes : List Outcome) (t : Progress) : Prop where
  sources : outcomes.map (·.source) = paths
  errors : ∀ o ∈ outcomes, o.error = failureAt parser c dir s.files o.source
  guarded : ∀ o ∈ outcomes, o.success ↔ guardTextAt parser c dir s.files o.source ≠ none
  saved : SaveAll parser c dir s.files paths s.files t.files

/-- What a run that aborts has done: all before one path, whose guards cannot be written, and at most
a beginning for that path. -/
structure StopsAt [Platform] (parser : Parser) (c : Config) (dir : Path) (s : Progress)
    (before : List Path) (p : Path) (fs : Files) (t : Progress) : Prop where
  saved : SaveAll parser c dir s.files before s.files fs
  refused : ¬Writable parser c dir s.files p fs
  touched : ∀ q, t.files.entry? q ≠ fs.entry? q → ∃ target a : Path, Target.of c p = some target ∧
    a.Begins target ∧ t.files.place dir a = .ok q

end Run

open Run

section

variable {platform : Platform} {parser : Parser} {c : Config} {dir p : Path} {paths : List Path}
  {s t : Progress} {e : Abort}

/-- A run aborts because of its paths, because one of them cannot be read, or while it treats a
source. -/
theorem run_aborts_cases (h : (run c dir paths parser).Aborts s e t) :
    Source.require s.files dir paths = .error e ∧ s = t ∨
    Source.require s.files dir paths = .ok () ∧
      ((paths.mapM (Source.read dir c.encoding)).Aborts s e t ∨
        ∃ sources u, (paths.mapM (Source.read dir c.encoding)).Returns s sources u ∧
          (sources.mapM fun source => process c dir source parser).Aborts u e t) := by
  unfold run at h
  rcases Action.aborts_bind.mp h with h | ⟨i, u, hget, h⟩
  · exact absurd h Action.not_aborts_get
  obtain ⟨rfl, rfl⟩ := Action.returns_get.mp hget
  rcases Action.aborts_bind.mp h with h | ⟨i, u, hchecked, h⟩
  · obtain ⟨⟨cause, hcause, rfl⟩, hsame⟩ := Action.aborts_orAbort.mp h
    exact Or.inl ⟨hcause, hsame⟩
  obtain ⟨hrequire, rfl⟩ := Action.returns_orAbort.mp hchecked
  refine Or.inr ⟨hrequire, ?_⟩
  rcases Action.aborts_bind.mp h with h | ⟨sources, u, hread, h⟩
  · exact Or.inl h
  refine Or.inr ⟨sources, u, hread, ?_⟩
  rcases Action.aborts_bind.mp h with h | ⟨outcomes, v, -, h⟩
  · exact h
  · exact absurd h (Action.silent_tell.bind fun _ => Action.silent_pure).not_aborts

/-- A run over readable sources aborts while it processes them. -/
theorem processAll_aborts_of_run (hne : paths ≠ [])
    (hreadable : ∀ p ∈ paths, Source.Readable s.files dir c.encoding p)
    (h : (run c dir paths parser).Aborts s e t) : ∃ sources u, u.files = s.files ∧
      List.Forall₂ (fun p source => Source.textOf s.files dir c.encoding p = .ok source.text ∧
        source.path = p) paths sources ∧
      (sources.mapM fun source => process c dir source parser).Aborts u e t := by
  have hfile : ∀ p ∈ paths, s.files.file? dir p ≠ none := by
    intro p hp
    obtain ⟨bytes, hbytes⟩ := (hreadable p hp).exists_file
    rw [hbytes]
    simp
  rcases run_aborts_cases h with ⟨hcause, -⟩ | ⟨-, hread | ⟨sources, u, hread, hprocess⟩⟩
  · rw [Source.require_eq_ok (fun p hp => (hreadable p hp).testable) hne hfile] at hcause
    contradiction
  · exact absurd hread (readAll_not_aborts hreadable)
  · have hfiles := ((Action.Quiet.mapM (Source.quiet_read dir c.encoding) paths).returns hread).1
    exact ⟨sources, u, hfiles, readAll_returns hread, hprocess⟩

/-- Once all sources have been read, a run ends early only while it treats one of them. -/
theorem run_aborts_at (hne : paths ≠ [])
    (hreadable : ∀ p ∈ paths, Source.Readable s.files dir c.encoding p)
    (h : (run c dir paths parser).Aborts s e t) : ∃ before p after accounts fs,
      paths = before ++ p :: after ∧ before.mapM (accountAt parser c dir s.files) = .ok accounts ∧
      StoreAll dir c.encoding accounts s.files fs ∧
      Breaks dir c.encoding (accountAt parser c dir s.files p) fs e t.files := by
  obtain ⟨sources, u, hfiles, hread, haborts⟩ := processAll_aborts_of_run hne hreadable h
  obtain ⟨sources, source, later, accounts, fs, rfl, haccounts, hstores, hbreaks⟩ :=
    processAll_aborts haborts
  obtain ⟨before, p, after, rfl, hbefore, htext, hpath⟩ := forall₂_append_cons hread
  have haccount : accountAt parser c dir s.files p = Run.account parser c dir source := by
    rw [accountAt, htext, ← hpath]
    rfl
  rw [hfiles] at hstores
  rw [← haccount] at hbreaks
  exact ⟨before, p, after, accounts, fs, rfl, accounts_of_readAll hbefore haccounts, hstores, hbreaks⟩

/-- An aborted run has dealt with all before one path, which is not writable. -/
theorem stopsAt_of_aborts (hsound : TypeScript.IsSound parser) (hne : paths ≠ [])
    (hreadable : ∀ p ∈ paths, Source.Readable s.files dir c.encoding p)
    (h : (run c dir paths parser).Aborts s e t) :
    ∃ before p after fs, paths = before ++ p :: after ∧ StopsAt parser c dir s before p fs t := by
  obtain ⟨before, p, after, accounts, fs, rfl, haccounts, hstores, hbreaks⟩ :=
    run_aborts_at hne hreadable h
  have hsaved := saveAll_of_accounts (mapM_eq_ok.mp haccounts) hstores
  refine ⟨before, p, after, fs, rfl, hsaved, ?_, fun q hchanged => ?_⟩
  · cases hbreaks with
    | unaccounted herror =>
      have hp := hreadable p (List.mem_append_right before List.mem_cons_self)
      exact not_writable_of_no_account hsound hp herror
    | refused ha hstored hrefused => exact not_writable_of_refused ha hstored hrefused
  · cases hbreaks with
    | unaccounted _ => exact absurd rfl hchanged
    | refused ha hstored hrefused =>
      obtain ⟨htarget, -⟩ := target_of_stored ha hstored
      obtain ⟨ancestor, hbegins, hplace⟩ := hrefused.touched hchanged
      exact ⟨_, ancestor, htarget, hbegins, hplace⟩

/-- The error of an outcome is what is wrong with its path, and success is to have none. -/
theorem error_of_outcome {outcomes : List Outcome}
    (h : (run c dir paths parser).Returns s outcomes t) {o : Outcome} (ho : o ∈ outcomes) :
    o.error = failureAt parser c dir s.files o.source ∧
      (o.success ↔ guardTextAt parser c dir s.files o.source ≠ none) := by
  obtain ⟨p, a, haccount, rfl⟩ := exists_account_of_outcome h ho
  cases accounted haccount with
  | unextracted hextracted hfailure =>
    have hnone : guardTextAt parser c dir s.files p = none := by
      rw [guardTextAt_eq, hextracted]
      rfl
    exact ⟨hfailure.symm, by simp [Outcome.success, hnone]⟩
  | unguarded _ hnone hfailure => exact ⟨hfailure.symm, by simp [Outcome.success, hnone]⟩
  | guarded _ hguards hfailure => exact ⟨hfailure.symm, by simp [Outcome.success, hguards]⟩

/-- A run that returns has an outcome and a result in the files for each path. -/
theorem completes_of_returns {outcomes : List Outcome}
    (h : (run c dir paths parser).Returns s outcomes t) :
    Completes parser c dir paths s outcomes t := by
  obtain ⟨accounts, haccounts, houtcomes, -, hstores⟩ := run_returns h
  rw [mapM_eq_ok] at haccounts
  refine ⟨?_, fun o ho => (error_of_outcome h ho).1, fun o ho => (error_of_outcome h ho).2,
    saveAll_of_accounts haccounts hstores⟩
  rw [← houtcomes, List.map_map]
  exact sources_of_accounts haccounts

theorem ne_nil_of_returns {outcomes : List Outcome}
    (h : (run c dir paths parser).Returns s outcomes t) : paths ≠ [] := by
  rintro rfl
  obtain ⟨message, hrequire⟩ := Source.require_eq_error (List.forall_mem_nil _) (Or.inl rfl)
  exact h.not_aborts (run_aborts_of_require hrequire)

/-- A run over some sources that can be read completes if and only if, whenever the guards of the
paths before a path have been stored, nothing is against storing its own; else it stops at the first
path for which that fails. -/
theorem run_completes (hsound : TypeScript.IsSound parser)
    (hreadable : ∀ p ∈ paths, Source.Readable s.files dir c.encoding p) :
    ((∃ outcomes t, (run c dir paths parser).Returns s outcomes t) ↔
      paths ≠ [] ∧ ∀ before p after fs, paths = before ++ p :: after →
        SaveAll parser c dir s.files before s.files fs → Writable parser c dir s.files p fs) ∧
    (∀ outcomes t, (run c dir paths parser).Returns s outcomes t →
      Completes parser c dir paths s outcomes t) ∧
    (∀ e t, (run c dir paths parser).Aborts s e t → paths = [] ∨ ∃ before p after fs,
      paths = before ++ p :: after ∧ StopsAt parser c dir s before p fs t) := by
  refine ⟨⟨?_, ?_⟩, fun outcomes t h => completes_of_returns h, fun e t h => ?_⟩
  · rintro ⟨outcomes, t, h⟩
    refine ⟨ne_nil_of_returns h, ?_⟩
    rintro before p after fs rfl hbefore
    obtain ⟨accounts, haccounts, -, -, -⟩ := run_returns h
    obtain ⟨a, haccount⟩ := exists_of_mapM_eq_ok haccounts
      (List.mem_append_right before List.mem_cons_self)
    obtain ⟨fs₁, fs₂, hbefore', hsaves⟩ := (completes_of_returns h).saved.split
    obtain rfl := hbefore.unique hbefore'
    exact writable_of_saves haccount hsaves
  · rintro ⟨hne, hwritable⟩
    rcases Action.returns_or_aborts (run c dir paths parser) s with hreturns | ⟨e, t, haborts⟩
    · exact hreturns
    · obtain ⟨before, p, after, fs, hsplit, hstops⟩ := stopsAt_of_aborts hsound hne hreadable haborts
      exact absurd (hwritable before p after fs hsplit hstops.saved) hstops.refused
  · by_cases hne : paths = []
    · exact Or.inl hne
    · exact Or.inr (stopsAt_of_aborts hsound hne hreadable h)

end

/-- A parser of two texts, which takes all others for one that is cut off. -/
def pairParser : Parser := fun _ text =>
  if text = "interface A\x7b\x7d" ∨ text = "interface B\x7b\x7d" then .bare else .cut

theorem pairParser_isSound : TypeScript.IsSound pairParser := by
  intro d text hclean
  unfold pairParser at hclean ⊢
  split_ifs at hclean ⊢ with hknown
  · rcases hknown with rfl | rfl
    · refine ⟨?_, ?_⟩
      · unfold Tree.Fits
        decide +kernel
      · unfold Tree.HasNames
        decide +kernel
    · refine ⟨?_, ?_⟩
      · unfold Tree.Fits
        decide +kernel
      · unfold Tree.HasNames
        decide +kernel
  · exact absurd hclean (by decide)

/-- A file that holds the bytes of a text is readable. -/
theorem readable_of_utf8 {fs : Files} {dir p : Path} (text : List Char)
    (h : fs.read dir p = .ok (Encoding.Utf8.encode text)) :
    Source.Readable fs dir "utf-8" p := by
  have hwritten : Encoding.Codec.utf8.encode text = .ok (Encoding.Utf8.encode text) := rfl
  exact ⟨_, _, text, h, Encoding.lookUpText_utf8, Encoding.Codec.decode_of_encode hwritten⟩

/-- Two files with an interface each, and a directory where the guards of the first go. -/
def blockedFiles : Files :=
  { entries := [(["a.ts"], .file (Encoding.Utf8.encode "interface A\x7b\x7d".toList)),
                (["a-guard.ts"], .directory),
                (["b.ts"], .file (Encoding.Utf8.encode "interface B\x7b\x7d".toList))] }

def pairPaths : List Path := [.ofString "a.ts", .ofString "b.ts"]

def runBlocked : Action (List Outcome) := run {} .root pairPaths pairParser

theorem blockedFiles_readable : ∀ p ∈ pairPaths, Source.Readable blockedFiles .root "utf-8" p := by
  intro p hp
  rcases List.mem_pair.mp hp with rfl | rfl
  · exact readable_of_utf8 "interface A\x7b\x7d".toList rfl
  · exact readable_of_utf8 "interface B\x7b\x7d".toList rfl

theorem run_completes_blocked : TypeScript.IsSound pairParser ∧
    (∀ p ∈ pairPaths, Source.Readable blockedFiles .root "utf-8" p) ∧
    ¬∀ before p after fs, pairPaths = before ++ p :: after →
      SaveAll pairParser {} .root blockedFiles before blockedFiles fs →
      Writable pairParser {} .root blockedFiles p fs := by
  refine ⟨pairParser_isSound, blockedFiles_readable, fun hwritable => ?_⟩
  obtain ⟨hiff, -, -⟩ := @run_completes .standard pairParser {} .root pairPaths { files := blockedFiles }
    pairParser_isSound blockedFiles_readable
  have hend : (runBlocked.ending { files := blockedFiles }).1.toOption = none := by decide +kernel
  obtain ⟨outcomes, t, hreturns⟩ : ∃ outcomes t,
      runBlocked.Returns { files := blockedFiles } outcomes t :=
    hiff.mpr ⟨by simp [pairPaths], hwritable⟩
  rw [hreturns] at hend
  contradiction

/-- Both files can be read and have guards; the run ends with an error about the first, and the guards
of the second are not written. -/
theorem run_stops_early : (∀ p ∈ pairPaths, Source.Readable blockedFiles .root "utf-8" p) ∧
    (∀ p ∈ pairPaths, guardTextAt pairParser {} .root blockedFiles p ≠ none) ∧
    ∃ t, runBlocked.Aborts { files := blockedFiles }
      (.access ⟨.isDirectory, .ofString "a-guard.ts"⟩) t ∧
      t.files.file? .root (.ofString "b-guard.ts") = none := by
  have hend : (runBlocked.ending { files := blockedFiles }).1 =
        .error (.access ⟨.isDirectory, .ofString "a-guard.ts"⟩) ∧
      (runBlocked.ending { files := blockedFiles }).2.files.file? .root
        (.ofString "b-guard.ts") = none := by decide +kernel
  rcases hends : runBlocked.ending { files := blockedFiles } with ⟨result, t⟩
  rw [hends] at hend
  obtain ⟨rfl, hnone⟩ := hend
  exact ⟨blockedFiles_readable, by decide +kernel, t, hends, hnone⟩

end TypeGuards
