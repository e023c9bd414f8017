import TypeGuards.Proofs.Files
import TypeGuards.Proofs.Logging.Setting
/-!
Falling back to basic logging. Logging that cannot be set up as asked for is set up in a basic way, at
the level that is asked for; the faults after which this is not done are told one by one.
-/
namespace TypeGuards.Logging

open Encoding

section

variable {platform : Platform} {s : Surroundings} {r : Request} {apply : Shared → Setup Unit}
  {ls t : Loggers} {e : Fault} {level : String} {p : Path}

/-! ### Basic logging -/

/-- The level that is asked for, or the one for no level. -/
def Request.levelName (r : Request) : String := (Packaged.given r.level).getD Setup.defaultLevel

def basicHandler : Handler := { format := some Setup.basicFormat, stream := .standardError }

def numberOr (level : String) : Int := (Level.number? (Level.upperName level)).getD Level.info.number

def Loggers.withBasic (level : String) (ls : Loggers) : Loggers :=
  { ls with root := { ls.root with handlers := [basicHandler], level := numberOr level } }

/-- The name of a level stands for something that is none. -/
def Misnamed (level : String) : Prop :=
  Level.upperName level ∈ [Setup.formatName.1, Setup.stylesName.1]

instance : Decidable (Misnamed level) := inferInstanceAs (Decidable (_ ∈ _))

theorem number?_of_misnamed (h : Misnamed level) : Level.number? (Level.upperName level) = none := by
  rcases List.mem_pair.mp h with hname | hname
  · rw [hname]
    decide
  · rw [hname]
    decide

theorem basicNumber_of_misnamed (h : Misnamed level) : ∃ e, Setup.basicNumber level = .error e := by
  unfold Setup.basicNumber
  dsimp only
  rcases List.mem_pair.mp h with hname | hname
  · rw [if_pos hname]
    exact ⟨_, rfl⟩
  · split_ifs
    · exact ⟨_, rfl⟩
    · exact ⟨_, rfl⟩

theorem basicNumber_eq (h : ¬Misnamed level) : Setup.basicNumber level = .ok (numberOr level) := by
  rw [Misnamed, List.mem_pair, not_or] at h
  unfold Setup.basicNumber
  dsimp only
  rw [if_neg h.1, if_neg h.2]
  rfl

/-- Basic logging is set up for every level that is one, or that is no name at all. -/
theorem basic_returns (h : ¬Misnamed level) :
    (Setup.basic level).run.run ls = (.ok (), ls.withBasic level) := by
  unfold Setup.basic
  rw [basicNumber_eq h]
  rfl

theorem basic_fails (h : Misnamed level) (ls : Loggers) :
    ∃ e t, (Setup.basic level).run.run ls = (.error e, t) := by
  obtain ⟨e, he⟩ := basicNumber_of_misnamed h
  unfold Setup.basic
  rw [he]
  exact ⟨e, _, rfl⟩

/-! ### Settings that cannot be used -/

/-- The errors of a document that setting up logging does not go on after. -/
def IsUnforeseen : Yaml.Error → Prop
  | .malformed => False
  | .scalar e => Fault.scalarIsHandled e = false
  | .tooDeep => True

/-- A setting escapes from loading only by what is unforeseen in its document. -/
theorem loadSetting_escapes {fs : Files} {dir : Path} :
    (∃ e, loadSetting fs dir p = .error e ∧ e.isHandled = false) ↔
      ∃ text e, fs.read dir p = .ok (Utf8.encode text) ∧
        Yaml.load (joinLineEndings text) = .error e ∧ IsUnforeseen e := by
  constructor
  · intro h
    obtain ⟨e, h, hescapes⟩ := h
    have hloads := @Yaml.loads platform fs dir p
    unfold loadSetting at h
    generalize Yaml.loadFile fs dir p = loaded at hloads h
    cases hloads with
    | @unreadable cause hread =>
      dsimp only at h
      split_ifs at h with hnull
      · rw [← Except.error.inj h, Fault.isHandled, decide_eq_false_iff_not] at hescapes
        exact absurd hnull hescapes
      · rw [← Except.error.inj h] at hescapes
        contradiction
    | undecodable hfile hnever =>
      rw [← Except.error.inj h] at hescapes
      contradiction
    | @text text hfile =>
      cases hload : Yaml.load (joinLineEndings text) with
      | ok d =>
        rw [hload] at h
        dsimp only [Except.mapError] at h
        split at h
        · contradiction
        · rw [← Except.error.inj h] at hescapes
          contradiction
      | error cause =>
        rw [hload] at h
        cases cause with
        | malformed =>
          rw [← Except.error.inj h] at hescapes
          contradiction
        | scalar cause =>
          rw [← Except.error.inj h] at hescapes
          exact ⟨text, .scalar cause, hfile, hload, hescapes⟩
        | tooDeep => exact ⟨text, .tooDeep, hfile, hload, trivial⟩
  · intro h
    obtain ⟨text, e, hfile, hload, hunforeseen⟩ := h
    rw [loadSetting, Yaml.loadFile_of_text hfile, hload]
    cases e with
    | malformed => exact hunforeseen.elim
    | scalar cause => exact ⟨.scalar cause, rfl, hunforeseen⟩
    | tooDeep => exact ⟨.tooDeep, rfl, rfl⟩

/-- All files that come with the program are settings. -/
theorem Packaged.load_of_read {text : List Char}
    (h : files.read directory p = .ok (Utf8.encode text)) :
    ∃ d, Yaml.load (joinLineEndings text) = .ok d := by
  have hload : ∀ setting, isApplicable setting = true →
      ∃ d, Yaml.load (joinLineEndings (Packaged.text setting)) = .ok d := by
    intro setting happlicable
    simp only [isApplicable, Option.any_eq_true] at happlicable
    obtain ⟨shared, hread, -⟩ := happlicable
    obtain ⟨d, hd, -⟩ := load_of_read? hread
    exact ⟨d, hd⟩
  have htext : text = Packaged.text forUse ∨ text = Packaged.text forDevelopment := by
    replace h := (Files.read_eq_ok.mp h).1
    obtain ⟨goal, hgoal⟩ := Files.exists_place_of_file? h
    rw [Files.file?_eq_some_iff_entry hgoal, Files.entry?] at h
    split_ifs at h
    · cases h
    · obtain ⟨before, after, hentries, -⟩ := List.lookup_eq_some_iff.mp h
      have hmem : (goal, Entry.file (Utf8.encode text)) ∈ files.entries := by
        rw [hentries]
        simp
      simp only [files, List.mem_cons, List.not_mem_nil, Prod.mk.injEq, Entry.file.injEq,
        reduceCtorEq, and_false, false_or, or_false] at hmem
      rcases hmem with ⟨-, htext⟩ | ⟨-, htext⟩
      · exact Or.inl (Utf8.encode_injective htext)
      · exact Or.inr (Utf8.encode_injective htext)
  rcases htext with rfl | rfl
  · exact hload forUse isApplicable_forUse
  · exact hload forDevelopment isApplicable_forDevelopment

/-- The packaged settings are fine, so what fails there is handled. -/
theorem Packaged.loadSetting_isHandled (h : loadSetting files directory p = .error e) :
    e.isHandled = true := by
  by_contra hescapes
  obtain ⟨text, cause, hfile, hload, -⟩ :=
    loadSetting_escapes.mp ⟨e, h, Bool.eq_false_iff.mpr hescapes⟩
  obtain ⟨d, hd⟩ := @load_of_read platform _ _ hfile
  exact nomatch hload.symm.trans hd

/-- A setting that cannot be read, or that cannot take the level asked for, without going on. -/
inductive Unusable [Platform] (s : Surroundings) (r : Request) : Prop
  | name : r.file = none →
      Packaged.files.look Packaged.directory
        (Path.ofString (Packaged.meant none r.environment s.environment)) = .error .nameTooLong →
      Unusable s r
  | content {p : Path} {text : List Char} {e : Yaml.Error} : r.file = some p →
      s.files.read s.dir p = .ok (Utf8.encode text) →
      Yaml.load (joinLineEndings text) = .error e → IsUnforeseen e → Unusable s r
  | shape {level : String} {p : Path} {d : Shared} :
      Packaged.given r.level = some level → (Level.number? (Level.upperName level)).isSome →
      Setup.setting s r = .ok (p, d) → Override.Misshapen d.store d.root → Unusable s r

theorem Packaged.path_eq_error {name environment running : Option String} {cause : AccessError}
    (h : path name environment running = .error cause) : cause.fault = .nameTooLong ∧
      files.look directory (Path.ofString (meant name environment running)) = .error .nameTooLong := by
  unfold path located at h
  dsimp only at h
  split at h
  · exact nomatch h
  · rename_i hlook
    rw [← Except.error.inj h]
    exact ⟨rfl, hlook⟩
  · exact nomatch h

theorem setting_of_file (h : r.file = some p) : Setup.setting s r = do
    return (p, ← loadSetting s.files s.dir p) := by
  rw [Setup.setting, h]

theorem setting_of_none (h : r.file = none) : Setup.setting s r = do
    let p ← (Packaged.path none r.environment s.environment).mapError .access
    return (p, ← loadSetting Packaged.files Packaged.directory p) := by
  rw [Setup.setting, h]

theorem unusable_of_setting (h : Setup.setting s r = .error e) (hescapes : e.isHandled = false) :
    Unusable s r := by
  cases hfile : r.file with
  | some p =>
    rw [setting_of_file hfile] at h
    rcases bind_eq_error.mp h with h | ⟨entries, -, h⟩
    · obtain ⟨text, cause, hread, hload, hcause⟩ := loadSetting_escapes.mp ⟨e, h, hescapes⟩
      exact .content hfile hread hload hcause
    · contradiction
  | none =>
    rw [setting_of_none hfile] at h
    rcases bind_eq_error.mp h with h | ⟨p, -, h⟩
    · obtain ⟨cause, hpath, -⟩ := mapError_eq_error.mp h
      exact .name hfile (Packaged.path_eq_error hpath).2
    rcases bind_eq_error.mp h with h | ⟨entries, -, h⟩
    · rw [Packaged.loadSetting_isHandled h] at hescapes
      exact nomatch hescapes
    · exact nomatch h

/-- A level that is none is refused before anything is changed. -/
theorem levelled_of_given {d : Shared} (hsetting : Setup.setting s r = .ok (p, d))
    (hlevel : Packaged.given r.level = some level) : Setup.levelled s r =
      match (override level d.root).run.run d.store with
      | (.ok _, store) => .ok (p, { d with store })
      | (.error e, _) => .error e := by
  unfold Setup.levelled
  rw [hsetting]
  dsimp only [bind, Except.bind]
  rw [hlevel]
  rfl

/-- A level is put into no setting unless there is one of that name. -/
theorem levelled_of_unknown (hlevel : Packaged.given r.level = some level)
    (hunknown : Level.number? (Level.upperName level) = none) :
    ∃ e, Setup.levelled s r = .error e := by
  cases hsetting : Setup.setting s r with
  | error e =>
    refine ⟨e, ?_⟩
    rw [Setup.levelled, hsetting]
    rfl
  | ok found =>
    refine ⟨.level level, ?_⟩
    rw [levelled_of_given hsetting hlevel, override_of_unknown hunknown]

theorem levelled_of_escapes {d : Shared} {number : Int} (hsetting : Setup.setting s r = .ok (p, d))
    (hlevel : Packaged.given r.level = some level)
    (hnumber : Level.number? (Level.upperName level) = some number) :
    (∃ e, Setup.levelled s r = .error e ∧ e.isHandled = false) ↔
      Override.Misshapen d.store d.root := by
  rw [levelled_of_given hsetting hlevel, override_of_number hnumber,
    ← @Override.apply_escapes (Level.upperName level) number d.store d.root]
  unfold Edit.Escapes
  rcases (Override.apply (Level.upperName level) number d.root).ending d.store with ⟨e | _, t⟩
  · simp [Except.mapError, Fault.isHandled]
  · simp [Except.mapError]

/-- Reading a setting and putting the level into it fails without going on only if it is unusable. -/
theorem levelled_escapes :
    (∃ e, Setup.levelled s r = .error e ∧ e.isHandled = false) ↔ Unusable s r := by
  constructor
  · intro h
    cases hsetting : Setup.setting s r with
    | error e =>
      obtain ⟨cause, h, hescapes⟩ := h
      rw [Setup.levelled, hsetting] at h
      obtain rfl := Except.error.inj h
      exact unusable_of_setting hsetting hescapes
    | ok found =>
      cases hlevel : Packaged.given r.level with
      | none =>
        obtain ⟨e, h, -⟩ := h
        rw [Setup.levelled, hsetting] at h
        dsimp only [bind, Except.bind] at h
        rw [hlevel] at h
        contradiction
      | some level =>
        cases hnumber : Level.number? (Level.upperName level) with
        | none =>
          obtain ⟨e, h, hescapes⟩ := h
          rw [levelled_of_given hsetting hlevel, override_of_unknown hnumber] at h
          rw [← Except.error.inj h] at hescapes
          contradiction
        | some number =>
          exact .shape hlevel (by rw [hnumber]; rfl) hsetting
            ((levelled_of_escapes hsetting hlevel hnumber).mp h)
  · intro h
    cases h with
    | name hfile hlook =>
      have hpath : ∃ path, Packaged.path none r.environment s.environment =
          .error ⟨.nameTooLong, path⟩ := by
        unfold Packaged.path Packaged.located
        dsimp only
        rw [hlook]
        exact ⟨_, rfl⟩
      obtain ⟨path, hpath⟩ := hpath
      unfold Setup.levelled
      rw [setting_of_none hfile, hpath]
      exact ⟨_, rfl, rfl⟩
    | content hfile hread hload hcause =>
      obtain ⟨e, hsetting, hescapes⟩ := loadSetting_escapes.mpr ⟨_, _, hread, hload, hcause⟩
      unfold Setup.levelled
      rw [setting_of_file hfile, hsetting]
      exact ⟨e, rfl, hescapes⟩
    | shape hlevel hnumber hsetting hshape =>
      obtain ⟨number, hnumber⟩ := Option.isSome_iff_exists.mp hnumber
      exact (levelled_of_escapes hsetting hlevel hnumber).mpr hshape

/-! ### Setting up -/

/-- Setting up by a setting fails, and leaves the loggers as they are then. -/
inductive Fails [Platform] (s : Surroundings) (r : Request) (apply : Shared → Setup Unit) (ls : Loggers) :
    Fault → Loggers → Prop
  | setting {e : Fault} : Setup.levelled s r = .error e → Fails s r apply ls e ls
  | apply {p : Path} {d : Shared} {e : Fault} {t : Loggers} :
      Setup.levelled s r = .ok (p, d) → (apply d).run.run ls = (.error e, t) →
      Fails s r apply ls e t

def fallBackRecord (level : String) (e : Fault) : Record :=
  Setup.record .warning <|
    s!"Failed to configure logging from file ({e.message}), using basic console logging at " ++
      s!"{level} level"

/-- The setting asked for has been applied, or basic logging is in force at the level asked for. -/
inductive IsSetUp [Platform] (s : Surroundings) (r : Request) (apply : Shared → Setup Unit)
    (ls : Loggers) : Option Record → Loggers → Prop
  | applied {p : Path} {d : Shared} {t : Loggers} : r.isBasic = false →
      Setup.levelled s r = .ok (p, d) → (apply d).run.run ls = (.ok (), t) →
      IsSetUp s r apply ls (some (appliedRecord p)) t
  | basic : r.isBasic = true → IsSetUp s r apply ls none (ls.withBasic r.levelName)
  | fallBack {e : Fault} {t : Loggers} : r.isBasic = false → Fails s r apply ls e t →
      IsSetUp s r apply ls (some (fallBackRecord r.levelName e)) (t.withBasic r.levelName)

theorem ofSetting_of_fails (h : Fails s r apply ls e t) :
    (Setup.ofSetting s r apply).run.run ls = (.error e, t) := by
  cases h with
  | setting hsetting =>
    unfold Setup.ofSetting
    rw [hsetting]
    rfl
  | apply hsetting happly => rw [ofSetting_of_ok hsetting, run_bind, happly]

/-- A setting is applied, or setting up by it fails in one of the ways listed. -/
theorem ofSetting_cases (s : Surroundings) (r : Request) (apply : Shared → Setup Unit)
    (ls : Loggers) :
    (∃ p d t, Setup.levelled s r = .ok (p, d) ∧
      (apply d).run.run ls = (.ok (), t) ∧
      (Setup.ofSetting s r apply).run.run ls = (.ok (appliedRecord p), t)) ∨
    ∃ e t, Fails s r apply ls e t := by
  cases hsetting : Setup.levelled s r with
  | error e => exact Or.inr ⟨e, ls, .setting hsetting⟩
  | ok found =>
    rcases happly : (apply found.2).run.run ls with ⟨e | i, t⟩
    · exact Or.inr ⟨e, t, .apply hsetting happly⟩
    · refine Or.inl ⟨found.1, found.2, t, rfl, happly, ?_⟩
      rw [ofSetting_of_ok hsetting, run_bind, happly]
      rfl

theorem fallBack_returns (h : ¬Misnamed level) : (Setup.fallBack level e).run.run ls =
    (.ok (fallBackRecord level e), ls.withBasic level) := by
  unfold Setup.fallBack
  rw [run_bind, basic_returns h]
  rfl

theorem fallBack_fails (h : Misnamed level) (e : Fault) (ls : Loggers) :
    ∃ cause t, (Setup.fallBack level e).run.run ls = (.error cause, t) := by
  obtain ⟨cause, t, hbasic⟩ := basic_fails h ls
  refine ⟨cause, t, ?_⟩
  unfold Setup.fallBack
  rw [run_bind, hbasic]

theorem setUp_of_isBasic (h : r.isBasic = true) : (setUp s r apply).run.run ls =
    (Setup.basic r.levelName >>= fun _ => pure none).run.run ls := by
  unfold setUp
  dsimp only
  rw [if_pos h]
  rfl

theorem setUp_of_setting (h : r.isBasic = false) : (setUp s r apply).run.run ls =
    match (Setup.ofSetting s r apply).run.run ls with
    | (.ok told, t) => (.ok (some told), t)
    | (.error e, t) =>
        if e.isHandled then (some <$> Setup.fallBack r.levelName e).run.run t else (.error e, t) := by
  unfold setUp
  dsimp only
  rw [h, if_neg Bool.false_ne_true, run_map, run_tryCatch]
  rcases (Setup.ofSetting s r apply).run.run ls with ⟨e | told, t⟩
  · dsimp only
    split_ifs
    · rw [run_map]
      rfl
    · rfl
  · rfl

/-- The faults that logging is not set up after. -/
inductive Escapes [Platform] (s : Surroundings) (r : Request) (apply : Shared → Setup Unit)
    (ls : Loggers) : Prop
  | level : Misnamed r.levelName → Escapes s r apply ls
  | setting : r.isBasic = false → Unusable s r → Escapes s r apply ls
  | apply {p : Path} {d : Shared} {e : Fault} {t : Loggers} : r.isBasic = false →
      Setup.levelled s r = .ok (p, d) → (apply d).run.run ls = (.error e, t) →
      e.isHandled = false → Escapes s r apply ls

theorem levelled_of_misnamed (h : Misnamed r.levelName) : ∃ e, Setup.levelled s r = .error e := by
  unfold Request.levelName at h
  cases hlevel : Packaged.given r.level with
  | none =>
    rw [hlevel] at h
    exact absurd h (by decide)
  | some level =>
    rw [hlevel] at h
    exact levelled_of_unknown hlevel (number?_of_misnamed h)

/-- What escapes has gone wrong with the setting, in a way that is not handled or with a level that
basic logging cannot take either. -/
theorem fails_of_escapes (h : Escapes s r apply ls) :
    ∃ e t, Fails s r apply ls e t ∧ (e.isHandled = false ∨ Misnamed r.levelName) := by
  cases h with
  | level hlevel =>
    obtain ⟨e, he⟩ := levelled_of_misnamed (s := s) hlevel
    exact ⟨e, ls, .setting he, Or.inr hlevel⟩
  | setting _ hunusable =>
    obtain ⟨e, he, hescapes⟩ := levelled_escapes.mpr hunusable
    exact ⟨e, ls, .setting he, Or.inl hescapes⟩
  | apply _ hsetting happly hescapes => exact ⟨_, _, .apply hsetting happly, Or.inl hescapes⟩

theorem escapes_of_fails (hbasic : r.isBasic = false) (h : Fails s r apply ls e t)
    (hescapes : e.isHandled = false) : Escapes s r apply ls := by
  cases h with
  | setting hsetting => exact .setting hbasic (levelled_escapes.mp ⟨e, hsetting, hescapes⟩)
  | apply hsetting happly => exact .apply hbasic hsetting happly hescapes

/-- Each of the listed faults leaves the program without logging. -/
theorem setUp_fails (h : Escapes s r apply ls) :
    ∃ e t, (setUp s r apply).run.run ls = (.error e, t) := by
  cases hbasic : r.isBasic with
  | true =>
    cases h with
    | level hlevel =>
      obtain ⟨e, t, hend⟩ := basic_fails hlevel ls
      refine ⟨e, t, ?_⟩
      rw [setUp_of_isBasic hbasic, run_bind, hend]
    | setting hnot => exact nomatch hbasic.symm.trans hnot
    | apply hnot => exact nomatch hbasic.symm.trans hnot
  | false =>
    obtain ⟨e, t, hfails, hwhy⟩ := fails_of_escapes h
    rw [setUp_of_setting hbasic, ofSetting_of_fails hfails]
    dsimp only
    split_ifs with hhandled
    · rcases hwhy with hescapes | hlevel
      · rw [hhandled] at hescapes
        contradiction
      · obtain ⟨cause, u, hend⟩ := fallBack_fails hlevel e t
        refine ⟨cause, u, ?_⟩
        rw [run_map, hend]
    · exact ⟨e, t, rfl⟩

/-- All other faults are handled: logging is set up, by the setting or the basic way. -/
theorem setUp_succeeds (h : ¬Escapes s r apply ls) :
    ∃ told t, (setUp s r apply).run.run ls = (.ok told, t) ∧ IsSetUp s r apply ls told t := by
  have hlevel : ¬Misnamed r.levelName := mt .level h
  cases hbasic : r.isBasic with
  | true =>
    refine ⟨none, ls.withBasic r.levelName, ?_, .basic hbasic⟩
    rw [setUp_of_isBasic hbasic, run_bind, basic_returns hlevel]
    rfl
  | false =>
    rcases ofSetting_cases s r apply ls with ⟨p, entries, t, hsetting, happly, hset⟩ | ⟨e, t, hfails⟩
    · refine ⟨some (appliedRecord p), t, ?_, .applied hbasic hsetting happly⟩
      rw [setUp_of_setting hbasic, hset]
    · have hhandled : e.isHandled = true := by
        by_contra hescapes
        exact h (escapes_of_fails hbasic hfails (Bool.eq_false_iff.mpr hescapes))
      refine ⟨some (fallBackRecord r.levelName e), t.withBasic r.levelName, ?_, .fallBack hbasic hfails⟩
      rw [setUp_of_setting hbasic, ofSetting_of_fails hfails]
      dsimp only
      rw [if_pos hhandled, run_map, fallBack_returns hlevel]

/-- Logging is set up if and only if nothing of a few things is wrong: the level has the name of
something that is none, the setting is unusable, or applying it fails in a way that is not foreseen. If
it is set up, the setting has been applied or basic logging is in force, at the level that is asked for
or that of information for a name of none. -/
theorem setUp_falls_back (s : Surroundings) (r : Request) (apply : Shared → Setup Unit)
    (ls : Loggers) :
    ((∃ told t, (setUp s r apply).run.run ls = (.ok told, t)) ↔ ¬Escapes s r apply ls) ∧
    ∀ told t, (setUp s r apply).run.run ls = (.ok told, t) → IsSetUp s r apply ls told t := by
  have hnot : ∀ told t, (setUp s r apply).run.run ls = (.ok told, t) → ¬Escapes s r apply ls := by
    intro told t hend hescapes
    obtain ⟨e, u, hfails⟩ := setUp_fails hescapes
    exact nomatch (Prod.mk.inj (hend.symm.trans hfails)).1
  constructor
  · constructor
    · intro h
      obtain ⟨told, t, hend⟩ := h
      exact hnot told t hend
    · intro h
      obtain ⟨told, t, hend, -⟩ := setUp_succeeds h
      exact ⟨told, t, hend⟩
  · intro told t hend
    obtain ⟨told', t', hend', hset⟩ := setUp_succeeds (hnot told t hend)
    obtain ⟨hsame, rfl⟩ := Prod.mk.inj (hend.symm.trans hend')
    obtain rfl := Except.ok.inj hsame
    exact hset

/-- Settings are applied without a fault that is not foreseen. -/
theorem escapes_apply : Escapes s r Shared.apply ls ↔
    Misnamed r.levelName ∨ r.isBasic = false ∧ Unusable s r := by
  constructor
  · intro h
    cases h with
    | level hlevel => exact Or.inl hlevel
    | setting hbasic hunusable => exact Or.inr ⟨hbasic, hunusable⟩
    | apply _ _ happly hescapes =>
      rw [Setting.handles_apply _ _ _ _ happly] at hescapes
      contradiction
  · intro h
    rcases h with hlevel | ⟨hbasic, hunusable⟩
    · exact .level hlevel
    · exact .setting hbasic hunusable

end

def plainSurroundings : Surroundings := { files := {}, dir := .root }

def loudRequest : Request := { level := some "loud" }

theorem given_loudRequest : Packaged.given loudRequest.level = some "loud" := by decide +kernel

theorem number?_loudRequest : Level.number? (Level.upperName "loud") = none := by decide +kernel

theorem not_escapes_loud : ¬Escapes plainSurroundings loudRequest Shared.apply .initial := by
  have hfound : Packaged.files.look Packaged.directory (Path.ofString (Packaged.meant none none none)) ≠
      .error .nameTooLong := by decide +kernel
  rw [escapes_apply]
  intro h
  rcases h with hlevel | ⟨-, hunusable⟩
  · exact absurd hlevel (by decide +kernel)
  · cases hunusable with
    | name _ hlook => exact hfound hlook
    | content hfile => exact nomatch hfile
    | shape hlevel hnumber =>
      rw [given_loudRequest] at hlevel
      rw [← Option.some.inj hlevel, number?_loudRequest] at hnumber
      exact nomatch hnumber

/-- No level is called so: basic logging is in force at the level of information. -/
theorem setUp_falls_back_loud : ∃ told t,
    (setUp plainSurroundings loudRequest).run.run .initial = (.ok (some told), t) ∧
      told.level = .warning ∧ t.root.handlers = [basicHandler] ∧ t.root.level = Level.info.number := by
  obtain ⟨hiff, hset⟩ := setUp_falls_back plainSurroundings loudRequest Shared.apply .initial
  obtain ⟨told, t, hend⟩ := hiff.mpr not_escapes_loud
  have hnumber : numberOr loudRequest.levelName = Level.info.number := by decide +kernel
  cases hset told t hend with
  | applied _ hsetting =>
    obtain ⟨e, he⟩ := levelled_of_unknown given_loudRequest number?_loudRequest
    exact nomatch hsetting.symm.trans he
  | basic hbasic => exact nomatch hbasic
  | fallBack _ hfails => exact ⟨_, _, hend, rfl, rfl, hnumber⟩

/-- The name of a level that is the name of a format: not even basic logging is set up. -/
theorem setUp_fails_basicFormat : ¬∃ told t,
    (setUp plainSurroundings { level := some "basic_format" }).run.run .initial = (.ok told, t) := by
  intro h
  obtain ⟨told, t, hend⟩ := h
  have hescapes : Escapes plainSurroundings { level := some "basic_format" } Shared.apply .initial :=
    .level (by decide +kernel)
  obtain ⟨e, u, hfails⟩ := setUp_fails hescapes
  exact nomatch (Prod.mk.inj (hend.symm.trans hfails)).1

end TypeGuards.Logging
