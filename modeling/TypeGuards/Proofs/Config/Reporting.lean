import TypeGuards.Proofs.Command
import TypeGuards.Proofs.Config.Overriding
import TypeGuards.Proofs.Yaml.File
/-!
Which faults of a configuration file are reported. A file that cannot be opened, one that is no
document and one that states no record are refused as configurations, and the command shows why. A file
that is no text, a document that is nested too deeply and a scalar that is spelled like a value there is
not end the program instead.
-/
namespace TypeGuards

open Encoding

namespace Files

variable {fs : Files} {dir p : Path}

theorem follow_ne_nullInPath {here steps : List String} :
    fs.follow here steps ≠ .error .nullInPath := by
  induction steps generalizing here with
  | nil => simp [follow]
  | cons step rest ih =>
    rw [follow]
    rcases fs.entry? here with _ | _ | _
    · simp
    · simp
    · dsimp only
      split_ifs
      · exact ih
      · simp
      · exact ih

/-- Only a path with a null is refused before it is followed. -/
theorem look_eq_nullInPath : fs.look dir p = .error .nullInPath ↔ Char.ofNat 0 ∈ p.toString.toList := by
  have hplace : fs.place dir p = .error .nullInPath ↔ Char.ofNat 0 ∈ p.toString.toList := by
    unfold place
    simp only [List.contains_iff_mem]
    by_cases hnull : Char.ofNat 0 ∈ p.toString.toList
    · rw [if_pos hnull]
      exact iff_of_true rfl hnull
    rw [if_neg hnull]
    refine iff_of_false ?_ hnull
    by_cases hlong : pathBound ≤ p.toString.utf8ByteSize
    · rw [if_pos hlong]
      exact nofun
    · rw [if_neg hlong]
      exact follow_ne_nullInPath
  rw [← hplace]
  unfold look
  rcases fs.place dir p with fault | goal
  · simp [bind, Except.bind]
  · rcases hentry : fs.entry? goal <;> simp [bind, Except.bind, hentry]

/-- Reading fails for a null character exactly if the path has one. -/
theorem read_eq_nullInPath {e : AccessError} (h : fs.read dir p = .error e) :
    e.fault = .nullInPath ↔ Char.ofNat 0 ∈ p.toString.toList := by
  have hnull : fs.look dir p = .error .nullInPath ↔ Char.ofNat 0 ∈ p.toString.toList :=
    look_eq_nullInPath
  rw [← hnull]
  rcases hlook : fs.look dir p with fault | bytes | _
  · rw [read_of_look hlook] at h
    rw [← Except.error.inj h]
    simp
  · have hfile : fs.file? dir p = some bytes := by rw [file?, hlook]
    cases hrefusal : fs.refusal? dir p with
    | none =>
      rw [read_eq_ok.mpr ⟨hfile, hrefusal⟩] at h
      contradiction
    | some r =>
      rw [read_of_refusal hfile hrefusal] at h
      rw [← Except.error.inj h]
      simp
  · rw [read_of_directory hlook] at h
    rw [← Except.error.inj h]
    simp

end Files

namespace Config

variable {platform : Platform} {fs : Files} {dir p : Path} {file : Option Path}
  {overrides : List (Scalar × Data)} {bytes : List UInt8}

/-! ### Faults that are reported -/

/-- It ends with a value, or it is refused as a configuration. -/
inductive Reports {α : Type} (x : Except Abort α) : Prop
  | value {a : α} : x = .ok a → Reports x
  | refused {message : String} : x = refuse message → Reports x

/-- The faults of a file that are not reported. -/
inductive Escapes [Platform] (fs : Files) (dir p : Path) : Prop
  | null : Char.ofNat 0 ∈ p.toString.toList → Escapes fs dir p
  /-- The file is no text. -/
  | undecodable {bytes : List UInt8} : fs.read dir p = .ok bytes →
      (∀ text, bytes ≠ Utf8.encode text) → Escapes fs dir p
  /-- A scalar of the document has no value of its type. -/
  | scalar {text : List Char} {e : Yaml.ScalarError} : fs.read dir p = .ok (Utf8.encode text) →
      Yaml.load (joinLineEndings text) = .error (.scalar e) → Escapes fs dir p
  /-- The document has more levels than can be gone into. -/
  | tooDeep {text : List Char} : fs.read dir p = .ok (Utf8.encode text) →
      Yaml.load (joinLineEndings text) = .error .tooDeep → Escapes fs dir p

theorem reports_error {α : Type} {e : Abort} :
    Reports (.error e : Except Abort α) ↔ ∃ message, e = .failure (.configuration message) := by
  constructor
  · intro h
    cases h with
    | value hvalue => contradiction
    | refused hrefused => exact ⟨_, Except.error.inj hrefused⟩
  · intro h
    obtain ⟨message, rfl⟩ := h
    exact .refused rfl

/-- What escapes is no failure of any kind. -/
theorem error_of_escapes (h : Escapes fs dir p) :
    ∃ e, loadEntries fs dir p = .error e ∧ ∀ f, e ≠ .failure f := by
  cases h with
  | null hnull =>
    have hread : fs.read dir p = .error ⟨.nullInPath, p⟩ :=
      Files.read_of_look (Files.look_eq_nullInPath.mpr hnull)
    rw [loadEntries, Yaml.loadFile_of_unreadable hread]
    exact ⟨_, if_pos rfl, nofun⟩
  | @undecodable bytes hfile hnever =>
    cases hdecode : Blocks.decode bytes with
    | ok text => exact absurd (Blocks.decode_eq_ok.mp hdecode) (hnever text)
    | error e =>
      rw [loadEntries, Yaml.loadFile_of_undecodable hfile hdecode]
      exact ⟨_, rfl, nofun⟩
  | scalar hfile hload =>
    rw [loadEntries, Yaml.loadFile_of_text hfile, hload]
    exact ⟨_, rfl, nofun⟩
  | tooDeep hfile hload =>
    rw [loadEntries, Yaml.loadFile_of_text hfile, hload]
    exact ⟨_, rfl, nofun⟩

/-- A file fails to be loaded without a report only in the ways that are listed. -/
theorem reports_of_not_escapes (h : ¬Escapes fs dir p) : Reports (loadEntries fs dir p) := by
  have hloads := @Yaml.loads platform fs dir p
  unfold loadEntries
  generalize Yaml.loadFile fs dir p = loaded at hloads ⊢
  cases hloads with
  | unreadable hread =>
    have hfault := mt (Files.read_eq_nullInPath hread).mp (mt Escapes.null h)
    exact .refused (if_neg hfault)
  | undecodable hfile hnever => exact absurd (.undecodable hfile hnever) h
  | @text text hfile =>
    cases hload : Yaml.load (joinLineEndings text) with
    | error e =>
      cases e with
      | malformed => exact .refused rfl
      | scalar e => exact absurd (.scalar hfile hload) h
      | tooDeep => exact absurd (.tooDeep hfile hload) h
    | ok d =>
      dsimp only [Except.mapError, Except.map]
      split
      · exact .value rfl
      · exact .value rfl
      · exact .refused rfl
      all_goals contradiction

/-- The entries of a file are there, or it is reported why not, as long as nothing escapes. -/
theorem loadEntries_reports : Reports (loadEntries fs dir p) ↔ ¬Escapes fs dir p := by
  constructor
  · intro hreports hescapes
    obtain ⟨e, hload, hfailure⟩ := error_of_escapes hescapes
    rw [hload, reports_error] at hreports
    obtain ⟨message, he⟩ := hreports
    exact hfailure _ he
  · exact reports_of_not_escapes

/-- A document that states a record, or nothing at all, as entries. -/
inductive HoldsEntries : Data → List (Scalar × Data) → Prop
  | record {entries : List (Scalar × Data)} : HoldsEntries (.map entries) entries
  | nothing : HoldsEntries (.scalar .null) []

/-- There are entries if and only if the file is a text with a document that states them. -/
theorem loadEntries_eq_ok {entries : List (Scalar × Data)} : loadEntries fs dir p = .ok entries ↔
    ∃ text d, fs.read dir p = .ok (Utf8.encode text) ∧
      Yaml.load (joinLineEndings text) = .ok d ∧ HoldsEntries d.data entries := by
  constructor
  · intro h
    have hloads := @Yaml.loads platform fs dir p
    unfold loadEntries at h
    generalize Yaml.loadFile fs dir p = loaded at hloads h
    cases hloads with
    | unreadable hread =>
      dsimp only [Except.map] at h
      split_ifs at h
      contradiction
    | undecodable => contradiction
    | @text text hfile =>
      cases hload : Yaml.load (joinLineEndings text) with
      | error e =>
        rw [hload] at h
        cases e <;> contradiction
      | ok d =>
        rw [hload] at h
        dsimp only [Except.mapError, Except.map] at h
        refine ⟨text, d, hfile, hload, ?_⟩
        split at h
        · rename_i hnull
          rw [Except.ok.inj hnull, ← Except.ok.inj h]
          exact .nothing
        · rename_i hmap
          rw [Except.ok.inj hmap, ← Except.ok.inj h]
          exact .record
        all_goals contradiction
  · intro h
    obtain ⟨text, d, hfile, hload, hholds⟩ := h
    rw [loadEntries, Yaml.loadFile_of_text hfile, hload]
    dsimp only [Except.mapError, Except.map]
    generalize d.data = value at hholds ⊢
    cases hholds with
    | record => rfl
    | nothing => rfl

/-- Faults that are not reported come from the configuration file alone. -/
theorem fileEntries_reports :
    Reports (fileEntries fs dir file) ↔ ∀ p, file = some p → ¬Escapes fs dir p := by
  cases file with
  | none => exact iff_of_true (.value rfl) (fun _ => nofun)
  | some p =>
    simp only [Option.some.injEq, forall_eq']
    exact loadEntries_reports

theorem build_of_error {e : Abort} (h : fileEntries fs dir file = .error e) :
    build fs dir file overrides = .error e := by
  cases file with
  | none => contradiction
  | some p =>
    have hload : loadEntries fs dir p = .error e := h
    unfold build
    simp only [hload]
    rfl

/-- What overrides a file brings up no other error. -/
theorem build_reports :
    Reports (build fs dir file overrides) ↔ ∀ p, file = some p → ¬Escapes fs dir p := by
  rw [← fileEntries_reports]
  cases hentries : fileEntries fs dir file with
  | error e =>
    rw [build_of_error hentries, reports_error, reports_error]
  | ok m =>
    refine iff_of_true ?_ (.value rfl)
    cases hbuild : build fs dir file overrides with
    | ok c => exact .value rfl
    | error e =>
      obtain ⟨message, rfl⟩ := failure_of_build hentries hbuild
      exact .refused rfl

end Config

namespace Command

open Config

section

variable {platform : Platform} {parser : TypeScript.Parser} {p : Place} {o : Options} {w : World}
  {told : Option Logging.Record} {loggers : Logging.Loggers}

def invalidConfiguration (width : Nat) (reason : String) : List String :=
  Display.framed width "❌ Invalid configuration"
    (Display.wrap (width - 4) {} (Display.dropControls reason.toList))

theorem panel_configuration (width : Nat) (reason : String) :
    Display.panel width (.configuration reason) none = invalidConfiguration width reason := by
  have hrows : ∀ width, Display.labelledLines width [] = [] := by
    intro width
    unfold Display.labelledLines
    dsimp only
    split <;> rfl
  have hpanel : Display.panel width (.configuration reason) none =
      Display.framed width "❌ Invalid configuration"
        (Display.wrap (width - 4) {} (Display.dropControls reason.toList) ++
          Display.labelledLines (width - 4) []) := rfl
  rw [hpanel, hrows, List.append_nil, invalidConfiguration]

/-- The command ends with an invalid configuration: nothing is done, and a panel is printed last. -/
structure Shows (width : Nat) (reason : String) (w : World) (r : Result) (w' : World) : Prop where
  exitCode : r.exitCode = failure
  ended : r.escape = none
  output : r.output = ""
  panel : ∃ before, r.messages = before ++ printed (invalidConfiguration width reason)
  files : w'.files = w.files

/-- Where logging is set up, the command ends as its run does. -/
theorem execute_of_ending {out : Except Abort (List Outcome)} {t : Progress}
    (hset : (Logging.setUp { files := w.files, dir := p.dir, environment := p.environment }
      { level := o.level }).run.run w.loggers = (.ok told, loggers))
    (hend : (generate p.dir o parser).ending { files := w.files } = (out, t)) :
    ∃ before tell, execute p o w parser =
      ({ ending p.width tell out with
          output := t.output, messages := before ++ (ending p.width tell out).messages },
       { files := t.files, loggers }) := by
  have hrun : (generate p.dir o parser).run.run { files := w.files } = (out, t) := hend
  unfold execute
  dsimp only
  rw [hset]
  dsimp only
  rw [hrun]
  exact ⟨_, _, rfl⟩

/-- A configuration that is refused is shown. -/
theorem execute_shows {reason : String}
    (hset : (Logging.setUp { files := w.files, dir := p.dir, environment := p.environment }
      { level := o.level }).run.run w.loggers = (.ok told, loggers))
    (hbuild : build w.files p.dir o.config o.overrides = refuse reason) :
    Shows p.width reason w (execute p o w parser).1 (execute p o w parser).2 := by
  have hend : (generate p.dir o parser).Aborts { files := w.files }
      (.failure (.configuration reason)) { files := w.files } :=
    generate_aborts.mpr (Or.inl ⟨hbuild, rfl⟩)
  obtain ⟨before, tell, hrun⟩ := execute_of_ending hset hend
  rw [hrun]
  refine ⟨rfl, rfl, rfl, ⟨before ++ tell failedRecord, ?_⟩, rfl⟩
  rw [String.append_assoc, ← panel_configuration]
  rfl

/-- An error that is not reported ends the program. -/
theorem execute_escapes {e : Abort}
    (hset : (Logging.setUp { files := w.files, dir := p.dir, environment := p.environment }
      { level := o.level }).run.run w.loggers = (.ok told, loggers))
    (hbuild : build w.files p.dir o.config o.overrides = .error e) (hreports : ∀ f, e ≠ .failure f) :
    (execute p o w parser).1.escape = some (.abort e) := by
  have hend : (generate p.dir o parser).Aborts { files := w.files } e { files := w.files } :=
    generate_aborts.mpr (Or.inl ⟨hbuild, rfl⟩)
  obtain ⟨before, tell, hrun⟩ := execute_of_ending hset hend
  rw [hrun]
  cases e with
  | failure f => exact absurd rfl (hreports f)
  | access | codec | scalar | tooDeep | source => rfl

/-- The entries of a configuration file are there or it is reported why not, and so for a configuration
that is made of them, if and only if the path has no null, the file is a text in UTF-8 as far as there is
one, its document can be gone into as deep as it is nested, and no scalar of it is spelled like a value
that there is not. The entries are those that the document states. Wherever logging is set up, the
command shows what is reported as an invalid configuration, and is ended by what is not. -/
theorem configuration_reported [Platform] (parser : TypeScript.Parser) (p : Place) (o : Options) (w : World) :
    (∀ path, Reports (loadEntries w.files p.dir path) ↔ ¬Escapes w.files p.dir path) ∧
    (∀ path entries, loadEntries w.files p.dir path = .ok entries ↔
      ∃ text d, w.files.read p.dir path = .ok (Utf8.encode text) ∧
        Yaml.load (joinLineEndings text) = .ok d ∧ HoldsEntries d.data entries) ∧
    (∀ file overrides, Reports (build w.files p.dir file overrides) ↔
      ∀ path, file = some path → ¬Escapes w.files p.dir path) ∧
    ∀ told loggers, (Logging.setUp
        { files := w.files, dir := p.dir, environment := p.environment }
        { level := o.level }).run.run w.loggers = (.ok told, loggers) →
      (∀ reason, build w.files p.dir o.config o.overrides = refuse reason →
        Shows p.width reason w (execute p o w parser).1 (execute p o w parser).2) ∧
      ((∃ path, o.config = some path ∧ Escapes w.files p.dir path) →
        ∃ e, (execute p o w parser).1.escape = some (.abort e)) := by
  refine ⟨fun path => loadEntries_reports, fun path entries => loadEntries_eq_ok,
    fun file overrides => build_reports, ?_⟩
  intro told loggers hset
  constructor
  · intro reason hbuild
    exact execute_shows hset hbuild
  · intro hescapes
    obtain ⟨path, hpath, hescapes⟩ := hescapes
    obtain ⟨e, hload, hfailure⟩ := error_of_escapes hescapes
    have hentries : fileEntries w.files p.dir o.config = .error e := by
      rw [hpath]
      exact hload
    exact ⟨e, execute_escapes hset (build_of_error hentries) hfailure⟩

end

def listedFiles : Files :=
  { entries := [(["tsguard.yaml"], .file (Utf8.encode "- encoding\n".toList))] }

def configuredOptions : Options := { config := some (.ofString "tsguard.yaml") }

theorem configuration_reported_list :
    Shows place.width "Invalid configuration format in tsguard.yaml" { files := listedFiles }
      (execute place configuredOptions { files := listedFiles } bareParser).1
      (execute place configuredOptions { files := listedFiles } bareParser).2 := by
  obtain ⟨told, loggers, hset⟩ :=
    Logging.setUp_returns { files := listedFiles, dir := place.dir, environment := place.environment }
  have hbuild : build listedFiles place.dir configuredOptions.config configuredOptions.overrides =
      refuse "Invalid configuration format in tsguard.yaml" := by decide +kernel
  obtain ⟨-, -, -, hcommand⟩ :=
    configuration_reported bareParser place configuredOptions { files := listedFiles }
  exact (hcommand told loggers hset).1 _ hbuild

/-- A dialect that is spelled like a day, which February has not. -/
example : build { entries := [(["tsguard.yaml"], .file (Utf8.encode "dialect: 2024-02-30".toList))] }
    .root (some (.ofString "tsguard.yaml")) [] = .error (.scalar .day) := by decide +kernel

def garbledFiles : Files := { entries := [(["tsguard.yaml"], .file [0xff])] }

theorem configuration_not_reported :
    ¬Reports (loadEntries garbledFiles .root (.ofString "tsguard.yaml")) ∧
      ¬Reports (build garbledFiles .root (some (.ofString "tsguard.yaml")) []) := by
  have hescapes : Escapes garbledFiles .root (.ofString "tsguard.yaml") := by
    have hfile : garbledFiles.read .root (.ofString "tsguard.yaml") = .ok [0xff] := by
      decide +kernel
    refine .undecodable hfile ?_
    intro text htext
    have hnone : (Utf8.decode [0xff]).toOption = none := by decide +kernel
    rw [Utf8.decode_eq_ok.mpr htext] at hnone
    contradiction
  constructor
  · intro h
    exact loadEntries_reports.mp h hescapes
  · intro h
    exact build_reports.mp h _ rfl hescapes

end Command

end TypeGuards
