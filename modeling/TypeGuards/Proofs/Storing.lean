import TypeGuards.Proofs.Files
/-!
Where a file can be stored. The steps of a path pass places on their way; directories are made where
nothing lies, so all that can be in the way is a file. A path can be written to if its names are short
enough, no file is in its way, and it leads neither to a directory nor to a place that it has passed.
-/
namespace TypeGuards

namespace Path

/-- A path that can be asked for: it is short, and without the character that ends a text. -/
structure IsValid (p : Path) : Prop extends IsShort p where
  noNull : Char.ofNat 0 ∉ p.toString.toList

theorem exists_intercalate_dropLast (steps : List String) : ∃ rest,
    String.intercalate "/" steps = String.intercalate "/" steps.dropLast ++ rest := by
  induction steps with
  | nil => exact ⟨"", by simp⟩
  | cons a steps ih =>
    rcases steps with _ | ⟨b, steps⟩
    · exact ⟨a, by simp⟩
    · obtain ⟨rest, hrest⟩ := ih
      rw [String.intercalate_cons_cons, hrest, List.dropLast_cons_cons]
      rcases hlast : (b :: steps).dropLast with _ | ⟨c, more⟩
      · exact ⟨"/" ++ rest, by simp [String.append_assoc]⟩
      · exact ⟨rest, by rw [String.intercalate_cons_cons, String.append_assoc, String.append_assoc,
          String.append_assoc]⟩

theorem toString_of_steps {p : Path} (h : p.steps ≠ []) : p.toString =
    String.ofList (List.replicate p.slashes '/') ++ String.intercalate "/" p.steps := by
  have hempty : p.steps.isEmpty = false := by simpa using h
  simp [toString, hempty]

theorem toString_parent {p : Path} (h : p.steps ≠ []) : p.parent.toString = "." ∨
    ∃ rest, p.toString = p.parent.toString ++ rest := by
  by_cases hbare : p.slashes = 0 ∧ p.steps.dropLast = []
  · left
    simp [toString, parent, hbare]
  · right
    obtain ⟨rest, hrest⟩ := exists_intercalate_dropLast p.steps
    refine ⟨rest, ?_⟩
    rw [toString_of_steps h, hrest, ← String.append_assoc]
    congr 1
    unfold toString parent
    rw [if_neg]
    simpa using hbare

/-- The directory of a path that can be asked for can be asked for. -/
theorem IsValid.parent {p : Path} (h : p.IsValid) (hp : p.steps ≠ []) : p.parent.IsValid := by
  have hnames : ∀ name ∈ p.parent.steps, name.utf8ByteSize ≤ Files.longestName :=
    fun name hname => h.names name (List.dropLast_subset p.steps hname)
  rcases toString_parent hp with hdot | ⟨rest, hrest⟩
  · exact ⟨⟨by rw [hdot]; decide, hnames⟩, by rw [hdot]; decide⟩
  · have hwhole := h.whole
    have hnull := h.noNull
    rw [hrest, String.utf8ByteSize_append] at hwhole
    rw [hrest, String.toList_append] at hnull
    exact ⟨⟨by omega, hnames⟩, fun hmem => hnull (List.mem_append_left _ hmem)⟩

end Path

namespace Files

variable {fs fs' : Files} {dir p : Path} {here steps goal q : List String}

/-! ### The way of a path -/

def advance (here : List String) (step : String) : List String :=
  if step = ".." then here.dropLast else here ++ [step]

def passed (here : List String) : List String → List (List String)
  | [] => []
  | step :: rest => here :: passed (advance here step) rest

/-- Where steps lead if nothing is in their way. -/
def destination (here steps : List String) : List String := steps.foldl advance here

theorem passed_append (here steps more : List String) :
    passed here (steps ++ more) = passed here steps ++ passed (destination here steps) more := by
  induction steps generalizing here with
  | nil => rfl
  | cons step rest ih =>
    rw [List.cons_append, passed, passed, ih, List.cons_append]
    rfl

theorem passed_concat (here steps : List String) (last : String) :
    passed here (steps ++ [last]) = passed here steps ++ [destination here steps] :=
  passed_append here steps [last]

def start (dir p : Path) : List String := if p.isAbsolute then [] else dir.steps

theorem start_parent (dir p : Path) : start dir p.parent = start dir p := rfl

theorem follow_cons_directory (h : fs.entry? here = some .directory) {step : String}
    (hname : step.utf8ByteSize ≤ longestName) :
    fs.follow here (step :: steps) = fs.follow (advance here step) steps := by
  rw [follow_cons h]
  unfold advance
  split_ifs with hup hlong
  · rfl
  · omega
  · rfl

/-- Steps lead somewhere exactly if they pass directories only and no name is too long. -/
theorem follow_eq_ok : fs.follow here steps = .ok goal ↔
    (∀ v ∈ passed here steps, fs.entry? v = some .directory) ∧
      (∀ name ∈ steps, name.utf8ByteSize ≤ longestName) ∧ goal = destination here steps := by
  induction steps generalizing here with
  | nil => simp [follow, passed, destination, eq_comm]
  | cons step rest ih =>
    rw [passed, List.forall_mem_cons, List.forall_mem_cons]
    have hdestination : destination here (step :: rest) = destination (advance here step) rest := rfl
    constructor
    · intro h
      have hhere := entry?_of_follow_cons h
      have hname : step.utf8ByteSize ≤ longestName := by
        rw [follow_cons hhere] at h
        split_ifs at h with hup hlong
        · rw [hup]
          decide
        · omega
      rw [follow_cons_directory hhere hname, ih] at h
      exact ⟨⟨hhere, h.1⟩, ⟨hname, h.2.1⟩, h.2.2⟩
    · rintro ⟨⟨hhere, hpassed⟩, ⟨hname, hnames⟩, hgoal⟩
      rw [follow_cons_directory hhere hname, ih]
      exact ⟨hpassed, hnames, hgoal⟩

/-- Where no file is in the way, steps fail for a directory that is missing. -/
theorem follow_eq_missing (hclear : ∀ v ∈ passed here steps, ∀ bytes, fs.entry? v ≠ some (.file bytes))
    (hnames : ∀ name ∈ steps, name.utf8ByteSize ≤ longestName)
    (hgap : ∃ v ∈ passed here steps, fs.entry? v ≠ some .directory) :
    fs.follow here steps = .error .missing := by
  induction steps generalizing here with
  | nil =>
    obtain ⟨v, hv, -⟩ := hgap
    exact absurd hv List.not_mem_nil
  | cons step rest ih =>
    rw [passed, List.forall_mem_cons] at hclear
    rw [List.forall_mem_cons] at hnames
    rcases hhere : fs.entry? here with _ | bytes | _
    · rw [follow, hhere]
    · exact absurd hhere (hclear.1 bytes)
    · obtain ⟨v, hv, hgap⟩ := hgap
      rcases List.mem_cons.mp hv with rfl | hv
      · exact absurd hhere hgap
      · rw [follow_cons_directory hhere hnames.1]
        exact ih hclear.2 hnames.2 ⟨v, hv, hgap⟩

theorem place_of_isValid (h : p.IsValid) : fs.place dir p = fs.follow (start dir p) p.steps := by
  have hnull : p.toString.toList.contains (Char.ofNat 0) = false := by simpa using h.noNull
  have hwhole := h.whole
  unfold place start
  simp only [hnull]
  rw [if_neg (by simp), if_neg (by omega)]

theorem isValid_of_place (h : fs.place dir p = .ok goal) : p.IsValid := by
  unfold place at h
  simp only at h
  split_ifs at h with hnull hwhole
  · have hnames := (follow_eq_ok.mp h).2.1
    exact ⟨⟨by omega, hnames⟩, by simpa using hnull⟩
  · have hnames := (follow_eq_ok.mp h).2.1
    exact ⟨⟨by omega, hnames⟩, by simpa using hnull⟩

/-- A path leads to a place exactly if it can be asked for and passes directories only. -/
theorem place_eq_ok : fs.place dir p = .ok goal ↔ p.IsValid ∧
    (∀ v ∈ passed (start dir p) p.steps, fs.entry? v = some .directory) ∧
      goal = destination (start dir p) p.steps := by
  constructor
  · intro h
    have hvalid := isValid_of_place h
    rw [place_of_isValid hvalid, follow_eq_ok] at h
    exact ⟨hvalid, h.1, h.2.2⟩
  · rintro ⟨hvalid, hpassed, hgoal⟩
    rw [place_of_isValid hvalid, follow_eq_ok]
    exact ⟨hpassed, hvalid.names, hgoal⟩

/-! ### Making the directories of a path -/

def goalOf (dir p : Path) : List String := destination (start dir p) p.steps

def wayOf (dir p : Path) : List (List String) := passed (start dir p) p.steps

theorem wayOf_eq (h : p.steps ≠ []) : wayOf dir p = wayOf dir p.parent ++ [goalOf dir p.parent] := by
  unfold wayOf goalOf
  have hsplit : p.steps = p.parent.steps ++ [p.steps.getLast h] := (List.dropLast_concat_getLast h).symm
  rw [start_parent, hsplit]
  exact passed_concat _ _ _

/-- New directories are on the way to the path, or at its end. -/
theorem MadeFor.mem_way (h : MadeFor fs fs' dir p q) : q ∈ wayOf dir p ∨ q = goalOf dir p := by
  obtain ⟨a, hbegins, hplace⟩ := h.path
  obtain ⟨-, -, rfl⟩ := place_eq_ok.mp hplace
  have hstart : start dir a = start dir p := by
    unfold start Path.isAbsolute
    rw [hbegins.slashes]
  obtain ⟨rest, hrest⟩ := hbegins.steps
  rw [hstart]
  unfold wayOf goalOf
  rw [← hrest]
  cases rest with
  | nil =>
    right
    rw [List.append_nil]
  | cons step rest =>
    left
    rw [passed_append]
    exact List.mem_append_right _ List.mem_cons_self

theorem hasDirectory_iff : fs.HasDirectory dir p ↔ p.IsValid ∧
    (∀ v ∈ wayOf dir p, fs.entry? v = some .directory) ∧
      fs.entry? (goalOf dir p) = some .directory := by
  constructor
  · rintro ⟨goal, hgoal, hentry⟩
    obtain ⟨hvalid, hway, rfl⟩ := place_eq_ok.mp hgoal
    exact ⟨hvalid, hway, hentry⟩
  · rintro ⟨hvalid, hway, hentry⟩
    exact ⟨goalOf dir p, place_eq_ok.mpr ⟨hvalid, hway, rfl⟩, hentry⟩

/-- Once its parent is there, only what is in its place keeps a directory from being made. -/
theorem makeDirectory_eq_error {cause : AccessError} (h : fs.makeDirectory dir p = .error cause)
    (hvalid : p.IsValid) (hway : ∀ v ∈ wayOf dir p, fs.entry? v = some .directory) :
    cause = ⟨.present, p⟩ ∧ fs.entry? (goalOf dir p) ≠ none := by
  have hplace : fs.place dir p = .ok (goalOf dir p) := place_eq_ok.mpr ⟨hvalid, hway, rfl⟩
  unfold makeDirectory at h
  rw [hplace] at h
  simp only at h
  split at h
  · rename_i hentry
    rw [hentry]
    exact ⟨(Except.error.inj h).symm, by simp⟩
  · contradiction

theorem hasDirectory_of_present {cause : AccessError} (h : fs.makeDirectory dir p = .error cause)
    (hvalid : p.IsValid) (hway : ∀ v ∈ wayOf dir p, fs.entry? v = some .directory)
    (hend : ∀ bytes, fs.entry? (goalOf dir p) ≠ some (.file bytes)) : fs.HasDirectory dir p := by
  obtain ⟨-, hsome⟩ := makeDirectory_eq_error h hvalid hway
  refine hasDirectory_iff.mpr ⟨hvalid, hway, ?_⟩
  rcases hentry : fs.entry? (goalOf dir p) with _ | bytes | _
  · exact absurd hentry hsome
  · exact absurd hentry (hend bytes)
  · rfl

/-- Directories can be made where no file is in the way. -/
theorem makeDirectories_of_clear (hvalid : p.IsValid)
    (hclear : ∀ v ∈ wayOf dir p, ∀ bytes, fs.entry? v ≠ some (.file bytes))
    (hend : ∀ bytes, fs.entry? (goalOf dir p) ≠ some (.file bytes)) :
    (fs.makeDirectories dir p).1 = .ok () := by
  fun_induction makeDirectories fs dir p with
  | case1 p made hmade => rfl
  | case2 p path hmissing hroot =>
    have hway : ∀ v ∈ wayOf dir p, fs.entry? v = some .directory := by
      unfold wayOf
      rw [hroot]
      exact fun v hv => absurd hv List.not_mem_nil
    obtain ⟨hpresent, -⟩ := makeDirectory_eq_error hmissing hvalid hway
    exact absurd hpresent (by simp)
  | case3 p path hmissing hroot e made hparent ih =>
    rw [hparent] at ih
    rw [wayOf_eq hroot] at hclear
    exact ih (hvalid.parent hroot) (fun v hv => hclear v (List.mem_append_left _ hv))
      (hclear _ (List.mem_append_right _ List.mem_cons_self))
  | case4 p path hmissing hroot done made hparent made' hmade ih => rfl
  | case5 p path hmissing hroot done made hparent e hpresent ih =>
    -- With its parents made, the way of the path consists of directories.
    have hmade := @hasDirectory_of_makeDirectories fs dir p.parent
    rw [hparent] at hmade
    obtain ⟨-, hway, hlast⟩ := hasDirectory_iff.mp (hmade rfl)
    refine unlessDirectory_eq_ok.mpr (hasDirectory_of_present hpresent hvalid ?_ ?_)
    · rw [wayOf_eq hroot]
      intro v hv
      rcases List.mem_append.mp hv with hv | hv
      · exact hway v hv
      · rw [List.mem_singleton.mp hv]
        exact hlast
    · intro bytes hfile
      have hnew := @madeFor_of_makeDirectories (goalOf dir p) fs dir p.parent
      rw [hparent] at hnew
      by_cases hsame : made.entry? (goalOf dir p) = fs.entry? (goalOf dir p)
      · exact hend bytes (hsame ▸ hfile)
      · have hdirectory := (hnew hsame).after
        simp only [hfile] at hdirectory
        exact absurd hdirectory (by simp)
  | case6 p e hother hfailed =>
    by_cases hgap : ∃ v ∈ wayOf dir p, fs.entry? v ≠ some .directory
    · have hplace : fs.place dir p = .error .missing :=
        (place_of_isValid hvalid).trans (follow_eq_missing hclear hvalid.names hgap)
      unfold makeDirectory at hfailed
      rw [hplace] at hfailed
      exact (hother p (Except.error.inj hfailed).symm).elim
    · have hway : ∀ v ∈ wayOf dir p, fs.entry? v = some .directory := by simpa using hgap
      exact unlessDirectory_eq_ok.mpr (hasDirectory_of_present hfailed hvalid hway hend)

/-! ### Storing a file -/

/-- A file can be stored at the end of a path. -/
structure Accepts (fs : Files) (dir p : Path) : Prop where
  valid : p.IsValid
  named : p.steps ≠ []
  clear : ∀ v ∈ wayOf dir p, ∀ bytes, fs.entry? v ≠ some (.file bytes)
  apart : goalOf dir p ∉ wayOf dir p
  free : fs.entry? (goalOf dir p) ≠ some .directory
  willing : fs.refusals.lookup (goalOf dir p) = none

theorem write_eq_ok_of_place {bytes : List UInt8} (hplace : fs.place dir p = .ok goal)
    (hfree : fs.entry? goal ≠ some .directory) (hwilling : fs.refusals.lookup goal = none) :
    fs.write dir p bytes = .ok (fs.put goal (.file bytes)) := by
  unfold write
  simp only [hplace, hwilling]

theorem willing_of_write {bytes : List UInt8} (h : fs.write dir p bytes = .ok fs')
    (hplace : fs.place dir p = .ok goal) : fs.refusals.lookup goal = none := by
  have hnone := refusal?_of_write h
  rwa [refusal?, hplace] at hnone

/-- What accepts a file can be stored to, whatever the bytes. -/
theorem Accepts.exists_stores (h : fs.Accepts dir p) (bytes : List UInt8) :
    ∃ fs', fs.Stores dir p bytes fs' := by
  have hclear := h.clear
  have hapart := h.apart
  rw [wayOf_eq h.named] at hclear hapart
  have hmade := makeDirectories_of_clear (h.valid.parent h.named)
    (fun v hv => hclear v (List.mem_append_left _ hv))
    (hclear _ (List.mem_append_right _ List.mem_cons_self))
  obtain ⟨-, hway, hlast⟩ := hasDirectory_iff.mp (hasDirectory_of_makeDirectories hmade)
  have hnew := @madeFor_of_makeDirectories (goalOf dir p) fs dir p.parent
  rcases hmakes : fs.makeDirectories dir p.parent with ⟨result, made⟩
  rw [hmakes] at hmade hway hlast hnew
  obtain rfl : result = .ok () := hmade
  have hplace : made.place dir p = .ok (goalOf dir p) := by
    refine place_eq_ok.mpr ⟨h.valid, fun v hv => ?_, rfl⟩
    have hv : v ∈ wayOf dir p.parent ++ [goalOf dir p.parent] := wayOf_eq h.named ▸ hv
    rcases List.mem_append.mp hv with hv | hv
    · exact hway v hv
    · rw [List.mem_singleton.mp hv]
      exact hlast
  -- A directory that was made lies on the way, and the path ends elsewhere.
  have hfree : made.entry? (goalOf dir p) ≠ some .directory := by
    intro hdirectory
    have hchanged : made.entry? (goalOf dir p) ≠ fs.entry? (goalOf dir p) := by
      rw [hdirectory]
      exact h.free.symm
    rcases (hnew hchanged).mem_way with hpassed | hpassed
    · exact hapart (List.mem_append_left _ hpassed)
    · exact hapart (List.mem_append_right _ (List.mem_singleton.mpr hpassed))
  have hwilling : made.refusals.lookup (goalOf dir p) = none := by
    have hadds := makeDirectories_adds fs dir p.parent
    rw [hmakes] at hadds
    rw [hadds.refusals, h.willing]
  have hemptied := @write_eq_ok_of_place made dir p (goalOf dir p) [] hplace hfree hwilling
  have hne := ne_nil_of_entry hfree
  obtain ⟨goal, hgoal, hgrows, -, -⟩ := write_spec hemptied
  refine ⟨_, made, _, hmakes, hemptied, write_eq_ok_of_place (hgrows.place hplace) ?_ hwilling⟩
  rw [entry?_put hne, if_pos rfl]
  simp

/-- What has been stored to accepted a file. -/
theorem Stores.accepts {bytes : List UInt8} (h : fs.Stores dir p bytes fs') : fs.Accepts dir p := by
  have hsteps := h.steps_ne_nil
  obtain ⟨made, emptied, hmade, hemptied, -⟩ := h
  have hadds : fs.Adds made := by simpa [hmade] using makeDirectories_adds fs dir p.parent
  obtain ⟨goal, hgoal, -⟩ := write_spec hemptied
  have hwilling := willing_of_write hemptied hgoal
  obtain ⟨hvalid, hway, rfl⟩ := place_eq_ok.mp hgoal
  have hfree : made.entry? (goalOf dir p) ≠ some .directory := by
    intro hdirectory
    unfold write at hemptied
    rw [hgoal] at hemptied
    unfold goalOf at hdirectory
    simp only [hdirectory] at hemptied
    contradiction
  refine ⟨hvalid, hsteps, fun v hv bytes hfile => ?_, fun hmem => hfree (hway _ hmem),
    fun hdirectory => hfree (hadds.entry _ _ hdirectory), hadds.refusals ▸ hwilling⟩
  have hdirectory := hway v hv
  rw [hadds.entry v _ hfile] at hdirectory
  exact absurd hdirectory (by simp)

/-! ### Storing again -/

/-- A path leads to a file that does not refuse, and the directory of the path is there. -/
structure Settled (fs : Files) (dir p : Path) : Prop where
  directory : fs.HasDirectory dir p.parent
  file : ∃ goal bytes, fs.place dir p = .ok goal ∧ fs.entry? goal = some (.file bytes) ∧
    fs.refusals.lookup goal = none

theorem Settled.grows (h : fs.Settled dir p) (hgrows : fs.Grows fs') : fs'.Settled dir p := by
  obtain ⟨goal, bytes, hgoal, hfile, hwilling⟩ := h.file
  obtain ⟨bytes', hfile'⟩ := hgrows.file goal bytes hfile
  exact ⟨h.directory.grows hgrows, goal, bytes', hgrows.place hgoal, hfile', hgrows.refusals ▸ hwilling⟩

/-- A file that has been stored is settled. -/
theorem Stores.settled {bytes : List UInt8} (h : fs.Stores dir p bytes fs') : fs'.Settled dir p := by
  have hdirectory := h.hasDirectory
  obtain ⟨goal, hgoal, hgrows, hfile, -⟩ := h.spec
  have hwilling := h.accepts.willing
  obtain ⟨-, -, rfl⟩ := place_eq_ok.mp hgoal
  exact ⟨hdirectory, _, bytes, hgoal, hfile, hgrows.refusals ▸ hwilling⟩

/-- What was stored can be read. -/
theorem Stores.read {bytes : List UInt8} (h : fs.Stores dir p bytes fs') :
    fs'.read dir p = .ok bytes := by
  have hsettled := h.settled
  obtain ⟨goal, hgoal, -, hfile, -⟩ := h.spec
  obtain ⟨goal', -, hgoal', -, hwilling⟩ := hsettled.file
  obtain rfl := Except.ok.inj (hgoal.symm.trans hgoal')
  refine read_eq_ok.mpr ⟨(file?_eq_some_iff_entry hgoal).mpr hfile, ?_⟩
  rw [refusal?, hgoal]
  exact hwilling

/-- A settled file can be stored again. -/
theorem Settled.exists_stores (h : fs.Settled dir p) (bytes : List UInt8) :
    ∃ fs', fs.Stores dir p bytes fs' := by
  obtain ⟨goal, old, hgoal, hfile, hwilling⟩ := h.file
  have hfree : fs.entry? goal ≠ some .directory := by simp [hfile]
  have hne := ne_nil_of_entry hfree
  have hemptied := @write_eq_ok_of_place fs dir p goal [] hgoal hfree hwilling
  obtain ⟨goal', -, hgrows, -, -⟩ := write_spec hemptied
  have hwritten := @write_eq_ok_of_place _ dir p goal bytes (hgrows.place hgoal)
    (by rw [entry?_put hne, if_pos rfl]; simp) hwilling
  exact ⟨_, fs, _, makeDirectories_of_hasDirectory h.directory, hemptied, hwritten⟩

/-- Where a file is stored again, no directory is made. -/
theorem Settled.frame (h : fs.Settled dir p) {bytes : List UInt8} (hstores : fs.Stores dir p bytes fs')
    (hgoal : fs.place dir p ≠ .ok q) : fs'.entry? q = fs.entry? q := by
  obtain ⟨made, emptied, hmade, hemptied, hwritten⟩ := hstores
  rw [makeDirectories_of_hasDirectory h.directory] at hmade
  obtain ⟨-, rfl⟩ := Prod.mk.inj hmade
  obtain ⟨goal, hplace, hgrows, -, hothers⟩ := write_spec hemptied
  obtain ⟨goal', hplace', -, -, hothers'⟩ := write_spec hwritten
  obtain rfl : goal = goal' := Except.ok.inj ((hgrows.place hplace).symm.trans hplace')
  have hq : q ≠ goal := by
    rintro rfl
    exact hgoal hplace
  rw [hothers' q hq, hothers q hq]

end Files

end TypeGuards
