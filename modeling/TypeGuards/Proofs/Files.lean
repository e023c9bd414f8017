import Mathlib.Tactic.SplitIfs
import TypeGuards.Files
import TypeGuards.Proofs.Sequence
/-!
What actions do to a tree of files. They only add to it: what is a directory stays one, and what is a
file stays a file, so a path that leads to a place leads there ever after. Storing a file changes that
file alone.
-/
namespace TypeGuards

namespace Path

def root : Path := .ofString "/"

/-- A path and all names on it are short enough for a file system. -/
structure IsShort (p : Path) : Prop where
  whole : p.toString.utf8ByteSize < Files.pathBound
  names : ∀ name ∈ p.steps, name.utf8ByteSize ≤ Files.longestName

structure Begins (a p : Path) : Prop where
  slashes : a.slashes = p.slashes
  steps : a.steps <+: p.steps

structure IsAncestor (a p : Path) : Prop extends Begins a p where
  shorter : a.steps.length < p.steps.length

theorem Begins.refl (p : Path) : p.Begins p := ⟨rfl, List.prefix_rfl⟩

theorem Begins.of_parent {a p : Path} (h : a.Begins p.parent) : a.Begins p :=
  ⟨h.slashes, h.steps.trans (List.dropLast_prefix p.steps)⟩

theorem IsAncestor.of_begins_parent {a p : Path} (h : a.Begins p.parent) (hp : p.steps ≠ []) :
    a.IsAncestor p := by
  have hlength := h.steps.length_le
  have hpos := List.length_pos_iff.mpr hp
  simp only [parent, List.length_dropLast] at hlength
  exact ⟨h.of_parent, by omega⟩

end Path

namespace Files

variable {fs : Files} {dir p : Path}

def file? (fs : Files) (dir p : Path) : Option (List UInt8) :=
  match fs.look dir p with
  | .ok (.file bytes) => some bytes
  | _ => none

/-- It can be told whether a path leads to a file. -/
def Testable (fs : Files) (dir p : Path) : Prop := fs.look dir p ≠ .error .nameTooLong

theorem testable_of_file? {bytes : List UInt8} (h : fs.file? dir p = some bytes) :
    fs.Testable dir p := by
  unfold file? at h
  intro hlong
  rw [hlong] at h
  contradiction

theorem isFile_eq (h : fs.Testable dir p) : fs.isFile dir p = .ok (fs.file? dir p).isSome := by
  unfold Testable at h
  unfold isFile leadsTo file?
  rcases hlook : fs.look dir p with fault | _ | _
  · rw [hlook] at h
    cases fault with
    | nameTooLong => exact absurd rfl h
    | _ => rfl
  · rfl
  · rfl

/-- A file is opened unless it refuses. -/
theorem opened_of_file? {bytes : List UInt8} (h : fs.file? dir p = some bytes) :
    fs.opened dir p = match fs.refusal? dir p with
      | none => .ok (.ok bytes)
      | some r => if r.isShut then .error ⟨.refused r, p⟩ else .ok (.error ⟨.refused r, p⟩) := by
  unfold file? at h
  unfold opened
  split at h
  · rename_i found hfound
    rewrite [hfound, Option.some.inj h]
    rfl
  · contradiction

/-- A file that refuses is there, but cannot be read. -/
theorem read_of_refusal {bytes : List UInt8} {r : Refusal} (h : fs.file? dir p = some bytes)
    (hrefusal : fs.refusal? dir p = some r) : fs.read dir p = .error ⟨.refused r, p⟩ := by
  rw [read, opened_of_file? h, hrefusal]
  dsimp only
  split_ifs <;> rfl

theorem read_of_look {fault : AccessFault} (h : fs.look dir p = .error fault) :
    fs.read dir p = .error ⟨fault, p⟩ := by
  rw [read, opened, h]
  rfl

theorem read_of_directory (h : fs.look dir p = .ok .directory) :
    fs.read dir p = .error ⟨.isDirectory, p⟩ := by
  rw [read, opened, h]
  rfl

/-- A file is read if it is there and does not refuse. -/
theorem read_eq_ok {bytes : List UInt8} : fs.read dir p = .ok bytes ↔
    fs.file? dir p = some bytes ∧ fs.refusal? dir p = none := by
  cases hfile : fs.file? dir p with
  | none =>
    unfold file? at hfile
    rcases hlook : fs.look dir p with _ | _ | _
    · simp [read_of_look hlook]
    · rw [hlook] at hfile
      contradiction
    · simp [read_of_directory hlook]
  | some content =>
    cases hrefusal : fs.refusal? dir p with
    | none => simp [read, opened_of_file? hfile, hrefusal, bind, Except.bind]
    | some r => simp [read_of_refusal hfile hrefusal]

/-! ### Entries -/

variable {fs' fs'' : Files} {goal q : List String} {bytes : List UInt8} {e : Entry}

theorem lookup_putEntry {entries : List (List String × Entry)} :
    (putEntry goal e entries).lookup q = if q = goal then some e else entries.lookup q := by
  induction entries with
  | nil => rw [putEntry, lookup_cons]
  | cons first rest ih =>
    obtain ⟨r, old⟩ := first
    rw [putEntry]
    by_cases hr : r = goal
    · rw [if_pos hr, lookup_cons, lookup_cons, hr]
      by_cases h : q = goal <;> simp [h]
    · rw [if_neg hr, lookup_cons, lookup_cons, ih]
      by_cases h : q = r
      · simp [h, hr]
      · simp [h]

/-- A change at one place leaves all others alone. -/
theorem entry?_put (h : goal ≠ []) :
    Files.entry? (fs.put goal e) q = if q = goal then some e else fs.entry? q := by
  unfold entry? put
  by_cases hroot : q = []
  · rw [if_pos hroot, if_pos hroot, if_neg (by rw [hroot]; exact Ne.symm h)]
  · rw [if_neg hroot, if_neg hroot]
    exact lookup_putEntry

theorem ne_nil_of_entry (h : fs.entry? goal ≠ some .directory) : goal ≠ [] := by
  rintro rfl
  exact h rfl

/-- What is a directory stays one, what is a file stays a file, and what refuses goes on to do so. -/
structure Grows (fs fs' : Files) : Prop where
  directory : ∀ q, fs.entry? q = some .directory → fs'.entry? q = some .directory
  file : ∀ q bytes, fs.entry? q = some (.file bytes) → ∃ bytes', fs'.entry? q = some (.file bytes')
  refusals : fs'.refusals = fs.refusals

structure Adds (fs fs' : Files) : Prop where
  entry : ∀ q e, fs.entry? q = some e → fs'.entry? q = some e
  refusals : fs'.refusals = fs.refusals

theorem Adds.refl (fs : Files) : fs.Adds fs := ⟨fun _ _ h => h, rfl⟩

theorem Adds.trans (h : fs.Adds fs') (h' : fs'.Adds fs'') : fs.Adds fs'' :=
  ⟨fun q e hq => h'.entry q e (h.entry q e hq), h'.refusals.trans h.refusals⟩

theorem Adds.grows (h : fs.Adds fs') : fs.Grows fs' :=
  ⟨fun q hq => h.entry q _ hq, fun q bytes hq => ⟨bytes, h.entry q _ hq⟩, h.refusals⟩

theorem Grows.refl (fs : Files) : fs.Grows fs := (Adds.refl fs).grows

theorem Grows.trans (h : fs.Grows fs') (h' : fs'.Grows fs'') : fs.Grows fs'' := by
  refine ⟨fun q hq => h'.directory q (h.directory q hq), fun q bytes hq => ?_,
    h'.refusals.trans h.refusals⟩
  obtain ⟨bytes', hq'⟩ := h.file q bytes hq
  exact h'.file q bytes' hq'

/-- One step of the way through the directories. -/
theorem follow_cons (h : fs.entry? goal = some .directory) {step : String} {rest : List String} :
    fs.follow goal (step :: rest) =
      if step = ".." then fs.follow goal.dropLast rest
      else if longestName < step.utf8ByteSize then .error .nameTooLong
      else fs.follow (goal ++ [step]) rest := by
  rw [follow, h]

theorem entry?_of_follow_cons {here : List String} {step : String} {rest : List String}
    (h : fs.follow here (step :: rest) = .ok goal) : fs.entry? here = some .directory := by
  rw [follow] at h
  split at h
  · contradiction
  · contradiction
  · assumption

/-- Ways that could be gone can be gone after files and directories have come. -/
theorem Grows.follow (h : fs.Grows fs') {here steps : List String}
    (hgoal : fs.follow here steps = .ok goal) : fs'.follow here steps = .ok goal := by
  induction steps generalizing here with
  | nil => exact hgoal
  | cons step rest ih =>
    have hhere := entry?_of_follow_cons hgoal
    rw [follow_cons hhere] at hgoal
    rw [follow_cons (h.directory here hhere)]
    split_ifs at hgoal ⊢
    · exact ih hgoal
    · exact ih hgoal

/-- A path leads to the same place after files and directories have come. -/
theorem Grows.place (h : fs.Grows fs') (hgoal : fs.place dir p = .ok goal) :
    fs'.place dir p = .ok goal := by
  unfold Files.place at hgoal ⊢
  simp only at hgoal ⊢
  split_ifs at hgoal ⊢
  · exact h.follow hgoal
  · exact h.follow hgoal

theorem file?_eq_some_iff_entry (h : fs.place dir p = .ok goal) :
    fs.file? dir p = some bytes ↔ fs.entry? goal = some (.file bytes) := by
  unfold file? look
  rw [h]
  rcases hentry : fs.entry? goal with _ | _ | _ <;> simp [bind, Except.bind, hentry]

/-- A file that does not refuse does not do so later. -/
theorem Grows.refusal? (h : fs.Grows fs') (hgoal : fs.place dir p = .ok goal) :
    fs'.refusal? dir p = fs.refusal? dir p := by
  rw [Files.refusal?, Files.refusal?, h.place hgoal, hgoal, h.refusals]

theorem exists_place_of_file? (h : fs.file? dir p = some bytes) : ∃ goal, fs.place dir p = .ok goal := by
  unfold file? look at h
  cases hplace : fs.place dir p with
  | error fault =>
    rw [hplace] at h
    contradiction
  | ok goal => exact ⟨goal, rfl⟩

/-! ### Making directories and storing files -/

theorem adds_put (h : fs.entry? goal = none) : fs.Adds (fs.put goal e) := by
  refine ⟨fun q old hq => ?_, rfl⟩
  have hne : goal ≠ [] := ne_nil_of_entry (by rw [h]; simp)
  have hother : q ≠ goal := by
    rintro rfl
    rw [h] at hq
    contradiction
  rwa [entry?_put hne, if_neg hother]

/-- A directory is made where nothing is. -/
theorem makeDirectory_spec (h : fs.makeDirectory dir p = .ok fs') : ∃ goal,
    fs.place dir p = .ok goal ∧ fs.entry? goal = none ∧ fs' = fs.put goal .directory := by
  unfold makeDirectory at h
  split at h
  · contradiction
  · rename_i goal hgoal
    split at h
    · contradiction
    · rename_i hnone
      exact ⟨goal, hgoal, hnone, (Except.ok.inj h).symm⟩

theorem makeDirectory_adds (h : fs.makeDirectory dir p = .ok fs') : fs.Adds fs' := by
  obtain ⟨goal, -, hnone, rfl⟩ := makeDirectory_spec h
  exact adds_put hnone

/-- Making directories takes nothing away, even where it fails. -/
theorem makeDirectories_adds (fs : Files) (dir p : Path) : fs.Adds (fs.makeDirectories dir p).2 := by
  fun_induction makeDirectories fs dir p with
  | case1 p made hmade => exact makeDirectory_adds hmade
  | case2 p path hmissing hroot => exact Adds.refl fs
  | case3 p path hmissing hroot e made hparent ih =>
    rw [hparent] at ih
    exact ih
  | case4 p path hmissing hroot done made hparent made' hmade ih =>
    rw [hparent] at ih
    exact ih.trans (makeDirectory_adds hmade)
  | case5 p path hmissing hroot done made hparent e hpresent ih =>
    rw [hparent] at ih
    exact ih
  | case6 p e hother hfailed => exact Adds.refl fs

/-- A place where something has changed is that of a new directory, to which a beginning of a path
leads. -/
structure MadeFor (fs fs' : Files) (dir p : Path) (q : List String) : Prop where
  before : fs.entry? q = none
  after : fs'.entry? q = some .directory
  path : ∃ a : Path, a.Begins p ∧ fs'.place dir a = .ok q

theorem MadeFor.adds (h : MadeFor fs fs' dir p q) (hadds : fs'.Adds fs'') : MadeFor fs fs'' dir p q := by
  obtain ⟨a, hbegins, hplace⟩ := h.path
  exact ⟨h.before, hadds.entry q _ h.after, a, hbegins, hadds.grows.place hplace⟩

theorem MadeFor.of_parent (h : MadeFor fs fs' dir p.parent q) : MadeFor fs fs' dir p q := by
  obtain ⟨a, hbegins, hplace⟩ := h.path
  exact ⟨h.before, h.after, a, hbegins.of_parent, hplace⟩

theorem madeFor_of_makeDirectory (h : fs.makeDirectory dir p = .ok fs')
    (hchanged : fs'.entry? q ≠ fs.entry? q) : MadeFor fs fs' dir p q := by
  have hgrows := (makeDirectory_adds h).grows
  obtain ⟨goal, hgoal, hnone, rfl⟩ := makeDirectory_spec h
  have hne : goal ≠ [] := ne_nil_of_entry (by rw [hnone]; simp)
  rw [entry?_put hne] at hchanged
  split_ifs at hchanged with hq
  · subst q
    exact ⟨hnone, by rw [entry?_put hne, if_pos rfl], p, .refl p, hgrows.place hgoal⟩
  · exact absurd rfl hchanged

/-- Only places that the path passes get new directories. -/
theorem madeFor_of_makeDirectories (fs : Files) (dir p : Path)
    (hchanged : Files.entry? (fs.makeDirectories dir p).2 q ≠ fs.entry? q) :
    MadeFor fs (fs.makeDirectories dir p).2 dir p q := by
  fun_induction makeDirectories fs dir p with
  | case1 p made hmade => exact madeFor_of_makeDirectory hmade hchanged
  | case2 p path hmissing hroot => exact absurd rfl hchanged
  | case3 p path hmissing hroot e made hparent ih =>
    rw [hparent] at ih
    exact (ih hchanged).of_parent
  | case4 p path hmissing hroot done made hparent made' hmade ih =>
    rw [hparent] at ih
    -- The change was made either for the directory it lies in or, after that, for itself.
    by_cases hparents : made.entry? q = fs.entry? q
    · have hlast := madeFor_of_makeDirectory hmade (by rwa [hparents])
      exact ⟨hparents ▸ hlast.before, hlast.after, hlast.path⟩
    · exact (ih hparents).of_parent.adds (makeDirectory_adds hmade)
  | case5 p path hmissing hroot done made hparent e hpresent ih =>
    rw [hparent] at ih
    exact (ih hchanged).of_parent
  | case6 p e hother hfailed => exact absurd rfl hchanged

def HasDirectory (fs : Files) (dir p : Path) : Prop :=
  ∃ goal, fs.place dir p = .ok goal ∧ fs.entry? goal = some .directory

theorem HasDirectory.grows (h : fs.HasDirectory dir p) (hgrows : fs.Grows fs') :
    fs'.HasDirectory dir p := by
  obtain ⟨goal, hgoal, hentry⟩ := h
  exact ⟨goal, hgrows.place hgoal, hgrows.directory goal hentry⟩

theorem unlessDirectory_eq_ok {cause : AccessError} :
    fs.unlessDirectory dir p cause = .ok () ↔ fs.HasDirectory dir p := by
  unfold unlessDirectory isDirectory leadsTo look HasDirectory
  rcases hplace : fs.place dir p with fault | goal
  · cases fault <;> simp [bind, Except.bind]
  · rcases hentry : fs.entry? goal with _ | _ | _ <;>
      simp [bind, Except.bind, pure, Except.pure, hentry]

theorem hasDirectory_of_makeDirectory (h : fs.makeDirectory dir p = .ok fs') :
    fs'.HasDirectory dir p := by
  have hgrows := (makeDirectory_adds h).grows
  obtain ⟨goal, hgoal, hnone, rfl⟩ := makeDirectory_spec h
  have hne : goal ≠ [] := ne_nil_of_entry (by rw [hnone]; simp)
  exact ⟨goal, hgrows.place hgoal, by rw [entry?_put hne, if_pos rfl]⟩

/-- A directory that has been made is there. -/
theorem hasDirectory_of_makeDirectories : (fs.makeDirectories dir p).1 = .ok () →
    (fs.makeDirectories dir p).2.HasDirectory dir p := by
  fun_cases makeDirectories fs dir p with
  | case1 made hmade => exact fun _ => hasDirectory_of_makeDirectory hmade
  | case2 path hmissing hroot => exact nofun
  | case3 path hmissing hroot e made hparent => exact nofun
  | case4 path hmissing hroot done made hparent made' hmade =>
    exact fun _ => hasDirectory_of_makeDirectory hmade
  | case5 path hmissing hroot done made hparent e hpresent => exact unlessDirectory_eq_ok.mp
  | case6 e hother hfailed => exact unlessDirectory_eq_ok.mp

/-- Nothing is made where a directory is there. -/
theorem makeDirectories_of_hasDirectory (h : fs.HasDirectory dir p) :
    fs.makeDirectories dir p = (.ok (), fs) := by
  have hpresent : fs.makeDirectory dir p = .error ⟨.present, p⟩ := by
    obtain ⟨goal, hgoal, hentry⟩ := h
    rw [makeDirectory, hgoal]
    simp only [hentry]
  unfold makeDirectories
  rw [hpresent]
  simp only [unlessDirectory_eq_ok.mpr h]

/-- Writing puts the bytes at the end of the path and changes nothing else. -/
theorem write_spec (h : fs.write dir p bytes = .ok fs') : ∃ goal,
    fs.place dir p = .ok goal ∧ fs.Grows fs' ∧ fs'.entry? goal = some (.file bytes) ∧
      ∀ q ≠ goal, fs'.entry? q = fs.entry? q := by
  unfold write at h
  split at h
  · contradiction
  · rename_i goal hgoal
    split at h
    · contradiction
    · contradiction
    · rename_i _ hentry
      obtain rfl := Except.ok.inj h
      have hput : ∀ q, Files.entry? (fs.put goal (.file bytes)) q =
          if q = goal then some (.file bytes) else fs.entry? q :=
        fun q => entry?_put (ne_nil_of_entry hentry)
      refine ⟨goal, hgoal, ⟨fun q hq => ?_, fun q old hq => ?_, rfl⟩, ?_, fun q hq => ?_⟩
      · rw [hput, if_neg]
        · exact hq
        · rintro rfl
          exact hentry hq
      · by_cases hsame : q = goal
        · exact ⟨bytes, by rw [hput, if_pos hsame]⟩
        · exact ⟨old, by rw [hput, if_neg hsame, hq]⟩
      · rw [hput, if_pos rfl]
      · rw [hput, if_neg hq]

/-- Where a file is written, files do not refuse. -/
theorem refusal?_of_write (h : fs.write dir p bytes = .ok fs') : fs.refusal? dir p = none := by
  unfold write at h
  unfold refusal?
  split at h
  · contradiction
  · rename_i goal hgoal
    split at h
    · contradiction
    · contradiction
    · rename_i hnone _
      simp only [hgoal, hnone]

/-- Storing bytes in a file: its directory is made, the file is emptied, and then it is written. -/
def Stores (fs : Files) (dir p : Path) (bytes : List UInt8) (fs' : Files) : Prop :=
  ∃ made emptied, fs.makeDirectories dir p.parent = (.ok (), made) ∧
    made.write dir p [] = .ok emptied ∧ emptied.write dir p bytes = .ok fs'

/-- Storing is deterministic. -/
theorem Stores.unique (h : fs.Stores dir p bytes fs') (h' : fs.Stores dir p bytes fs'') :
    fs' = fs'' := by
  obtain ⟨made, emptied, hmade, hemptied, hwritten⟩ := h
  obtain ⟨made', emptied', hmade', hemptied', hwritten'⟩ := h'
  obtain ⟨-, rfl⟩ := Prod.mk.inj (hmade.symm.trans hmade')
  obtain rfl := Except.ok.inj (hemptied.symm.trans hemptied')
  exact Except.ok.inj (hwritten.symm.trans hwritten')

/-- Storing changes the file at the end of the path, and nothing that was there besides. -/
theorem Stores.spec (h : fs.Stores dir p bytes fs') : ∃ goal,
    fs'.place dir p = .ok goal ∧ fs.Grows fs' ∧ fs'.entry? goal = some (.file bytes) ∧
      ∀ q ≠ goal, ∀ e, fs.entry? q = some e → fs'.entry? q = some e := by
  obtain ⟨made, emptied, hmade, hemptied, hwritten⟩ := h
  have hadds : fs.Adds made := by simpa [hmade] using makeDirectories_adds fs dir p.parent
  obtain ⟨goal, hgoal, hgrows, -, hothers⟩ := write_spec hemptied
  obtain ⟨goal', hgoal', hgrows', hfile, hothers'⟩ := write_spec hwritten
  obtain rfl : goal = goal' := Except.ok.inj ((hgrows.place hgoal).symm.trans hgoal')
  refine ⟨goal, hgrows'.place hgoal', (hadds.grows.trans hgrows).trans hgrows', hfile, ?_⟩
  intro q hq e he
  rw [hothers' q hq, hothers q hq]
  exact hadds.entry q e he

theorem Stores.hasDirectory (h : fs.Stores dir p bytes fs') : fs'.HasDirectory dir p.parent := by
  obtain ⟨made, emptied, hmade, hemptied, hwritten⟩ := h
  have hdirectory : made.HasDirectory dir p.parent := by
    have hthere := @hasDirectory_of_makeDirectories fs dir p.parent
    rw [hmade] at hthere
    exact hthere rfl
  obtain ⟨goal, -, hgrows, -⟩ := write_spec hemptied
  obtain ⟨goal', -, hgrows', -⟩ := write_spec hwritten
  exact (hdirectory.grows hgrows).grows hgrows'

/-- A path to a file has a step: without one it would be its own directory. -/
theorem Stores.steps_ne_nil (h : fs.Stores dir p bytes fs') : p.steps ≠ [] := by
  intro hnil
  obtain ⟨goal, hgoal, hdirectory⟩ := h.hasDirectory
  obtain ⟨goal', hgoal', -, hfile, -⟩ := h.spec
  have hself : p.parent = p := by
    refine Path.ext rfl ?_
    rw [Path.steps_parent, hnil, List.dropLast_nil]
  rw [hself] at hgoal
  obtain rfl := Except.ok.inj (hgoal.symm.trans hgoal')
  rw [hdirectory] at hfile
  exact absurd hfile (by simp)

/-- A place that storing a file changes: the path of the file leads there, or a directory was made
there for it. -/
inductive Touched (fs fs' : Files) (dir p : Path) (q : List String) : Prop
  | file {bytes : List UInt8} : fs'.place dir p = .ok q → fs'.entry? q = some (.file bytes) →
      Touched fs fs' dir p q
  | directory {a : Path} : a.IsAncestor p → fs'.place dir a = .ok q → fs.entry? q = none →
      fs'.entry? q = some .directory → Touched fs fs' dir p q

theorem Touched.grows (h : Touched fs fs' dir p q) (hgrows : fs'.Grows fs'') :
    Touched fs fs'' dir p q := by
  cases h with
  | file hplace hentry =>
    obtain ⟨bytes', hentry'⟩ := hgrows.file q _ hentry
    exact .file (hgrows.place hplace) hentry'
  | directory hancestor hplace hbefore hafter =>
    exact .directory hancestor (hgrows.place hplace) hbefore (hgrows.directory q hafter)

theorem Grows.entry?_eq_none (h : fs.Grows fs') (hnone : fs'.entry? q = none) :
    fs.entry? q = none := by
  rcases hentry : fs.entry? q with _ | bytes | _
  · rfl
  · obtain ⟨bytes', hfile⟩ := h.file q bytes hentry
    rw [hnone] at hfile
    contradiction
  · rw [h.directory q hentry] at hnone
    contradiction

/-- What storing touches is touched when seen from earlier files, too. -/
theorem Grows.touched (h : fs.Grows fs') (htouched : Touched fs' fs'' dir p q) :
    Touched fs fs'' dir p q := by
  cases htouched with
  | file hplace hentry => exact .file hplace hentry
  | directory hancestor hplace hbefore hafter =>
    exact .directory hancestor hplace (h.entry?_eq_none hbefore) hafter

/-- Every place that storing changes is accounted for. -/
theorem Stores.touched (h : fs.Stores dir p bytes fs') (hchanged : fs'.entry? q ≠ fs.entry? q) :
    Touched fs fs' dir p q := by
  have hsteps := h.steps_ne_nil
  obtain ⟨made, emptied, hmade, hemptied, hwritten⟩ := h
  obtain ⟨goal, hgoal, hgrows, -, hothers⟩ := write_spec hemptied
  obtain ⟨goal', hgoal', hgrows', hfile, hothers'⟩ := write_spec hwritten
  obtain rfl : goal = goal' := Except.ok.inj ((hgrows.place hgoal).symm.trans hgoal')
  by_cases hq : q = goal
  · subst q
    exact .file (hgrows'.place hgoal') hfile
  · have hsame : fs'.entry? q = made.entry? q := by rw [hothers' q hq, hothers q hq]
    have hmadeFor := @madeFor_of_makeDirectories q fs dir p.parent
    rw [hmade] at hmadeFor
    rw [hsame] at hchanged
    obtain ⟨hbefore, hafter, a, hbegins, hplace⟩ := hmadeFor hchanged
    exact .directory (.of_begins_parent hbegins hsteps) (hgrows'.place (hgrows.place hplace))
      hbefore (hsame.trans hafter)

end Files

end TypeGuards
