import TypeGuards.Proofs.Run.Overwriting
/-!
What a run touches. Files only grow, and where they differ after a run a success has its target, or a
directory that its target lies in; so a source without guards leaves its target to the others. With
standard output for a target no file is touched, and what is printed follows the order of the sources.
-/
namespace TypeGuards

open TypeScript (Parser Extracted)

namespace Run

/-- What goes to standard output for a path: nothing unless its interfaces can be extracted, else the
outline if it is asked for, and then the guards if that is where they are written. -/
def printedAt [Platform] (parser : Parser) (c : Config) (dir : Path) (fs : Files) (p : Path) : String :=
  match extractedAt parser c dir fs p with
  | none => ""
  | some found =>
      let guards := if c.writesToStream then guardTextAt parser c dir fs p else none
      shown c p found.module ++ guards.getD ""

variable {platform : Platform} {parser : Parser} {c : Config} {dir p : Path} {fs fs' : Files}
  {a : Account} {accounts : List Account} {paths : List Path} {q : List String}

theorem output_of_failed (h : accountAt parser c dir fs p = .ok a)
    (hfailed : a.outcome.success = false) : a.outcome.output = none := by
  cases accounted h with
  | unextracted _ _ => rfl
  | unguarded _ _ _ => rfl
  | guarded _ _ _ => contradiction

/-- Only a success has something to store, and at its output. -/
theorem stored_of_account (h : accountAt parser c dir fs p = .ok a) {target : Path} {text : String}
    (hstored : a.stored = some (target, text)) :
    a.outcome.success ∧ a.outcome.output = some target := by
  cases accounted h with
  | unextracted _ _ => contradiction
  | unguarded _ _ _ => contradiction
  | guarded _ _ _ =>
    obtain ⟨goal, hgoal, heq⟩ := Option.map_eq_some_iff.mp hstored
    obtain ⟨rfl, -⟩ := Prod.mk.inj heq
    exact ⟨rfl, hgoal⟩

/-- What an account prints is told by the path and the files. -/
theorem printed_of_account (h : accountAt parser c dir fs p = .ok a) :
    a.printed = printedAt parser c dir fs p := by
  unfold printedAt
  cases accounted h with
  | unextracted hextracted _ => rw [hextracted]
  | unguarded hextracted hguards _ =>
    rw [hextracted, hguards]
    simp
  | guarded hextracted hguards _ =>
    rw [hextracted, hguards]
    by_cases hstream : c.writesToStream <;> simp [hstream]

/-! ### All accounts -/

variable {encoding : String}

theorem stores_grows (h : a.Stores dir encoding fs fs') : fs.Grows fs' := by
  unfold Account.Stores at h
  split at h
  · rw [h]
    exact .refl fs
  · obtain ⟨scheme, bytes, -, -, hstores⟩ := h
    obtain ⟨goal, -, hgrows, -⟩ := hstores.spec
    exact hgrows

/-- What storing an account changes is touched by its target. -/
theorem stores_touched (h : a.Stores dir encoding fs fs') (hchanged : fs'.entry? q ≠ fs.entry? q) :
    ∃ target text, a.stored = some (target, text) ∧ Files.Touched fs fs' dir target q := by
  unfold Account.Stores at h
  split at h
  · rw [h] at hchanged
    exact absurd rfl hchanged
  · rename_i target text hstored
    obtain ⟨scheme, bytes, -, -, hstores⟩ := h
    exact ⟨target, text, hstored, hstores.touched hchanged⟩

theorem storeAll_grows (h : StoreAll dir encoding accounts fs fs') : fs.Grows fs' := by
  induction h with
  | nil => exact .refl _
  | cons hfirst _ ih => exact (stores_grows hfirst).trans ih

/-- Whatever has changed in the end was touched for one of the accounts. -/
theorem storeAll_touched (h : StoreAll dir encoding accounts fs fs')
    (hchanged : fs'.entry? q ≠ fs.entry? q) : ∃ a ∈ accounts, ∃ target text,
      a.stored = some (target, text) ∧ Files.Touched fs fs' dir target q := by
  induction h with
  | nil => exact absurd rfl hchanged
  | @cons a rest fs fs₁ fs' hfirst hrest ih =>
    by_cases hlater : fs'.entry? q = fs₁.entry? q
    · rw [hlater] at hchanged
      obtain ⟨target, text, hstored, htouched⟩ := stores_touched hfirst hchanged
      exact ⟨a, List.mem_cons_self, target, text, hstored, htouched.grows (storeAll_grows hrest)⟩
    · obtain ⟨b, hb, target, text, hstored, htouched⟩ := ih hlater
      exact ⟨b, List.mem_cons_of_mem a hb, target, text, hstored,
        (stores_grows hfirst).touched htouched⟩

/-- Accounts with nothing to store leave the files alone. -/
theorem storeAll_of_unstored (h : StoreAll dir encoding accounts fs fs')
    (hnone : ∀ a ∈ accounts, a.stored = none) : fs' = fs := by
  induction h with
  | nil => rfl
  | cons hfirst _ ih =>
    obtain ⟨hstored, hrest⟩ := List.forall_mem_cons.mp hnone
    rw [Account.Stores, hstored] at hfirst
    rw [ih hrest, hfirst]

end Run

open Run

section

variable {platform : Platform} {parser : Parser} {c : Config} {dir : Path} {paths : List Path}
  {s t : Progress} {outcomes : List Outcome} {q : List String}

/-- Every change of a run is due to a success. -/
theorem touched_of_run (h : (run c dir paths parser).Returns s outcomes t)
    (hchanged : t.files.entry? q ≠ s.files.entry? q) : ∃ o ∈ outcomes, o.success ∧ ∃ target,
      o.output = some target ∧ Files.Touched s.files t.files dir target q := by
  obtain ⟨accounts, haccounts, rfl, -, hstores⟩ := run_returns h
  obtain ⟨a, ha, target, text, hstored, htouched⟩ := storeAll_touched hstores hchanged
  obtain ⟨p, -, haccount⟩ := exists_mem_of_mapM_eq_ok haccounts ha
  obtain ⟨hsuccess, houtput⟩ := stored_of_account haccount hstored
  exact ⟨a.outcome, List.mem_map_of_mem ha, hsuccess, target, houtput, htouched⟩

/-- A file that a run has changed is the target of one of its successes. -/
theorem leadsTo_of_changed_file (h : (run c dir paths parser).Returns s outcomes t)
    {bytes : List UInt8} (hfile : t.files.entry? q = some (.file bytes))
    (hchanged : s.files.entry? q ≠ some (.file bytes)) :
    ∃ o ∈ outcomes, o.success ∧ o.LeadsTo t.files dir q := by
  obtain ⟨o, ho, hsuccess, target, houtput, htouched⟩ :=
    touched_of_run h (by rw [hfile]; exact hchanged.symm)
  refine ⟨o, ho, hsuccess, target, houtput, ?_⟩
  cases htouched with
  | file hplace _ => exact hplace
  | directory _ _ _ hdirectory =>
    rw [hfile] at hdirectory
    exact absurd hdirectory (by simp)

/-- A directory that a run has made is on the way to one of its targets. -/
theorem ancestor_of_new_directory (h : (run c dir paths parser).Returns s outcomes t)
    (hdirectory : t.files.entry? q = some .directory)
    (hnew : s.files.entry? q ≠ some .directory) : ∃ o ∈ outcomes, o.success ∧
      ∃ target ancestor : Path, o.output = some target ∧ ancestor.IsAncestor target ∧
        t.files.place dir ancestor = .ok q := by
  obtain ⟨o, ho, hsuccess, target, houtput, htouched⟩ :=
    touched_of_run h (by rw [hdirectory]; exact hnew.symm)
  cases htouched with
  | file _ hfile =>
    rw [hdirectory] at hfile
    exact absurd hfile (by simp)
  | @directory ancestor hancestor hplace _ _ =>
    exact ⟨o, ho, hsuccess, target, ancestor, houtput, hancestor, hplace⟩

/-- Outcomes of one source do not differ. -/
theorem outcome_unique (h : (run c dir paths parser).Returns s outcomes t) {o o' : Outcome}
    (ho : o ∈ outcomes) (ho' : o' ∈ outcomes) (hsource : o.source = o'.source) : o = o' := by
  obtain ⟨p, a, haccount, rfl⟩ := exists_account_of_outcome h ho
  obtain ⟨p', a', haccount', rfl⟩ := exists_account_of_outcome h ho'
  rw [source_of_accountAt haccount, source_of_accountAt haccount'] at hsource
  subst p'
  rw [Except.ok.inj (haccount.symm.trans haccount')]

theorem output_of_failed_outcome (h : (run c dir paths parser).Returns s outcomes t) {o : Outcome}
    (ho : o ∈ outcomes) (hfailed : o.success = false) : o.output = none := by
  obtain ⟨p, a, haccount, rfl⟩ := exists_account_of_outcome h ho
  exact output_of_failed haccount hfailed

/-- A run prints what its paths print, in their order. -/
theorem printed_of_run (h : (run c dir paths parser).Returns s outcomes t) :
    t.output = s.output ++ String.join (paths.map (printedAt parser c dir s.files)) := by
  obtain ⟨accounts, haccounts, -, houtput, -⟩ := run_returns h
  have hprinted : accounts.map (·.printed) = paths.map (printedAt parser c dir s.files) := by
    rw [mapM_eq_ok] at haccounts
    clear houtput h
    induction haccounts with
    | nil => rfl
    | cons ha _ ih => rw [List.map_cons, List.map_cons, ih, printed_of_account ha]
  rw [houtput, hprinted]

/-- A run that writes to standard output leaves the files alone. -/
theorem files_of_stream (h : (run c dir paths parser).Returns s outcomes t)
    (hstream : c.writesToStream) : t.files = s.files := by
  obtain ⟨accounts, haccounts, -, -, hstores⟩ := run_returns h
  refine storeAll_of_unstored hstores fun a ha => ?_
  obtain ⟨p, -, haccount⟩ := exists_mem_of_mapM_eq_ok haccounts ha
  cases accounted haccount with
  | unextracted _ _ => rfl
  | unguarded _ _ _ => rfl
  | guarded _ _ _ =>
    rw [target_eq_none.mpr hstream]
    rfl

/-- A run touches the targets of its successes and makes directories for them, and nothing else. What
stands at the target of a failure stays as it is, unless that is where a success of another source has
its target. -/
theorem run_touches_targets (h : (run c dir paths parser).Returns s outcomes t) :
    s.files.Grows t.files ∧
    (∀ q bytes, t.files.entry? q = some (.file bytes) → s.files.entry? q ≠ some (.file bytes) →
      ∃ o ∈ outcomes, o.success ∧ o.LeadsTo t.files dir q) ∧
    (∀ q, t.files.entry? q = some .directory → s.files.entry? q ≠ some .directory →
      ∃ o ∈ outcomes, o.success ∧ ∃ target ancestor : Path, o.output = some target ∧
        ancestor.IsAncestor target ∧ t.files.place dir ancestor = .ok q) ∧
    (∀ o ∈ outcomes, o.success = false → o.output = none ∧
      ∀ target q, Target.of c o.source = some target → t.files.place dir target = .ok q →
        (∀ bytes, t.files.entry? q = some (.file bytes) ↔ s.files.entry? q = some (.file bytes)) ∨
          ∃ o' ∈ outcomes, o'.success ∧ o'.source ≠ o.source ∧ o'.LeadsTo t.files dir q) ∧
    (c.writesToStream → t.files = s.files ∧
      t.output = s.output ++ String.join (paths.map (printedAt parser c dir s.files))) := by
  obtain ⟨accounts, -, -, -, hstores⟩ := run_returns h
  have hgrows := storeAll_grows hstores
  refine ⟨hgrows, fun q bytes hfile hchanged => leadsTo_of_changed_file h hfile hchanged,
    fun q hdirectory hnew => ancestor_of_new_directory h hdirectory hnew, ?_,
    fun hstream => ⟨files_of_stream h hstream, printed_of_run h⟩⟩
  intro o ho hfailed
  refine ⟨output_of_failed_outcome h ho hfailed, fun target q _ _ => ?_⟩
  by_cases hother : ∃ o' ∈ outcomes, o'.success ∧ o'.LeadsTo t.files dir q
  · right
    obtain ⟨o', ho', hsuccess, hleads⟩ := hother
    refine ⟨o', ho', hsuccess, fun hsource => ?_, hleads⟩
    rw [outcome_unique h ho' ho hsource, hfailed] at hsuccess
    contradiction
  · left
    intro bytes
    constructor
    · intro hfile
      by_contra hchanged
      exact hother (leadsTo_of_changed_file h hfile hchanged)
    · intro hfile
      obtain ⟨bytes', hfile'⟩ := hgrows.file q bytes hfile
      by_contra hchanged
      refine hother (leadsTo_of_changed_file h hfile' fun hsame => hchanged ?_)
      rw [hfile', ← hsame, hfile]

end

/-- A run over two files, of which the second is not TypeScript, into a directory that is not there. -/
def runMixed : Action (List Outcome) :=
  run { outputDir := some (.ofString "out") } .root
    [.ofString "a.ts", .ofString "b.ts"] bareParser

theorem run_touches_targets_mixed : ∃ (outcomes : List Outcome) (t : Progress),
    runMixed.Returns { files := mixedFiles } outcomes t ∧
    t.files.entry? ["out"] = some .directory ∧
    (∃ o ∈ outcomes, o.success ∧ ∃ target ancestor : Path, o.output = some target ∧
      ancestor.IsAncestor target ∧ t.files.place .root ancestor = .ok ["out"]) ∧
    ∃ o ∈ outcomes, o.success = false ∧ o.output = none := by
  have hend : Files.entry? (runMixed.ending { files := mixedFiles }).2.files ["out"] = some .directory ∧
      ((runMixed.ending { files := mixedFiles }).1.toOption.getD []).any (!·.success) := by
    decide +kernel
  obtain ⟨outcomes, t, hreturns⟩ := Action.exists_returns (x := runMixed)
    (s := { files := mixedFiles }) (by decide +kernel)
  rw [hreturns] at hend
  obtain ⟨hdirectory, hany⟩ := hend
  obtain ⟨-, -, hdirectories, hfailures, -⟩ := run_touches_targets hreturns
  obtain ⟨o, ho, hfailed⟩ := List.any_eq_true.mp hany
  have hfailed : o.success = false := by simpa using hfailed
  exact ⟨outcomes, t, hreturns, hdirectory, hdirectories _ hdirectory (by decide +kernel), o, ho,
    hfailed, (hfailures o ho hfailed).1⟩

end TypeGuards
