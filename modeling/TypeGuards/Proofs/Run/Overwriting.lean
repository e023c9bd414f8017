import TypeGuards.Proofs.Encoding.Utf8
import TypeGuards.Proofs.Run.Independence
/-!
What is left in files after a run. Targets are made from the last names of sources only, so sources
from several directories can have one target. Of the outcomes whose targets lead to one place the last
has its guards there; the guards of all are kept if and only if no two that share a place differ.
-/
namespace TypeGuards

open TypeScript (Parser)

/-- The module with the guards of a source, in the encoding of a configuration. -/
def guardsAt [Platform] (parser : Parser) (c : Config) (dir : Path) (fs : Files) (source : Path) :
    Option (List UInt8) := do
  let guards ← guardTextAt parser c dir fs source
  let scheme ← (Encoding.lookUpText c.encoding).toOption
  (scheme.encode guards.toList).toOption

namespace Outcome

variable {fs fs' : Files} {dir : Path} {o o' o'' : Outcome} {goal : List String}
  {guards : Path → Option (List UInt8)} {bytes : Option (List UInt8)}

def LeadsTo (fs : Files) (dir : Path) (o : Outcome) (goal : List String) : Prop :=
  ∃ target, o.output = some target ∧ fs.place dir target = .ok goal

/-- The targets of two outcomes lead to one place. -/
def SharePlace (fs : Files) (dir : Path) (o o' : Outcome) : Prop :=
  ∃ goal, LeadsTo fs dir o goal ∧ LeadsTo fs dir o' goal

def Holds (fs : Files) (dir : Path) (o : Outcome) (bytes : Option (List UInt8)) : Prop :=
  ∃ target content, o.output = some target ∧ bytes = some content ∧
    fs.file? dir target = some content

theorem LeadsTo.unique {goal' : List String} (h : LeadsTo fs dir o goal)
    (h' : LeadsTo fs dir o goal') : goal = goal' := by
  obtain ⟨target, htarget, hgoal⟩ := h
  obtain ⟨target', htarget', hgoal'⟩ := h'
  obtain rfl := Option.some.inj (htarget.symm.trans htarget')
  exact Except.ok.inj (hgoal.symm.trans hgoal')

/-- A target leads to the same place in all later files. -/
theorem LeadsTo.grows (h : LeadsTo fs dir o goal) (hgrows : fs.Grows fs') :
    LeadsTo fs' dir o goal := by
  obtain ⟨target, htarget, hgoal⟩ := h
  exact ⟨target, htarget, hgrows.place hgoal⟩

theorem SharePlace.trans (h : SharePlace fs dir o o') (h' : SharePlace fs dir o' o'') :
    SharePlace fs dir o o'' := by
  obtain ⟨goal, hgoal, hsame⟩ := h
  obtain ⟨goal', hsame', hgoal'⟩ := h'
  obtain rfl := hsame.unique hsame'
  exact ⟨goal, hgoal, hgoal'⟩

theorem SharePlace.symm (h : SharePlace fs dir o o') : SharePlace fs dir o' o := by
  obtain ⟨goal, hgoal, hgoal'⟩ := h
  exact ⟨goal, hgoal', hgoal⟩

/-- A target holds what the place has to which it leads. -/
theorem holds_iff_entry (h : LeadsTo fs dir o goal) :
    Holds fs dir o bytes ↔ ∃ content, bytes = some content ∧
      fs.entry? goal = some (.file content) := by
  obtain ⟨target, htarget, hgoal⟩ := h
  constructor
  · rintro ⟨target', content, htarget', hbytes, hfile⟩
    obtain rfl := Option.some.inj (htarget.symm.trans htarget')
    exact ⟨content, hbytes, (Files.file?_eq_some_iff_entry hgoal).mp hfile⟩
  · rintro ⟨content, hbytes, hentry⟩
    exact ⟨target, content, htarget, hbytes, (Files.file?_eq_some_iff_entry hgoal).mpr hentry⟩

theorem SharePlace.holds (h : SharePlace fs dir o o') (hholds : Holds fs dir o' bytes) :
    Holds fs dir o bytes := by
  obtain ⟨goal, hgoal, hgoal'⟩ := h
  rw [holds_iff_entry hgoal]
  exact (holds_iff_entry hgoal').mp hholds

theorem SharePlace.eq_of_holds {bytes' : Option (List UInt8)} (h : SharePlace fs dir o o')
    (hholds : Holds fs dir o bytes) (hholds' : Holds fs dir o' bytes') : bytes = bytes' := by
  obtain ⟨goal, hgoal, hgoal'⟩ := h
  obtain ⟨content, rfl, hentry⟩ := (holds_iff_entry hgoal).mp hholds
  obtain ⟨content', rfl, hentry'⟩ := (holds_iff_entry hgoal').mp hholds'
  rw [hentry] at hentry'
  rw [Entry.file.inj (Option.some.inj hentry')]

/-! ### What is written -/

/-- An outcome that is a success has its guards at the place of its target, and nothing else has
changed; any other leaves the files as they were. -/
inductive Writes (dir : Path) (guards : Path → Option (List UInt8)) (o : Outcome) (fs fs' : Files) :
    Prop
  | nothing : o.success = false → fs' = fs → Writes dir guards o fs fs'
  | file {content : List UInt8} {goal : List String} : o.success → guards o.source = some content →
      LeadsTo fs' dir o goal → fs.Grows fs' → fs'.entry? goal = some (.file content) →
      (∀ q ≠ goal, ∀ e, fs.entry? q = some e → fs'.entry? q = some e) → Writes dir guards o fs fs'

/-- Outcomes are written one after another. -/
inductive WriteAll (dir : Path) (guards : Path → Option (List UInt8)) :
    List Outcome → Files → Files → Prop
  | nil {fs : Files} : WriteAll dir guards [] fs fs
  | cons {o : Outcome} {rest : List Outcome} {fs fs' fs'' : Files} :
      Writes dir guards o fs fs' → WriteAll dir guards rest fs' fs'' →
      WriteAll dir guards (o :: rest) fs fs''

variable {outcomes : List Outcome}

theorem Writes.grows (h : Writes dir guards o fs fs') : fs.Grows fs' := by
  cases h with
  | nothing _ hsame =>
    rw [hsame]
    exact .refl fs
  | file _ _ _ hgrows _ _ => exact hgrows

theorem WriteAll.grows (h : WriteAll dir guards outcomes fs fs') : fs.Grows fs' := by
  induction h with
  | nil => exact .refl _
  | cons hfirst _ ih => exact hfirst.grows.trans ih

/-- A file to which no success leads is left alone. -/
theorem WriteAll.entry_of_unshared {content : List UInt8} (h : WriteAll dir guards outcomes fs fs')
    (hothers : ∀ o ∈ outcomes, o.success → ¬LeadsTo fs' dir o goal)
    (hentry : fs.entry? goal = some (.file content)) : fs'.entry? goal = some (.file content) := by
  induction h with
  | nil => exact hentry
  | cons hfirst hrest ih =>
    obtain ⟨hother, hothers⟩ := List.forall_mem_cons.mp hothers
    refine ih hothers ?_
    -- Files only grow, so a place that the first target leads to is one it leads to at the end.
    cases hfirst with
    | nothing _ hsame => rwa [hsame]
    | file hsuccess _ hleads _ _ hframe =>
      refine hframe goal ?_ _ hentry
      rintro rfl
      exact hother hsuccess (hleads.grows hrest.grows)

/-- The last of the successes that share a place with a given one has its guards there. -/
theorem WriteAll.last (h : WriteAll dir guards outcomes fs fs') (ho : o ∈ outcomes)
    (hsuccess : o.success) : ∃ before last after, outcomes = before ++ last :: after ∧
      last.success ∧ SharePlace fs' dir o last ∧
      (∀ o' ∈ after, o'.success → ¬SharePlace fs' dir o o') ∧
      Holds fs' dir o (guards last.source) := by
  induction h generalizing o with
  | nil => exact absurd ho List.not_mem_nil
  | @cons first rest fs fs₁ fs' hfirst hrest ih =>
    -- A later success at the place has its guards there; without one, what is written first stays.
    by_cases hlater : ∃ o' ∈ rest, o'.success ∧ SharePlace fs' dir o o'
    · obtain ⟨o', ho', hsuccess', hshare⟩ := hlater
      obtain ⟨before, last, after, rfl, hlast, hshare', hafter, hholds⟩ := ih ho' hsuccess'
      refine ⟨first :: before, last, after, rfl, hlast, hshare.trans hshare', ?_,
        hshare.holds hholds⟩
      intro o'' ho'' hsuccess'' hshare''
      exact hafter o'' ho'' hsuccess'' (hshare.symm.trans hshare'')
    · have hnone : ∀ o' ∈ rest, o'.success → ¬SharePlace fs' dir o o' :=
        fun o' ho' hsuccess' hshare => hlater ⟨o', ho', hsuccess', hshare⟩
      have hnot_later : o ∉ rest := by
        intro hmem
        obtain ⟨before, last, after, rfl, hlast, hshare, -, -⟩ := ih hmem hsuccess
        exact hnone last (by simp) hlast hshare
      obtain rfl := (List.mem_cons.mp ho).resolve_right hnot_later
      cases hfirst with
      | nothing hfailed _ =>
        rw [hsuccess] at hfailed
        contradiction
      | @file content goal _ hcontent hleads _ hentry _ =>
        have hleads' := hleads.grows hrest.grows
        have hothers : ∀ o' ∈ rest, o'.success → ¬LeadsTo fs' dir o' goal :=
          fun o' ho' hsuccess' hgoal => hnone o' ho' hsuccess' ⟨goal, hleads', hgoal⟩
        have hstays := hrest.entry_of_unshared hothers hentry
        exact ⟨[], o, rest, rfl, hsuccess, ⟨goal, hleads', hleads'⟩, hnone,
          (holds_iff_entry hleads').mpr ⟨content, hcontent, hstays⟩⟩

/-- All guards are kept if and only if the guards that share a place are the same. -/
theorem WriteAll.kept_iff (h : WriteAll dir guards outcomes fs fs') :
    (∀ o ∈ outcomes, o.success → Holds fs' dir o (guards o.source)) ↔
      ∀ o ∈ outcomes, ∀ o' ∈ outcomes, o.success → o'.success → SharePlace fs' dir o o' →
        guards o.source = guards o'.source := by
  constructor
  · intro hkept o ho o' ho' hsuccess hsuccess' hshare
    exact hshare.eq_of_holds (hkept o ho hsuccess) (hkept o' ho' hsuccess')
  · intro hsame o ho hsuccess
    obtain ⟨before, last, after, rfl, hlast, hshare, -, hholds⟩ := h.last ho hsuccess
    rw [hsame o ho last (by simp) hsuccess hlast hshare]
    exact hholds

end Outcome

open Run Outcome

section

variable {platform : Platform} {parser : Parser} {c : Config} {dir : Path} {paths : List Path}
  {s t : Progress} {outcomes : List Outcome}

/-- Storing an account is writing its outcome. -/
theorem writes_of_account {fs fs₁ fs₂ : Files} {p : Path} {a : Account}
    (hfile : c.writesToStream = false) (h : accountAt parser c dir fs p = .ok a)
    (hstores : a.Stores dir c.encoding fs₁ fs₂) :
    Writes dir (guardsAt parser c dir fs) a.outcome fs₁ fs₂ := by
  cases accounted h with
  | unextracted _ _ => exact .nothing rfl hstores
  | unguarded _ _ _ => exact .nothing rfl hstores
  | guarded _ hguards _ =>
    have htarget : Target.of c p = some (targetPath c.pattern p c.outputDir) := by
      rw [Target.of, if_neg (by simp [hfile])]
    rw [Account.Stores, htarget] at hstores
    obtain ⟨scheme, bytes, hscheme, hbytes, hstored⟩ := hstores
    obtain ⟨goal, hgoal, hgrows, hentry, hframe⟩ := hstored.spec
    have hown : guardsAt parser c dir fs p = some bytes := by
      simp [guardsAt, hguards, hscheme, hbytes, Except.toOption]
    exact .file rfl hown ⟨_, htarget, hgoal⟩ hgrows hentry hframe

theorem writeAll_of_accounts {fs fs₁ fs₂ : Files} {accounts : List Account}
    (hfile : c.writesToStream = false)
    (haccounts : List.Forall₂ (fun p a => accountAt parser c dir fs p = .ok a) paths accounts)
    (hstores : StoreAll dir c.encoding accounts fs₁ fs₂) :
    WriteAll dir (guardsAt parser c dir fs) (accounts.map (·.outcome)) fs₁ fs₂ := by
  induction haccounts generalizing fs₁ with
  | nil =>
    cases hstores
    exact .nil
  | cons ha _ ih =>
    cases hstores with
    | cons hfirst hrest => exact .cons (writes_of_account hfile ha hfirst) (ih hrest)

/-- A run writes its outcomes one after another. -/
theorem writeAll_of_run (hfile : c.writesToStream = false)
    (h : (run c dir paths parser).Returns s outcomes t) :
    WriteAll dir (guardsAt parser c dir s.files) outcomes s.files t.files := by
  obtain ⟨accounts, haccounts, rfl, -, hstores⟩ := run_returns h
  exact writeAll_of_accounts hfile (mapM_eq_ok.mp haccounts) hstores

/-- After a run each target holds the guards of the last success that leads to its place, so all
guards are kept if and only if the guards of successes that share a place are the same. -/
theorem run_keeps_last (hfile : c.writesToStream = false)
    (h : (run c dir paths parser).Returns s outcomes t) :
    (∀ o ∈ outcomes, o.success → ∃ before last after, outcomes = before ++ last :: after ∧
      last.success ∧ SharePlace t.files dir o last ∧
      (∀ o' ∈ after, o'.success → ¬SharePlace t.files dir o o') ∧
      Holds t.files dir o (guardsAt parser c dir s.files last.source)) ∧
    ((∀ o ∈ outcomes, o.success → Holds t.files dir o (guardsAt parser c dir s.files o.source)) ↔
      ∀ o ∈ outcomes, ∀ o' ∈ outcomes, o.success → o'.success → SharePlace t.files dir o o' →
        guardsAt parser c dir s.files o.source = guardsAt parser c dir s.files o'.source) := by
  have hwrites := writeAll_of_run hfile h
  exact ⟨fun o ho hsuccess => hwrites.last ho hsuccess, hwrites.kept_iff⟩

end

theorem guardsAt_utf8 {parser : Parser} {c : Config} {dir : Path} (hencoding : c.encoding = "utf-8")
    {fs : Files} {p : Path} :
    guardsAt parser c dir fs p =
      (guardTextAt parser c dir fs p).map fun text => Encoding.Utf8.encode text.toList := by
  unfold guardsAt
  rw [hencoding, Encoding.lookUpText_utf8]
  cases guardTextAt parser c dir fs p <;> rfl

theorem encode_toList_injective :
    Function.Injective fun text : String => Encoding.Utf8.encode text.toList :=
  Encoding.Utf8.encode_injective.comp fun _ _ => String.toList_injective

/-- Two files with one last name. -/
def namesakes : Files :=
  { entries := [(["a"], .directory),
                (["a", "user.ts"], .file (Encoding.Utf8.encode "interface A\x7b\x7d".toList)),
                (["b"], .directory),
                (["b", "user.ts"], .file (Encoding.Utf8.encode "interface B\x7b\x7d".toList))] }

def runNamesakes : Action (List Outcome) :=
  run {} .root [.ofString "a/user.ts", .ofString "b/user.ts"] bareParser

def namesakeOutcome (directory interface : String) : Outcome where
  source := (Path.ofString directory).join (.ofString "user.ts")
  interfaces := [interface]
  output := some (.ofString "user-guard.ts")

theorem runNamesakes_returns : ∃ t,
    runNamesakes.Returns { files := namesakes } [namesakeOutcome "a" "A", namesakeOutcome "b" "B"] t ∧
      t.files.place .root (.ofString "user-guard.ts") = .ok ["user-guard.ts"] := by
  have hend : (runNamesakes.ending { files := namesakes }).1.toOption =
        some [namesakeOutcome "a" "A", namesakeOutcome "b" "B"] ∧
      (runNamesakes.ending { files := namesakes }).2.files.place .root
        (.ofString "user-guard.ts") = .ok ["user-guard.ts"] := by decide +kernel
  obtain ⟨outcomes, t, hreturns⟩ := Action.exists_returns (x := runNamesakes)
    (s := { files := namesakes }) (by rw [hend.1]; rfl)
  rw [hreturns] at hend
  obtain ⟨houtcomes, hplace⟩ := hend
  obtain rfl := Option.some.inj houtcomes
  exact ⟨t, hreturns, hplace⟩

theorem run_keeps_last_namesakes :
    Config.writesToStream {} = false ∧ ∃ (outcomes : List Outcome) (t : Progress),
      runNamesakes.Returns { files := namesakes } outcomes t ∧
      ∀ o ∈ outcomes, o.success → ∃ before last after, outcomes = before ++ last :: after ∧
        last.success ∧ SharePlace t.files .root o last ∧
        (∀ o' ∈ after, o'.success → ¬SharePlace t.files .root o o') ∧
        Holds t.files .root o (guardsAt bareParser {} .root namesakes last.source) := by
  obtain ⟨t, hreturns, -⟩ := runNamesakes_returns
  exact ⟨by decide, _, t, hreturns, (run_keeps_last (by decide) hreturns).1⟩

theorem guardsAt_namesakes_ne :
    guardsAt bareParser {} .root namesakes (.ofString "a/user.ts") ≠
      guardsAt bareParser {} .root namesakes (.ofString "b/user.ts") := by
  have htext : guardTextAt bareParser {} .root namesakes (.ofString "a/user.ts") ≠
      guardTextAt bareParser {} .root namesakes (.ofString "b/user.ts") := by decide +kernel
  rw [guardsAt_utf8 rfl, guardsAt_utf8 rfl]
  exact fun h => htext (Option.map_injective encode_toList_injective h)

/-- Both files have guards generated for them, and only those of one are left. -/
theorem run_overwrites : ∃ (outcomes : List Outcome) (t : Progress),
    runNamesakes.Returns { files := namesakes } outcomes t ∧
    ∃ o ∈ outcomes, o.success ∧
      ¬Holds t.files .root o (guardsAt bareParser {} .root namesakes o.source) := by
  obtain ⟨t, hreturns, hplace⟩ := runNamesakes_returns
  refine ⟨_, t, hreturns, ?_⟩
  by_contra hnone
  push Not at hnone
  have hsame := (writeAll_of_run (by decide) hreturns).kept_iff.mp hnone
  have hshare := hsame _ List.mem_cons_self _ (List.mem_cons_of_mem _ List.mem_cons_self) rfl rfl
    ⟨_, ⟨_, rfl, hplace⟩, ⟨_, rfl, hplace⟩⟩
  exact guardsAt_namesakes_ne hshare

end TypeGuards
