import TypeGuards.Proofs.Run.Account
/-!
The files of a batch do not depend on each other. What a run returns and prints for a path is what a
run of that path alone returns and prints, from the same files and whatever extractors there are, so
the outcomes follow the paths in any order.
-/
namespace TypeGuards

open TypeScript (Parser)

namespace Run

variable {platform : Platform} {parser : Parser} {c : Config} {dir : Path} {fs : Files}
  {paths : List Path} {accounts : List Account} {outcomes : List Outcome} {printed : String}

/-- From some files, a run returns outcomes and prints a text, whatever has been done before. -/
def RunsTo [Platform] (parser : Parser) (c : Config) (dir : Path) (fs : Files) (paths : List Path)
    (outcomes : List Outcome) (printed : String) : Prop :=
  ∃ s t, s.files = fs ∧ (run c dir paths parser).Returns s outcomes t ∧
    t.output = s.output ++ printed

def RunsAlone [Platform] (parser : Parser) (c : Config) (dir : Path) (fs : Files) (p : Path)
    (single : List Outcome × String) : Prop :=
  RunsTo parser c dir fs [p] single.1 single.2

/-- A run is made of accounts that depend on the first files alone. -/
theorem exists_accounts (h : RunsTo parser c dir fs paths outcomes printed) :
    ∃ accounts, paths.mapM (accountAt parser c dir fs) = .ok accounts ∧
      accounts.map (·.outcome) = outcomes ∧ String.join (accounts.map (·.printed)) = printed := by
  obtain ⟨s, t, rfl, hreturns, hprinted⟩ := h
  obtain ⟨accounts, haccounts, houtcomes, houtput, -⟩ := run_returns hreturns
  have hjoin := houtput.symm.trans hprinted
  exact ⟨accounts, haccounts, houtcomes, (String.append_right_inj s.output).mp hjoin⟩

theorem single_of_account {p : Path} {a : Account} {single : List Outcome × String}
    (ha : accountAt parser c dir fs p = .ok a) (h : RunsAlone parser c dir fs p single) :
    single.1 = [a.outcome] ∧ single.2 = a.printed := by
  obtain ⟨accounts, haccounts, houtcomes, hprinted⟩ := exists_accounts h
  have hone : [p].mapM (accountAt parser c dir fs) = .ok [a] := mapM_eq_ok.mpr (.cons ha .nil)
  obtain rfl := Except.ok.inj (haccounts.symm.trans hone)
  exact ⟨houtcomes.symm, by simp [← hprinted]⟩

/-- Runs of single paths return the same accounts, one each. -/
theorem singles_of_accounts {singles : List (List Outcome × String)}
    (haccounts : List.Forall₂ (fun p a => accountAt parser c dir fs p = .ok a) paths accounts)
    (hsingles : List.Forall₂ (RunsAlone parser c dir fs) paths singles) :
    singles.map (·.1) = accounts.map ([·.outcome]) ∧
      singles.map (·.2) = accounts.map (·.printed) := by
  induction haccounts generalizing singles with
  | nil =>
    rw [List.forall₂_nil_left_iff] at hsingles
    simp [hsingles]
  | @cons p a paths accounts ha _ ih =>
    obtain ⟨single, rest, hsingle, hrest, rfl⟩ := List.forall₂_cons_left_iff.mp hsingles
    obtain ⟨houtcome, hprinted⟩ := single_of_account ha hsingle
    obtain ⟨houtcomes, hprints⟩ := ih hrest
    simp [houtcome, hprinted, houtcomes, hprints]

theorem zip_outcomes
    (h : List.Forall₂ (fun p a => accountAt parser c dir fs p = .ok a) paths accounts) :
    paths.zip (accounts.map (·.outcome)) = paths.filterMap fun p =>
      (accountAt parser c dir fs p).toOption.map fun a => (p, a.outcome) := by
  induction h with
  | nil => rfl
  | @cons p a paths accounts ha _ ih => simp [ha, ih, Except.toOption]

theorem sources_of_accounts
    (h : List.Forall₂ (fun p a => accountAt parser c dir fs p = .ok a) paths accounts) :
    accounts.map (·.outcome.source) = paths := by
  induction h with
  | nil => rfl
  | cons ha _ ih =>
    rw [List.map_cons, ih, source_of_accountAt ha]

end Run

open Run

/-- The outcomes and the output of a batch are those of its files, each run by itself. -/
theorem run_independent [Platform] {parser : Parser} {c : Config} {dir : Path} {paths : List Path}
    {s t : Progress} {outcomes : List Outcome}
    (h : (run c dir paths parser).Returns s outcomes t) :
    outcomes.map (·.source) = paths ∧
      ∃ printed, t.output = s.output ++ printed ∧
        (∀ singles : List (List Outcome × String),
          List.Forall₂ (RunsAlone parser c dir s.files) paths singles →
          singles.map (·.1) = outcomes.map ([·]) ∧ String.join (singles.map (·.2)) = printed) ∧
        ∀ paths' outcomes' printed', paths'.Perm paths →
          RunsTo parser c dir s.files paths' outcomes' printed' →
          (paths'.zip outcomes').Perm (paths.zip outcomes) := by
  obtain ⟨accounts, haccounts, rfl, houtput, -⟩ := run_returns h
  rw [mapM_eq_ok] at haccounts
  refine ⟨?_, _, houtput, fun singles hsingles => ?_, fun paths' outcomes' printed' hperm hruns => ?_⟩
  · rw [List.map_map]
    exact sources_of_accounts haccounts
  · obtain ⟨houtcomes, hprints⟩ := singles_of_accounts haccounts hsingles
    refine ⟨?_, by rw [hprints]⟩
    rw [List.map_map]
    exact houtcomes
  · obtain ⟨accounts', haccounts', rfl, -⟩ := exists_accounts hruns
    rw [zip_outcomes haccounts, zip_outcomes (mapM_eq_ok.mp haccounts')]
    exact hperm.filterMap _

def Tree.bare : Tree :=
  ⟨"program", 0, 13, 0, true, none, false, false,
    [⟨"interface_declaration", 0, 13, 0, true, none, false, false,
      [⟨"interface", 0, 9, 0, false, none, false, false, []⟩,
       ⟨"type_identifier", 10, 11, 0, true, some "name", false, false, []⟩,
       ⟨"interface_body", 11, 13, 0, true, some "body", false, false,
        [⟨"\x7b", 11, 12, 0, false, none, false, false, []⟩,
         ⟨"\x7d", 12, 13, 0, false, none, false, false, []⟩]⟩]⟩]⟩

def Tree.cut : Tree :=
  ⟨"program", 0, 12, 0, true, none, false, true,
    [⟨"interface_declaration", 0, 12, 0, true, none, false, true,
      [⟨"interface", 0, 9, 0, false, none, false, false, []⟩,
       ⟨"type_identifier", 10, 11, 0, true, some "name", false, false, []⟩,
       ⟨"interface_body", 11, 12, 0, true, some "body", false, true,
        [⟨"\x7b", 11, 12, 0, false, none, false, false, []⟩,
         ⟨"\x7d", 12, 12, 0, false, none, true, true, []⟩]⟩]⟩]⟩

def bareParser : Parser := fun _ text => if text.length = 13 then .bare else .cut

def mixedFiles : Files :=
  { entries := [(["a.ts"], .file (Encoding.Utf8.encode "interface A\x7b\x7d".toList)),
                (["b.ts"], .file (Encoding.Utf8.encode "interface B\x7b".toList))] }

theorem run_independent_mixed :
    ∃ (outcomes : List Outcome) (t : Progress) (singles : List (List Outcome × String)),
      (run { pattern := "-" } .root [.ofString "a.ts", .ofString "b.ts"] bareParser).Returns
        { files := mixedFiles } outcomes t ∧
      List.Forall₂ (RunsAlone bareParser { pattern := "-" } .root mixedFiles)
        [.ofString "a.ts", .ofString "b.ts"] singles ∧
      singles.map (·.1) = outcomes.map ([·]) ∧ t.output = String.join (singles.map (·.2)) := by
  obtain ⟨outcomes, t, hboth⟩ := Action.exists_returns (s := { files := mixedFiles })
    (x := run { pattern := "-" } .root [.ofString "a.ts", .ofString "b.ts"] bareParser)
    (by decide +kernel)
  obtain ⟨first, u, hfirst⟩ := Action.exists_returns (s := { files := mixedFiles })
    (x := run { pattern := "-" } .root [.ofString "a.ts"] bareParser) (by decide +kernel)
  obtain ⟨second, v, hsecond⟩ := Action.exists_returns (s := { files := mixedFiles })
    (x := run { pattern := "-" } .root [.ofString "b.ts"] bareParser) (by decide +kernel)
  have halone : List.Forall₂ (RunsAlone bareParser { pattern := "-" } .root mixedFiles)
      [.ofString "a.ts", .ofString "b.ts"] [(first, u.output), (second, v.output)] :=
    .cons ⟨_, u, rfl, hfirst, String.empty_append.symm⟩
      (.cons ⟨_, v, rfl, hsecond, String.empty_append.symm⟩ .nil)
  obtain ⟨-, printed, houtput, hsingles, -⟩ := run_independent hboth
  obtain ⟨houtcomes, hjoin⟩ := hsingles _ halone
  refine ⟨outcomes, t, _, hboth, halone, houtcomes, ?_⟩
  rw [houtput, hjoin]
  exact String.empty_append

end TypeGuards
