import TypeGuards.Proofs.Run.Completion
/-!
Running again. What a run does is told by its sources, so a second run over sources that are still
there returns, prints and writes the same. A source is still there unless a target leads to it: it then
holds the guards that were written there last.
-/
namespace TypeGuards

open TypeScript (Parser)

namespace Outcome

/-- Of the successes whose targets lead to a place, an outcome is the last. -/
structure LastAt (fs : Files) (dir : Path) (outcomes : List Outcome) (goal : List String)
    (o : Outcome) : Prop where
  success : o.success
  leads : o.LeadsTo fs dir goal
  last : ∃ before after, outcomes = before ++ o :: after ∧
    ∀ o' ∈ after, o'.success → ¬o'.LeadsTo fs dir goal

variable {dir : Path} {guards : Path → Option (List UInt8)} {outcomes : List Outcome} {o : Outcome}
  {fs fs' fs₁ fs₁' : Files} {goal q : List String}

theorem WriteAll.exists_leadsTo (h : WriteAll dir guards outcomes fs fs') (ho : o ∈ outcomes)
    (hsuccess : o.success) : ∃ goal, o.LeadsTo fs' dir goal := by
  obtain ⟨-, -, -, -, -, ⟨goal, hleads, -⟩, -⟩ := h.last ho hsuccess
  exact ⟨goal, hleads⟩

/-- Among the successes at one place there is a last. -/
theorem WriteAll.exists_lastAt (h : WriteAll dir guards outcomes fs fs') (ho : o ∈ outcomes)
    (hsuccess : o.success) (hleads : o.LeadsTo fs' dir goal) :
    ∃ last, LastAt fs' dir outcomes goal last := by
  obtain ⟨before, last, after, hsplit, hlast, ⟨goal', hgoal, hgoal'⟩, hothers, -⟩ := h.last ho hsuccess
  obtain rfl := hleads.unique hgoal
  refine ⟨last, hlast, hgoal', before, after, hsplit, fun o' ho' hsuccess' hleads' => ?_⟩
  exact hothers o' ho' hsuccess' ⟨goal, hleads, hleads'⟩

theorem WriteAll.entry_of_cons {rest : List Outcome} (h : WriteAll dir guards (o :: rest) fs fs')
    (hsuccess : o.success) (hleads : o.LeadsTo fs' dir goal)
    (hothers : ∀ o' ∈ rest, o'.success → ¬o'.LeadsTo fs' dir goal) :
    ∃ content, guards o.source = some content ∧ fs'.entry? goal = some (.file content) := by
  cases h with
  | cons hfirst hrest =>
    cases hfirst with
    | nothing hfailed _ =>
      rw [hsuccess] at hfailed
      contradiction
    | @file content goal' _ hcontent hleads' _ hentry _ =>
      obtain rfl := hleads.unique (hleads'.grows hrest.grows)
      exact ⟨content, hcontent, hrest.entry_of_unshared hothers hentry⟩

/-- A place holds the guards of the last success that leads there. -/
theorem WriteAll.entry_of_lastAt (h : WriteAll dir guards outcomes fs fs')
    (hlast : LastAt fs' dir outcomes goal o) :
    ∃ content, guards o.source = some content ∧ fs'.entry? goal = some (.file content) := by
  obtain ⟨hsuccess, hleads, before, after, rfl, hothers⟩ := hlast
  induction before generalizing fs with
  | nil => exact h.entry_of_cons hsuccess hleads hothers
  | cons first before ih =>
    cases h with
    | cons _ hrest => exact ih hrest

/-- What is written again is the same wherever a success leads. -/
theorem WriteAll.agree (h : WriteAll dir guards outcomes fs fs')
    (h' : WriteAll dir guards outcomes fs₁ fs₁') (hgrows : fs'.Grows fs₁) (ho : o ∈ outcomes)
    (hsuccess : o.success) (hleads : o.LeadsTo fs' dir q) : fs₁'.entry? q = fs'.entry? q := by
  have hlater := hgrows.trans h'.grows
  obtain ⟨last, hlast⟩ := h.exists_lastAt ho hsuccess hleads
  obtain ⟨content, hcontent, hentry⟩ := h.entry_of_lastAt hlast
  obtain ⟨hlast_success, hlast_leads, before, after, hsplit, hothers⟩ := hlast
  -- Places of targets survive growth, so the last success is the same both times.
  have hlast' : LastAt fs₁' dir outcomes q last := by
    refine ⟨hlast_success, hlast_leads.grows hlater, before, after, hsplit, ?_⟩
    intro o' ho' hsuccess' hleads'
    have hmem : o' ∈ outcomes := by
      rw [hsplit]
      exact List.mem_append_right _ (List.mem_cons_of_mem _ ho')
    obtain ⟨goal, hgoal⟩ := h.exists_leadsTo hmem hsuccess'
    obtain rfl := hleads'.unique (hgoal.grows hlater)
    exact hothers o' ho' hsuccess' hgoal
  obtain ⟨content', hcontent', hentry'⟩ := h'.entry_of_lastAt hlast'
  rw [hcontent] at hcontent'
  rw [hentry, hentry', Option.some.inj hcontent']

end Outcome

namespace Run

variable {platform : Platform} {parser : Parser} {c : Config} {dir p : Path} {a : Account}
  {accounts : List Account} {fs fs' : Files} {encoding : String} {q : List String}

theorem readable_of_accountAt (h : accountAt parser c dir fs p = .ok a) :
    Source.Readable fs dir c.encoding p := by
  obtain ⟨text, htext, -⟩ := bind_eq_ok.mp h
  exact Source.readable_of_textOf htext

/-- An account is told by the bytes of its path. -/
theorem accountAt_congr (h : accountAt parser c dir fs p = .ok a) (hgrows : fs.Grows fs')
    (hsame : fs'.file? dir p = fs.file? dir p) :
    accountAt parser c dir fs' p = accountAt parser c dir fs p := by
  obtain ⟨bytes, scheme, chars, hread, -⟩ := readable_of_accountAt h
  obtain ⟨hfile, hrefusal⟩ := Files.read_eq_ok.mp hread
  obtain ⟨place, hplace⟩ := Files.exists_place_of_file? hfile
  have hread' : fs'.read dir p = .ok bytes :=
    Files.read_eq_ok.mpr ⟨hsame.trans hfile, (hgrows.refusal? hplace).trans hrefusal⟩
  unfold accountAt
  rw [Source.textOf_of_read hread, Source.textOf_of_read hread']

/-- What a run has stored can be stored again: its directories are there and it does not refuse. -/
theorem settled_of_storeAll (h : StoreAll dir encoding accounts fs fs') (ha : a ∈ accounts)
    {target : Path} {text : String} (hstored : a.stored = some (target, text)) :
    fs'.Settled dir target ∧ ∃ scheme bytes, Encoding.lookUpText encoding = .ok scheme ∧
      scheme.encode text.toList = .ok bytes := by
  induction h with
  | nil => exact absurd ha List.not_mem_nil
  | cons hfirst hrest ih =>
    rcases List.mem_cons.mp ha with rfl | ha
    · rw [Account.Stores, hstored] at hfirst
      obtain ⟨scheme, bytes, hscheme, hbytes, hstores⟩ := hfirst
      exact ⟨hstores.settled.grows (storeAll_grows hrest), scheme, bytes, hscheme, hbytes⟩
    · exact ih ha

/-- Where all files are stored again, nothing changes but those files. -/
theorem storeAll_frame (h : StoreAll dir encoding accounts fs fs')
    (hothers : ∀ a ∈ accounts, ∀ target text, a.stored = some (target, text) →
      fs.Settled dir target ∧ fs.place dir target ≠ .ok q) : fs'.entry? q = fs.entry? q := by
  induction h with
  | nil => rfl
  | @cons a rest fs fs₁ fs' hfirst hrest ih =>
    obtain ⟨hother, hothers⟩ := List.forall_mem_cons.mp hothers
    have hgrows := stores_grows hfirst
    have hstep : fs₁.entry? q = fs.entry? q := by
      by_contra hchanged
      obtain ⟨target, text, hstored, -⟩ := stores_touched hfirst hchanged
      rw [Account.Stores, hstored] at hfirst
      obtain ⟨scheme, bytes, -, -, hstores⟩ := hfirst
      obtain ⟨hsettled, hplace⟩ := hother target text hstored
      exact hchanged (hsettled.frame hstores hplace)
    rw [← hstep]
    refine ih fun b hb target text hstored => ?_
    obtain ⟨hsettled, hplace⟩ := hothers b hb target text hstored
    refine ⟨hsettled.grows hgrows, fun hq => ?_⟩
    obtain ⟨goal, -, hgoal, -, -⟩ := hsettled.file
    obtain rfl := Except.ok.inj ((hgrows.place hgoal).symm.trans hq)
    exact hplace hgoal

end Run

open Run Outcome

section

variable {platform : Platform} {parser : Parser} {c : Config} {dir : Path} {paths : List Path}
  {s s' t t' : Progress} {outcomes : List Outcome}

theorem output_of_stream (h : (run c dir paths parser).Returns s outcomes t)
    (hstream : c.writesToStream) {o : Outcome} (ho : o ∈ outcomes) : o.output = none := by
  obtain ⟨p, a, haccount, rfl⟩ := exists_account_of_outcome h ho
  cases accounted haccount with
  | unextracted _ _ => rfl
  | unguarded _ _ _ => rfl
  | guarded _ _ _ => exact target_eq_none.mpr hstream

/-- A source is as it was unless the last success that leads to it has other guards. -/
theorem survives_iff (h : (run c dir paths parser).Returns s outcomes t) {p : Path} (hp : p ∈ paths) :
    t.files.file? dir p = s.files.file? dir p ↔ ∀ goal o, s.files.place dir p = .ok goal →
      LastAt t.files dir outcomes goal o → guardsAt parser c dir s.files o.source = s.files.file? dir p := by
  by_cases hstream : c.writesToStream
  · rw [files_of_stream h hstream]
    refine iff_of_true rfl fun goal o _ hlast => ?_
    obtain ⟨before, after, rfl, -⟩ := hlast.last
    obtain ⟨target, htarget, -⟩ := hlast.leads
    rw [output_of_stream h hstream (List.mem_append_right _ List.mem_cons_self)] at htarget
    contradiction
  · have hwrites := writeAll_of_run (by simpa using hstream) h
    obtain ⟨accounts, haccounts, -, -, -⟩ := run_returns h
    obtain ⟨a, haccount⟩ := exists_of_mapM_eq_ok haccounts hp
    obtain ⟨bytes, hbytes⟩ := (readable_of_accountAt haccount).exists_file
    obtain ⟨place, hplace⟩ := Files.exists_place_of_file? hbytes
    have hplace' := hwrites.grows.place hplace
    have hentry := (Files.file?_eq_some_iff_entry hplace).mp hbytes
    rw [hbytes, Files.file?_eq_some_iff_entry hplace']
    constructor
    · intro hkept goal o hgoal hlast
      obtain rfl := Except.ok.inj (hplace.symm.trans hgoal)
      obtain ⟨content, hcontent, hentry'⟩ := hwrites.entry_of_lastAt hlast
      rw [hkept] at hentry'
      rw [hcontent, Entry.file.inj (Option.some.inj hentry')]
    · intro hsame
      by_cases hleads : ∃ o ∈ outcomes, o.success ∧ o.LeadsTo t.files dir place
      · obtain ⟨o, ho, hsuccess, hleads⟩ := hleads
        obtain ⟨last, hlast⟩ := hwrites.exists_lastAt ho hsuccess hleads
        obtain ⟨content, hcontent, hentry'⟩ := hwrites.entry_of_lastAt hlast
        rw [hsame place last hplace hlast] at hcontent
        rw [hentry', Option.some.inj hcontent]
      · push Not at hleads
        exact hwrites.entry_of_unshared hleads hentry

/-- A run over the same sources, after the first, has the same accounts. -/
theorem accounts_again (h : (run c dir paths parser).Returns s outcomes t)
    (hsame : ∀ p ∈ paths, t.files.file? dir p = s.files.file? dir p) :
    paths.mapM (accountAt parser c dir t.files) = paths.mapM (accountAt parser c dir s.files) := by
  obtain ⟨accounts, haccounts, -, -, hstores⟩ := run_returns h
  refine mapM_congr fun p hp => ?_
  obtain ⟨a, haccount⟩ := exists_of_mapM_eq_ok haccounts hp
  exact accountAt_congr haccount (storeAll_grows hstores) (hsame p hp)

/-- Over sources that are still there a run returns again: all directories are there, and all targets
are files. -/
theorem returns_again (h : (run c dir paths parser).Returns s outcomes t)
    (hsame : ∀ p ∈ paths, t.files.file? dir p = s.files.file? dir p) (hfiles : s'.files = t.files) :
    ∃ outcomes' t', (run c dir paths parser).Returns s' outcomes' t' := by
  rcases Action.returns_or_aborts (run c dir paths parser) s' with hreturns | ⟨e, t', haborts⟩
  · exact hreturns
  · exfalso
    obtain ⟨accounts, haccounts, -, -, hstores⟩ := run_returns h
    rw [← accounts_again h hsame, ← hfiles] at haccounts
    have hreadable : ∀ p ∈ paths, Source.Readable s'.files dir c.encoding p := by
      intro p hp
      obtain ⟨a, haccount⟩ := exists_of_mapM_eq_ok haccounts hp
      exact readable_of_accountAt haccount
    obtain ⟨before, p, after, accounts', fs, rfl, -, hbefore, hbreaks⟩ :=
      run_aborts_at (ne_nil_of_returns h) hreadable haborts
    have hp : p ∈ before ++ p :: after := List.mem_append_right _ List.mem_cons_self
    cases hbreaks with
    | unaccounted herror =>
      obtain ⟨a, haccount⟩ := exists_of_mapM_eq_ok haccounts hp
      rw [herror] at haccount
      contradiction
    | refused ha hstored hrefused =>
      have hmem := mem_of_mapM_eq_ok haccounts hp ha
      obtain ⟨hsettled, scheme, bytes, hscheme, hbytes⟩ := settled_of_storeAll hstores hmem hstored
      rw [hfiles] at hbefore
      obtain ⟨fs', hstores'⟩ := (hsettled.grows (storeAll_grows hbefore)).exists_stores bytes
      exact hrefused.not_stores hscheme hbytes hstores'

/-- A second run that finds its sources as they were leaves every place as the first did. -/
theorem entry_again (h : (run c dir paths parser).Returns s outcomes t)
    (hsame : ∀ p ∈ paths, t.files.file? dir p = s.files.file? dir p) (hfiles : s'.files = t.files)
    (h' : (run c dir paths parser).Returns s' outcomes t') (q : List String) :
    t'.files.entry? q = t.files.entry? q := by
  by_cases hstream : c.writesToStream
  · rw [files_of_stream h' hstream, hfiles]
  · have hfile : c.writesToStream = false := by simpa using hstream
    obtain ⟨accounts, haccounts, rfl, -, hstores⟩ := run_returns h
    obtain ⟨accounts', haccounts', -, -, hstores'⟩ := run_returns h'
    rw [hfiles, accounts_again h hsame, haccounts] at haccounts'
    obtain rfl := Except.ok.inj haccounts'
    rw [hfiles] at hstores'
    have hwrites := writeAll_of_accounts hfile (mapM_eq_ok.mp haccounts) hstores
    have hwrites' := writeAll_of_accounts hfile (mapM_eq_ok.mp haccounts) hstores'
    by_cases hleads : ∃ o ∈ accounts.map (·.outcome), o.success ∧ o.LeadsTo t.files dir q
    · obtain ⟨o, ho, hsuccess, hleads⟩ := hleads
      exact hwrites.agree hwrites' (.refl _) ho hsuccess hleads
    · push Not at hleads
      refine storeAll_frame hstores' fun a ha target text hstored => ?_
      obtain ⟨hsettled, -⟩ := settled_of_storeAll hstores ha hstored
      refine ⟨hsettled, fun hplace => ?_⟩
      obtain ⟨p, -, haccount⟩ := exists_mem_of_mapM_eq_ok haccounts ha
      obtain ⟨hsuccess, houtput⟩ := stored_of_account haccount hstored
      exact hleads _ (List.mem_map_of_mem ha) hsuccess ⟨target, houtput, hplace⟩

/-- A run leaves its sources as they were if and only if the guards that are written last where a
source is are the text of that source. If it does, running again returns and prints the same, and
changes nothing. -/
theorem run_repeats (h : (run c dir paths parser).Returns s outcomes t) :
    ((∀ p ∈ paths, t.files.file? dir p = s.files.file? dir p) ↔
      ∀ p ∈ paths, ∀ goal o, s.files.place dir p = .ok goal →
        LastAt t.files dir outcomes goal o →
        guardsAt parser c dir s.files o.source = s.files.file? dir p) ∧
    ((∀ p ∈ paths, t.files.file? dir p = s.files.file? dir p) →
      ∀ s' : Progress, s'.files = t.files → ∃ t', (run c dir paths parser).Returns s' outcomes t' ∧
        (∀ q, t'.files.entry? q = t.files.entry? q) ∧
        ∃ printed, t.output = s.output ++ printed ∧ t'.output = s'.output ++ printed) := by
  refine ⟨forall₂_congr fun p hp => survives_iff h hp, fun hsame s' hfiles => ?_⟩
  obtain ⟨outcomes', t', h'⟩ := returns_again h hsame hfiles
  obtain ⟨accounts, haccounts, houtcomes, hprinted, -⟩ := run_returns h
  obtain ⟨accounts', haccounts', houtcomes', hprinted', -⟩ := run_returns h'
  rw [hfiles, accounts_again h hsame, haccounts] at haccounts'
  obtain rfl := Except.ok.inj haccounts'
  obtain rfl := houtcomes.symm.trans houtcomes'
  exact ⟨t', h', entry_again h hsame hfiles h', _, hprinted, hprinted'⟩

end

theorem run_repeats_mixed : ∃ (outcomes : List Outcome) (t : Progress),
    runMixed.Returns { files := mixedFiles } outcomes t ∧
    ∃ t', runMixed.Returns { files := t.files } outcomes t' ∧
      ∀ q, t'.files.entry? q = t.files.entry? q := by
  have hend : ∀ p ∈ pairPaths, (runMixed.ending { files := mixedFiles }).2.files.file? .root p =
      mixedFiles.file? .root p := by decide +kernel
  obtain ⟨outcomes, t, hreturns⟩ := Action.exists_returns (x := runMixed)
    (s := { files := mixedFiles }) (by decide +kernel)
  rw [hreturns] at hend
  obtain ⟨-, hagain⟩ := run_repeats hreturns
  obtain ⟨t', hreturns', hentries, -⟩ := hagain hend { files := t.files } rfl
  exact ⟨outcomes, t, hreturns, t', hreturns', hentries⟩

/-- Two files, of which one has the name of the guards of the other. -/
def sharedFiles : Files :=
  { entries := [(["user.ts"], .file (Encoding.Utf8.encode "interface A\x7b\x7d".toList)),
                (["user-guard.ts"], .file (Encoding.Utf8.encode "interface B\x7b\x7d".toList))] }

def runShared : Action (List Outcome) :=
  run {} .root [.ofString "user.ts", .ofString "user-guard.ts"] bareParser

def sharedOutcome (source interface output : String) : Outcome where
  source := .ofString source
  interfaces := [interface]
  output := some (.ofString output)

theorem runShared_returns : ∃ t, runShared.Returns { files := sharedFiles }
      [sharedOutcome "user.ts" "A" "user-guard.ts",
        sharedOutcome "user-guard.ts" "B" "user-guard-guard.ts"] t ∧
    t.files.place .root (.ofString "user-guard.ts") = .ok ["user-guard.ts"] ∧
    t.files.place .root (.ofString "user-guard-guard.ts") = .ok ["user-guard-guard.ts"] := by
  have hend : (runShared.ending { files := sharedFiles }).1.toOption =
        some [sharedOutcome "user.ts" "A" "user-guard.ts",
          sharedOutcome "user-guard.ts" "B" "user-guard-guard.ts"] ∧
      (runShared.ending { files := sharedFiles }).2.files.place .root
        (.ofString "user-guard.ts") = .ok ["user-guard.ts"] ∧
      (runShared.ending { files := sharedFiles }).2.files.place .root
        (.ofString "user-guard-guard.ts") = .ok ["user-guard-guard.ts"] := by decide +kernel
  obtain ⟨outcomes, t, hreturns⟩ := Action.exists_returns (x := runShared)
    (s := { files := sharedFiles }) (by rw [hend.1]; rfl)
  rw [hreturns] at hend
  obtain ⟨houtcomes, hplace, hplace'⟩ := hend
  obtain rfl := Option.some.inj houtcomes
  exact ⟨t, hreturns, hplace, hplace'⟩

theorem guardsAt_shared_ne : guardsAt bareParser {} .root sharedFiles (.ofString "user.ts") ≠
    some (Encoding.Utf8.encode "interface B\x7b\x7d".toList) := by
  have htext : guardTextAt bareParser {} .root sharedFiles (.ofString "user.ts") ≠
      some "interface B\x7b\x7d" := by decide +kernel
  rw [guardsAt_utf8 rfl]
  exact fun h => htext (Option.map_injective encode_toList_injective h)

/-- A run that succeeds for both files leaves one of them without its text. -/
theorem run_replaces_source : ∃ (outcomes : List Outcome) (t : Progress),
    runShared.Returns { files := sharedFiles } outcomes t ∧ (∀ o ∈ outcomes, o.success) ∧
    t.files.file? .root (.ofString "user-guard.ts") ≠
      sharedFiles.file? .root (.ofString "user-guard.ts") := by
  obtain ⟨t, hreturns, hplace, hplace'⟩ := runShared_returns
  refine ⟨_, t, hreturns, by decide, fun hkept => guardsAt_shared_ne ?_⟩
  have hsame := (survives_iff hreturns (List.mem_cons_of_mem _ List.mem_cons_self)).mp hkept
  refine hsame ["user-guard.ts"] (sharedOutcome "user.ts" "A" "user-guard.ts") (by decide +kernel)
    ⟨rfl, ⟨_, rfl, hplace⟩, [], _, rfl, fun o ho _ hleads => ?_⟩
  obtain rfl := List.mem_singleton.mp ho
  have hother := hleads.unique ⟨_, rfl, hplace'⟩
  exact absurd hother (by decide)

end TypeGuards
