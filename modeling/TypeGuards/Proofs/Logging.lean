import TypeGuards.Logging.Setup
import TypeGuards.Proofs.Yaml.File
/-!
Setting up logging at the start of the program. Both settings that come with it can be read and
applied, so whatever environment the program runs in, logging is set up by one of them.
-/
namespace TypeGuards.Logging

open Encoding

namespace Packaged

/-- A setting that can be read with room for a few levels. -/
def read? (setting : List String) : Option Shared :=
  match Yaml.loadCounted (joinLineEndings (text setting)) with
  | (.ok d, calls) => if calls ≤ 64 then Shared.of? d else none
  | _ => none

theorem load_of_read? {platform : Platform} {setting : List String} {shared : Shared}
    (h : read? setting = some shared) :
    ∃ d, Yaml.load (joinLineEndings (text setting)) = .ok d ∧ Shared.of? d = some shared := by
  unfold read? at h
  split at h
  · rename_i d calls hcounted
    split_ifs at h with hcalls
    have hroom : calls ≤ Platform.depth := hcalls.trans Platform.le_depth
    refine ⟨d, ?_, h⟩
    rw [Yaml.load, hcounted]
    exact if_neg (Nat.not_lt.mpr hroom)
  · contradiction

/-- A setting that can be read and then applied at the start of the program. -/
def isApplicable (setting : List String) : Bool :=
  (read? setting).any fun shared => (shared.apply.run.run .initial).1.toOption.isSome

/-- The packaged setting for use passes the whole setup. -/
theorem isApplicable_forUse : isApplicable forUse = true := by decide +kernel

theorem isApplicable_forDevelopment : isApplicable forDevelopment = true := by decide +kernel

/-- Without a request the name is one of the packaged settings, whatever program is running. -/
theorem meant_mem (running : Option String) : meant none none running ∈
    [defaultName, settingFor "dev", settingFor "test", settingFor "prod"] := by
  have hall : ∀ environment ∈ environments.map (·.2), settingFor environment ∈
      [defaultName, settingFor "dev", settingFor "test", settingFor "prod"] := by decide +kernel
  unfold meant
  simp only [given, Option.filter_none]
  cases hfound : environments.lookup (String.ofList (Text.lower (running.getD "").toList)) with
  | none => exact List.mem_cons_self
  | some environment =>
    obtain ⟨before, after, heq, -⟩ := List.lookup_eq_some_iff.mp hfound
    exact hall environment (by rw [heq]; simp)

/-- A setting that is not there is replaced by the default one. -/
theorem located_mem : ∀ name ∈ [defaultName, settingFor "dev", settingFor "test", settingFor "prod"],
    ∃ p ∈ [Path.ofString defaultName, Path.ofString (settingFor "dev")], located name = .ok p := by
  decide +kernel

/-- Without a request there is always a packaged setting that can be applied. -/
theorem exists_setting (running : Option String) : ∃ p setting, path none none running = .ok p ∧
    isApplicable setting = true ∧ files.read directory p = .ok (Utf8.encode (text setting)) := by
  obtain ⟨p, hmem, hpath⟩ := located_mem _ (meant_mem running)
  rcases List.mem_pair.mp hmem with hp | hp
  · exact ⟨p, forUse, hpath, isApplicable_forUse, by rw [hp]; rfl⟩
  · exact ⟨p, forDevelopment, hpath, isApplicable_forDevelopment, by rw [hp]; rfl⟩

end Packaged

section

variable {ε σ α β : Type} {x : ExceptT ε (StateM σ) α} {s : σ}

theorem run_bind {f : α → ExceptT ε (StateM σ) β} : (x >>= f).run.run s = match x.run.run s with
    | (.ok a, t) => (f a).run.run t
    | (.error e, t) => (.error e, t) := by
  rw [ExceptT.run_bind, StateT.run_bind]
  rcases x.run.run s with ⟨_ | _, t⟩
  · rfl
  · rfl

theorem run_map {f : α → β} : (f <$> x).run.run s = match x.run.run s with
    | (.ok a, t) => (.ok (f a), t)
    | (.error e, t) => (.error e, t) := by
  rw [ExceptT.run_map, StateT.run_map]
  rcases x.run.run s with ⟨_ | _, t⟩
  · rfl
  · rfl

theorem run_tryCatch {handler : ε → ExceptT ε (StateM σ) α} :
    (tryCatch x handler).run.run s = match x.run.run s with
      | (.ok a, t) => (.ok a, t)
      | (.error e, t) => (handler e).run.run t := by
  rcases hx : x.run.run s with ⟨e | a, t⟩
  all_goals
    have hrun : StateT.run x s = _ := hx
    simp only [tryCatch, tryCatchThe, MonadExceptOf.tryCatch, ExceptT.tryCatch, ExceptT.run_mk,
      StateT.run_bind, hrun]
    rfl

end

section

variable {platform : Platform} {ls loggers : Loggers}

def appliedRecord (p : Path) : Record :=
  Setup.record .debug s!"Logging configured from: {p.name}"

theorem ofSetting_of_ok {s : Surroundings} {r : Request} {apply : Shared → Setup Unit}
    {found : Path × Shared} (h : Setup.levelled s r = .ok found) :
    (Setup.ofSetting s r apply).run.run ls =
      (apply found.2 >>= fun _ => pure (appliedRecord found.1)).run.run ls := by
  unfold Setup.ofSetting
  rw [h]
  rfl

/-- Logging is set up by a setting that can be applied. -/
theorem setUp_of_apply {s : Surroundings} {p : Path} {shared : Shared} {i : Unit}
    (hsetting : Setup.setting s {} = .ok (p, shared))
    (happly : shared.apply.run.run ls = (.ok i, loggers)) :
    ∃ told, (setUp s {}).run.run ls = (.ok (some told), loggers) := by
  have hlevelled : Setup.levelled s {} = .ok (p, shared) := by
    rw [Setup.levelled, hsetting]
    rfl
  have hset : (Setup.ofSetting s {} Shared.apply).run.run ls = (.ok (appliedRecord p), loggers) := by
    rw [ofSetting_of_ok hlevelled, run_bind, happly]
    rfl
  refine ⟨appliedRecord p, run_map.trans ?_⟩
  rw [run_tryCatch, hset]

/-- Unless a level is asked for, logging is set up at the start of the program. -/
theorem setUp_returns (s : Surroundings) :
    ∃ told loggers, (setUp s {}).run.run .initial = (.ok (some told), loggers) := by
  obtain ⟨p, setting, hpath, happlicable, hfile⟩ := Packaged.exists_setting s.environment
  simp only [Packaged.isApplicable, Option.any_eq_true] at happlicable
  obtain ⟨shared, hread, happlies⟩ := happlicable
  obtain ⟨d, hload, hshared⟩ := @Packaged.load_of_read? platform _ _ hread
  have hsetting : Setup.setting s {} = .ok (p, shared) := by
    simp only [Setup.setting, hpath, Except.mapError, loadSetting, Yaml.loadFile_of_text hfile, hload,
      hshared, bind, Except.bind]
    rfl
  rcases hend : shared.apply.run.run .initial with ⟨e | i, loggers⟩
  · rw [hend] at happlies
    exact absurd happlies Bool.false_ne_true
  · obtain ⟨told, htold⟩ := setUp_of_apply hsetting hend
    exact ⟨told, loggers, htold⟩

end

end TypeGuards.Logging
