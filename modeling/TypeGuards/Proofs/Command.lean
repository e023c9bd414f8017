import TypeGuards.Command
import TypeGuards.Proofs.Logging
import TypeGuards.Proofs.Run.Regeneration
/-!
What the exit code of the command tells. Errors that are failures come from a configuration or from
reading, before anything is written; any other failure belongs to one file, and the guards of all others
are written all the same.
-/
namespace TypeGuards

open TypeScript (Parser)

section

open Run

variable {platform : Platform} {parser : Parser} {c : Config} {dir p : Path} {paths : List Path}
  {source : Source} {fs fs₀ fs' : Files} {s t : Progress} {e : Abort} {f : Failure}

/-! ### Failures of a run -/

end

namespace Command

open Run

section

variable {platform : Platform} {parser : Parser} {p : Place} {o : Options} {w w' : World}
  {r : Result} {s t : Progress} {dir : Path} {outcomes : List Outcome} {e : Abort} {width : Nat}
  {tell : Logging.Record → String}

/-! ### The parts of the command -/

theorem generate_returns : (generate dir o parser).Returns s outcomes t ↔
    ∃ c, Config.build s.files dir o.config o.overrides = .ok c ∧
      (run c dir o.files parser).Returns s outcomes t := by
  unfold generate
  simp only [Action.returns_bind, Action.returns_get, Action.returns_orAbort, and_assoc,
    exists_and_left, exists_eq_left']

theorem generate_aborts : (generate dir o parser).Aborts s e t ↔
    (Config.build s.files dir o.config o.overrides = .error e ∧ s = t) ∨
      ∃ c, Config.build s.files dir o.config o.overrides = .ok c ∧
        (run c dir o.files parser).Aborts s e t := by
  unfold generate
  simp only [Action.aborts_bind, Action.returns_get, Action.returns_orAbort, Action.aborts_orAbort,
    Action.not_aborts_get, false_or, and_assoc, exists_and_left,
    exists_eq_left', id_eq, exists_eq_right]

/-- What a run needs to begin with its files: the configuration is valid, and there are files, all of
which can be read. -/
structure Starts [Platform] (p : Place) (o : Options) (w : World) (c : Config) : Prop where
  valid : Config.build w.files p.dir o.config o.overrides = .ok c
  named : o.files ≠ []
  readable : ∀ file ∈ o.files, Source.Readable w.files p.dir c.encoding file

theorem Starts.unique {c c' : Config} (h : Starts p o w c) (h' : Starts p o w c') : c = c' :=
  Except.ok.inj (h.valid.symm.trans h'.valid)

end

def place : Place := { dir := .root, stamp := { time := "2024-01-01 00:00:00", line := "0" } }

end Command

end TypeGuards
