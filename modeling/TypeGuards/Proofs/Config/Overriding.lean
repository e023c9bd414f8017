import Mathlib.Tactic.Choose
import TypeGuards.Proofs.Config.Field
import TypeGuards.Proofs.Encoding.Codec
import TypeGuards.Proofs.Files
/-!
Configurations of a file and of what is stated on top of it. A field has the value stated on top, if
one is stated there, else that of the file, else its default. What the file says about a field that is
overridden does not matter, valid or not, and an entry that is no field is refused.
-/
namespace TypeGuards.Config

section

variable {platform : Platform} {entries m m' overrides : List (Scalar × Data)} {c : Config}

/-! ### What is stated on top of a file -/

/-- The value that overrides a field: the last one that states anything. -/
def stated (overrides : List (Scalar × Data)) (f : Field) : Option Data :=
  Data.find? (overrides.reverse.filter fun e => !isUnset e.2) f.name

def fileEntries [Platform] (fs : Files) (dir : Path) : Option Path → Except Abort (List (Scalar × Data))
  | some p => loadEntries fs dir p
  | none => .ok []

/-- A field is taken from what overrides it, else from the entries of a file, else by default. -/
inductive Takes [Platform] (m overrides : List (Scalar × Data)) (f : Field) (v : f.Value) : Prop
  | overriding {d : Data} : stated overrides f = some d → f.States d v → Takes m overrides f v
  | entry {d : Data} : stated overrides f = none → Data.find? m f.name = some d → f.States d v →
      Takes m overrides f v
  | default : stated overrides f = none → Data.find? m f.name = none → v = f.value {} →
      Takes m overrides f v

variable {fs : Files} {dir : Path} {file : Option Path}

theorem Takes.states {f : Field} {v : f.Value} {d : Data} (h : Takes m overrides f v)
    (hd : (stated overrides f).or (Data.find? m f.name) = some d) : f.States d v := by
  rcases h with ⟨hstated, hv⟩ | ⟨hstated, hentry, hv⟩ | ⟨hstated, hentry, -⟩
  · rw [hstated] at hd
    rwa [← Option.some.inj hd]
  · rw [hstated, hentry] at hd
    rwa [← Option.some.inj hd]
  · rw [hstated, hentry] at hd
    contradiction

theorem build_eq (h : fileEntries fs dir file = .ok m) : build fs dir file overrides =
    match ofData (.map (override m overrides)) with
    | .ok c => .ok c
    | .error message => refuse message := by
  cases file with
  | none =>
    obtain rfl := Except.ok.inj h
    rfl
  | some p =>
    have hload : loadEntries fs dir p = .ok m := h
    unfold build
    simp only [hload]
    rfl

/-- Whatever is wrong with the entries is reported as a fault of the configuration. -/
theorem failure_of_build {e : Abort} (h : fileEntries fs dir file = .ok m)
    (hbuild : build fs dir file overrides = .error e) :
    ∃ message, e = .failure (.configuration message) := by
  rw [build_eq h] at hbuild
  split at hbuild
  · contradiction
  · exact ⟨_, (Except.error.inj hbuild).symm⟩

end

end TypeGuards.Config
