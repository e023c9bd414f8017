import TypeGuards.Output.Target
import TypeGuards.Proofs.Parts
import TypeGuards.Proofs.Storing
/-!
Import specifiers lead back. The steps of a relative path are read back from how it is shown, collapsing
leaves where steps lead from the root, and the way from one place to another leads there. So the
specifier of a source, seen from the directory of the module that imports it, leads to the source.
-/
namespace TypeGuards

namespace Path

open Files (advance destination)

variable {p dir : Path} {here start goal steps : List String} {step : String}

/-! ### Reading a path back -/

theorem steps_ofString (text : String) : (ofString text).steps =
    ((Text.partsBetween '/' text.toList).filter fun s => s ≠ [] && s ≠ ['.']).map
      String.ofList := rfl

theorem steps_ofString_append (a b : String) :
    (ofString (a ++ "/" ++ b)).steps = (ofString a).steps ++ (ofString b).steps := by
  have htext : (a ++ "/" ++ b).toList = a.toList ++ '/' :: b.toList := by
    simp [String.toList_append]
  rw [steps_ofString, htext, Text.partsBetween_append, List.filter_append, List.map_append]
  rfl

theorem steps_ofString_step (h : IsStep step) : (ofString step).steps = [step] := by
  obtain ⟨hempty, hdot, hslash⟩ := h
  have hne : step.toList ≠ [] := fun h => hempty (String.toList_eq_nil_iff.mp h)
  have hne' : step.toList ≠ ['.'] := fun h => hdot (String.toList_inj.mp h)
  rw [steps_ofString, Text.partsBetween_of_not_mem hslash]
  simp [hne, hne']

/-- Proper steps with slashes between them are read back as they are. -/
theorem steps_ofString_intercalate (h : ∀ step ∈ steps, IsStep step) :
    (ofString (String.intercalate "/" steps)).steps = steps := by
  induction steps with
  | nil => rfl
  | cons a rest ih =>
    rw [List.forall_mem_cons] at h
    rcases rest with _ | ⟨b, rest⟩
    · exact steps_ofString_step h.1
    · rw [String.intercalate_cons_cons, steps_ofString_append, steps_ofString_step h.1, ih h.2]
      rfl

theorem toString_of_relative (hrelative : p.slashes = 0) :
    p.toString = if p.steps = [] then "." else String.intercalate "/" p.steps := by
  split_ifs with hsteps
  · simp [toString, hrelative, hsteps]
  · rw [toString_of_steps hsteps, hrelative]
    simp

/-- A relative path is read back from its text. -/
theorem steps_ofString_toString (hrelative : p.slashes = 0) :
    (ofString p.toString).steps = p.steps := by
  rw [toString_of_relative hrelative]
  split_ifs with hsteps
  · rw [hsteps]
    rfl
  · exact steps_ofString_intercalate p.isStep

theorem isAbsolute_ofString_dot (rest : String) : (ofString ("." ++ rest)).isAbsolute = false := by
  simp [isAbsolute, ofString]

/-! ### Where steps lead -/

theorem collapse_eq (steps : List String) : collapse steps = destination [] steps := by
  have hfold : ∀ done : List String,
      (steps.foldl (fun done s => if s = ".." then done.drop 1 else s :: done) done).reverse =
        destination done.reverse steps := by
    induction steps with
    | nil => intro done; rfl
    | cons s rest ih =>
      intro done
      rw [List.foldl_cons, ih]
      unfold destination
      rw [List.foldl_cons]
      congr 1
      unfold advance
      split
      · rw [List.drop_one, List.dropLast_reverse]
      · rw [List.reverse_cons]
  exact hfold []

/-- Steps are taken one after another. -/
theorem destination_append (here steps more : List String) :
    destination here (steps ++ more) = destination (destination here steps) more :=
  List.foldl_append

theorem destination_cons (here : List String) (step : String) (rest : List String) :
    destination here (step :: rest) = destination (advance here step) rest := rfl

theorem destination_of_not_mem (h : ".." ∉ steps) : destination here steps = here ++ steps := by
  induction steps generalizing here with
  | nil => simp [destination]
  | cons step rest ih =>
    rw [List.mem_cons, not_or] at h
    rw [destination_cons, ih h.2, advance, if_neg (Ne.symm h.1), List.append_assoc]
    rfl

/-- Going up once for each step leads back. -/
theorem destination_up (here left : List String) :
    destination (here ++ left) (left.map fun _ => "..") = here := by
  induction left generalizing here with
  | nil => simp [destination]
  | cons step left ih =>
    have hups : (step :: left).map (fun _ => "..") = left.map (fun _ => "..") ++ [".."] := by
      rw [List.map_const', List.map_const', List.length_cons, List.replicate_succ']
    have hleft : here ++ step :: left = here ++ [step] ++ left := by simp
    rw [hups, destination_append, hleft, ih, destination_cons, advance, if_pos rfl,
      List.dropLast_concat]
    rfl

theorem mem_destination (h : step ∈ destination here steps) :
    step ∈ here ∨ step ∈ steps ∧ step ≠ ".." := by
  induction steps generalizing here with
  | nil => exact Or.inl h
  | cons s rest ih =>
    rcases ih h with hhere | ⟨hrest, hne⟩
    · unfold advance at hhere
      split at hhere
      · exact Or.inl (List.dropLast_subset here hhere)
      · rename_i hs
        rcases List.mem_append.mp hhere with hhere | hs'
        · exact Or.inl hhere
        · obtain rfl := List.mem_singleton.mp hs'
          exact Or.inr ⟨List.mem_cons_self, hs⟩
    · exact Or.inr ⟨List.mem_cons_of_mem s hrest, hne⟩

theorem collapse_of_not_mem (h : ".." ∉ steps) : collapse steps = steps := by
  rw [collapse_eq, destination_of_not_mem h, List.nil_append]

theorem up_not_mem_collapse (steps : List String) : ".." ∉ collapse steps := by
  rw [collapse_eq]
  intro h
  rcases mem_destination h with h | h
  · exact List.not_mem_nil h
  · exact h.2 rfl

/-! ### The way from place to place -/

/-- The way between two places goes up to where they part, and down from there. -/
theorem steps_way (start goal : Path) : (way start goal).steps =
    (dropCommon start.steps goal.steps).1.map (fun _ => "..") ++
      (dropCommon start.steps goal.steps).2 := rfl

/-- From any place, the way to a goal leads there. -/
theorem destination_way {start goal : Path} (h : ".." ∉ goal.steps) :
    destination start.steps (way start goal).steps = goal.steps := by
  obtain ⟨common, hstart, hgoal⟩ := exists_common start.steps goal.steps
  have hdown : ".." ∉ (dropCommon start.steps goal.steps).2 := fun hmem =>
    h (hgoal ▸ List.mem_append_right common hmem)
  calc destination start.steps (way start goal).steps
      = destination (destination (common ++ (dropCommon start.steps goal.steps).1)
          ((dropCommon start.steps goal.steps).1.map fun _ => ".."))
          (dropCommon start.steps goal.steps).2 := by
        rw [steps_way, destination_append, ← hstart]
    _ = common ++ (dropCommon start.steps goal.steps).2 := by
        rw [destination_up, destination_of_not_mem hdown]
    _ = goal.steps := hgoal.symm

/-! ### Paths resolved -/

theorem steps_resolve_of_isAbsolute (h : p.isAbsolute = true) :
    (resolve dir p).steps = collapse p.steps := by
  have hjoin : dir.join p = p := if_pos h
  exact congrArg (fun q => collapse q.steps) hjoin

theorem steps_resolve_of_relative (h : p.isAbsolute = false) :
    (resolve dir p).steps = collapse (dir.steps ++ p.steps) := by
  have hjoin : (dir.join p).steps = dir.steps ++ p.steps := by simp [join, h]
  exact congrArg collapse hjoin

/-- A resolved path takes no step up. -/
theorem up_not_mem_resolve (dir p : Path) : ".." ∉ (resolve dir p).steps := up_not_mem_collapse _

/-- A path from the root without `..` stands for itself. -/
theorem resolve_eq_self (hslashes : p.slashes = 1) (h : ".." ∉ p.steps) : resolve dir p = p := by
  have habsolute : p.isAbsolute = true := by simp [isAbsolute, hslashes]
  refine Path.ext hslashes.symm ?_
  rw [steps_resolve_of_isAbsolute habsolute, collapse_of_not_mem h]

variable {workDir s o : Path}

def importWay (workDir s o : Path) : Path := way (resolve workDir o).parent (resolve workDir s)

theorem specifier_eq : specifier workDir s (some o) =
    if "../".isPrefixOf (importWay workDir s o).toString then (importWay workDir s o).toString
    else "./" ++ (importWay workDir s o).toString := rfl

/-- A specifier goes up by its own steps or gets a dot in front; a bare one would name a package. -/
theorem specifier_cases (workDir s o : Path) :
    specifier workDir s (some o) = "./" ++ (importWay workDir s o).toString ∨
      specifier workDir s (some o) = (importWay workDir s o).toString ∧
        ∃ rest, (importWay workDir s o).toString = "../" ++ rest := by
  rw [specifier_eq]
  split
  · rename_i hprefix
    obtain ⟨rest, hrest⟩ := String.startsWith_string_iff.mp hprefix
    refine Or.inr ⟨rfl, String.ofList rest, ?_⟩
    rw [← String.toList_inj, ← hrest]
    simp
  · exact Or.inl rfl

/-- In front of a way, `./` adds no step. -/
theorem steps_specifier (workDir s o : Path) :
    (ofString (specifier workDir s (some o))).steps = (importWay workDir s o).steps := by
  have hshown := @steps_ofString_toString (importWay workDir s o) rfl
  rcases specifier_cases workDir s o with htext | ⟨htext, -⟩
  · have hdot : ("./" : String) = "." ++ "/" := rfl
    have hnone : (ofString ".").steps = [] := rfl
    rw [htext, hdot, steps_ofString_append, hnone, hshown, List.nil_append]
  · rw [htext, hshown]

theorem isAbsolute_specifier (workDir s o : Path) :
    (ofString (specifier workDir s (some o))).isAbsolute = false := by
  rcases specifier_cases workDir s o with htext | ⟨htext, rest, hrest⟩
  · have hdot : ("./" : String) = "." ++ "/" := rfl
    rw [htext, hdot, String.append_assoc]
    exact isAbsolute_ofString_dot _
  · have hdot : ("../" : String) = "." ++ "./" := rfl
    rw [htext, hrest, hdot, String.append_assoc]
    exact isAbsolute_ofString_dot _

/-- The specifier of a module leads from the directory of the module to its source. -/
theorem resolve_specifier (workDir s o : Path) :
    resolve (resolve workDir o).parent (ofString (specifier workDir s (some o))) =
      resolve workDir s := by
  have hhere : ".." ∉ (resolve workDir o).parent.steps := fun h =>
    up_not_mem_resolve workDir o (List.dropLast_subset _ h)
  refine Path.ext (by rw [slashes_resolve, slashes_resolve]) ?_
  rw [steps_resolve_of_relative (isAbsolute_specifier workDir s o)]
  calc collapse ((resolve workDir o).parent.steps ++
          (ofString (specifier workDir s (some o))).steps)
      = destination (resolve workDir o).parent.steps (importWay workDir s o).steps := by
        rw [collapse_eq, steps_specifier, destination_append, destination_of_not_mem hhere,
          List.nil_append]
    _ = (resolve workDir s).steps := destination_way (up_not_mem_resolve workDir s)

/-- A specifier leads back: it begins by saying where it is seen from, and seen from the directory of the
module it stands for the source. Paths that need no resolving stand for themselves. -/
theorem specifier_leads_back (workDir s o : Path) :
    ((∃ rest, specifier workDir s (some o) = "./" ++ rest) ∨
      ∃ rest, specifier workDir s (some o) = "../" ++ rest) ∧
    resolve (resolve workDir o).parent (ofString (specifier workDir s (some o))) =
      resolve workDir s ∧
    (s.slashes = 1 → ".." ∉ s.steps → o.isAbsolute = true → ".." ∉ o.steps →
      resolve o.parent (ofString (specifier workDir s (some o))) = s) := by
  have hback := resolve_specifier workDir s o
  refine ⟨?_, hback, fun hslashes hplain ho hplain' => ?_⟩
  · rcases specifier_cases workDir s o with htext | ⟨htext, rest, hrest⟩
    · exact Or.inl ⟨_, htext⟩
    · exact Or.inr ⟨rest, htext.trans hrest⟩
  · rw [resolve_eq_self hslashes hplain] at hback
    have hparent : (resolve workDir o).parent.steps = o.parent.steps := by
      simp only [parent, steps_resolve_of_isAbsolute ho, collapse_of_not_mem hplain']
    have hsteps : (resolve o.parent (ofString (specifier workDir s (some o)))).steps =
        (resolve (resolve workDir o).parent (ofString (specifier workDir s (some o)))).steps := by
      rw [steps_resolve_of_relative (isAbsolute_specifier workDir s o),
        steps_resolve_of_relative (isAbsolute_specifier workDir s o), hparent]
    refine (Path.ext ?_ hsteps).trans hback
    rw [slashes_resolve, slashes_resolve]

/-- A name may begin with two dots and still lead down. -/
theorem specifier_leads_back_dotted :
    specifier (ofString "/work/gen") (ofString "../..types/a.ts") (some (ofString "../a-guard.ts")) =
      "./..types/a.ts" ∧
    resolve (ofString "/work") (ofString "./..types/a.ts") = ofString "/work/..types/a.ts" ∧
    resolve (ofString "/work/gen") (ofString "../..types/a.ts") = ofString "/work/..types/a.ts" := by
  have hdown : specifier (ofString "/work/gen") (ofString "../..types/a.ts")
      (some (ofString "../a-guard.ts")) = "./..types/a.ts" := by decide +kernel
  have hup : specifier (ofString "/work/gen") (ofString "/work/..types/a.ts")
      (some (ofString "/work/gen/a-guard.ts")) = "../..types/a.ts" := by decide +kernel
  obtain ⟨-, hback, -⟩ := specifier_leads_back (ofString "/work/gen") (ofString "../..types/a.ts")
    (ofString "../a-guard.ts")
  obtain ⟨-, -, hself⟩ := specifier_leads_back (ofString "/work/gen") (ofString "/work/..types/a.ts")
    (ofString "/work/gen/a-guard.ts")
  have hdir : (resolve (ofString "/work/gen") (ofString "../a-guard.ts")).parent =
      ofString "/work" := by decide +kernel
  have hsource : resolve (ofString "/work/gen") (ofString "../..types/a.ts") =
      ofString "/work/..types/a.ts" := by decide +kernel
  have hparent : (ofString "/work/gen/a-guard.ts").parent = ofString "/work/gen" := by
    decide +kernel
  rw [hdown, hdir, hsource] at hback
  have hexact := hself (by decide +kernel) (by decide +kernel) (by decide +kernel) (by decide +kernel)
  rw [hup, hparent] at hexact
  exact ⟨hdown, hback, hexact⟩

end Path

end TypeGuards
