import TypeGuards.Proofs.Specifier
/-!
Target paths tell the names of sources apart. A name is put for a token in each part of a pattern, and
what comes of the parts with a token tells the name. A part that is then a step leading nowhere is
dropped from the path; since one name only does that, its path has fewer steps than that of any other.
-/
namespace TypeGuards

/-- Where of two functions one keeps all that the other keeps, equal results mean that they agree on
what is kept. -/
theorem eq_of_filter_map_eq {α β : Type} {f g : α → β} {keep : β → Bool} {as : List α}
    (hkeep : ∀ x ∈ as, keep (f x) = true → keep (g x) = true)
    (h : (as.map f).filter keep = (as.map g).filter keep) :
    ∀ x ∈ as, keep (g x) = true → f x = g x := by
  induction as with
  | nil => nofun
  | cons x as ih =>
    rw [List.forall_mem_cons] at hkeep ⊢
    rw [List.map_cons, List.map_cons, List.filter_cons, List.filter_cons] at h
    by_cases hf : keep (f x) = true
    · rw [if_pos hf, if_pos (hkeep.1 hf), List.cons.injEq] at h
      exact ⟨fun _ => h.1, ih hkeep.2 h.2⟩
    by_cases hg : keep (g x) = true
    · -- One list would be longer than the other.
      have hle : as.countP (keep ∘ f) ≤ as.countP (keep ∘ g) := List.countP_mono_left hkeep.2
      have hlength := congrArg List.length h
      rw [if_neg hf, if_pos hg, List.length_cons, ← List.countP_eq_length_filter,
        ← List.countP_eq_length_filter, List.countP_map, List.countP_map] at hlength
      omega
    · rw [if_neg hf, if_neg hg] at h
      exact ⟨fun hx => absurd hx hg, ih hkeep.2 h⟩

namespace Path

variable {pattern : String} {dir : Option Path} {a b p : Path}

/-! ### Names -/

theorem splitName_fst (name : List Char) :
    (splitName name).1 = name ∨ ∃ n, n ≠ 0 ∧ (splitName name).1 = name.take n := by
  simp only [splitName]
  split
  · exact Or.inl rfl
  · rename_i h
    simp only [Bool.or_eq_true, decide_eq_true_eq, not_or] at h
    exact Or.inr ⟨_, h.2, rfl⟩

/-- A stem is what its name begins with. -/
theorem stem_begins_name (p : Path) : p.stem.toList <+: p.name.toList := by
  rw [stem, String.toList_ofList]
  rcases splitName_fst p.name.toList with h | ⟨n, -, h⟩
  · rw [h]
  · rw [h]
    exact List.take_prefix n _

/-- A path that ends in the name of a file. -/
structure Named extends Path where
  name_ne : toPath.name ≠ "" := by decide +kernel

namespace Named

variable (p : Named)

theorem isStep_name : IsStep p.name := by
  have hname := p.name_ne
  unfold name at hname ⊢
  cases hlast : p.steps.getLast? with
  | none => exact absurd (by rw [hlast]; rfl) hname
  | some step => exact p.isStep step (List.mem_of_getLast? hlast)

theorem not_mem_stem : '/' ∉ p.stem.toList :=
  fun hmem => p.isStep_name.2.2 ((stem_begins_name p.toPath).subset hmem)

/-- The name of a file is a step, so it leaves a stem. -/
theorem stem_ne_nil : p.stem.toList ≠ [] := by
  have hname : p.name.toList ≠ [] := fun hnil => p.name_ne (String.toList_eq_nil_iff.mp hnil)
  rw [stem, String.toList_ofList]
  rcases splitName_fst p.name.toList with h | ⟨n, hn, h⟩
  · rwa [h]
  · rw [h, Ne, List.take_eq_nil_iff, not_or]
    exact ⟨hn, hname⟩

end Named

/-! ### Patterns -/

theorem fileToken_ne_nil : fileToken.toList ≠ [] := by decide

theorem not_mem_fileToken : '/' ∉ fileToken.toList := by decide

def filled (pattern : String) (p : Path) : Path :=
  ofString (String.ofList (Text.replaceAll fileToken.toList p.stem.toList pattern.toList))

/-- Where guards go: what the pattern stands for, below the directory for output. -/
theorem targetPath_eq (pattern : String) (p : Path) (dir : Option Path) :
    targetPath pattern p dir = match dir with
      | some d => d.join (filled pattern p)
      | none => filled pattern p := rfl

theorem filled_congr (h : a.stem = b.stem) : filled pattern a = filled pattern b := by
  unfold filled
  rw [h]

/-- A path begins with the slashes of its pattern. -/
theorem slashes_filled (p : Named) :
    (filled pattern p.toPath).slashes = (ofString pattern).slashes := by
  have hfront := Text.takeWhile_replaceAll fileToken_ne_nil p.stem_ne_nil not_mem_fileToken
    p.not_mem_stem pattern.toList
  simp only [filled, ofString, String.toList_ofList, hfront]

/-- A part of a path is a step that is kept: it is not empty and leads somewhere. -/
def keeps (part : List Char) : Bool := part ≠ [] && part ≠ ['.']

theorem keeps_eq_true {part : List Char} : keeps part = true ↔ part ≠ [] ∧ part ≠ ['.'] := by
  simp [keeps]

/-- The pattern is filled step by step, for stems hold no slash. -/
theorem steps_filled (p : Named) : (filled pattern p.toPath).steps =
    (((Text.partsBetween '/' pattern.toList).map
      (Text.replaceAll fileToken.toList p.stem.toList)).filter keeps).map String.ofList := by
  unfold filled
  rw [steps_ofString, String.toList_ofList, Text.partsBetween_replaceAll fileToken_ne_nil
    not_mem_fileToken p.not_mem_stem]
  rfl

/-- A name in a part is kept unless it leads nowhere itself. -/
theorem keeps_replaceAll {stem part : List Char} (hstem : stem ≠ []) (hdot : stem ≠ ['.'])
    (h : fileToken.toList <:+: part) :
    keeps (Text.replaceAll fileToken.toList stem part) = true := by
  have hinfix : stem <:+: Text.replaceAll fileToken.toList stem part :=
    Text.infix_replaceAll fileToken_ne_nil h
  refine keeps_eq_true.mpr ⟨fun hnil => ?_, fun hsingle => ?_⟩
  · rw [hnil] at hinfix
    exact hstem (List.infix_nil.mp hinfix)
  · rw [hsingle] at hinfix
    exact ((List.infix_singleton_iff _ _).mp hinfix).elim hstem hdot

/-- A name that leads somewhere leaves no part out, so it is told from every other name: that one
leaves no part out either. -/
theorem stem_eq_of_steps_eq {a b : Named} (htoken : fileToken.toList <:+: pattern.toList)
    (hdot : b.stem.toList ≠ ['.'])
    (h : (filled pattern a.toPath).steps = (filled pattern b.toPath).steps) : a.stem = b.stem := by
  rw [steps_filled, steps_filled] at h
  have hkept := List.map_injective_iff.mpr (fun _ _ => String.ofList_inj.mp) h
  obtain ⟨part, hpart, hinfix⟩ := Text.exists_mem_partsBetween not_mem_fileToken htoken
  have hsame : Text.replaceAll fileToken.toList a.stem.toList part =
      Text.replaceAll fileToken.toList b.stem.toList part := by
    refine eq_of_filter_map_eq (fun other _ hother => ?_) hkept part hpart
      (keeps_replaceAll b.stem_ne_nil hdot hinfix)
    by_cases hin : fileToken.toList <:+: other
    · exact keeps_replaceAll b.stem_ne_nil hdot hin
    · rw [Text.replaceAll_of_not_infix hin] at hother ⊢
      exact hother
  exact String.toList_inj.mp (Text.eq_of_replaceAll_eq fileToken_ne_nil hinfix hsame)

/-- The token keeps sources of different stems apart, also past steps that are dropped. -/
theorem steps_filled_eq_iff (a b : Named) (htoken : fileToken.toList <:+: pattern.toList) :
    (filled pattern a.toPath).steps = (filled pattern b.toPath).steps ↔ a.stem = b.stem := by
  constructor
  · intro h
    by_cases hdot : b.stem.toList = ['.']
    · by_cases hdot' : a.stem.toList = ['.']
      · exact String.toList_inj.mp (hdot'.trans hdot.symm)
      · exact (stem_eq_of_steps_eq htoken hdot' h.symm).symm
    · exact stem_eq_of_steps_eq htoken hdot h
  · exact fun h => congrArg steps (filled_congr h)

theorem join_inj {d p q : Path} (h : p.slashes = q.slashes) : d.join p = d.join q ↔ p = q := by
  refine ⟨fun hjoin => ?_, congrArg d.join⟩
  have habsolute : p.isAbsolute = q.isAbsolute := by rw [isAbsolute, isAbsolute, h]
  unfold join at hjoin
  rw [habsolute] at hjoin
  split_ifs at hjoin
  · exact hjoin
  · exact Path.ext h (List.append_cancel_left (congrArg steps hjoin))

/-! ### Targets -/

/-- Targets of a pattern with the token tell names apart and nothing else: two sources have the same
target if and only if their names are the same but for the suffix, whatever directory the target is seen
from and whichever of its steps lead nowhere. -/
theorem targetPath_eq_iff (a b : Named) (htoken : fileToken.toList <:+: pattern.toList) :
    targetPath pattern a.toPath dir = targetPath pattern b.toPath dir ↔ a.stem = b.stem := by
  have hslashes : (filled pattern a.toPath).slashes = (filled pattern b.toPath).slashes :=
    (slashes_filled a).trans (slashes_filled b).symm
  have hfilled : filled pattern a.toPath = filled pattern b.toPath ↔ a.stem = b.stem :=
    ⟨fun h => (steps_filled_eq_iff a b htoken).mp (congrArg steps h), filled_congr⟩
  rw [targetPath_eq, targetPath_eq]
  cases dir with
  | none => exact hfilled
  | some d => exact (join_inj hslashes).trans hfilled

/-- A name that is a dot leaves a step of its target out. -/
theorem targetPath_eq_iff_dot :
    targetPath "<FILE>/./<FILE>-guard.ts" (ofString "src/..ts") (some (ofString "out")) =
      ofString "out/.-guard.ts" ∧
    targetPath "<FILE>/./<FILE>-guard.ts" (ofString "src/..ts") (some (ofString "out")) ≠
      targetPath "<FILE>/./<FILE>-guard.ts" (ofString "lib/a.b.ts") (some (ofString "out")) ∧
    targetPath "<FILE>/./<FILE>-guard.ts" (ofString "src/a.b.tsx") (some (ofString "out")) =
      targetPath "<FILE>/./<FILE>-guard.ts" (ofString "lib/a.b.ts") (some (ofString "out")) := by
  have htoken : fileToken.toList <:+: "<FILE>/./<FILE>-guard.ts".toList :=
    ⟨[], "/./<FILE>-guard.ts".toList, by decide⟩
  refine ⟨by decide +kernel, fun h => ?_, ?_⟩
  · have hstem := (targetPath_eq_iff { toPath := ofString "src/..ts" }
      { toPath := ofString "lib/a.b.ts" } htoken).mp h
    exact absurd hstem (by decide +kernel)
  · exact (targetPath_eq_iff { toPath := ofString "src/a.b.tsx" }
      { toPath := ofString "lib/a.b.ts" } htoken).mpr (by decide +kernel)

end Path

end TypeGuards
