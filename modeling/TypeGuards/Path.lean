import TypeGuards.Text.Parts
/-!
Paths of a file system with one tree. A path is kept without empty steps and steps that lead
nowhere; `..` is kept, since it leads elsewhere where a directory is a link.
-/
namespace TypeGuards

/-- A step that is kept: it is not empty, does not lead nowhere, and is not two steps. -/
def Path.IsStep (step : String) : Prop := step ≠ "" ∧ step ≠ "." ∧ '/' ∉ step.toList

instance (step : String) : Decidable (Path.IsStep step) := inferInstanceAs (Decidable (_ ∧ _ ∧ _))

@[ext]
structure Path where
  /-- The slashes in front: none in a relative path, one or two in an absolute one. -/
  slashes : Nat := 0
  steps : List String := []
  slashes_le : slashes ≤ 2 := by decide
  isStep : ∀ step ∈ steps, Path.IsStep step := by decide +kernel
deriving DecidableEq, Repr

namespace Path

instance : Inhabited Path := ⟨{}⟩

theorem isStep_ofList {part text : List Char} (hpart : part ∈ Text.partsBetween '/' text)
    (hkept : (part ≠ [] && part ≠ ['.']) = true) : IsStep (String.ofList part) := by
  simp only [ne_eq, Bool.and_eq_true, decide_eq_true_eq] at hkept
  refine ⟨fun h => hkept.1 ?_, fun h => hkept.2 ?_, ?_⟩
  · simpa using congrArg String.toList h
  · simpa using congrArg String.toList h
  · rw [String.toList_ofList]
    exact Text.not_mem_of_mem_partsBetween hpart

/-- Two slashes in front are kept; more of them count as one. -/
def ofString (text : String) : Path :=
  let leading := (text.toList.takeWhile (· = '/')).length
  let steps := (Text.partsBetween '/' text.toList).filter fun s => s ≠ [] && s ≠ ['.']
  { slashes := if leading > 2 then 1 else leading
    steps := steps.map String.ofList
    slashes_le := by
      split
      · decide
      · omega
    isStep := by
      intro step hstep
      obtain ⟨part, hpart, rfl⟩ := List.mem_map.mp hstep
      obtain ⟨hmem, hkept⟩ := List.mem_filter.mp hpart
      exact isStep_ofList hmem hkept }

def toString (p : Path) : String :=
  if p.slashes = 0 && p.steps.isEmpty then "."
  else String.ofList (List.replicate p.slashes '/') ++ String.intercalate "/" p.steps

instance : ToString Path := ⟨toString⟩

def isAbsolute (p : Path) : Bool := p.slashes > 0

def name (p : Path) : String := p.steps.getLast?.getD ""

/-- A name before and from its last dot, unless that is its first or its last character. -/
def splitName (name : List Char) : List Char × List Char :=
  let ending := name.reverse.takeWhile (· ≠ '.')
  let before := name.length - ending.length - 1
  if ending.isEmpty || ending.length = name.length || before = 0 then (name, [])
  else (name.take before, name.drop before)

def stem (p : Path) : String := String.ofList (splitName p.name.toList).1

def suffix (p : Path) : String := String.ofList (splitName p.name.toList).2

def parent (p : Path) : Path :=
  { p with steps := p.steps.dropLast, isStep := fun s h => p.isStep s (List.dropLast_subset _ h) }

@[simp] theorem slashes_parent (p : Path) : p.parent.slashes = p.slashes := rfl

@[simp] theorem steps_parent (p : Path) : p.parent.steps = p.steps.dropLast := rfl

def join (dir p : Path) : Path :=
  if p.isAbsolute then p
  else
    { dir with
      steps := dir.steps ++ p.steps
      isStep := fun s h => (List.mem_append.mp h).elim (dir.isStep s) (p.isStep s) }

/-- Takes each `..` together with the step before it; above the root there is only the root. -/
def collapse (steps : List String) : List String :=
  (steps.foldl (fun done s => if s = ".." then done.drop 1 else s :: done) []).reverse

theorem collapse_subset (steps : List String) : collapse steps ⊆ steps := by
  have hfold : ∀ (rest done : List String), ∀ s ∈ rest.foldl
      (fun done s => if s = ".." then done.drop 1 else s :: done) done, s ∈ done ∨ s ∈ rest := by
    intro rest
    induction rest with
    | nil => exact fun done s h => Or.inl h
    | cons step rest ih =>
      intro done s h
      rcases ih _ s h with hdone | hrest
      · dsimp only at hdone
        split at hdone
        · exact Or.inl (List.mem_of_mem_drop hdone)
        · exact (List.mem_cons.mp hdone).elim (fun h => Or.inr (h ▸ List.mem_cons_self)) Or.inl
      · exact Or.inr (List.mem_cons_of_mem _ hrest)
  intro s h
  exact (hfold steps [] s (List.mem_reverse.mp h)).resolve_left List.not_mem_nil

/-- The absolute path without `..` that a path seen from a directory stands for. -/
def resolve (dir p : Path) : Path :=
  { slashes := 1
    steps := collapse (dir.join p).steps
    isStep := fun s h => (dir.join p).isStep s (collapse_subset _ h) }

@[simp] theorem slashes_resolve (dir p : Path) : (resolve dir p).slashes = 1 := rfl

def dropCommon : List String → List String → List String × List String
  | a :: as, b :: bs => if a = b then dropCommon as bs else (a :: as, b :: bs)
  | as, bs => (as, bs)

/-- Two places part at the end of the longest beginning they share. -/
theorem exists_common (start goal : List String) : ∃ common,
    start = common ++ (dropCommon start goal).1 ∧ goal = common ++ (dropCommon start goal).2 := by
  fun_induction dropCommon start goal with
  | case1 as b bs ih =>
    obtain ⟨common, hstart, hgoal⟩ := ih
    exact ⟨b :: common, congrArg (b :: ·) hstart, congrArg (b :: ·) hgoal⟩
  | case2 | case3 => exact ⟨[], rfl, rfl⟩

theorem isStep_up : IsStep ".." := by decide

/-- The way from one place to another is made of proper steps. -/
theorem isStep_way {start goal : List String} (h : ∀ step ∈ goal, IsStep step) :
    ∀ step ∈ (dropCommon start goal).1.map (fun _ => "..") ++ (dropCommon start goal).2,
      IsStep step := by
  obtain ⟨common, -, hgoal⟩ := exists_common start goal
  intro step hstep
  rcases List.mem_append.mp hstep with hup | hdown
  · obtain ⟨-, -, rfl⟩ := List.mem_map.mp hup
    exact isStep_up
  · exact h step (hgoal ▸ List.mem_append_right common hdown)

def way (start goal : Path) : Path where
  steps := (dropCommon start.steps goal.steps).1.map (fun _ => "..") ++
    (dropCommon start.steps goal.steps).2
  isStep := isStep_way goal.isStep

end Path

end TypeGuards
