/-!
Texts taken apart and put together.
-/
namespace TypeGuards.Text

def partsBetween (separator : Char) (text : List Char) : List (List Char) :=
  text.foldr (fun c parts =>
    if c = separator then [] :: parts
    else
      match parts with
      | p :: rest => (c :: p) :: rest
      | [] => [[c]]) [[]]

variable {separator : Char} {a : List Char}

theorem partsBetween_cons_separator : partsBetween separator (separator :: a) =
    [] :: partsBetween separator a := by
  simp [partsBetween]

theorem partsBetween_ne_nil : partsBetween separator a ≠ [] := by
  rcases a with _ | ⟨c, a⟩
  · exact List.cons_ne_nil _ _
  · rw [partsBetween, List.foldr_cons]
    split
    · exact List.cons_ne_nil _ _
    · split <;> exact List.cons_ne_nil _ _

theorem exists_partsBetween_cons {c : Char} (h : c ≠ separator) : ∃ part rest,
    partsBetween separator a = part :: rest ∧
      partsBetween separator (c :: a) = (c :: part) :: rest := by
  obtain ⟨part, rest, hparts⟩ := List.exists_cons_of_ne_nil (partsBetween_ne_nil (a := a))
  refine ⟨part, rest, hparts, ?_⟩
  unfold partsBetween at hparts ⊢
  rw [List.foldr_cons, if_neg h, hparts]

/-- No part holds the separator. -/
theorem not_mem_of_mem_partsBetween {part : List Char} (h : part ∈ partsBetween separator a) :
    separator ∉ part := by
  induction a generalizing part with
  | nil =>
    rw [List.mem_singleton.mp h]
    exact List.not_mem_nil
  | cons c a ih =>
    by_cases hc : c = separator
    · rw [hc, partsBetween_cons_separator, List.mem_cons] at h
      rcases h with rfl | h
      · exact List.not_mem_nil
      · exact ih h
    · obtain ⟨first, rest, hparts, hcons⟩ := exists_partsBetween_cons (a := a) hc
      rw [hcons, List.mem_cons] at h
      rcases h with rfl | h
      · rw [List.mem_cons, not_or]
        exact ⟨Ne.symm hc, ih (hparts ▸ List.mem_cons_self)⟩
      · exact ih (hparts ▸ List.mem_cons_of_mem first h)

/-- Replaces each occurrence of a text that is not empty, from left to right. -/
def replaceAll (old new : List Char) : List Char → List Char
  | [] => []
  | c :: rest =>
      if old ≠ [] && old.isPrefixOf (c :: rest) then
        new ++ replaceAll old new (rest.drop (old.length - 1))
      else c :: replaceAll old new rest
termination_by text => text.length
decreasing_by all_goals simp +arith

end TypeGuards.Text
