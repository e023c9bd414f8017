import Mathlib.Data.List.Infix
import TypeGuards.Text.Parts
/-!
Texts taken apart at a separator, and texts in which another is replaced. No part holds the separator,
and what holds none lies within a part. After a text is replaced, what was put for it can be told; and
if neither holds the separator, replacing is the same in a text and in each of its parts.
-/
namespace TypeGuards.Text

variable {separator : Char} {old new a b text : List Char}

/-! ### The parts of a text -/

theorem exists_partsBetween_append (h : separator ∉ a) (b : List Char) : ∃ part rest,
    partsBetween separator b = part :: rest ∧ partsBetween separator (a ++ b) = (a ++ part) :: rest := by
  induction a with
  | nil =>
    obtain ⟨part, rest, hparts⟩ := List.exists_cons_of_ne_nil (partsBetween_ne_nil (a := b))
    exact ⟨part, rest, hparts, hparts⟩
  | cons c a ih =>
    rw [List.mem_cons, not_or] at h
    obtain ⟨part, rest, hparts, happend⟩ := ih h.2
    obtain ⟨part', rest', hparts', hcons⟩ :=
      exists_partsBetween_cons (a := a ++ b) (Ne.symm h.1)
    rw [happend, List.cons.injEq] at hparts'
    obtain ⟨rfl, rfl⟩ := hparts'
    exact ⟨part, rest, hparts, hcons⟩

/-- A text is cut at its separators, so it can be cut at any of them first. -/
theorem partsBetween_append (a b : List Char) : partsBetween separator (a ++ separator :: b) =
    partsBetween separator a ++ partsBetween separator b := by
  induction a with
  | nil => exact partsBetween_cons_separator
  | cons c a ih =>
    by_cases h : c = separator
    · subst h
      rw [List.cons_append, partsBetween_cons_separator, partsBetween_cons_separator, ih]
      rfl
    · obtain ⟨part, rest, hparts, hcons⟩ := exists_partsBetween_cons (a := a) h
      obtain ⟨part', rest', hparts', hcons'⟩ :=
        exists_partsBetween_cons (a := a ++ separator :: b) h
      rw [ih, hparts, List.cons_append, List.cons.injEq] at hparts'
      obtain ⟨rfl, rfl⟩ := hparts'
      rw [List.cons_append, hcons', hcons, List.cons_append]

theorem partsBetween_of_not_mem (h : separator ∉ a) : partsBetween separator a = [a] := by
  obtain ⟨part, rest, hparts, happend⟩ := exists_partsBetween_append h []
  obtain ⟨rfl, rfl⟩ := List.cons.inj hparts
  simpa using happend

theorem prefix_of_partsBetween_eq_cons {part : List Char} {rest : List (List Char)}
    (h : partsBetween separator text = part :: rest) : part <+: text := by
  induction text generalizing part rest with
  | nil => rw [← (List.cons.inj h).1]
  | cons c text ih =>
    by_cases hc : c = separator
    · rw [hc, partsBetween_cons_separator] at h
      rw [← (List.cons.inj h).1]
      exact List.nil_prefix
    · obtain ⟨first, more, hparts, hcons⟩ := exists_partsBetween_cons (a := text) hc
      rw [← (List.cons.inj (hcons.symm.trans h)).1]
      exact List.cons_prefix_cons.mpr ⟨rfl, ih hparts⟩

/-- A text without a separator is in one of the parts. -/
theorem exists_mem_partsBetween (hold : separator ∉ old) (h : old <:+: text) :
    ∃ part ∈ partsBetween separator text, old <:+: part := by
  obtain ⟨before, after, rfl⟩ := h
  rw [List.append_assoc]
  induction before with
  | nil =>
    obtain ⟨part, rest, -, happend⟩ := exists_partsBetween_append hold after
    rw [List.nil_append, happend]
    exact ⟨old ++ part, List.mem_cons_self, (List.prefix_append old part).isInfix⟩
  | cons c before ih =>
    obtain ⟨part, hpart, hinfix⟩ := ih
    rw [List.cons_append]
    by_cases hc : c = separator
    · rw [hc, partsBetween_cons_separator]
      exact ⟨part, List.mem_cons_of_mem [] hpart, hinfix⟩
    · obtain ⟨first, rest, hparts, hcons⟩ := exists_partsBetween_cons (a := before ++ (old ++ after)) hc
      rw [hparts, List.mem_cons] at hpart
      rw [hcons]
      rcases hpart with rfl | hpart
      · exact ⟨c :: part, List.mem_cons_self, List.infix_cons hinfix⟩
      · exact ⟨part, List.mem_cons_of_mem _ hpart, hinfix⟩

/-! ### One text put for another -/

theorem replaceAll_append (hold : old ≠ []) (rest : List Char) :
    replaceAll old new (old ++ rest) = new ++ replaceAll old new rest := by
  obtain ⟨c, tail, rfl⟩ := List.exists_cons_of_ne_nil hold
  have hbegins : (c :: tail).isPrefixOf (c :: (tail ++ rest)) = true :=
    List.isPrefixOf_iff_prefix.mpr (List.prefix_append (c :: tail) rest)
  rw [List.cons_append, replaceAll]
  simp [hbegins]

theorem replaceAll_cons_of_not_begins {c : Char} {rest : List Char} (h : ¬old <+: c :: rest) :
    replaceAll old new (c :: rest) = c :: replaceAll old new rest := by
  have hbegins : old.isPrefixOf (c :: rest) = false := by
    rw [Bool.eq_false_iff]
    exact mt List.isPrefixOf_iff_prefix.mp h
  rw [replaceAll]
  simp [hbegins]

/-- A text is read from left to right: the old text as a whole where it begins, and a character
elsewhere. -/
theorem reading_induction {P : List Char → Prop} (hold : old ≠ []) (nil : P [])
    (whole : ∀ rest, P rest → P (old ++ rest))
    (single : ∀ c rest, ¬old <+: c :: rest → P rest → P (c :: rest)) (text : List Char) : P text := by
  by_cases h : old <+: text
  · obtain ⟨rest, hrest⟩ := h
    rw [← hrest]
    exact whole rest (reading_induction hold nil whole single rest)
  · cases text with
    | nil => exact nil
    | cons c rest => exact single c rest h (reading_induction hold nil whole single rest)
termination_by text.length
decreasing_by
  · have hpos := List.length_pos_iff.mpr hold
    rw [← hrest, List.length_append]
    omega
  · exact Nat.lt_succ_self _

/-- A text that is not there is not replaced. -/
theorem replaceAll_of_not_infix (h : ¬old <:+: text) : replaceAll old new text = text := by
  induction text with
  | nil => rw [replaceAll]
  | cons c rest ih =>
    rw [List.infix_cons_iff, not_or] at h
    rw [replaceAll_cons_of_not_begins h.1, ih h.2]

/-- What replaces a text shows up in the result. -/
theorem infix_replaceAll (hold : old ≠ []) (h : old <:+: text) : new <:+: replaceAll old new text := by
  induction text using reading_induction hold with
  | nil => exact absurd (List.infix_nil.mp h) hold
  | whole rest ih =>
    rw [replaceAll_append hold]
    exact (List.prefix_append new _).isInfix
  | single c rest hnot ih =>
    rw [replaceAll_cons_of_not_begins hnot]
    exact List.infix_cons (ih ((List.infix_cons_iff.mp h).resolve_left hnot))

theorem length_replaceAll_le (hold : old ≠ []) (h : a.length ≤ b.length) (text : List Char) :
    (replaceAll old a text).length ≤ (replaceAll old b text).length := by
  induction text using reading_induction hold with
  | nil => rw [replaceAll, replaceAll]
  | whole rest ih =>
    rw [replaceAll_append hold, replaceAll_append hold, List.length_append, List.length_append]
    omega
  | single c rest hnot ih =>
    rw [replaceAll_cons_of_not_begins hnot, replaceAll_cons_of_not_begins hnot]
    exact Nat.succ_le_succ ih

/-- What was put for a text can be told by the place where it stands first. -/
theorem eq_of_replaceAll_eq (hold : old ≠ []) (h : old <:+: text)
    (heq : replaceAll old a text = replaceAll old b text) : a = b := by
  induction text using reading_induction hold with
  | nil => exact absurd (List.infix_nil.mp h) hold
  | whole rest ih =>
    rw [replaceAll_append hold, replaceAll_append hold] at heq
    have hlength := congrArg List.length heq
    rw [List.length_append, List.length_append] at hlength
    -- What follows is no shorter for the longer of the two, so neither is longer.
    rcases Nat.le_total a.length b.length with hle | hle
    · have hrest := length_replaceAll_le hold hle rest
      exact List.append_inj_left heq (by omega)
    · have hrest := length_replaceAll_le hold hle rest
      exact List.append_inj_left heq (by omega)
  | single c rest hnot ih =>
    rw [replaceAll_cons_of_not_begins hnot, replaceAll_cons_of_not_begins hnot] at heq
    exact ih ((List.infix_cons_iff.mp h).resolve_left hnot) (List.cons.inj heq).2

/-! ### Part by part -/

/-- Replacing within parts and cutting into parts can be done in either order. -/
theorem partsBetween_replaceAll (hne : old ≠ []) (hold : separator ∉ old) (hnew : separator ∉ new)
    (text : List Char) : partsBetween separator (replaceAll old new text) =
      (partsBetween separator text).map (replaceAll old new) := by
  have hnil : replaceAll old new [] = [] := by rw [replaceAll]
  induction text using reading_induction hne with
  | nil =>
    rw [hnil]
    exact congrArg ([·]) hnil.symm
  | whole rest ih =>
    obtain ⟨part, more, hparts, happend⟩ := exists_partsBetween_append hold rest
    obtain ⟨part', more', hparts', happend'⟩ :=
      exists_partsBetween_append hnew (replaceAll old new rest)
    rw [ih, hparts, List.map_cons, List.cons.injEq] at hparts'
    rw [replaceAll_append hne, happend', happend, List.map_cons, replaceAll_append hne, ← hparts'.1,
      ← hparts'.2]
  | single c rest hnot ih =>
    rw [replaceAll_cons_of_not_begins hnot]
    by_cases hc : c = separator
    · rw [hc, partsBetween_cons_separator, partsBetween_cons_separator, ih, List.map_cons, hnil]
    · obtain ⟨part, more, hparts, hcons⟩ := exists_partsBetween_cons (a := rest) hc
      obtain ⟨part', more', hparts', hcons'⟩ :=
        exists_partsBetween_cons (a := replaceAll old new rest) hc
      -- The old text begins no earlier in a part than in the whole.
      have hnot' : ¬old <+: c :: part := fun hbegins =>
        hnot (hbegins.trans (List.cons_prefix_cons.mpr ⟨rfl, prefix_of_partsBetween_eq_cons hparts⟩))
      rw [ih, hparts, List.map_cons, List.cons.injEq] at hparts'
      rw [hcons', hcons, List.map_cons, replaceAll_cons_of_not_begins hnot', ← hparts'.1, ← hparts'.2]

theorem takeWhile_separator_append (hne : a ≠ []) (h : separator ∉ a) (b : List Char) :
    (a ++ b).takeWhile (· = separator) = [] := by
  obtain ⟨c, a, rfl⟩ := List.exists_cons_of_ne_nil hne
  have hc : c ≠ separator := fun hc => h (hc ▸ List.mem_cons_self)
  rw [List.cons_append, List.takeWhile_cons_of_neg (by simpa using hc)]

/-- A text begins with as many separators as before. -/
theorem takeWhile_replaceAll (hne : old ≠ []) (hne' : new ≠ []) (hold : separator ∉ old)
    (hnew : separator ∉ new) (text : List Char) :
    (replaceAll old new text).takeWhile (· = separator) = text.takeWhile (· = separator) := by
  induction text using reading_induction hne with
  | nil => rw [replaceAll]
  | whole rest ih =>
    rw [replaceAll_append hne, takeWhile_separator_append hne' hnew,
      takeWhile_separator_append hne hold]
  | single c rest hnot ih =>
    rw [replaceAll_cons_of_not_begins hnot, List.takeWhile_cons, List.takeWhile_cons, ih]

end TypeGuards.Text
