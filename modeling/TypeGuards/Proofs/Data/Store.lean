import Mathlib.Tactic.SplitIfs
import TypeGuards.Data.Store
import TypeGuards.Proofs.Sequence
/-!
Entries by their keys and objects by their numbers. What is set is found again, nothing else changes, and
to set what is there already changes nothing.
-/
namespace TypeGuards

open Store (Value)

namespace Scalar

theorem isSameKey_text {k : Scalar} {name : String} :
    k.isSameKey (.text name) = true ↔ k = .text name := by
  cases k <;> simp [isSameKey, integer?, number?]

theorem isSameKey_self (k : Scalar) : k.isSameKey k = true := by
  cases k <;> simp [isSameKey, integer?, number?]

end Scalar

open Scalar

namespace Data

variable {α : Type} {entries : List (Scalar × α)} {key : Scalar} {v w : α} {name other : String}

theorem find?_cons {e : Scalar × α} :
    find? (e :: entries) name = if e.1 = .text name then some e.2 else find? entries name := by
  unfold find?
  by_cases h : e.1 = .text name <;> simp [h]

/-- What is put under a key is found there, and other keys keep their values. -/
theorem find?_insert :
    find? (insert (.text name) v entries) other = if name = other then some v else find? entries other := by
  induction entries with
  | nil =>
    rw [insert, find?_cons]
    simp
  | cons e rest ih =>
    obtain ⟨k, old⟩ := e
    rw [insert]
    by_cases hk : k = .text name
    · rw [if_pos (isSameKey_text.mpr hk), find?_cons, find?_cons, hk]
      by_cases hother : name = other <;> simp [hother]
    · rw [if_neg (mt isSameKey_text.mp hk), find?_cons, find?_cons, ih]
      by_cases hother : name = other
      · subst hother
        simp [hk]
      · simp [hother]

theorem find?_eq_none : find? entries name = none ↔ ∀ e ∈ entries, e.1 ≠ .text name := by
  simp [find?]

/-- A value that is there is replaced in its place. -/
theorem exists_insert_eq (h : find? entries name = some v) : ∃ before after,
    entries = before ++ (.text name, v) :: after ∧
      ∀ w, insert (.text name) w entries = before ++ (.text name, w) :: after := by
  induction entries with
  | nil => contradiction
  | cons e rest ih =>
    obtain ⟨k, old⟩ := e
    rw [find?_cons] at h
    by_cases hk : k = .text name
    · rw [if_pos hk] at h
      obtain rfl := Option.some.inj h
      refine ⟨[], rest, by rw [hk]; rfl, fun w => ?_⟩
      rw [insert, if_pos (isSameKey_text.mpr hk), hk]
      rfl
    · rw [if_neg hk] at h
      obtain ⟨before, after, hrest, hinsert⟩ := ih h
      refine ⟨(k, old) :: before, after, by rw [hrest]; rfl, fun w => ?_⟩
      rw [insert, if_neg (mt isSameKey_text.mp hk), hinsert w]
      rfl

theorem mem_of_find? (h : find? entries name = some v) : (.text name, v) ∈ entries := by
  obtain ⟨before, after, heq, -⟩ := exists_insert_eq h
  rw [heq]
  exact List.mem_append_right _ List.mem_cons_self

/-- A value under a new key comes last. -/
theorem insert_of_none (h : find? entries name = none) :
    insert (.text name) v entries = entries ++ [(.text name, v)] := by
  induction entries with
  | nil => rfl
  | cons e rest ih =>
    rw [find?_cons] at h
    split at h
    · contradiction
    · rename_i hk
      rw [insert, if_neg (mt isSameKey_text.mp hk), ih h]
      rfl

/-- Putting back what is there changes nothing. -/
theorem insert_self (h : find? entries name = some v) : insert (.text name) v entries = entries := by
  obtain ⟨before, after, heq, hinsert⟩ := exists_insert_eq h
  rw [hinsert, heq]

/-- The entries under other keys stay. -/
theorem mem_insert_of_ne {e : Scalar × α} (h : e.1 ≠ .text name) :
    e ∈ insert (.text name) v entries ↔ e ∈ entries := by
  have hne : ∀ w, e ≠ (.text name, w) := by
    rintro w rfl
    exact h rfl
  cases hfind : find? entries name with
  | none =>
    rw [insert_of_none hfind]
    simp [hne]
  | some old =>
    obtain ⟨before, after, heq, hinsert⟩ := exists_insert_eq hfind
    rw [hinsert, heq]
    simp [hne]

/-- Of two values under one key, the later stays. -/
theorem insert_insert : insert key w (insert key v entries) = insert key w entries := by
  induction entries with
  | nil => simp [insert, isSameKey_self]
  | cons e rest ih =>
    obtain ⟨k, old⟩ := e
    rw [insert, insert]
    by_cases hk : k.isSameKey key = true
    · rw [if_pos hk, if_pos hk, insert, if_pos hk]
    · rw [if_neg hk, if_neg hk, insert, if_neg hk, ih]

end Data

namespace Mapping

variable {m m' : Mapping} {key k : Scalar} {v w : Value} {name other : String}

theorem eq_of_entries (h : m.entries = m'.entries) : m = m' := by
  cases m
  cases m'
  subst h
  rfl

theorem find?_insert : (m.insert (.text name) v).find? other =
    if name = other then some v else m.find? other := Data.find?_insert

theorem insert_self (h : m.find? name = some v) : m.insert (.text name) v = m :=
  eq_of_entries (Data.insert_self h)

theorem insert_insert : (m.insert key v).insert key w = m.insert key w :=
  eq_of_entries Data.insert_insert

/-- No two keys are the same, so each leads to its own value. -/
theorem valueOf_of_mem (h : (k, v) ∈ m.entries) : m.valueOf k = v := by
  obtain ⟨before, after, heq⟩ := List.append_of_mem h
  have hdistinct := m.distinct
  rw [heq, List.pairwise_append] at hdistinct
  have hbefore : before.find? (·.1.isSameKey k) = none := by
    rw [List.find?_eq_none]
    intro e he
    rw [hdistinct.2.2 e he _ List.mem_cons_self]
    exact Bool.false_ne_true
  unfold valueOf
  rw [heq, List.find?_append, hbefore, Option.none_or, List.find?_cons, isSameKey_self]
  rfl

theorem find?_eq_some : m.find? name = some v ↔ (.text name, v) ∈ m.entries := by
  refine ⟨Data.mem_of_find?, fun h => ?_⟩
  cases hfind : m.find? name with
  | none => exact absurd rfl (Data.find?_eq_none.mp hfind _ h)
  | some w => rw [← valueOf_of_mem h, ← valueOf_of_mem (Data.mem_of_find? hfind)]

end Mapping

namespace Store

variable {s : Store} {n k : Nat} {o : Object} {m : Mapping} {v : Value}

/-- Changing an object leaves the others alone. -/
theorem object?_put : (s.put n o).object? k = if k = n then some o else s.object? k := by
  have hreplace : ∀ objects : List (Nat × Object), (put.replace n o objects).lookup k =
      if k = n then some o else objects.lookup k := by
    intro objects
    induction objects with
    | nil => exact lookup_cons
    | cons e rest ih =>
      obtain ⟨i, old⟩ := e
      rw [put.replace]
      by_cases hi : i = n
      · subst hi
        rw [if_pos rfl, lookup_cons, lookup_cons]
        split_ifs <;> rfl
      · rw [if_neg hi, lookup_cons, lookup_cons, ih]
        by_cases hk : k = i
        · rw [if_pos hk, if_pos hk, if_neg (fun hkn => hi (hk ▸ hkn))]
        · rw [if_neg hk, if_neg hk]
  exact hreplace s.objects

/-- Putting an object back in its place changes nothing. -/
theorem put_self (h : s.object? n = some o) : s.put n o = s := by
  have hreplace : ∀ objects : List (Nat × Object), objects.lookup n = some o →
      put.replace n o objects = objects := by
    intro objects hfound
    induction objects with
    | nil => contradiction
    | cons e rest ih =>
      obtain ⟨i, old⟩ := e
      rw [lookup_cons] at hfound
      rw [put.replace]
      by_cases hi : i = n
      · subst hi
        rw [if_pos rfl] at hfound
        rw [if_pos rfl, Option.some.inj hfound]
      · rw [if_neg (Ne.symm hi)] at hfound
        rw [if_neg hi, ih hfound]
  exact congrArg Store.mk (hreplace s.objects h)

/-- A value is a record if it points to one in the store. -/
theorem mapping?_eq_some :
    s.mapping? v = some (n, m) ↔ v = .object n ∧ s.object? n = some (.map m) := by
  cases v with
  | scalar | pair => simp [mapping?]
  | object k =>
    unfold mapping?
    dsimp only
    split
    · rename_i found hfound
      simp only [Option.some.injEq, Prod.mk.injEq, Value.object.injEq]
      constructor
      · rintro ⟨rfl, rfl⟩
        exact ⟨rfl, hfound⟩
      · rintro ⟨rfl, h⟩
        rw [hfound] at h
        exact ⟨rfl, Object.map.inj (Option.some.inj h)⟩
    · rename_i hnone
      simp only [reduceCtorEq, Value.object.injEq, false_iff, not_and]
      rintro rfl h
      exact hnone m h

theorem mapping?_isSome :
    (s.mapping? v).isSome ↔ ∃ n m, v = .object n ∧ s.object? n = some (.map m) := by
  rw [Option.isSome_iff_exists]
  constructor
  · intro h
    obtain ⟨found, hfound⟩ := h
    exact ⟨found.1, found.2, mapping?_eq_some.mp hfound⟩
  · intro h
    obtain ⟨n, m, hfound⟩ := h
    exact ⟨(n, m), mapping?_eq_some.mpr hfound⟩

/-- An object is one record at most. -/
theorem map_unique {m' : Mapping} (h : s.object? n = some (.map m)) (h' : s.object? n = some (.map m')) :
    m = m' :=
  Object.map.inj (Option.some.inj (h.symm.trans h'))

theorem mapping_of_object? (h : s.object? n = some (.map m)) : s.mapping n = m := by
  rw [mapping, mapping?_eq_some.mpr ⟨rfl, h⟩]
  rfl

end Store

end TypeGuards
