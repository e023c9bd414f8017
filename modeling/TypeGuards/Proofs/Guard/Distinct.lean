import Mathlib.Data.List.Pairwise
import TypeGuards.Guard
import TypeGuards.Proofs.Extraction
/-!
Guards of one module have different names. The interfaces are gone through in order, and the first one
that has no name, or whose guard would have the name of a guard before it, is refused.
-/
namespace TypeGuards

/-- Interfaces that can be guarded in one module: each has a name, and so has its guard alone. -/
structure Distinct (is : List Interface) : Prop where
  named : ∀ i ∈ is, i.name ≠ ""
  apart : is.Pairwise fun i j => guardName i.name ≠ guardName j.name

/-- What is wrong with an interface behind others that are distinct. -/
inductive Misnamed (before : List Interface) (i : Interface) : GenerationError → Prop
  | unnamed : i.name = "" → Misnamed before i .emptyName
  | taken {first : Interface} {guard : String} : first ∈ before →
      guardName first.name = .ok guard → guardName i.name = .ok guard →
      (∀ j ∈ before, guardName j.name = .ok guard → j = first) →
      Misnamed before i (.collision first.name i.name guard)

/-- The table of guards holds the guards of some interfaces, each with its interface. -/
def Records (taken : List (String × String)) (before : List Interface) : Prop :=
  ∀ guard name, taken.lookup guard = some name ↔
    ∃ j ∈ before, j.name = name ∧ guardName j.name = .ok guard

variable {before rest is : List Interface} {i : Interface} {guard : String}
  {taken : List (String × String)} {e : GenerationError}

/-- Only the empty name has no guard. -/
theorem guardName_eq_error {name : String} :
    guardName name = .error e ↔ name = "" ∧ e = .emptyName := by
  unfold guardName
  split
  · rename_i hname
    rw [String.toList_eq_nil_iff] at hname
    simp [hname, eq_comm]
  · rename_i c more hname
    have hne : name ≠ "" := by
      rintro rfl
      contradiction
    simp [hne]

theorem exists_guardName {name : String} (h : name ≠ "") : ∃ guard, guardName name = .ok guard := by
  cases hguard : guardName name with
  | ok guard => exact ⟨guard, rfl⟩
  | error e => exact absurd (guardName_eq_error.mp hguard).1 h

theorem ne_empty_of_guardName {name : String} (h : guardName name = .ok guard) : name ≠ "" := by
  rintro rfl
  contradiction

/-- Interfaces fail to be distinct by an empty name or by two with one guard. -/
theorem distinct_iff : Distinct is ↔ ¬((∃ i ∈ is, i.name = "") ∨
    ∃ i j, List.Sublist [i, j] is ∧ guardName i.name = guardName j.name) := by
  constructor
  · rintro ⟨hnamed, hapart⟩ (⟨i, hi, hempty⟩ | ⟨i, j, hsublist, hsame⟩)
    · exact hnamed i hi hempty
    · exact List.pairwise_iff_forall_sublist.mp hapart hsublist hsame
  · intro h
    refine ⟨fun i hi hempty => h (Or.inl ⟨i, hi, hempty⟩), ?_⟩
    refine List.pairwise_iff_forall_sublist.mpr fun {i j} hsublist hsame => ?_
    exact h (Or.inr ⟨i, j, hsublist, hsame⟩)

theorem guardName_ne_of_ne {j : Interface}
    (h : is.Pairwise fun i j => guardName i.name ≠ guardName j.name) (hi : i ∈ is) (hj : j ∈ is)
    (hne : i ≠ j) : guardName i.name ≠ guardName j.name := by
  have hsymm : Std.Symm fun i j : Interface => guardName i.name ≠ guardName j.name :=
    ⟨fun _ _ => Ne.symm⟩
  exact h.forall hi hj hne

/-! ### The table of guards -/

theorem records_nil : Records [] [] := by simp [Records]

theorem Records.eq_none_iff (h : Records taken before) :
    taken.lookup guard = none ↔ ∀ j ∈ before, guardName j.name ≠ .ok guard := by
  constructor
  · intro hnone j hj hguard
    rw [(h guard j.name).mpr ⟨j, hj, rfl, hguard⟩] at hnone
    contradiction
  · intro hall
    cases hlookup : taken.lookup guard with
    | none => rfl
    | some name =>
      obtain ⟨j, hj, -, hguard⟩ := (h guard name).mp hlookup
      exact absurd hguard (hall j hj)

/-- One more guard, whose name is new, is recorded with its interface. -/
theorem Records.concat (h : Records taken before) (hguard : guardName i.name = .ok guard)
    (hnew : taken.lookup guard = none) : Records ((guard, i.name) :: taken) (before ++ [i]) := by
  intro g name
  by_cases hg : g = guard
  · subst g
    rw [List.lookup_cons_self, Option.some.injEq]
    constructor
    · rintro rfl
      exact ⟨i, by simp, rfl, hguard⟩
    · rintro ⟨j, hj, rfl, hj'⟩
      rcases List.mem_append.mp hj with hj | hj
      · exact absurd hj' (h.eq_none_iff.mp hnew j hj)
      · rw [List.mem_singleton.mp hj]
  · have hother : (g == guard) = false := by simpa using hg
    rw [List.lookup_cons, hother, h g name]
    constructor
    · rintro ⟨j, hj, hname⟩
      exact ⟨j, List.mem_append_left _ hj, hname⟩
    · rintro ⟨j, hj, hname, hj'⟩
      rcases List.mem_append.mp hj with hj | hj
      · exact ⟨j, hj, hname, hj'⟩
      · rw [List.mem_singleton.mp hj, hguard] at hj'
        exact absurd (Except.ok.inj hj').symm hg

theorem distinct_nil : Distinct [] := ⟨List.forall_mem_nil _, List.Pairwise.nil⟩

theorem Distinct.concat (h : Distinct before) (hguard : guardName i.name = .ok guard)
    (hnew : ∀ j ∈ before, guardName j.name ≠ .ok guard) : Distinct (before ++ [i]) := by
  refine ⟨fun j hj => ?_, ?_⟩
  · rcases List.mem_append.mp hj with hj | hj
    · exact h.named j hj
    · rw [List.mem_singleton.mp hj]
      exact ne_empty_of_guardName hguard
  · refine List.pairwise_append.mpr ⟨h.apart, List.pairwise_singleton _ _, fun j hj k hk => ?_⟩
    rw [List.mem_singleton.mp hk, hguard]
    exact hnew j hj

/-! ### Going through the interfaces -/

/-- One step of the check: the guard of an interface is taken, or noted. -/
theorem checkGuardNames_cons (hguard : guardName i.name = .ok guard) :
    checkGuardNames taken (i :: rest) = match taken.lookup guard with
      | some first => .error (.collision first i.name guard)
      | none => checkGuardNames ((guard, i.name) :: taken) rest := by
  rw [checkGuardNames, hguard]
  rfl

/-- The check keeps the table and the interfaces so far distinct. -/
theorem distinct_of_check (hrecords : Records taken before) (hdistinct : Distinct before)
    (h : checkGuardNames taken rest = .ok ()) : Distinct (before ++ rest) := by
  induction rest generalizing taken before with
  | nil => rwa [List.append_nil]
  | cons i rest ih =>
    cases hguard : guardName i.name with
    | error e =>
      rw [checkGuardNames, hguard] at h
      contradiction
    | ok guard =>
      rw [checkGuardNames_cons hguard] at h
      cases hlookup : taken.lookup guard with
      | some first =>
        rw [hlookup] at h
        contradiction
      | none =>
        rw [hlookup] at h
        have hnext := hdistinct.concat hguard (hrecords.eq_none_iff.mp hlookup)
        have hrest := ih (hrecords.concat hguard hlookup) hnext h
        rwa [List.append_assoc, List.singleton_append] at hrest

/-- The first interface that is misnamed is refused. -/
theorem misnamed_of_check (hrecords : Records taken before) (hdistinct : Distinct before)
    (h : checkGuardNames taken rest = .error e) : ∃ middle i after, rest = middle ++ i :: after ∧
      Distinct (before ++ middle) ∧ Misnamed (before ++ middle) i e := by
  induction rest generalizing taken before with
  | nil => contradiction
  | cons i rest ih =>
    cases hguard : guardName i.name with
    | error cause =>
      rw [checkGuardNames, hguard] at h
      obtain rfl : cause = e := Except.error.inj h
      obtain ⟨hempty, rfl⟩ := guardName_eq_error.mp hguard
      exact ⟨[], i, rest, rfl, by rwa [List.append_nil], .unnamed hempty⟩
    | ok guard =>
      rw [checkGuardNames_cons hguard] at h
      cases hlookup : taken.lookup guard with
      | some name =>
        rw [hlookup] at h
        obtain rfl := Except.error.inj h
        obtain ⟨first, hfirst, rfl, htaken⟩ := (hrecords guard name).mp hlookup
        refine ⟨[], i, rest, rfl, by rwa [List.append_nil], .taken ?_ htaken hguard ?_⟩
        · rwa [List.append_nil]
        · intro j hj hsame
          rw [List.append_nil] at hj
          by_contra hne
          exact guardName_ne_of_ne hdistinct.apart hj hfirst hne (hsame.trans htaken.symm)
      | none =>
        rw [hlookup] at h
        have hnext := hdistinct.concat hguard (hrecords.eq_none_iff.mp hlookup)
        obtain ⟨middle, j, after, rfl, hmiddle, hmisnamed⟩ :=
          ih (hrecords.concat hguard hlookup) hnext h
        rw [List.append_assoc, List.singleton_append] at hmiddle hmisnamed
        exact ⟨i :: middle, j, after, rfl, hmiddle, hmisnamed⟩

/-- What the check finds wrong is wrong. -/
theorem Misnamed.not_distinct (h : Misnamed before i e) : ¬Distinct (before ++ i :: rest) := by
  rintro ⟨hnamed, hapart⟩
  have hi : i ∈ before ++ i :: rest := List.mem_append_right before List.mem_cons_self
  cases h with
  | unnamed hempty => exact hnamed i hi hempty
  | taken hfirst htaken hguard _ =>
    obtain ⟨-, -, hcross⟩ := List.pairwise_append.mp hapart
    exact hcross _ hfirst i List.mem_cons_self (htaken.trans hguard.symm)

/-- The check accepts exactly the interfaces that are distinct. -/
theorem checkGuardNames_eq_ok : checkGuardNames [] is = .ok () ↔ Distinct is := by
  constructor
  · intro h
    exact distinct_of_check records_nil distinct_nil h
  · intro hdistinct
    cases h : checkGuardNames [] is with
    | ok done => rfl
    | error e =>
      obtain ⟨before, i, after, rfl, -, hmisnamed⟩ := misnamed_of_check records_nil distinct_nil h
      exact absurd hdistinct hmisnamed.not_distinct

/-! ### Interfaces that were extracted -/

namespace Extraction

variable {r : Resolvers} {items : List ModuleItem} {found : List Interface}

theorem name_ne_empty_of_all (h : all r items = .ok found) : ∀ i ∈ found, i.name ≠ "" := by
  intro i hi
  obtain ⟨new, hnew⟩ := exists_mapM_of_all h
  obtain ⟨first, later, ps, hfilter, -, heq⟩ := exists_declarations hnew h hi
  have hfirst : first ∈ new := by
    have hmem : first ∈ new.filter (·.name = i.name) := by
      rw [hfilter]
      exact List.mem_cons_self
    exact List.mem_of_mem_filter hmem
  obtain ⟨d, -, hd⟩ := exists_mem_of_mapM_eq_ok hnew hfirst
  rw [heq]
  exact (interface_eq_ok.mp hd).2.2.2.1

/-- Extracted interfaces have different names, so only guards of different ones can clash. -/
theorem distinct_iff_of_all (h : all r items = .ok found) : Distinct found ↔
    ¬∃ i ∈ found, ∃ j ∈ found, i.name ≠ j.name ∧ guardName i.name = guardName j.name := by
  have hnodup : (found.map (·.name)).Nodup := by
    rw [names_all h]
    exact nodup_eraseDups _
  constructor
  · rintro ⟨-, hapart⟩ ⟨i, hi, j, hj, hne, hsame⟩
    exact guardName_ne_of_ne hapart hi hj (fun heq => hne (congrArg Interface.name heq)) hsame
  · intro hall
    refine ⟨name_ne_empty_of_all h, ?_⟩
    refine (List.pairwise_map.mp hnodup).imp_of_mem fun {i j} hi hj hne hsame => ?_
    exact hall ⟨i, hi, j, hj, hne, hsame⟩

end Extraction

end TypeGuards
