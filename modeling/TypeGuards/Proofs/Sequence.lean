import Mathlib.Data.List.Forall2
import Mathlib.Data.List.Induction
import Mathlib.Data.List.Nodup
/-!
Lists whose elements are computed one after another, where each computation may fail, and lists
without the later repeats of an element.
-/
namespace TypeGuards

theorem bind_eq_ok {ε α β : Type} {x : Except ε α} {f : α → Except ε β} {b : β} :
    x >>= f = .ok b ↔ ∃ a, x = .ok a ∧ f a = .ok b := by
  cases x with
  | error e => simp [bind, Except.bind]
  | ok a => simp [bind, Except.bind]

theorem bind_eq_error {ε α β : Type} {x : Except ε α} {f : α → Except ε β} {e : ε} :
    x >>= f = .error e ↔ x = .error e ∨ ∃ a, x = .ok a ∧ f a = .error e := by
  cases x with
  | error cause => simp [bind, Except.bind]
  | ok a => simp [bind, Except.bind]

theorem map_eq_ok {ε α β : Type} {x : Except ε α} {f : α → β} {b : β} :
    x.map f = .ok b ↔ ∃ a, x = .ok a ∧ f a = b := by
  cases x <;> simp [Except.map]

theorem map_eq_error {ε α β : Type} {x : Except ε α} {f : α → β} {e : ε} :
    x.map f = .error e ↔ x = .error e := by
  cases x <;> simp [Except.map]

theorem mapError_eq_ok {ε ε' α : Type} {x : Except ε α} {f : ε → ε'} {a : α} :
    x.mapError f = .ok a ↔ x = .ok a := by
  cases x <;> simp [Except.mapError]

theorem mapError_eq_error {ε ε' α : Type} {x : Except ε α} {f : ε → ε'} {e : ε'} :
    x.mapError f = .error e ↔ ∃ cause, x = .error cause ∧ f cause = e := by
  cases x <;> simp [Except.mapError]

/-- All computations succeed if and only if each does. -/
theorem mapM_eq_ok {ε α β : Type} {f : α → Except ε β} {as : List α} {bs : List β} :
    as.mapM f = .ok bs ↔ List.Forall₂ (fun a b => f a = .ok b) as bs := by
  induction as generalizing bs with
  | nil => simp [pure, Except.pure, eq_comm]
  | cons a as ih =>
    rw [List.mapM_cons, bind_eq_ok]
    constructor
    · rintro ⟨b, hb, hrest⟩
      obtain ⟨bs', hbs, heq⟩ := bind_eq_ok.mp hrest
      obtain rfl := Except.ok.inj heq
      exact List.Forall₂.cons hb (ih.mp hbs)
    · intro h
      cases h with
      | cons hb hrest =>
        have hbs := ih.mpr hrest
        exact ⟨_, hb, bind_eq_ok.mpr ⟨_, hbs, rfl⟩⟩

/-- Related elements can be chosen for all of a list if they exist for each. -/
theorem exists_forall₂ {α β : Type} {R : α → β → Prop} {as : List α} :
    (∃ bs, List.Forall₂ R as bs) ↔ ∀ a ∈ as, ∃ b, R a b := by
  induction as with
  | nil => exact iff_of_true ⟨[], List.Forall₂.nil⟩ (by simp)
  | cons a as ih =>
    rw [List.forall_mem_cons, ← ih]
    constructor
    · rintro ⟨bs, hbs⟩
      obtain ⟨b, rest, hb, hrest, -⟩ := List.forall₂_cons_left_iff.mp hbs
      exact ⟨⟨b, hb⟩, rest, hrest⟩
    · rintro ⟨⟨b, hb⟩, rest, hrest⟩
      exact ⟨b :: rest, List.Forall₂.cons hb hrest⟩

theorem exists_mapM_eq_ok {ε α β : Type} {f : α → Except ε β} {as : List α}
    (h : ∀ a ∈ as, ∃ b, f a = .ok b) : ∃ bs, as.mapM f = .ok bs := by
  obtain ⟨bs, hbs⟩ := exists_forall₂.mpr h
  exact ⟨bs, mapM_eq_ok.mpr hbs⟩

theorem forall₂_append_cons {α β : Type} {R : α → β → Prop} {as : List α} {bs bs' : List β} {b : β}
    (h : List.Forall₂ R as (bs ++ b :: bs')) :
    ∃ before a after, as = before ++ a :: after ∧ List.Forall₂ R before bs ∧ R a b := by
  induction bs generalizing as with
  | nil =>
    obtain ⟨a, after, ha, -, rfl⟩ := List.forall₂_cons_right_iff.mp h
    exact ⟨[], a, after, rfl, .nil, ha⟩
  | cons first bs ih =>
    obtain ⟨a', rest, ha', hrest, rfl⟩ := List.forall₂_cons_right_iff.mp h
    obtain ⟨before, a, after, rfl, hbefore, ha⟩ := ih hrest
    exact ⟨a' :: before, a, after, rfl, .cons ha' hbefore, ha⟩

/-- A loop that succeeds drops nothing. -/
theorem filterMap_toOption {ε α β : Type} {f : α → Except ε β} {as : List α} {bs : List β}
    (h : as.mapM f = .ok bs) : as.filterMap (fun a => (f a).toOption) = bs := by
  rw [mapM_eq_ok] at h
  induction h with
  | nil => rfl
  | cons hb _ ih => rw [List.filterMap_cons_some (by rw [hb]; rfl), ih]

theorem exists_of_mapM_eq_ok {ε α β : Type} {f : α → Except ε β} {as : List α} {bs : List β}
    (h : as.mapM f = .ok bs) {a : α} (ha : a ∈ as) : ∃ b, f a = .ok b :=
  exists_forall₂.mp ⟨bs, mapM_eq_ok.mp h⟩ a ha

theorem mem_of_mapM_eq_ok {ε α β : Type} {f : α → Except ε β} {as : List α} {bs : List β}
    (h : as.mapM f = .ok bs) {a : α} {b : β} (ha : a ∈ as) (hb : f a = .ok b) : b ∈ bs := by
  rw [mapM_eq_ok] at h
  induction h with
  | nil => exact absurd ha List.not_mem_nil
  | cons hfirst _ ih =>
    rcases List.mem_cons.mp ha with rfl | ha
    · rw [Except.ok.inj (hb.symm.trans hfirst)]
      exact List.mem_cons_self
    · exact List.mem_cons_of_mem _ (ih ha)

theorem mapM_congr {ε α β : Type} {f g : α → Except ε β} {as : List α} (h : ∀ a ∈ as, f a = g a) :
    as.mapM f = as.mapM g := by
  induction as with
  | nil => rfl
  | cons a as ih =>
    obtain ⟨ha, has⟩ := List.forall_mem_cons.mp h
    rw [List.mapM_cons, List.mapM_cons, ha, ih has]

theorem exists_mem_of_mapM_eq_ok {ε α β : Type} {f : α → Except ε β} {as : List α} {bs : List β}
    (h : as.mapM f = .ok bs) {b : β} (hb : b ∈ bs) : ∃ a ∈ as, f a = .ok b := by
  rw [mapM_eq_ok] at h
  induction h with
  | nil => exact absurd hb List.not_mem_nil
  | @cons a _ as bs ha _ ih =>
    rcases List.mem_cons.mp hb with rfl | hb
    · exact ⟨a, List.mem_cons_self, ha⟩
    · obtain ⟨c, hc, hcb⟩ := ih hb
      exact ⟨c, List.mem_cons_of_mem a hc, hcb⟩

/-- An element with others in front is the first of a list, or stands further on. -/
theorem exists_split_cons {α : Type} {P Q : α → Prop} {a : α} {as : List α} :
    (∃ before b after, a :: as = before ++ b :: after ∧ (∀ c ∈ before, P c) ∧ Q b) ↔
      Q a ∨ P a ∧ ∃ before b after, as = before ++ b :: after ∧ (∀ c ∈ before, P c) ∧ Q b := by
  constructor
  · intro h
    obtain ⟨_ | ⟨first, before⟩, b, after, heq, hbefore, hb⟩ := h
    · obtain ⟨rfl, -⟩ := List.cons.inj heq
      exact Or.inl hb
    · obtain ⟨rfl, hrest⟩ := List.cons.inj heq
      obtain ⟨hfirst, hbefore⟩ := List.forall_mem_cons.mp hbefore
      exact Or.inr ⟨hfirst, before, b, after, hrest, hbefore, hb⟩
  · intro h
    rcases h with ha | ⟨hfirst, before, b, after, rfl, hbefore, hb⟩
    · exact ⟨[], a, as, rfl, List.forall_mem_nil _, ha⟩
    · exact ⟨a :: before, b, after, rfl, List.forall_mem_cons.mpr ⟨hfirst, hbefore⟩, hb⟩

theorem lookup_cons {α β : Type} [BEq α] [LawfulBEq α] [DecidableEq α] {a k : α} {b : β}
    {rest : List (α × β)} :
    ((a, b) :: rest).lookup k = if k = a then some b else rest.lookup k := by
  rw [List.lookup_cons]
  by_cases h : k = a
  · rw [if_pos h, beq_iff_eq.mpr h]
  · rw [if_neg h, beq_false_of_ne h]

/-- Of some computations the first that fails ends them all. -/
theorem split_of_mapM_eq_error {ε α β : Type} {f : α → Except ε β} {as : List α} {e : ε}
    (h : as.mapM f = .error e) : ∃ before a after bs, as = before ++ a :: after ∧
      before.mapM f = .ok bs ∧ f a = .error e := by
  induction as with
  | nil => contradiction
  | cons a as ih =>
    rw [List.mapM_cons] at h
    rcases bind_eq_error.mp h with hfirst | ⟨b, hb, hrest⟩
    · exact ⟨[], a, as, [], rfl, rfl, hfirst⟩
    · rcases bind_eq_error.mp hrest with hrest | ⟨bs, -, hend⟩
      · obtain ⟨before, c, after, bs, rfl, hbs, hc⟩ := ih hrest
        have hbefore : (a :: before).mapM f = .ok (b :: bs) :=
          mapM_eq_ok.mpr (.cons hb (mapM_eq_ok.mp hbs))
        exact ⟨a :: before, c, after, b :: bs, rfl, hbefore, hc⟩
      · contradiction

theorem exists_of_mapM_eq_error {ε α β : Type} {f : α → Except ε β} {as : List α} {e : ε}
    (h : as.mapM f = .error e) : ∃ a ∈ as, f a = .error e := by
  obtain ⟨before, a, after, -, rfl, -, ha⟩ := split_of_mapM_eq_error h
  exact ⟨a, List.mem_append_right before List.mem_cons_self, ha⟩

/-- Of some steps the first that fails ends them all. -/
theorem split_of_foldlM_eq_error {ε α β : Type} {f : β → α → Except ε β} {as : List α} {b : β}
    {e : ε} (h : as.foldlM f b = .error e) : ∃ before a after c, as = before ++ a :: after ∧
      before.foldlM f b = .ok c ∧ f c a = .error e := by
  induction as generalizing b with
  | nil => contradiction
  | cons a as ih =>
    rw [List.foldlM_cons] at h
    rcases bind_eq_error.mp h with hfirst | ⟨c, hc, hrest⟩
    · exact ⟨[], a, as, b, rfl, rfl, hfirst⟩
    · obtain ⟨before, d, after, last, rfl, hbefore, hd⟩ := ih hrest
      refine ⟨a :: before, d, after, last, rfl, ?_, hd⟩
      rw [List.foldlM_cons]
      exact bind_eq_ok.mpr ⟨c, hc, hbefore⟩

theorem forall_mapM_iff {ε α β : Type} {f : α → Except ε β} {as : List α} {bs : List β}
    (h : as.mapM f = .ok bs) (P : β → Prop) :
    (∀ a ∈ as, ∃ b, f a = .ok b ∧ P b) ↔ ∀ b ∈ bs, P b := by
  constructor
  · intro hall b hb
    obtain ⟨a, ha, hab⟩ := exists_mem_of_mapM_eq_ok h hb
    obtain ⟨c, hac, hc⟩ := hall a ha
    rw [hab] at hac
    rwa [Except.ok.inj hac]
  · intro hall
    rw [mapM_eq_ok] at h
    induction h with
    | nil => exact fun a ha => absurd ha List.not_mem_nil
    | cons hab _ ih =>
      rw [List.forall_mem_cons] at hall ⊢
      exact ⟨⟨_, hab, hall.1⟩, ih hall.2⟩

theorem mapM_append_eq_ok {ε α β : Type} {f : α → Except ε β} {as as' : List α} {bs bs' : List β}
    (h : as.mapM f = .ok bs) (h' : as'.mapM f = .ok bs') : (as ++ as').mapM f = .ok (bs ++ bs') := by
  rw [mapM_eq_ok] at h h' ⊢
  exact List.rel_append h h'

/-- Computations of which each result changes in the same way. -/
theorem mapM_map_eq_map {ε α α' β β' : Type} {f : α → Except ε β} {f' : α' → Except ε β'}
    {shift : α → α'} {moved : β → β'} (h : ∀ a, f' (shift a) = (f a).map moved) (as : List α) :
    (as.map shift).mapM f' = (as.mapM f).map (List.map moved) := by
  induction as with
  | nil => rfl
  | cons a as ih =>
    rw [List.map_cons, List.mapM_cons, List.mapM_cons, h, ih]
    cases f a with
    | error e => rfl
    | ok b => cases as.mapM f <;> rfl

/-- Computations are selected by their results. -/
theorem mapM_filter {ε α β : Type} {f : α → Except ε β} {p : α → Bool} {q : β → Bool}
    {as : List α} {bs : List β} (h : as.mapM f = .ok bs)
    (hpq : ∀ a b, f a = .ok b → (p a = true ↔ q b = true)) :
    (as.filter p).mapM f = .ok (bs.filter q) := by
  rw [mapM_eq_ok] at h ⊢
  exact List.rel_filter (fun a b hb => hpq a b hb) h

section

variable {α : Type} [DecidableEq α]

theorem eraseDups_concat (as : List α) (a : α) :
    (as ++ [a]).eraseDups = if a ∈ as then as.eraseDups else as.eraseDups ++ [a] := by
  have hone : [a].eraseDups = [a] := rfl
  rw [List.eraseDups_append]
  by_cases ha : a ∈ as
  · simp [List.removeAll, ha]
  · simp [List.removeAll, ha, hone]

/-- Each element is kept once. -/
theorem nodup_eraseDups (as : List α) : as.eraseDups.Nodup := by
  induction as using List.reverseRecOn with
  | nil => exact List.nodup_nil
  | append_singleton as a ih =>
    rw [eraseDups_concat]
    by_cases ha : a ∈ as
    · rwa [if_pos ha]
    · have hnew : a ∉ as.eraseDups := fun h => ha (List.mem_eraseDups.mp h)
      rw [if_neg ha, List.nodup_append_comm]
      exact List.nodup_cons.mpr ⟨hnew, ih⟩

theorem eraseDups_eraseDups (as : List α) : as.eraseDups.eraseDups = as.eraseDups := by
  induction as using List.reverseRecOn with
  | nil => rfl
  | append_singleton as a ih =>
    rw [eraseDups_concat]
    by_cases ha : a ∈ as
    · rw [if_pos ha, ih]
    · have hnew : a ∉ as.eraseDups := fun h => ha (List.mem_eraseDups.mp h)
      rw [if_neg ha, eraseDups_concat, if_neg hnew, ih]

theorem removeAll_congr {as bs : List α} (h : ∀ a, a ∈ as ↔ a ∈ bs) (cs : List α) :
    cs.removeAll as = cs.removeAll bs := by
  unfold List.removeAll
  apply List.filter_congr
  intro c _
  rw [Bool.eq_iff_iff]
  simpa using not_congr (h c)

theorem eraseDups_append_congr {as bs : List α} (h : as.eraseDups = bs.eraseDups) (cs : List α) :
    (as ++ cs).eraseDups = (bs ++ cs).eraseDups := by
  have hmem : ∀ a, a ∈ as ↔ a ∈ bs := by
    intro a
    rw [← List.mem_eraseDups, h, List.mem_eraseDups]
  rw [List.eraseDups_append, List.eraseDups_append, h, removeAll_congr hmem]

theorem eraseDups_append_of_forall_eq {bs : List α} {a : α} (hne : bs ≠ [])
    (h : ∀ b ∈ bs, b = a) (as : List α) : (as ++ bs).eraseDups = (as ++ [a]).eraseDups := by
  induction bs generalizing as with
  | nil => exact absurd rfl hne
  | cons b bs ih =>
    obtain rfl : b = a := h b List.mem_cons_self
    by_cases hbs : bs = []
    · rw [hbs]
    · have hrest := ih hbs (fun c hc => h c (List.mem_cons_of_mem b hc)) (as ++ [b])
      rw [List.append_assoc, List.singleton_append] at hrest
      rw [hrest, eraseDups_concat (as ++ [b]), if_pos (by simp)]

end

end TypeGuards
