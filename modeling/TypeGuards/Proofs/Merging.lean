import Mathlib.Data.List.Nodup
import TypeGuards.Interface
import TypeGuards.Proofs.Sequence
/-!
What merging does to the properties of an interface. A later property is appended if its name is
new, dropped if it repeats the last one of its name, and refused otherwise; earlier properties of
that name do not matter.
-/
namespace TypeGuards.Interface

def absorb (ps : List Property) (q : Property) : Option (List Property) :=
  match property? ps q.name with
  | none => some (ps ++ [q])
  | some p => if p = q then some ps else none

def absorbAll (ps qs : List Property) : Option (List Property) := qs.foldlM absorb ps

/-- The properties that are the last of their names. -/
def latest (ps : List Property) : List Property := ps.filter fun p => property? ps p.name = some p

/-- Two properties have the name, but differ. -/
def Disputed (ps : List Property) (name : String) : Prop :=
  ∃ p ∈ ps, ∃ q ∈ ps, p.name = name ∧ q.name = name ∧ p ≠ q

/-- Properties of one name are equal. -/
def Consistent (ps : List Property) : Prop := ∀ p ∈ ps, ∀ q ∈ ps, p.name = q.name → p = q

/-- A disputed name leaves no consistency. -/
theorem Disputed.not_consistent {ps : List Property} {name : String} (h : Disputed ps name) :
    ¬ Consistent ps := by
  obtain ⟨p, hp, q, hq, hname, rfl, hne⟩ := h
  exact fun hall => hne (hall p hp q hq hname)

theorem Consistent.subset {ps qs : List Property} (h : Consistent qs) (hsub : ∀ p ∈ ps, p ∈ qs) :
    Consistent ps := fun p hp q hq => h p (hsub p hp) q (hsub q hq)

theorem Disputed.subset {ps qs : List Property} {name : String} (h : Disputed ps name)
    (hsub : ∀ p ∈ ps, p ∈ qs) : Disputed qs name := by
  obtain ⟨p, hp, q, hq, hdispute⟩ := h
  exact ⟨p, hsub p hp, q, hsub q hq, hdispute⟩

/-! ### The last property of a name -/

theorem property?_eq_some {ps : List Property} {name : String} {p : Property}
    (h : property? ps name = some p) : p ∈ ps ∧ p.name = name := by
  have hmem := List.mem_of_find?_eq_some h
  have hname := List.find?_some h
  exact ⟨List.mem_reverse.mp hmem, of_decide_eq_true hname⟩

theorem property?_eq_none {ps : List Property} {name : String} :
    property? ps name = none ↔ name ∉ ps.map (·.name) := by
  simp [property?]

theorem property?_concat (ps : List Property) (q : Property) (name : String) :
    property? (ps ++ [q]) name = if q.name = name then some q else property? ps name := by
  by_cases hname : q.name = name
  · simp [property?, hname]
  · simp [property?, hname]

/-- A property is the latest of its name if it is the one looked up. -/
theorem mem_latest {ps : List Property} {p : Property} :
    p ∈ latest ps ↔ property? ps p.name = some p := by
  rw [latest, List.mem_filter, decide_eq_true_eq, and_iff_right_iff_imp]
  exact fun h => (property?_eq_some h).1

theorem mem_of_mem_latest {ps : List Property} {p : Property} (h : p ∈ latest ps) : p ∈ ps :=
  List.mem_of_mem_filter h

theorem mem_latest_append {ps qs : List Property} {p : Property} (h : p ∈ latest (ps ++ qs)) :
    p ∈ latest ps ∨ p ∈ qs := by
  rw [mem_latest, property?, List.reverse_append, List.find?_append, Option.or_eq_some_iff] at h
  rcases h with h | ⟨-, h⟩
  · exact Or.inr (property?_eq_some h).1
  · exact Or.inl (mem_latest.mpr h)

theorem consistent_latest (ps : List Property) : Consistent (latest ps) := by
  intro p hp q hq hname
  have hlast := mem_latest.mp hp
  rw [hname, mem_latest.mp hq] at hlast
  exact (Option.some.inj hlast).symm

theorem consistent_of_nodup {ps : List Property} (h : (ps.map (·.name)).Nodup) : Consistent ps := by
  intro p hp q hq hname
  exact List.inj_on_of_nodup_map h hp hq hname

/-- Where properties of one name agree, each is the latest. -/
theorem latest_of_consistent {ps : List Property} (h : Consistent ps) : latest ps = ps := by
  rw [latest, List.filter_eq_self]
  intro p hp
  cases hlast : property? ps p.name with
  | none => exact absurd (List.mem_map_of_mem hp) (property?_eq_none.mp hlast)
  | some q =>
    obtain ⟨hq, hname⟩ := property?_eq_some hlast
    rw [h q hq p hp hname]
    exact decide_eq_true rfl

/-! ### One more property -/

/-- A property is absorbed if it is there already, or if its name is new. -/
theorem absorb_eq_some {ps rs : List Property} {q : Property} :
    absorb ps q = some rs ↔
      q ∈ latest ps ∧ rs = ps ∨ q.name ∉ ps.map (·.name) ∧ rs = ps ++ [q] := by
  rw [mem_latest, ← property?_eq_none, absorb]
  cases property? ps q.name with
  | none => simp [eq_comm]
  | some p =>
    by_cases hp : p = q
    · simp [hp, eq_comm]
    · simp [hp]

/-- A property is refused if the latest of its name differs from it. -/
theorem absorb_eq_none {ps : List Property} {q : Property} :
    absorb ps q = none ↔ ∃ p ∈ latest ps, p.name = q.name ∧ p ≠ q := by
  rw [absorb]
  cases hlast : property? ps q.name with
  | none =>
    refine iff_of_false (by simp) ?_
    rintro ⟨p, hp, hname, -⟩
    rw [mem_latest, hname, hlast] at hp
    exact absurd hp (by simp)
  | some p =>
    have hname := (property?_eq_some hlast).2
    constructor
    · intro h
      refine ⟨p, mem_latest.mpr (by rw [hname, hlast]), hname, ?_⟩
      rintro rfl
      simp at h
    · rintro ⟨r, hr, hsame, hne⟩
      rw [mem_latest, hsame, hlast] at hr
      obtain rfl := Option.some.inj hr
      exact if_neg hne

/-- What was last of its name stays so, and the new property is, too. -/
theorem mem_latest_absorb {ps rs : List Property} {q : Property} (h : absorb ps q = some rs)
    (p : Property) : p ∈ latest rs ↔ p ∈ latest ps ∨ p = q := by
  rcases absorb_eq_some.mp h with ⟨hq, rfl⟩ | ⟨hnew, rfl⟩
  · constructor
    · exact Or.inl
    · rintro (hp | rfl)
      · exact hp
      · exact hq
  · have hnone := property?_eq_none.mpr hnew
    simp only [mem_latest, property?_concat]
    by_cases hname : q.name = p.name
    · rw [if_pos hname, ← hname, hnone]
      simp [eq_comm]
    · rw [if_neg hname]
      constructor
      · exact Or.inl
      · rintro (hp | rfl)
        · exact hp
        · exact absurd rfl hname

theorem eraseDups_absorb {ps rs : List Property} {q : Property} (h : absorb ps q = some rs) :
    rs.eraseDups = (ps ++ [q]).eraseDups := by
  rcases absorb_eq_some.mp h with ⟨hq, rfl⟩ | ⟨-, rfl⟩
  · rw [eraseDups_concat, if_pos (mem_of_mem_latest hq)]
  · rfl

theorem nodup_absorb {ps rs : List Property} {q : Property} (h : absorb ps q = some rs) :
    (rs.map (·.name)).Nodup ↔ (ps.map (·.name)).Nodup := by
  rcases absorb_eq_some.mp h with ⟨-, rfl⟩ | ⟨hnew, rfl⟩
  · rfl
  · rw [List.map_append, List.map_singleton, List.nodup_append_comm, List.singleton_append,
      List.nodup_cons, and_iff_right hnew]

/-- Absorbing changes nothing in front. -/
theorem prefix_absorb {ps rs : List Property} {q : Property} (h : absorb ps q = some rs) :
    ps <+: rs := by
  rcases absorb_eq_some.mp h with ⟨-, rfl⟩ | ⟨-, rfl⟩
  · exact List.prefix_rfl
  · exact List.prefix_append ps [q]

/-! ### Any number of properties -/

theorem absorbAll_nil (ps : List Property) : absorbAll ps [] = some ps := rfl

theorem absorbAll_cons (ps : List Property) (q : Property) (qs : List Property) :
    absorbAll ps (q :: qs) = (absorb ps q).bind fun rs => absorbAll rs qs := rfl

theorem absorbAll_append (ps qs rs : List Property) :
    absorbAll ps (qs ++ rs) = (absorbAll ps qs).bind fun ts => absorbAll ts rs := by
  unfold absorbAll
  rw [List.foldlM_append]
  rfl

/-- Properties of new names are all appended. -/
theorem absorbAll_of_nodup {ps qs : List Property} (h : ((ps ++ qs).map (·.name)).Nodup) :
    absorbAll ps qs = some (ps ++ qs) := by
  induction qs generalizing ps with
  | nil => rw [absorbAll_nil, List.append_nil]
  | cons q qs ih =>
    have hnew : q.name ∉ ps.map (·.name) := by
      rw [List.map_append, List.map_cons, List.nodup_middle, List.nodup_cons] at h
      exact fun hmem => h.1 (List.mem_append_left _ hmem)
    have hfirst : absorb ps q = some (ps ++ [q]) := absorb_eq_some.mpr (Or.inr ⟨hnew, rfl⟩)
    rw [List.append_cons] at h ⊢
    rw [absorbAll_cons, hfirst, Option.bind_some, ih h]

/-- The latest properties in the end are those at the start and those absorbed. -/
theorem mem_latest_absorbAll {ps qs rs : List Property} (h : absorbAll ps qs = some rs)
    (p : Property) : p ∈ latest rs ↔ p ∈ latest ps ++ qs := by
  induction qs generalizing ps with
  | nil =>
    obtain rfl := Option.some.inj h
    rw [List.append_nil]
  | cons q qs ih =>
    obtain ⟨ts, hfirst, hrest⟩ := Option.bind_eq_some_iff.mp h
    rw [ih hrest, List.mem_append, mem_latest_absorb hfirst]
    simp only [List.mem_append, List.mem_cons, or_assoc]

/-- The properties in order of first occurrence, whichever repeats were kept. -/
theorem eraseDups_absorbAll {ps qs rs : List Property} (h : absorbAll ps qs = some rs) :
    rs.eraseDups = (ps ++ qs).eraseDups := by
  induction qs generalizing ps with
  | nil =>
    obtain rfl := Option.some.inj h
    rw [List.append_nil]
  | cons q qs ih =>
    obtain ⟨ts, hfirst, hrest⟩ := Option.bind_eq_some_iff.mp h
    rw [ih hrest, eraseDups_append_congr (eraseDups_absorb hfirst), List.append_assoc,
      List.singleton_append]

theorem nodup_absorbAll {ps qs rs : List Property} (h : absorbAll ps qs = some rs) :
    (rs.map (·.name)).Nodup ↔ (ps.map (·.name)).Nodup := by
  induction qs generalizing ps with
  | nil => rw [Option.some.inj h]
  | cons q qs ih =>
    obtain ⟨ts, hfirst, hrest⟩ := Option.bind_eq_some_iff.mp h
    rw [ih hrest, nodup_absorb hfirst]

theorem prefix_absorbAll {ps qs rs : List Property} (h : absorbAll ps qs = some rs) : ps <+: rs := by
  induction qs generalizing ps with
  | nil =>
    obtain rfl := Option.some.inj h
    exact List.prefix_rfl
  | cons q qs ih =>
    obtain ⟨ts, hfirst, hrest⟩ := Option.bind_eq_some_iff.mp h
    exact (prefix_absorb hfirst).trans (ih hrest)

/-- Properties are added unless two of one name differ, the last ones before them included. -/
theorem absorbAll_isSome_iff {ps qs : List Property} :
    (∃ rs, absorbAll ps qs = some rs) ↔ Consistent (latest ps ++ qs) := by
  constructor
  · rintro ⟨rs, h⟩
    exact (consistent_latest rs).subset fun p hp => (mem_latest_absorbAll h p).mpr hp
  · intro h
    induction qs generalizing ps with
    | nil => exact ⟨ps, rfl⟩
    | cons q qs ih =>
      cases hfirst : absorb ps q with
      | none =>
        obtain ⟨p, hp, hname, hne⟩ := absorb_eq_none.mp hfirst
        have heq := h p (List.mem_append_left _ hp) q (by simp) hname
        exact absurd heq hne
      | some ts =>
        have hsub : ∀ p ∈ latest ts ++ qs, p ∈ latest ps ++ q :: qs := by
          intro p hp
          rw [List.mem_append, mem_latest_absorb hfirst] at hp
          simpa only [List.mem_append, List.mem_cons, or_assoc] using hp
        obtain ⟨rs, hrest⟩ := ih (h.subset hsub)
        exact ⟨rs, by rw [absorbAll_cons, hfirst, Option.bind_some, hrest]⟩

/-! ### Later declarations -/

/-- Adding a property with its checks is absorbing it. -/
theorem addProperty_eq_ok {interface : String} {line : Option Int} {ps rs : List Property}
    {q : Property} : addProperty interface line ps q = .ok rs ↔ absorb ps q = some rs := by
  rw [addProperty, absorb]
  cases property? ps q.name with
  | none => simp
  | some p => by_cases hp : p = q <;> simp [hp]

theorem addProperty_eq_error {interface : String} {line : Option Int} {ps : List Property}
    {q : Property} {c : Conflict} : addProperty interface line ps q = .error c ↔
      absorb ps q = none ∧ c = ⟨interface, q.name, line⟩ := by
  rw [addProperty, absorb]
  cases property? ps q.name with
  | none => simp
  | some p => by_cases hp : p = q <;> simp [hp, eq_comm]

theorem foldlM_addProperty_eq_ok {interface : String} {line : Option Int}
    {ps qs rs : List Property} :
    qs.foldlM (addProperty interface line) ps = .ok rs ↔ absorbAll ps qs = some rs := by
  induction qs generalizing ps with
  | nil => simp [absorbAll_nil, pure, Except.pure]
  | cons q qs ih =>
    rw [List.foldlM_cons, bind_eq_ok, absorbAll_cons, Option.bind_eq_some_iff]
    simp only [addProperty_eq_ok, ih]

/-- A refusal is about a property that two declarations of the interface dispute. -/
theorem foldlM_addProperty_eq_error {interface : String} {line : Option Int}
    {ps qs : List Property} {c : Conflict}
    (h : qs.foldlM (addProperty interface line) ps = .error c) :
    c.interface = interface ∧ c.line = line ∧ Disputed (latest ps ++ qs) c.property := by
  induction qs generalizing ps with
  | nil => exact absurd h (by simp [pure, Except.pure])
  | cons q qs ih =>
    rw [List.foldlM_cons] at h
    cases hfirst : addProperty interface line ps q with
    | error e =>
      rw [hfirst] at h
      obtain rfl : e = c := Except.error.inj h
      obtain ⟨hrefused, rfl⟩ := addProperty_eq_error.mp hfirst
      obtain ⟨p, hp, hname, hne⟩ := absorb_eq_none.mp hrefused
      exact ⟨rfl, rfl, p, List.mem_append_left _ hp, q, by simp, hname, rfl, hne⟩
    | ok rs =>
      rw [hfirst] at h
      obtain ⟨hinterface, hline, hdispute⟩ := ih h
      refine ⟨hinterface, hline, hdispute.subset fun p hp => ?_⟩
      rw [List.mem_append, mem_latest_absorb (addProperty_eq_ok.mp hfirst)] at hp
      simpa only [List.mem_append, List.mem_cons, or_assoc] using hp

/-- Merging is absorbing the properties of the later interface. -/
theorem merge_eq_ok {first later m : Interface} : first.merge later = .ok m ↔
    ∃ ps, absorbAll first.properties later.properties = some ps ∧
      m = { first with properties := ps } := by
  rw [merge, bind_eq_ok]
  simp only [foldlM_addProperty_eq_ok, pure, Except.pure, Except.ok.injEq, eq_comm (a := m)]

/-- A failed merge names a property on which the two interfaces disagree. -/
theorem merge_eq_error {first later : Interface} {c : Conflict} (h : first.merge later = .error c) :
    c.interface = first.name ∧
      Disputed (latest first.properties ++ later.properties) c.property := by
  rw [merge] at h
  cases hfold : later.properties.foldlM (addProperty first.name later.line) first.properties with
  | ok ps => rw [hfold] at h; exact absurd h (by simp [pure, Except.pure, bind, Except.bind])
  | error e =>
    rw [hfold] at h
    obtain rfl : e = c := Except.error.inj h
    obtain ⟨hinterface, -, hdispute⟩ := foldlM_addProperty_eq_error hfold
    exact ⟨hinterface, hdispute⟩

theorem name_merge {first later m : Interface} (h : first.merge later = .ok m) :
    m.name = first.name := by
  obtain ⟨ps, -, rfl⟩ := merge_eq_ok.mp h
  rfl

/-- The declarations of one interface merged in turn. -/
theorem foldlM_merge_eq_ok {first m : Interface} {later : List Interface} :
    later.foldlM merge first = .ok m ↔
      ∃ ps, absorbAll first.properties (later.flatMap (·.properties)) = some ps ∧
        m = { first with properties := ps } := by
  induction later generalizing first with
  | nil => simp [absorbAll_nil, pure, Except.pure, eq_comm]
  | cons next later ih =>
    rw [List.foldlM_cons, bind_eq_ok, List.flatMap_cons, absorbAll_append]
    simp only [ih, merge_eq_ok, Option.bind_eq_some_iff]
    constructor
    · rintro ⟨_, ⟨ps, hnext, rfl⟩, rs, hlater, rfl⟩
      exact ⟨rs, ⟨ps, hnext, hlater⟩, rfl⟩
    · rintro ⟨rs, ⟨ps, hnext, hlater⟩, rfl⟩
      exact ⟨_, ⟨ps, hnext, rfl⟩, rs, hlater, rfl⟩

theorem foldlM_merge_eq_error {first : Interface} {later : List Interface} {c : Conflict}
    (h : later.foldlM merge first = .error c) :
    c.interface = first.name ∧
      Disputed (latest first.properties ++ later.flatMap (·.properties)) c.property := by
  induction later generalizing first with
  | nil => exact absurd h (by simp [pure, Except.pure])
  | cons next later ih =>
    rw [List.foldlM_cons] at h
    rw [List.flatMap_cons]
    cases hnext : first.merge next with
    | error e =>
      rw [hnext] at h
      obtain rfl : e = c := Except.error.inj h
      obtain ⟨hinterface, hdispute⟩ := merge_eq_error hnext
      refine ⟨hinterface, hdispute.subset fun p hp => ?_⟩
      rw [← List.append_assoc]
      exact List.mem_append_left _ hp
    | ok m =>
      rw [hnext] at h
      obtain ⟨hinterface, hdispute⟩ := ih h
      rw [name_merge hnext] at hinterface
      obtain ⟨ps, habsorb, rfl⟩ := merge_eq_ok.mp hnext
      refine ⟨hinterface, hdispute.subset fun p hp => ?_⟩
      rw [List.mem_append, mem_latest_absorbAll habsorb] at hp
      rw [← List.append_assoc]
      exact List.mem_append.mpr hp

/-! ### Grouping -/

/-- What is the last of its name already is dropped. -/
theorem absorbAll_of_latest {ps qs : List Property} (h : ∀ q ∈ qs, q ∈ latest ps) :
    absorbAll ps qs = some ps := by
  induction qs with
  | nil => rfl
  | cons q qs ih =>
    obtain ⟨hq, hqs⟩ := List.forall_mem_cons.mp h
    have hfirst : absorb ps q = some ps := absorb_eq_some.mpr (Or.inl ⟨hq, rfl⟩)
    rw [absorbAll_cons, hfirst, Option.bind_some, ih hqs]

/-- A repeat that was dropped would have been dropped later on. -/
theorem absorbAll_absorb {qs ts : List Property} {r : Property} (h : absorb qs r = some ts)
    (ps : List Property) : absorbAll ps ts = absorbAll ps (qs ++ [r]) := by
  rcases absorb_eq_some.mp h with ⟨hr, rfl⟩ | ⟨-, rfl⟩
  · rw [absorbAll_append]
    cases hts : absorbAll ps ts with
    | none => rfl
    | some us =>
      have hknown : r ∈ latest us := by
        rw [mem_latest_absorbAll hts]
        exact List.mem_append_right _ (mem_of_mem_latest hr)
      rw [Option.bind_some, absorbAll_of_latest]
      exact List.forall_mem_singleton.mpr hknown
  · rfl

/-- Absorbing what has absorbed more is absorbing both in turn. -/
theorem absorbAll_absorbAll {qs rs ts : List Property} (h : absorbAll qs rs = some ts)
    (ps : List Property) : absorbAll ps ts = absorbAll ps (qs ++ rs) := by
  induction rs generalizing qs with
  | nil => rw [Option.some.inj h, List.append_nil]
  | cons r rs ih =>
    obtain ⟨us, hfirst, hrest⟩ := Option.bind_eq_some_iff.mp h
    rw [ih hrest, absorbAll_append, absorbAll_absorb hfirst, ← absorbAll_append, List.append_assoc,
      List.singleton_append]

section

variable {a b c m : Interface}

/-- Grouping to the left absorbs the properties of both in turn. -/
theorem merge_then_eq_ok : (a.merge b >>= fun ab => ab.merge c) = .ok m ↔
    ∃ ps, absorbAll a.properties (b.properties ++ c.properties) = some ps ∧
      m = { a with properties := ps } := by
  simp only [bind_eq_ok, merge_eq_ok, absorbAll_append, Option.bind_eq_some_iff]
  constructor
  · rintro ⟨_, ⟨ps, hb, rfl⟩, qs, hc, rfl⟩
    exact ⟨qs, ⟨ps, hb, hc⟩, rfl⟩
  · rintro ⟨qs, ⟨ps, hb, hc⟩, rfl⟩
    exact ⟨_, ⟨ps, hb, rfl⟩, qs, hc, rfl⟩

/-- Grouping to the right absorbs the same properties in the same order. -/
theorem merge_of_merge_eq_ok : (b.merge c >>= fun bc => a.merge bc) = .ok m ↔
    ∃ ps, absorbAll a.properties (b.properties ++ c.properties) = some ps ∧
      m = { a with properties := ps } := by
  simp only [bind_eq_ok, merge_eq_ok]
  constructor
  · rintro ⟨_, ⟨ts, hts, rfl⟩, ps, hps, rfl⟩
    rw [absorbAll_absorbAll hts] at hps
    exact ⟨ps, hps, rfl⟩
  · rintro ⟨ps, hps, rfl⟩
    have hall := absorbAll_isSome_iff.mp ⟨ps, hps⟩
    have hlater : Consistent (latest b.properties ++ c.properties) := by
      refine hall.subset fun p hp => List.mem_append_right _ ?_
      rcases List.mem_append.mp hp with hp | hp
      · exact List.mem_append_left _ (mem_of_mem_latest hp)
      · exact List.mem_append_right _ hp
    obtain ⟨ts, hts⟩ := absorbAll_isSome_iff.mpr hlater
    exact ⟨_, ⟨ts, hts, rfl⟩, ps, by rwa [absorbAll_absorbAll hts], rfl⟩

/-- A merge for a second time adds nothing. -/
theorem merge_again (h : a.merge b = .ok m) : m.merge b = .ok m := by
  obtain ⟨ps, hps, rfl⟩ := merge_eq_ok.mp h
  have hknown : ∀ q ∈ b.properties, q ∈ latest ps := fun q hq =>
    (mem_latest_absorbAll hps q).mpr (List.mem_append_right _ hq)
  exact merge_eq_ok.mpr ⟨ps, absorbAll_of_latest hknown, rfl⟩

end

/-- However three declarations are grouped, merging them succeeds for the same ones and gives the
same; and a declaration that was merged changes nothing when it is merged again. -/
theorem merge_regroups (a b c : Interface) :
    ((∃ m, (a.merge b >>= fun ab => ab.merge c) = .ok m) ↔
      ∃ m, (b.merge c >>= fun bc => a.merge bc) = .ok m) ∧
    (∀ m m', (a.merge b >>= fun ab => ab.merge c) = .ok m →
      (b.merge c >>= fun bc => a.merge bc) = .ok m' →
        m' = m ∧ m.name = a.name ∧ m.line = a.line) ∧
    ∀ m, a.merge b = .ok m → m.merge b = .ok m := by
  refine ⟨exists_congr fun m => ?_, fun m m' h h' => ?_, fun m h => merge_again h⟩
  · rw [merge_then_eq_ok, merge_of_merge_eq_ok]
  · obtain ⟨ps, hps, rfl⟩ := merge_then_eq_ok.mp h
    obtain ⟨ps', hps', rfl⟩ := merge_of_merge_eq_ok.mp h'
    rw [hps] at hps'
    obtain rfl := Option.some.inj hps'
    exact ⟨rfl, rfl, rfl⟩

/-- Three declarations of which the first has one name twice and the third repeats the second. -/
theorem merge_regroups_repeats :
    let a : Interface := ⟨"A", [⟨"x", some .string, false⟩, ⟨"x", some .number, false⟩], some 1⟩
    let b : Interface := ⟨"A", [⟨"x", some .number, false⟩, ⟨"y", none, true⟩], some 5⟩
    let c : Interface := ⟨"A", [⟨"y", none, true⟩, ⟨"z", none, false⟩], some 9⟩
    ∃ m, (a.merge b >>= fun ab => ab.merge c) = .ok m ∧
      (b.merge c >>= fun bc => a.merge bc) = .ok m ∧
      m.properties.map (·.name) = ["x", "x", "y", "z"] := by
  intro a b c
  obtain ⟨hiff, hsame, -⟩ := merge_regroups a b c
  obtain ⟨m, hm⟩ : ∃ m, (a.merge b >>= fun ab => ab.merge c) = .ok m := ⟨_, rfl⟩
  obtain ⟨m', hm'⟩ := hiff.mp ⟨m, hm⟩
  obtain ⟨rfl, -, -⟩ := hsame m m' hm hm'
  refine ⟨m', hm, hm', ?_⟩
  rw [← Except.ok.inj hm]
  rfl

end TypeGuards.Interface
