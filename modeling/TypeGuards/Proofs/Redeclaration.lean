import TypeGuards.Proofs.Extraction
/-!
Properties that are declared more than once. Repeats are dropped and differing ones refused, except
within the first declaration of an interface: that one is taken as it stands. So it matters whether
a body is written as one declaration or as several.
-/
namespace TypeGuards.Extraction

open Interface

/-- The properties of one interface, from its declarations. -/
def merged : List Interface → Option (List Property)
  | [] => some []
  | first :: later => absorbAll first.properties (later.flatMap (·.properties))

/-- Declarations merge exactly if nothing is stated twice and differently, the first of them apart.
-/
theorem merged_isSome_iff {new : List Interface} : (∃ ps, merged new = some ps) ↔
    ∀ first later, new = first :: later →
      Consistent (latest first.properties ++ later.flatMap (·.properties)) := by
  cases new with
  | nil => simp [merged]
  | cons first later =>
    rw [merged, absorbAll_isSome_iff]
    constructor
    · rintro h _ _ heq
      obtain ⟨rfl, rfl⟩ := List.cons.inj heq
      exact h
    · exact fun h => h first later rfl

/-! ### When extraction succeeds -/

section

variable {r : Resolvers} {items : List ModuleItem} {new found : List Interface}

/-- The properties found under a name are those its declarations merge to. -/
theorem merged_of_all (hnew : (declarations items).mapM (interface r) = .ok new)
    (h : all r items = .ok found) (name : String) :
    ∃ ps, merged (new.filter (·.name = name)) = some ps ∧
      ∀ i ∈ found, i.name = name → i.properties = ps := by
  have hjoin := joinAll_of_all hnew h name
  cases hnamed : named name found with
  | none =>
    rw [hnamed] at hjoin
    have hempty : new.filter (·.name = name) = [] := by
      cases hfilter : new.filter (·.name = name) with
      | nil => rfl
      | cons first later =>
        rw [hfilter, joinAll_cons, map_eq_ok] at hjoin
        obtain ⟨m, -, hm⟩ := hjoin
        exact absurd hm (by simp)
    refine ⟨[], by rw [hempty, merged], fun i hi hname => ?_⟩
    rw [← hname, named_of_mem h hi] at hnamed
    exact absurd hnamed (by simp)
  | some m =>
    rw [hnamed] at hjoin
    obtain ⟨first, later, ps, hfilter, habsorb, rfl⟩ := joinAll_eq_ok.mp hjoin
    refine ⟨ps, by rw [hfilter, merged, habsorb], fun i hi hname => ?_⟩
    rw [← hname, named_of_mem h hi] at hnamed
    rw [Option.some.inj hnamed]

/-- A refusal is about declarations that cannot be merged. -/
theorem all_eq_error (hnew : (declarations items).mapM (interface r) = .ok new)
    {e : ExtractionError} (h : all r items = .error e) :
    ∃ c first later, e = .conflict c ∧ new.filter (·.name = c.interface) = first :: later ∧
      Disputed (latest first.properties ++ later.flatMap (·.properties)) c.property := by
  rw [all_eq_addAll hnew] at h
  obtain ⟨c, name, rfl, herror⟩ := joinAll_of_addAll_error h
  obtain ⟨first, later, hfilter, hinterface, hdispute⟩ := joinAll_eq_error herror
  have hname : first.name = name := name_of_mem_filter (hfilter ▸ List.mem_cons_self)
  rw [← hname, ← hinterface] at hfilter
  exact ⟨c, first, later, rfl, hfilter, hdispute⟩

/-- Extraction succeeds exactly if the declarations of each name merge. -/
theorem exists_all_iff (hnew : (declarations items).mapM (interface r) = .ok new) :
    (∃ found, all r items = .ok found) ↔
      ∀ name, ∃ ps, merged (new.filter (·.name = name)) = some ps := by
  constructor
  · rintro ⟨found, h⟩ name
    obtain ⟨ps, hps, -⟩ := merged_of_all hnew h name
    exact ⟨ps, hps⟩
  · intro h
    cases hall : all r items with
    | ok found => exact ⟨found, rfl⟩
    | error e =>
      obtain ⟨c, first, later, -, hfilter, hdispute⟩ := all_eq_error hnew hall
      exact absurd (merged_isSome_iff.mp (h c.interface) first later hfilter)
        hdispute.not_consistent

/-- Where first declarations repeat no name, properties conflict whenever two of one name differ. -/
theorem exists_all_iff_consistent (hnew : (declarations items).mapM (interface r) = .ok new)
    (hnodup : ∀ name first later, new.filter (·.name = name) = first :: later →
      (first.properties.map (·.name)).Nodup) :
    (∃ found, all r items = .ok found) ↔ ∀ name, Consistent (stated r name items) := by
  rw [exists_all_iff hnew]
  refine forall_congr' fun name => ?_
  rw [stated_eq hnew, merged_isSome_iff]
  cases hfilter : new.filter (·.name = name) with
  | nil => simp [Consistent]
  | cons first later =>
    have hfirst := latest_of_consistent (consistent_of_nodup (hnodup name first later hfilter))
    rw [List.flatMap_cons]
    constructor
    · intro h
      rw [← hfirst]
      exact h first later rfl
    · rintro h _ _ heq
      obtain ⟨rfl, rfl⟩ := List.cons.inj heq
      rwa [hfirst]

/-- Names occur once in an interface if and only if they do in its first declaration. -/
theorem nodup_properties_iff (hnew : (declarations items).mapM (interface r) = .ok new)
    (h : all r items = .ok found) {i first : Interface} {later : List Interface} (hi : i ∈ found)
    (hfilter : new.filter (·.name = i.name) = first :: later) :
    (i.properties.map (·.name)).Nodup ↔ (first.properties.map (·.name)).Nodup := by
  obtain ⟨ps, hps, hproperties⟩ := merged_of_all hnew h i.name
  rw [hfilter, merged] at hps
  rw [hproperties i hi rfl, nodup_absorbAll hps]

end

/-! ### One body as several -/

/-- The declarations are those of one interface that has its body cut into theirs. -/
structure Splits (d : InterfaceDeclaration) (pieces : List InterfaceDeclaration) : Prop where
  ne_nil : pieces ≠ []
  alike : ∀ e ∈ pieces, e.name.identifier? = d.name.identifier? ∧
    e.typeParameters = d.typeParameters ∧ e.heritage = d.heritage
  members : pieces.flatMap (·.members) = d.members

def outline (r : Resolvers) (items : List ModuleItem) : Option (List (String × List Property)) :=
  (all r items).toOption.map fun found => found.map fun i => (i.name, i.properties)

theorem Splits.mapM {r : Resolvers} {d : InterfaceDeclaration} {pieces : List InterfaceDeclaration}
    (h : Splits d pieces) {i : Interface} (hi : interface r d = .ok i) :
    ∃ js, pieces.mapM (interface r) = .ok js ∧ js ≠ [] ∧ (∀ j ∈ js, j.name = i.name) ∧
      js.flatMap (·.properties) = i.properties := by
  obtain ⟨hname, hparameters, hheritage, hempty, hmembers, -⟩ := interface_eq_ok.mp hi
  have heach : ∀ e ∈ pieces, ∃ j, interface r e = .ok j := by
    intro e he
    obtain ⟨hsame, hparameters', hheritage'⟩ := h.alike e he
    have hproperties : ∀ m ∈ e.members, ∃ p, property r i.name m = .ok p := by
      intro m hm
      have hmem : m ∈ d.members := by
        rw [← h.members]
        exact List.mem_flatMap.mpr ⟨e, he, hm⟩
      exact exists_of_mapM_eq_ok hmembers hmem
    obtain ⟨ps, hps⟩ := exists_mapM_eq_ok hproperties
    refine ⟨⟨i.name, ps, some e.line⟩, interface_eq_ok.mpr ⟨?_, ?_, ?_, hempty, hps, rfl⟩⟩
    · rw [hsame, hname]
    · rw [hparameters', hparameters]
    · rw [hheritage', hheritage]
  obtain ⟨js, hjs⟩ := exists_mapM_eq_ok heach
  have hnames : ∀ j ∈ js, j.name = i.name := by
    intro j hj
    obtain ⟨e, he, hej⟩ := exists_mem_of_mapM_eq_ok hjs hj
    have hsame := (h.alike e he).1
    rw [identifier?_of_interface hej, hname] at hsame
    exact Option.some.inj hsame
  refine ⟨js, hjs, ?_, hnames, ?_⟩
  · rintro rfl
    have hpairs := mapM_eq_ok.mp hjs
    exact h.ne_nil (List.forall₂_nil_right_iff.mp hpairs)
  · rw [← flatMap_members hjs hnames, ← List.filterMap_flatMap, h.members, filterMap_members hi]

/-- A body may be cut in two where a declaration precedes it or its names occur once. -/
theorem merged_split {before pieces after : List Interface} {i : Interface} (hne : pieces ≠ [])
    (hproperties : pieces.flatMap (·.properties) = i.properties)
    (h : before ≠ [] ∨ (i.properties.map (·.name)).Nodup) :
    merged (before ++ (pieces ++ after)) = merged (before ++ i :: after) := by
  cases before with
  | cons first later =>
    simp only [List.cons_append, merged, List.flatMap_append, List.flatMap_cons, hproperties]
  | nil =>
    cases pieces with
    | nil => exact absurd rfl hne
    | cons j js =>
      -- The first piece stands as it is; the names of the others are new to it.
      have hnodup := h.resolve_left fun hnil => hnil rfl
      rw [List.flatMap_cons] at hproperties
      rw [← hproperties] at hnodup
      simp only [List.nil_append, List.cons_append, merged, List.flatMap_append]
      rw [absorbAll_append, absorbAll_of_nodup hnodup, hproperties, Option.bind_some]

/-- What can be merged in pieces can be merged as a whole. -/
theorem merged_isSome_of_split {before pieces after : List Interface} {i : Interface}
    (hne : pieces ≠ []) (hproperties : pieces.flatMap (·.properties) = i.properties)
    (h : ∃ ps, merged (before ++ (pieces ++ after)) = some ps) :
    ∃ ps, merged (before ++ i :: after) = some ps := by
  cases before with
  | cons first later => rwa [← merged_split hne hproperties (Or.inl (List.cons_ne_nil _ _))]
  | nil =>
    cases pieces with
    | nil => exact absurd rfl hne
    | cons j js =>
      rw [List.flatMap_cons] at hproperties
      simp only [List.nil_append, List.cons_append, merged, List.flatMap_append] at h
      rw [absorbAll_isSome_iff] at h
      rw [List.nil_append, merged, absorbAll_isSome_iff, ← hproperties]
      refine h.subset fun p hp => ?_
      rcases List.mem_append.mp hp with hp | hp
      · rcases mem_latest_append hp with hp | hp
        · exact List.mem_append_left _ hp
        · exact List.mem_append_right _ (List.mem_append_left _ hp)
      · exact List.mem_append_right _ (List.mem_append_right _ hp)

theorem outline_eq_some {r : Resolvers} {items : List ModuleItem}
    {o : List (String × List Property)} : outline r items = some o ↔
      ∃ found, all r items = .ok found ∧ (found.map fun i => (i.name, i.properties)) = o := by
  rw [outline]
  cases all r items <;> simp [Except.toOption]

theorem outline_eq_none {r : Resolvers} {items : List ModuleItem} :
    outline r items = none ↔ ¬ ∃ found, all r items = .ok found := by
  rw [outline]
  cases all r items <;> simp [Except.toOption]

theorem map_pair_eq {found found' : List Interface}
    (hnames : found.map (·.name) = found'.map (·.name))
    (hproperties : ∀ i ∈ found, ∀ i' ∈ found', i.name = i'.name → i.properties = i'.properties) :
    (found.map fun i => (i.name, i.properties)) = found'.map fun i => (i.name, i.properties) := by
  induction found generalizing found' with
  | nil => rw [List.map_eq_nil_iff.mp hnames.symm]
  | cons i rest ih =>
    cases found' with
    | nil => exact absurd hnames (by simp)
    | cons i' rest' =>
      simp only [List.map_cons, List.cons.injEq] at hnames
      have hsame := hproperties i List.mem_cons_self i' List.mem_cons_self hnames.1
      have hrest := ih hnames.2 fun j hj j' hj' =>
        hproperties j (List.mem_cons_of_mem i hj) j' (List.mem_cons_of_mem i' hj')
      rw [List.map_cons, List.map_cons, hnames.1, hsame, hrest]

/-- Names and properties are determined by what is merged under each name. -/
theorem outline_congr {r : Resolvers} {items items' : List ModuleItem} {new new' : List Interface}
    (hnew : (declarations items).mapM (interface r) = .ok new)
    (hnew' : (declarations items').mapM (interface r) = .ok new')
    (hnames : (new.map (·.name)).eraseDups = (new'.map (·.name)).eraseDups)
    (hmerged : ∀ name, merged (new.filter (·.name = name)) = merged (new'.filter (·.name = name))) :
    outline r items = outline r items' := by
  have hiff : (∃ found, all r items = .ok found) ↔ ∃ found, all r items' = .ok found := by
    rw [exists_all_iff hnew, exists_all_iff hnew']
    simp only [hmerged]
  cases houtline : outline r items' with
  | none => rwa [outline_eq_none, hiff, ← outline_eq_none]
  | some o =>
    obtain ⟨found', h', rfl⟩ := outline_eq_some.mp houtline
    obtain ⟨found, h⟩ := hiff.mpr ⟨found', h'⟩
    refine outline_eq_some.mpr ⟨found, h, map_pair_eq ?_ fun i hi i' hi' hname => ?_⟩
    · rw [names_all h, names_all h', declaredNames, declaredNames, names_of_mapM hnew,
        names_of_mapM hnew', hnames]
    · obtain ⟨ps, hps, hproperties⟩ := merged_of_all hnew h i.name
      obtain ⟨ps', hps', hproperties'⟩ := merged_of_all hnew' h' i.name
      rw [hmerged, hps'] at hps
      rw [hproperties i hi rfl, hproperties' i' hi' hname.symm, Option.some.inj hps]

section

variable {r : Resolvers} {before after : List ModuleItem} {d : InterfaceDeclaration}
  {pieces : List InterfaceDeclaration} {earlier js later : List Interface} {i : Interface}

theorem mapM_whole (hearlier : (declarations before).mapM (interface r) = .ok earlier)
    (hi : interface r d = .ok i) (hlater : (declarations after).mapM (interface r) = .ok later) :
    (declarations (before ++ .interface d :: after)).mapM (interface r) =
      .ok (earlier ++ i :: later) := by
  have hcons : (d :: declarations after).mapM (interface r) = .ok (i :: later) :=
    mapM_eq_ok.mpr (List.Forall₂.cons hi (mapM_eq_ok.mp hlater))
  rw [declarations, List.filterMap_append]
  exact mapM_append_eq_ok hearlier hcons

theorem mapM_split (hearlier : (declarations before).mapM (interface r) = .ok earlier)
    (hjs : pieces.mapM (interface r) = .ok js)
    (hlater : (declarations after).mapM (interface r) = .ok later) :
    (declarations (before ++ (pieces.map .interface ++ after))).mapM (interface r) =
      .ok (earlier ++ (js ++ later)) := by
  have hpieces : (pieces.map ModuleItem.interface).filterMap (·.declaration?) = pieces := by
    rw [List.filterMap_map]
    exact List.filterMap_some
  rw [declarations, List.filterMap_append, List.filterMap_append, hpieces]
  exact mapM_append_eq_ok hearlier (mapM_append_eq_ok hjs hlater)

theorem filter_whole (name : String) : (earlier ++ i :: later).filter (·.name = name) =
    earlier.filter (·.name = name) ++
      ((if i.name = name then [i] else []) ++ later.filter (·.name = name)) := by
  rw [List.filter_append, List.filter_cons]
  by_cases hname : i.name = name <;> simp [hname]

theorem filter_split (hnames : ∀ j ∈ js, j.name = i.name) (name : String) :
    (earlier ++ (js ++ later)).filter (·.name = name) =
      earlier.filter (·.name = name) ++
        ((if i.name = name then js else []) ++ later.filter (·.name = name)) := by
  rw [List.filter_append, List.filter_append]
  by_cases hname : i.name = name
  · have hall : js.filter (·.name = name) = js :=
      List.filter_eq_self.mpr fun j hj => decide_eq_true ((hnames j hj).trans hname)
    rw [if_pos hname, hall]
  · have hnone : js.filter (·.name = name) = [] := by
      rw [List.filter_eq_nil_iff]
      intro j hj
      rw [decide_eq_true_eq, hnames j hj]
      exact hname
    rw [if_neg hname, hnone]

theorem mem_declaredNames_iff (hearlier : (declarations before).mapM (interface r) = .ok earlier)
    (name : String) :
    name ∈ declaredNames before ↔ earlier.filter (·.name = name) ≠ [] := by
  rw [declaredNames, names_of_mapM hearlier, ne_eq, List.filter_eq_nil_iff]
  simp

/-- Cutting a declaration into pieces changes nothing that is found, lines apart, unless it comes
first under its name and states a property twice. -/
theorem outline_split (hearlier : (declarations before).mapM (interface r) = .ok earlier)
    (hi : interface r d = .ok i) (hlater : (declarations after).mapM (interface r) = .ok later)
    (h : Splits d pieces)
    (hfirst : i.name ∈ declaredNames before ∨ (i.properties.map (·.name)).Nodup) :
    outline r (before ++ (pieces.map .interface ++ after)) =
      outline r (before ++ .interface d :: after) := by
  obtain ⟨js, hjs, hne, hnames, hproperties⟩ := h.mapM hi
  have hsplit := mapM_split hearlier hjs hlater
  have hwhole := mapM_whole hearlier hi hlater
  refine outline_congr hsplit hwhole ?_ fun name => ?_
  · have hnone : js.map (·.name) ≠ [] := fun hnil => hne (List.map_eq_nil_iff.mp hnil)
    have hsame : ∀ n ∈ js.map (·.name), n = i.name := by
      intro n hn
      obtain ⟨j, hj, rfl⟩ := List.mem_map.mp hn
      exact hnames j hj
    have hmiddle := eraseDups_append_of_forall_eq hnone hsame (earlier.map (·.name))
    rw [List.map_append, List.map_append, ← List.append_assoc, eraseDups_append_congr hmiddle,
      List.map_append, List.map_cons, List.append_assoc, List.singleton_append]
  · rw [filter_split hnames, filter_whole]
    by_cases hname : i.name = name
    · rw [if_pos hname, if_pos hname]
      refine merged_split hne hproperties (hfirst.imp_left fun hmem => ?_)
      rwa [← mem_declaredNames_iff hearlier, ← hname]
    · rw [if_neg hname, if_neg hname]

theorem exists_all_of_split (hearlier : (declarations before).mapM (interface r) = .ok earlier)
    (hi : interface r d = .ok i) (hlater : (declarations after).mapM (interface r) = .ok later)
    (h : Splits d pieces)
    (hsplit : ∃ found, all r (before ++ (pieces.map .interface ++ after)) = .ok found) :
    ∃ found, all r (before ++ .interface d :: after) = .ok found := by
  obtain ⟨js, hjs, hne, hnames, hproperties⟩ := h.mapM hi
  rw [exists_all_iff (mapM_whole hearlier hi hlater)]
  intro name
  have hname := (exists_all_iff (mapM_split hearlier hjs hlater)).mp hsplit name
  rw [filter_split hnames] at hname
  rw [filter_whole]
  by_cases heq : i.name = name
  · rw [if_pos heq] at hname ⊢
    exact merged_isSome_of_split hne hproperties hname
  · rw [if_neg heq] at hname ⊢
    exact hname

def singles (d : InterfaceDeclaration) : List InterfaceDeclaration :=
  d.members.map fun m => { d with members := [m] }

theorem splits_singles (h : d.members ≠ []) : Splits d (singles d) := by
  refine ⟨fun hnil => h (List.map_eq_nil_iff.mp hnil), fun e he => ?_, ?_⟩
  · obtain ⟨m, -, rfl⟩ := List.mem_map.mp he
    exact ⟨rfl, rfl, rfl⟩
  · rw [singles, List.flatMap_map]
    exact List.flatMap_singleton' d.members

/-- A declaration of one member states nothing twice. -/
theorem nodup_of_mem_singles {e : InterfaceDeclaration} (he : e ∈ singles d) {j : Interface}
    (hj : interface r e = .ok j) : (j.properties.map (·.name)).Nodup := by
  obtain ⟨m, -, rfl⟩ := List.mem_map.mp he
  obtain ⟨-, -, -, -, hmembers, -⟩ := interface_eq_ok.mp hj
  have hpairs := mapM_eq_ok.mp hmembers
  generalize j.properties = ps at hpairs ⊢
  cases hpairs with
  | cons _ hrest =>
    rw [List.forall₂_nil_left_iff.mp hrest]
    exact List.nodup_singleton _

theorem exists_of_outline_eq {items items' : List ModuleItem} {found : List Interface}
    (h : all r items = .ok found) (houtline : outline r items' = outline r items) {k : Interface}
    (hk : k ∈ found) : ∃ found', all r items' = .ok found' ∧
      ∃ k' ∈ found', k'.name = k.name ∧ k'.properties = k.properties := by
  rw [outline_eq_some.mpr ⟨found, h, rfl⟩] at houtline
  obtain ⟨found', h', hpairs⟩ := outline_eq_some.mp houtline
  have hmem : (k.name, k.properties) ∈ found.map fun i => (i.name, i.properties) :=
    List.mem_map_of_mem hk
  rw [← hpairs] at hmem
  obtain ⟨k', hk', heq⟩ := List.mem_map.mp hmem
  exact ⟨found', h', k', hk', Prod.mk.inj heq⟩

/-- Whoever cuts a first body member by member sees whether a name occurs twice in it. -/
theorem nodup_of_outline_eq (hearlier : (declarations before).mapM (interface r) = .ok earlier)
    (hi : interface r d = .ok i) (hlater : (declarations after).mapM (interface r) = .ok later)
    (hnew : i.name ∉ declaredNames before) {found : List Interface}
    (hfound : all r (before ++ .interface d :: after) = .ok found)
    (h : ∀ pieces, Splits d pieces → outline r (before ++ (pieces.map .interface ++ after)) =
      outline r (before ++ .interface d :: after)) : (i.properties.map (·.name)).Nodup := by
  by_cases hmembers : d.members = []
  · rw [← filterMap_members hi, hmembers]
    exact List.nodup_nil
  have hwhole := mapM_whole hearlier hi hlater
  have hempty : earlier.filter (·.name = i.name) = [] := by
    rwa [mem_declaredNames_iff hearlier, ne_eq, Classical.not_not] at hnew
  have hname : i.name ∈ declaredNames (before ++ .interface d :: after) := by
    rw [declaredNames, names_of_mapM hwhole]
    simp
  obtain ⟨k, hk, hkname, -⟩ := exists_named hfound hname
  -- A single member repeats no name, so the interface that begins with it has none twice.
  have hsplits := splits_singles hmembers
  obtain ⟨found', hfound', k', hk', hkname', hkproperties⟩ :=
    exists_of_outline_eq hfound (h _ hsplits) hk
  obtain ⟨js, hjs, hne, hnames, -⟩ := hsplits.mapM hi
  cases js with
  | nil => exact absurd rfl hne
  | cons j js =>
    have hfilter : (earlier ++ i :: later).filter (·.name = k.name) =
        i :: later.filter (·.name = k.name) := by
      rw [filter_whole, hkname, hempty, if_pos rfl]
      rfl
    have hfilter' : (earlier ++ (j :: js ++ later)).filter (·.name = k'.name) =
        j :: (js ++ later.filter (·.name = k'.name)) := by
      rw [filter_split hnames, hkname', hkname, hempty, if_pos rfl]
      rfl
    obtain ⟨e, he, hej⟩ := exists_mem_of_mapM_eq_ok hjs List.mem_cons_self
    rw [← nodup_properties_iff hwhole hfound hk hfilter, ← hkproperties,
      nodup_properties_iff (mapM_split hearlier hjs hlater) hfound' hk' hfilter']
    exact nodup_of_mem_singles he hej

end

/-- Where each declaration can be extracted, properties conflict unless those of one name agree with
each other and with the last ones of the first declaration; what that declaration repeats stays
repeated, and shows when the declaration is cut. -/
theorem redeclared (r : Resolvers) (items : List ModuleItem)
    (h : ∀ d ∈ declarations items, ∃ i, interface r d = .ok i) :
    ((∃ found, all r items = .ok found) ↔ ∀ name first later,
      (declarationsOf name items).mapM (interface r) = .ok (first :: later) →
        Consistent (latest first.properties ++ later.flatMap (·.properties))) ∧
    ((∀ name first later, (declarationsOf name items).mapM (interface r) = .ok (first :: later) →
        (first.properties.map (·.name)).Nodup) →
      ((∃ found, all r items = .ok found) ↔ ∀ name, Consistent (stated r name items))) ∧
    (∀ e, all r items = .error e → ∃ c first later, e = .conflict c ∧
      (declarationsOf c.interface items).mapM (interface r) = .ok (first :: later) ∧
        Disputed (latest first.properties ++ later.flatMap (·.properties)) c.property) ∧
    (∀ found, all r items = .ok found → ∀ i ∈ found, ∀ first later,
      (declarationsOf i.name items).mapM (interface r) = .ok (first :: later) →
        ((i.properties.map (·.name)).Nodup ↔ (first.properties.map (·.name)).Nodup)) ∧
    ∀ before d after i, items = before ++ .interface d :: after → interface r d = .ok i →
      ((∀ pieces, Splits d pieces →
          outline r (before ++ (pieces.map .interface ++ after)) = outline r items) ↔
        outline r items = none ∨ i.name ∈ declaredNames before ∨
          (i.properties.map (·.name)).Nodup) := by
  obtain ⟨new, hnew⟩ := exists_mapM_eq_ok h
  have hof : ∀ {name first later},
      (declarationsOf name items).mapM (interface r) = .ok (first :: later) ↔
        new.filter (·.name = name) = first :: later := by
    intro name first later
    rw [mapM_declarationsOf hnew name, Except.ok.injEq]
  refine ⟨?_, fun hnodup => ?_, fun e he => ?_, fun found hfound i hi first later hfilter => ?_, ?_⟩
  · rw [exists_all_iff hnew]
    simp only [merged_isSome_iff, hof]
  · exact exists_all_iff_consistent hnew fun name first later hfilter =>
      hnodup name first later (hof.mpr hfilter)
  · obtain ⟨c, first, later, rfl, hfilter, hdispute⟩ := all_eq_error hnew he
    exact ⟨c, first, later, rfl, hof.mpr hfilter, hdispute⟩
  · exact nodup_properties_iff hnew hfound hi (hof.mp hfilter)
  · rintro before d after i rfl hi
    obtain ⟨earlier, hearlier⟩ :
        ∃ earlier, (declarations before).mapM (interface r) = .ok earlier :=
      exists_mapM_eq_ok fun e he => h e (by
        rw [declarations, List.filterMap_append]
        exact List.mem_append_left _ he)
    obtain ⟨later, hlater⟩ : ∃ later, (declarations after).mapM (interface r) = .ok later :=
      exists_mapM_eq_ok fun e he => h e (by
        rw [declarations, List.filterMap_append]
        exact List.mem_append_right _ (List.mem_cons_of_mem d he))
    constructor
    · intro hsplit
      cases hfound : all r (before ++ .interface d :: after) with
      | error e => exact Or.inl (outline_eq_none.mpr (by simp [hfound]))
      | ok found =>
        by_cases hmem : i.name ∈ declaredNames before
        · exact Or.inr (Or.inl hmem)
        · exact Or.inr (Or.inr (nodup_of_outline_eq hearlier hi hlater hmem hfound hsplit))
    · rintro (hnone | hfirst) pieces hpieces
      · rw [hnone, outline_eq_none]
        intro hsplit
        exact outline_eq_none.mp hnone (exists_all_of_split hearlier hi hlater hpieces hsplit)
      · exact outline_split hearlier hi hlater hpieces hfirst

/-- A declaration that states one property twice and differently. -/
def undecided : InterfaceDeclaration :=
  { name := .identifier "A" 1,
    members := [.property ⟨.identifier "a" 1, false, some (.keyword .string 1), 1⟩,
      .property ⟨.identifier "a" 1, false, some (.keyword .number 1), 1⟩],
    bodyLine := 1, line := 1 }

theorem redeclared_undecided :
    (∀ d ∈ declarations [.interface undecided], ∃ i, interface .keywordsOnly d = .ok i) ∧
      ∃ found, all .keywordsOnly [.interface undecided] = .ok found ∧
        ∀ i ∈ found, ¬ (i.properties.map (·.name)).Nodup := by
  have hextracts : ∀ d ∈ declarations [.interface undecided],
      ∃ i, interface .keywordsOnly d = .ok i := by
    intro d hd
    obtain rfl := List.mem_singleton.mp hd
    exact ⟨⟨"A", [⟨"a", some .string, false⟩, ⟨"a", some .number, false⟩], some 1⟩, rfl⟩
  obtain ⟨-, -, -, hnodup, -⟩ := redeclared .keywordsOnly [.interface undecided] hextracts
  refine ⟨hextracts, _, rfl, fun i hi => ?_⟩
  obtain rfl := List.mem_singleton.mp hi
  rw [hnodup _ rfl _ hi _ _ rfl]
  decide

/-- The same body is accepted from a first declaration, refused from a later one, and refused when
it is cut. -/
theorem all_undecided :
    all .keywordsOnly [.interface undecided] =
        .ok [⟨"A", [⟨"a", some .string, false⟩, ⟨"a", some .number, false⟩], some 1⟩] ∧
      all .keywordsOnly [.interface { undecided with members := [] }, .interface undecided] =
        .error (.conflict ⟨"A", "a", some 1⟩) ∧
      all .keywordsOnly ((singles undecided).map .interface) =
        .error (.conflict ⟨"A", "a", some 1⟩) := ⟨rfl, rfl, rfl⟩

end TypeGuards.Extraction
