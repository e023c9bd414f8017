import TypeGuards.Extraction
import TypeGuards.Proofs.Merging
/-!
What extraction finds. The interfaces found are those declared, in order of their first
declarations, and each one is made of the declarations of its name alone: whatever stands between
them does not show.
-/
namespace TypeGuards

def DeclaredName.identifier? : DeclaredName → Option String
  | identifier text _ => some text
  | other _ => none

def ModuleItem.declaration? : ModuleItem → Option InterfaceDeclaration
  | interface d => some d
  | other _ => none

namespace Extraction

open Interface

def declarations (items : List ModuleItem) : List InterfaceDeclaration :=
  items.filterMap (·.declaration?)

def declaredNames (items : List ModuleItem) : List String :=
  (declarations items).filterMap (·.name.identifier?)

def declarationsOf (name : String) (items : List ModuleItem) : List InterfaceDeclaration :=
  (declarations items).filter (·.name.identifier? = some name)

def named (name : String) (found : List Interface) : Option Interface :=
  found.find? (·.name = name)

/-! ### One declaration -/

theorem resolve_keyword (type : Primitive) (line : Int) :
    Resolvers.keywordsOnly.resolve (.keyword type line) = .ok type := rfl

/-- Where keywords alone are resolved, anything else is unsupported. -/
theorem exists_resolve_other (c : Construct) : ∃ u, u.actual = c.kind ∧ u.line = some c.line ∧
    Resolvers.keywordsOnly.resolve (.other c) = .error (.unsupported u) := by
  unfold Resolvers.resolve
  split
  · rename_i resolver hresolver
    have hkeyword : resolver = Resolvers.keyword := by
      obtain ⟨before, after, heq, -⟩ := List.lookup_eq_some_iff.mp hresolver
      have hmem : (c.kind, resolver) ∈ Resolvers.keywordsOnly.entries := by
        rw [heq]
        exact List.mem_append_right before List.mem_cons_self
      exact (Prod.mk.inj (List.mem_singleton.mp hmem)).2
    rw [hkeyword]
    exact ⟨_, rfl, rfl, rfl⟩
  · exact ⟨_, rfl, rfl, rfl⟩

theorem refuse_ne_ok {α : Type} {c : Construct} {expected context : String}
    {about : Option String} {a : α} : refuse c expected context about ≠ .ok a := by
  simp [refuse]

/-- What the extraction of an interface asks for, as one condition. -/
theorem interface_eq_ok {r : Resolvers} {d : InterfaceDeclaration} {i : Interface} :
    interface r d = .ok i ↔
      d.name.identifier? = some i.name ∧ d.typeParameters = none ∧ d.heritage = [] ∧ i.name ≠ "" ∧
        d.members.mapM (property r i.name) = .ok i.properties ∧ i.line = some d.line := by
  rw [interface]
  cases d.name with
  | other c =>
    refine iff_of_false refuse_ne_ok ?_
    rintro ⟨hname, -⟩
    exact absurd hname (by simp [DeclaredName.identifier?])
  | identifier name line =>
    cases d.typeParameters with
    | some c => exact iff_of_false refuse_ne_ok (by simp)
    | none =>
      cases d.heritage with
      | cons c rest => exact iff_of_false refuse_ne_ok (by simp)
      | nil =>
        simp only [bind_eq_ok, DeclaredName.identifier?, Option.some.injEq, true_and]
        constructor
        · rintro ⟨properties, hproperties, hend⟩
          by_cases hempty : name = ""
          · rw [if_pos hempty] at hend
            exact absurd hend (by simp)
          · rw [if_neg hempty] at hend
            obtain rfl := Except.ok.inj hend
            exact ⟨rfl, hempty, hproperties, rfl⟩
        · obtain ⟨iname, iproperties, iline⟩ := i
          rintro ⟨rfl, hempty, hproperties, rfl⟩
          exact ⟨iproperties, hproperties, if_neg hempty⟩

theorem identifier?_of_interface {r : Resolvers} {d : InterfaceDeclaration} {i : Interface}
    (h : interface r d = .ok i) : d.name.identifier? = some i.name := (interface_eq_ok.mp h).1

/-! ### One more interface -/

/-- The interface with a later declaration, or the declaration if it is the first. -/
def join : Option Interface → Interface → Except Conflict Interface
  | none, new => .ok new
  | some first, new => first.merge new

def joinAll : Option Interface → List Interface → Except Conflict (Option Interface)
  | known, [] => .ok known
  | known, new :: rest => do
      let m ← join known new
      joinAll (some m) rest

/-- Puts an interface in the place of the one of its name, at the end if there is none. -/
def put (m : Interface) : List Interface → List Interface
  | [] => [m]
  | i :: rest => if i.name = m.name then m :: rest else i :: put m rest

/-- An interface takes the place of that of its name, or the last place. -/
theorem names_put (m : Interface) (found : List Interface) :
    (put m found).map (·.name) = if m.name ∈ found.map (·.name) then found.map (·.name)
      else found.map (·.name) ++ [m.name] := by
  induction found with
  | nil => simp [put]
  | cons i rest ih =>
    by_cases hname : i.name = m.name
    · simp [put, hname]
    · rw [put, if_neg hname, List.map_cons, ih, List.map_cons]
      by_cases hmem : m.name ∈ rest.map (·.name)
      · rw [if_pos hmem, if_pos (List.mem_cons_of_mem _ hmem)]
      · have hnew : m.name ∉ i.name :: rest.map (·.name) := by
          simp only [List.mem_cons, not_or]
          exact ⟨Ne.symm hname, hmem⟩
        rw [if_neg hmem, if_neg hnew, List.cons_append]

theorem named_put (m : Interface) (found : List Interface) (name : String) :
    named name (put m found) = if m.name = name then some m else named name found := by
  unfold named
  induction found with
  | nil => by_cases hname : m.name = name <;> simp [put, hname]
  | cons i rest ih =>
    by_cases hput : i.name = m.name
    · rw [put, if_pos hput]
      by_cases hname : m.name = name <;> simp [hput, hname]
    · rw [put, if_neg hput]
      by_cases hi : i.name = name
      · have hname : m.name ≠ name := fun h => hput (hi.trans h.symm)
        simp [hi, hname]
      · rw [List.find?_cons_of_neg (by simpa using hi), ih,
          List.find?_cons_of_neg (by simpa using hi)]

/-- An interface found by a name has the name. -/
theorem name_of_named {name : String} {found : List Interface} {i : Interface}
    (h : named name found = some i) : i.name = name := by
  have hname := List.find?_some h
  exact of_decide_eq_true hname

theorem name_join {found : List Interface} {new m : Interface}
    (h : join (named new.name found) new = .ok m) : m.name = new.name := by
  cases hknown : named new.name found with
  | none =>
    rw [hknown] at h
    rw [← Except.ok.inj h]
  | some first =>
    rw [hknown] at h
    rw [name_merge h, name_of_named hknown]

/-- Adding an interface joins it with the one of its name and leaves the others as they are. -/
theorem add_eq (new : Interface) (found : List Interface) :
    add new found = match join (named new.name found) new with
      | .ok m => .ok (put m found)
      | .error c => .error (.conflict c) := by
  induction found with
  | nil => rfl
  | cons i rest ih =>
    by_cases hname : i.name = new.name
    · have hknown : named new.name (i :: rest) = some i :=
        List.find?_cons_of_pos (by simpa using hname)
      rw [add, if_pos hname, hknown, join]
      cases hmerge : i.merge new with
      | error c => rfl
      | ok m => simp only [put, name_merge hmerge, if_true]
    · have hknown : named new.name (i :: rest) = named new.name rest :=
        List.find?_cons_of_neg (by simpa using hname)
      rw [add, if_neg hname, hknown, ih]
      cases hjoin : join (named new.name rest) new with
      | error c => rfl
      | ok m =>
        have hput : i.name ≠ m.name := by rwa [name_join hjoin]
        simp only [put, if_neg hput]
        rfl

/-! ### All interfaces -/

def addAll (found new : List Interface) : Except ExtractionError (List Interface) :=
  new.foldlM (fun found i => add i found) found

/-- Interfaces are added one after another. -/
theorem addAll_cons (found : List Interface) (i : Interface) (new : List Interface) :
    addAll found (i :: new) = add i found >>= fun next => addAll next new := List.foldlM_cons ..

/-- The names so far, with a new one behind them if it is new. -/
theorem names_add {new : Interface} {found next : List Interface} (h : add new found = .ok next)
    (hnodup : (found.map (·.name)).eraseDups = found.map (·.name)) :
    next.map (·.name) = (found.map (·.name) ++ [new.name]).eraseDups := by
  rw [add_eq] at h
  split at h
  case h_1 m hjoin =>
    obtain rfl := Except.ok.inj h
    rw [names_put, name_join hjoin, eraseDups_concat, hnodup]
  case h_2 => exact absurd h (by simp)

/-- The names are those known and the new ones, each where it comes first. -/
theorem names_addAll {found new next : List Interface} (h : addAll found new = .ok next)
    (hnodup : (found.map (·.name)).eraseDups = found.map (·.name)) :
    next.map (·.name) = (found.map (·.name) ++ new.map (·.name)).eraseDups := by
  induction new generalizing found with
  | nil =>
    obtain rfl := Except.ok.inj h
    rw [List.map_nil, List.append_nil, hnodup]
  | cons i new ih =>
    rw [addAll_cons] at h
    obtain ⟨middle, hfirst, hrest⟩ := bind_eq_ok.mp h
    have hnames := names_add hfirst hnodup
    have hmiddle : (middle.map (·.name)).eraseDups =
        (found.map (·.name) ++ [i.name]).eraseDups := by
      rw [hnames, eraseDups_eraseDups]
    rw [ih hrest (by rw [hmiddle, hnames]), eraseDups_append_congr hmiddle, List.append_assoc,
      List.map_cons, List.singleton_append]

/-- Each interface comes from the declarations of its name alone. -/
theorem joinAll_of_addAll {found new next : List Interface} (h : addAll found new = .ok next)
    (name : String) :
    joinAll (named name found) (new.filter (·.name = name)) = .ok (named name next) := by
  induction new generalizing found with
  | nil =>
    obtain rfl := Except.ok.inj h
    rfl
  | cons i new ih =>
    rw [addAll_cons] at h
    obtain ⟨middle, hfirst, hrest⟩ := bind_eq_ok.mp h
    have hlater := ih hrest
    rw [add_eq] at hfirst
    split at hfirst
    case h_2 => exact absurd hfirst (by simp)
    case h_1 m hjoin =>
      obtain rfl := Except.ok.inj hfirst
      rw [named_put, name_join hjoin] at hlater
      by_cases hname : i.name = name
      · rw [if_pos hname] at hlater
        rw [List.filter_cons_of_pos (by simpa using hname), joinAll, bind_eq_ok]
        exact ⟨m, by rw [← hname, hjoin], hlater⟩
      · rw [if_neg hname] at hlater
        rwa [List.filter_cons_of_neg (by simpa using hname)]

/-- A refusal comes from the declarations of one name, too. -/
theorem joinAll_of_addAll_error {found new : List Interface} {e : ExtractionError}
    (h : addAll found new = .error e) :
    ∃ c name, e = .conflict c ∧
      joinAll (named name found) (new.filter (·.name = name)) = .error c := by
  induction new generalizing found with
  | nil => exact absurd h (by simp [addAll, pure, Except.pure])
  | cons i new ih =>
    rw [addAll_cons, add_eq] at h
    cases hjoin : join (named i.name found) i with
    | error c =>
      rw [hjoin] at h
      refine ⟨c, i.name, (Except.error.inj h).symm, ?_⟩
      rw [List.filter_cons_of_pos (by simp), joinAll, hjoin]
      rfl
    | ok m =>
      rw [hjoin] at h
      obtain ⟨c, name, rfl, herror⟩ := ih h
      rw [named_put, name_join hjoin] at herror
      refine ⟨c, name, rfl, ?_⟩
      by_cases hname : i.name = name
      · rw [if_pos hname] at herror
        rw [List.filter_cons_of_pos (by simpa using hname), joinAll, ← hname, hjoin, hname]
        exact herror
      · rw [if_neg hname] at herror
        rwa [List.filter_cons_of_neg (by simpa using hname)]

theorem joinAll_some (first : Interface) (later : List Interface) :
    joinAll (some first) later = (later.foldlM merge first).map some := by
  induction later generalizing first with
  | nil => rfl
  | cons next later ih =>
    rw [joinAll, List.foldlM_cons, join]
    cases first.merge next with
    | error c => rfl
    | ok m => exact ih m

theorem joinAll_cons (first : Interface) (later : List Interface) :
    joinAll none (first :: later) = (later.foldlM merge first).map some := joinAll_some first later

/-- Joining is merging all later interfaces into the first. -/
theorem joinAll_eq_ok {new : List Interface} {m : Interface} :
    joinAll none new = .ok (some m) ↔ ∃ first later ps, new = first :: later ∧
      absorbAll first.properties (later.flatMap (·.properties)) = some ps ∧
        m = { first with properties := ps } := by
  cases new with
  | nil => simp [joinAll]
  | cons first later =>
    rw [joinAll_cons, map_eq_ok]
    constructor
    · rintro ⟨n, hfold, heq⟩
      obtain rfl := Option.some.inj heq
      obtain ⟨ps, hps, hn⟩ := foldlM_merge_eq_ok.mp hfold
      exact ⟨first, later, ps, rfl, hps, hn⟩
    · rintro ⟨_, _, ps, heq, hps, rfl⟩
      obtain ⟨rfl, rfl⟩ := List.cons.inj heq
      exact ⟨_, foldlM_merge_eq_ok.mpr ⟨ps, hps, rfl⟩, rfl⟩

/-- A conflict names a property that two of the interfaces declare differently. -/
theorem joinAll_eq_error {new : List Interface} {c : Conflict} (h : joinAll none new = .error c) :
    ∃ first later, new = first :: later ∧ c.interface = first.name ∧
      Disputed (latest first.properties ++ later.flatMap (·.properties)) c.property := by
  cases new with
  | nil => exact absurd h (by simp [joinAll])
  | cons first later =>
    rw [joinAll_cons, map_eq_error] at h
    exact ⟨first, later, rfl, foldlM_merge_eq_error h⟩

/-! ### All items -/

/-- The properties that the declarations of an interface state, one declaration after another. -/
def stated (r : Resolvers) (name : String) (items : List ModuleItem) : List Property :=
  (declarationsOf name items).flatMap fun d =>
    d.members.filterMap fun m => (property r name m).toOption

section

variable {r : Resolvers} {items : List ModuleItem} {new found : List Interface}

theorem step_interface (r : Resolvers) (found : List Interface) (d : InterfaceDeclaration) :
    step r found (.interface d) = interface r d >>= fun new => add new found := rfl

/-- Where each declaration is an interface, these are added in turn. -/
theorem foldlM_step (h : (declarations items).mapM (interface r) = .ok new)
    (found : List Interface) : items.foldlM (step r) found = addAll found new := by
  induction items generalizing new found with
  | nil =>
    obtain rfl := Except.ok.inj h
    rfl
  | cons item items ih =>
    cases item with
    | other c => exact ih h found
    | interface d =>
      have hcons : ((d :: declarations items).mapM (interface r)) = .ok new := h
      cases mapM_eq_ok.mp hcons with
      | @cons _ i _ new hi hnew =>
        rw [List.foldlM_cons, step_interface, hi, addAll_cons]
        exact bind_congr fun next => ih (mapM_eq_ok.mpr hnew) next

theorem exists_mapM_of_foldlM_step {next : List Interface}
    (h : items.foldlM (step r) found = .ok next) :
    ∃ new, (declarations items).mapM (interface r) = .ok new := by
  apply exists_mapM_eq_ok
  induction items generalizing found with
  | nil => exact fun d hd => absurd hd List.not_mem_nil
  | cons item items ih =>
    rw [List.foldlM_cons, bind_eq_ok] at h
    obtain ⟨middle, hfirst, hrest⟩ := h
    cases item with
    | other c => exact ih hrest
    | interface d =>
      rw [step_interface, bind_eq_ok] at hfirst
      obtain ⟨i, hi, -⟩ := hfirst
      intro e he
      rcases List.mem_cons.mp he with rfl | he
      · exact ⟨i, hi⟩
      · exact ih hrest e he

/-- Extraction of items whose declarations are fine is adding their interfaces. -/
theorem all_eq_addAll (h : (declarations items).mapM (interface r) = .ok new) :
    all r items = addAll [] new := foldlM_step h []

/-- Extraction does not succeed with a declaration that is refused. -/
theorem exists_mapM_of_all (h : all r items = .ok found) :
    ∃ new, (declarations items).mapM (interface r) = .ok new := exists_mapM_of_foldlM_step h

/-- For each name, what is found is what its interfaces join to. -/
theorem joinAll_of_all (hnew : (declarations items).mapM (interface r) = .ok new)
    (h : all r items = .ok found) (name : String) :
    joinAll none (new.filter (·.name = name)) = .ok (named name found) := by
  rw [all_eq_addAll hnew] at h
  exact joinAll_of_addAll h name

theorem names_of_mapM {ds : List InterfaceDeclaration} (h : ds.mapM (interface r) = .ok new) :
    ds.filterMap (·.name.identifier?) = new.map (·.name) := by
  rw [mapM_eq_ok] at h
  induction h with
  | nil => rfl
  | cons hd _ ih =>
    simp only [List.filterMap_cons, identifier?_of_interface hd, ih, List.map_cons]

/-- The interfaces of one name are those of its declarations. -/
theorem mapM_declarationsOf (h : (declarations items).mapM (interface r) = .ok new)
    (name : String) :
    (declarationsOf name items).mapM (interface r) = .ok (new.filter (·.name = name)) := by
  apply mapM_filter h
  intro d i hd
  rw [decide_eq_true_eq, decide_eq_true_eq, identifier?_of_interface hd, Option.some.injEq]

/-- The properties of an interface are those of its members, in order. -/
theorem filterMap_members {d : InterfaceDeclaration} {i : Interface} (h : interface r d = .ok i) :
    d.members.filterMap (fun m => (property r i.name m).toOption) = i.properties := by
  obtain ⟨-, -, -, -, hmembers, -⟩ := interface_eq_ok.mp h
  exact filterMap_toOption hmembers

theorem flatMap_members {ds : List InterfaceDeclaration} {is : List Interface} {name : String}
    (h : ds.mapM (interface r) = .ok is) (hnames : ∀ i ∈ is, i.name = name) :
    (ds.flatMap fun d => d.members.filterMap fun m => (property r name m).toOption) =
      is.flatMap (·.properties) := by
  rw [mapM_eq_ok] at h
  induction h with
  | nil => rfl
  | @cons d i ds is hd _ ih =>
    have hname : i.name = name := hnames i List.mem_cons_self
    have hproperties := filterMap_members hd
    rw [hname] at hproperties
    rw [List.flatMap_cons, List.flatMap_cons, hproperties,
      ih fun j hj => hnames j (List.mem_cons_of_mem i hj)]

theorem name_of_mem_filter {name : String} {i : Interface} (h : i ∈ new.filter (·.name = name)) :
    i.name = name := of_decide_eq_true (List.mem_filter.mp h).2

/-- What is stated about a name are the properties of all interfaces of the name. -/
theorem stated_eq (h : (declarations items).mapM (interface r) = .ok new) (name : String) :
    stated r name items = (new.filter (·.name = name)).flatMap (·.properties) :=
  flatMap_members (mapM_declarationsOf h name) fun _ => name_of_mem_filter

theorem mem_stated {name : String} {p : Property} : p ∈ stated r name items ↔
    ∃ d ∈ declarationsOf name items, ∃ m ∈ d.members, property r name m = .ok p := by
  have hok : ∀ x : Except ExtractionError Property, x.toOption = some p ↔ x = .ok p := by
    intro x
    cases x <;> simp [Except.toOption]
  simp only [stated, List.mem_flatMap, List.mem_filterMap, hok]

/-- Interfaces come in the order in which their names are declared first. -/
theorem names_all (h : all r items = .ok found) :
    found.map (·.name) = (declaredNames items).eraseDups := by
  obtain ⟨new, hnew⟩ := exists_mapM_of_all h
  rw [all_eq_addAll hnew] at h
  rw [names_addAll h rfl, declaredNames, names_of_mapM hnew]
  rfl

/-- Each name is found once. -/
theorem named_of_mem (h : all r items = .ok found) {i : Interface} (hi : i ∈ found) :
    named i.name found = some i := by
  have hnodup : (found.map (·.name)).Nodup := by
    rw [names_all h]
    exact nodup_eraseDups _
  cases hnamed : named i.name found with
  | none => exact absurd hi fun hi => by simpa using List.find?_eq_none.mp hnamed i hi
  | some j =>
    have hj : j ∈ found := List.mem_of_find?_eq_some hnamed
    rw [List.inj_on_of_nodup_map hnodup hj hi (name_of_named hnamed)]

/-- An interface that was found is the first declaration of its name with the properties of the
later ones absorbed. -/
theorem exists_declarations (hnew : (declarations items).mapM (interface r) = .ok new)
    (h : all r items = .ok found) {i : Interface} (hi : i ∈ found) :
    ∃ first later ps, new.filter (·.name = i.name) = first :: later ∧
      absorbAll first.properties (later.flatMap (·.properties)) = some ps ∧
        i = { first with properties := ps } := by
  have hjoin := joinAll_of_all hnew h i.name
  rw [named_of_mem h hi] at hjoin
  exact joinAll_eq_ok.mp hjoin

theorem exists_named (h : all r items = .ok found) {name : String}
    (hname : name ∈ declaredNames items) :
    ∃ i ∈ found, i.name = name ∧ named name found = some i := by
  rw [← List.mem_eraseDups, ← names_all h] at hname
  obtain ⟨i, hi, rfl⟩ := List.mem_map.mp hname
  exact ⟨i, hi, rfl, named_of_mem h hi⟩

/-- A redeclared property stays where it is declared first. -/
theorem eraseDups_properties (h : all r items = .ok found) {i : Interface} (hi : i ∈ found) :
    i.properties.eraseDups = (stated r i.name items).eraseDups := by
  obtain ⟨new, hnew⟩ := exists_mapM_of_all h
  obtain ⟨first, later, ps, hfilter, habsorb, heq⟩ := exists_declarations hnew h hi
  rw [stated_eq hnew, hfilter, List.flatMap_cons, ← eraseDups_absorbAll habsorb, heq]

/-- An interface has the properties that its declarations state, and no others. -/
theorem mem_properties_iff (h : all r items = .ok found) {i : Interface} (hi : i ∈ found)
    {p : Property} : p ∈ i.properties ↔ p ∈ stated r i.name items := by
  rw [← List.mem_eraseDups, eraseDups_properties h hi, List.mem_eraseDups]

/-- What is found under a name comes from the declarations of that name. -/
theorem named_congr {items' : List ModuleItem} {found' : List Interface}
    (h : all r items = .ok found) (h' : all r items' = .ok found') {name : String}
    (hof : declarationsOf name items' = declarationsOf name items) :
    named name found' = named name found := by
  obtain ⟨new, hnew⟩ := exists_mapM_of_all h
  obtain ⟨new', hnew'⟩ := exists_mapM_of_all h'
  have hfilter := mapM_declarationsOf hnew' name
  rw [hof, mapM_declarationsOf hnew name] at hfilter
  have hjoin := joinAll_of_all hnew' h' name
  rw [← Except.ok.inj hfilter] at hjoin
  exact Except.ok.inj (hjoin.symm.trans (joinAll_of_all hnew h name))

end

/-- Extraction finds the interfaces declared, each with the properties that its declarations state,
and nothing else. -/
theorem all_collects (r : Resolvers) (items : List ModuleItem) (found : List Interface)
    (h : all r items = .ok found) :
    found.map (·.name) = (declaredNames items).eraseDups ∧
    (∀ i ∈ found,
      i.line = (declarationsOf i.name items).head?.map (·.line) ∧
      (∀ p, p ∈ i.properties ↔
        ∃ d ∈ declarationsOf i.name items, ∃ m ∈ d.members, property r i.name m = .ok p) ∧
      i.properties.eraseDups = (stated r i.name items).eraseDups) ∧
    ∀ name items' found', all r items' = .ok found' →
      declarationsOf name items' = declarationsOf name items →
        named name found' = named name found := by
  obtain ⟨new, hnew⟩ := exists_mapM_of_all h
  refine ⟨names_all h, fun i hi => ?_, fun name items' found' h' hof => named_congr h h' hof⟩
  obtain ⟨first, later, ps, hfilter, habsorb, heq⟩ := exists_declarations hnew h hi
  have hof := mapM_declarationsOf hnew i.name
  rw [hfilter] at hof
  have hline : first.line = (declarationsOf i.name items).head?.map (·.line) := by
    generalize declarationsOf i.name items = ds at hof ⊢
    cases mapM_eq_ok.mp hof with
    | cons hfirst _ => exact (interface_eq_ok.mp hfirst).2.2.2.2.2
  refine ⟨by rw [← hline, heq], fun p => ?_, eraseDups_properties h hi⟩
  rw [mem_properties_iff h hi, mem_stated]

/-- Two declarations of one interface with another one and something else between them. -/
def interleaved : List ModuleItem :=
  let id := Member.property ⟨.identifier "id" 2, false, some (.keyword .number 2), 2⟩
  let nick := Member.property ⟨.identifier "nick" 9, true, some (.keyword .string 9), 9⟩
  [.interface { name := .identifier "User" 1, members := [id], bodyLine := 1, line := 1 },
   .other ⟨"Comment", "// posts", 4⟩,
   .interface { name := .identifier "Post" 5, members := [nick], bodyLine := 5, line := 5 },
   .interface { name := .identifier "User" 8, members := [nick, id], bodyLine := 8, line := 8 }]

def user : Interface :=
  { name := "User", properties := [⟨"id", some .number, false⟩, ⟨"nick", some .string, true⟩],
    line := some 1 }

def post : Interface :=
  { name := "Post", properties := [⟨"nick", some .string, true⟩], line := some 5 }

theorem all_collects_interleaved :
    all .keywordsOnly interleaved = .ok [user, post] ∧
      user.properties.eraseDups = (stated .keywordsOnly "User" interleaved).eraseDups ∧
      ∀ items found, all .keywordsOnly items = .ok found →
        declarationsOf "User" items = declarationsOf "User" interleaved →
          named "User" found = some user := by
  have hall : all .keywordsOnly interleaved = .ok [user, post] := by rfl
  obtain ⟨-, hfound, hothers⟩ := all_collects .keywordsOnly interleaved [user, post] hall
  obtain ⟨-, -, hstated⟩ := hfound user List.mem_cons_self
  exact ⟨hall, hstated, hothers "User"⟩

end Extraction

end TypeGuards
