import TypeGuards.Proofs.Acceptance
/-!
What is told of some items does not depend on the items behind them. An error stays what it is, and an
interface that was found stays in its place and only gets more properties. Where keywords alone are
resolved, an unsupported construct is the first offender of the first declaration that has any.
-/
namespace TypeGuards

/-! ### Interfaces that grow -/

namespace Interface

/-- An interface with more properties behind those it had. -/
structure Widens (i j : Interface) : Prop where
  name : j.name = i.name
  line : j.line = i.line
  properties : i.properties <+: j.properties

theorem Widens.refl (i : Interface) : i.Widens i := ⟨rfl, rfl, List.prefix_rfl⟩

theorem Widens.trans {i j k : Interface} (h : i.Widens j) (h' : j.Widens k) : i.Widens k :=
  ⟨h'.name.trans h.name, h'.line.trans h.line, h.properties.trans h'.properties⟩

theorem widens_merge {i new m : Interface} (h : i.merge new = .ok m) : i.Widens m := by
  obtain ⟨ps, hps, rfl⟩ := merge_eq_ok.mp h
  exact ⟨rfl, rfl, prefix_absorbAll hps⟩

end Interface

namespace Extraction

open Interface

/-- The interfaces stay in their places, each perhaps wider than before, and others come behind them. -/
inductive Continues : List Interface → List Interface → Prop
  | nil {found : List Interface} : Continues [] found
  | cons {i j : Interface} {is js : List Interface} : i.Widens j → Continues is js →
      Continues (i :: is) (j :: js)

section

variable {r : Resolvers} {items more : List ModuleItem} {found found' found'' : List Interface}

theorem Continues.refl (found : List Interface) : Continues found found := by
  induction found with
  | nil => exact .nil
  | cons i rest ih => exact .cons (Widens.refl i) ih

theorem Continues.trans (h : Continues found found') (h' : Continues found' found'') :
    Continues found found'' := by
  induction h generalizing found'' with
  | nil => exact .nil
  | cons hij _ ih =>
    cases h' with
    | cons hjk hrest => exact .cons (hij.trans hjk) (ih hrest)

theorem Continues.names (h : Continues found found') :
    found.map (·.name) <+: found'.map (·.name) := by
  induction h with
  | nil => exact List.nil_prefix
  | cons hij _ ih =>
    rw [List.map_cons, List.map_cons, hij.name, List.cons_prefix_cons]
    exact ⟨rfl, ih⟩

theorem Continues.exists_widens (h : Continues found found') {i : Interface} (hi : i ∈ found) :
    ∃ j ∈ found', i.Widens j := by
  induction h with
  | nil => exact absurd hi List.not_mem_nil
  | @cons k j is js hkj _ ih =>
    rcases List.mem_cons.mp hi with rfl | hi
    · exact ⟨j, List.mem_cons_self, hkj⟩
    · obtain ⟨l, hl, hwidens⟩ := ih hi
      exact ⟨l, List.mem_cons_of_mem j hl, hwidens⟩

theorem continues_add {new : Interface} (h : add new found = .ok found') :
    Continues found found' := by
  induction found generalizing found' with
  | nil => exact .nil
  | cons i rest ih =>
    rw [add] at h
    split at h
    · split at h
      · rename_i m hmerge
        rw [← Except.ok.inj h]
        exact .cons (widens_merge hmerge) (.refl rest)
      · contradiction
    · obtain ⟨rest', hrest, hend⟩ := bind_eq_ok.mp h
      rw [← Except.ok.inj hend]
      exact .cons (Widens.refl i) (ih hrest)

/-- One more item leaves the interfaces in place and in order. -/
theorem continues_step {item : ModuleItem} (h : step r found item = .ok found') :
    Continues found found' := by
  cases item with
  | other c =>
    rw [← Except.ok.inj h]
    exact .refl found
  | interface d =>
    obtain ⟨new, -, hadd⟩ := bind_eq_ok.mp h
    exact continues_add hadd

theorem continues_foldlM (h : items.foldlM (step r) found = .ok found') :
    Continues found found' := by
  induction items generalizing found with
  | nil =>
    rw [← Except.ok.inj h]
    exact .refl found
  | cons item items ih =>
    rw [List.foldlM_cons] at h
    obtain ⟨middle, hfirst, hrest⟩ := bind_eq_ok.mp h
    exact (continues_step hfirst).trans (ih hrest)

theorem all_append_eq (r : Resolvers) (items more : List ModuleItem) :
    all r (items ++ more) = all r items >>= fun found => more.foldlM (step r) found :=
  List.foldlM_append

/-- If all items succeed, the first of them do, with a beginning of the same interfaces. -/
theorem continues_of_append (h : all r (items ++ more) = .ok found') :
    ∃ found, all r items = .ok found ∧ Continues found found' := by
  rw [all_append_eq] at h
  obtain ⟨found, hfound, hrest⟩ := bind_eq_ok.mp h
  exact ⟨found, hfound, continues_foldlM hrest⟩

end

end Extraction

/-! ### Offenders -/

structure Offender where
  kind : String
  line : Int
deriving DecidableEq, Repr

def Construct.offender (c : Construct) : Offender := ⟨c.kind, c.line⟩

def DeclaredName.offenders : DeclaredName → List Offender
  | identifier _ _ => []
  | other c => [c.offender]

/-- A type offends unless it is a keyword. -/
def Annotation.offenders : Annotation → List Offender
  | keyword _ _ => []
  | other c => [c.offender]

/-- The key of a property comes before its type. -/
def Member.offenders : Member → List Offender
  | property s => s.key.offenders ++ s.annotation.toList.flatMap Annotation.offenders
  | other c => [c.offender]

/-- The name comes first, then the type parameters, the heritage and the members in order. -/
def InterfaceDeclaration.offenders (d : InterfaceDeclaration) : List Offender :=
  d.name.offenders ++ d.typeParameters.toList.map Construct.offender ++
    d.heritage.map Construct.offender ++ d.members.flatMap Member.offenders

def Unsupported.IsAbout (u : Unsupported) (o : Offender) : Prop :=
  u.actual = o.kind ∧ u.line = some o.line

namespace Extraction

variable {u : Unsupported} {name : String}

theorem isAbout_of_refuse {α : Type} {c : Construct} {expected context : String}
    {about : Option String}
    (h : (refuse c expected context about : Except ExtractionError α) = .error (.unsupported u)) :
    u.IsAbout c.offender ∧ u.interface = about := by
  obtain rfl := ExtractionError.unsupported.inj (Except.error.inj h)
  exact ⟨⟨rfl, rfl⟩, rfl⟩

theorem isAbout_of_resolve {a : Annotation}
    (h : Resolvers.keywordsOnly.resolve a = .error (.unsupported u)) :
    ∃ o, a.offenders = [o] ∧ u.IsAbout o := by
  cases a with
  | keyword type line => contradiction
  | other c =>
    obtain ⟨found, hkind, hline, hresolve⟩ := exists_resolve_other c
    obtain rfl := ResolutionError.unsupported.inj (Except.error.inj (hresolve.symm.trans h))
    exact ⟨c.offender, rfl, hkind, hline⟩

theorem isAbout_of_kindOf {property : String} {a : Option Annotation}
    (h : kindOf .keywordsOnly name property a = .error (.unsupported u)) :
    ∃ o, a.toList.flatMap Annotation.offenders = [o] ∧ u.IsAbout o ∧ u.interface = some name := by
  cases a with
  | none => contradiction
  | some a =>
    rw [kindOf] at h
    split at h
    · contradiction
    · rename_i cause hcause
      cases cause with
      | notPrimitive | other => exact absurd (Except.error.inj h) (by simp [locate])
      | unsupported v =>
        obtain rfl := ExtractionError.unsupported.inj (Except.error.inj h)
        obtain ⟨o, ho, hactual, hline⟩ := isAbout_of_resolve hcause
        exact ⟨o, by simpa using ho, ⟨hactual, hline⟩, rfl⟩

theorem offenders_of_kindOf {property : String} {a : Option Annotation} {k : Option Primitive}
    (h : kindOf .keywordsOnly name property a = .ok k) :
    a.toList.flatMap Annotation.offenders = [] := by
  rcases kindOf_eq_ok.mp h with ⟨rfl, -⟩ | ⟨b, p, rfl, hp, -⟩
  · rfl
  · obtain ⟨line, rfl⟩ := Tree.resolve_keywordsOnly.mp hp
    rfl

/-- The offence of a member that is reported is the first of the member. -/
theorem isAbout_of_property {m : Member}
    (h : property .keywordsOnly name m = .error (.unsupported u)) :
    ∃ o, m.offenders.head? = some o ∧ u.IsAbout o ∧ u.interface = some name := by
  cases m with
  | other c =>
    obtain ⟨habout, hinterface⟩ := isAbout_of_refuse h
    exact ⟨c.offender, rfl, habout, hinterface⟩
  | property s =>
    rw [property] at h
    rw [Member.offenders]
    cases hkey : s.key with
    | other c =>
      rw [hkey] at h
      obtain ⟨habout, hinterface⟩ := isAbout_of_refuse h
      exact ⟨c.offender, rfl, habout, hinterface⟩
    | identifier key line =>
      rw [hkey] at h
      rcases bind_eq_error.mp h with h | ⟨k, -, h⟩
      · obtain ⟨o, ho, habout, hinterface⟩ := isAbout_of_kindOf h
        exact ⟨o, by rw [ho]; rfl, habout, hinterface⟩
      · split_ifs at h
        exact absurd (Except.error.inj h) (by simp)

theorem offenders_of_property {m : Member} {p : Property}
    (h : property .keywordsOnly name m = .ok p) : m.offenders = [] := by
  obtain ⟨s, rfl, hkey, -, hkind, -⟩ := property_eq_ok.mp h
  rw [Member.offenders, offenders_of_kindOf hkind, List.append_nil]
  cases hs : s.key with
  | identifier key line => rfl
  | other c =>
    rw [hs] at hkey
    contradiction

theorem offenders_of_members {members : List Member} {ps : List Property}
    (h : members.mapM (property .keywordsOnly name) = .ok ps) :
    members.flatMap Member.offenders = [] := by
  rw [List.flatMap_eq_nil_iff]
  intro m hm
  obtain ⟨p, hp⟩ := exists_of_mapM_eq_ok h hm
  exact offenders_of_property hp

/-- The name of the interface is told unless it is what offends. -/
theorem isAbout_of_interface {d : InterfaceDeclaration}
    (h : interface .keywordsOnly d = .error (.unsupported u)) :
    ∃ o, d.offenders.head? = some o ∧ u.IsAbout o ∧ u.interface = d.name.identifier? := by
  rw [interface] at h
  rw [InterfaceDeclaration.offenders]
  cases hname : d.name with
  | other c =>
    rw [hname] at h
    obtain ⟨habout, hinterface⟩ := isAbout_of_refuse h
    exact ⟨c.offender, rfl, habout, hinterface⟩
  | identifier text line =>
    rw [hname] at h
    cases hparameters : d.typeParameters with
    | some c =>
      rw [hparameters] at h
      obtain ⟨habout, hinterface⟩ := isAbout_of_refuse h
      exact ⟨c.offender, rfl, habout, hinterface⟩
    | none =>
      cases hheritage : d.heritage with
      | cons c rest =>
        rw [hparameters, hheritage] at h
        obtain ⟨habout, hinterface⟩ := isAbout_of_refuse h
        exact ⟨c.offender, rfl, habout, hinterface⟩
      | nil =>
        rw [hparameters, hheritage] at h
        rcases bind_eq_error.mp h with h | ⟨ps, -, h⟩
        · obtain ⟨before, m, after, ps, hsplit, hbefore, hm⟩ := split_of_mapM_eq_error h
          obtain ⟨o, ho, habout, hinterface⟩ := isAbout_of_property hm
          refine ⟨o, ?_, habout, hinterface⟩
          rw [hsplit, List.flatMap_append, offenders_of_members hbefore, List.flatMap_cons]
          simp [DeclaredName.offenders, ho]
        · split_ifs at h
          exact absurd (Except.error.inj h) (by simp)

/-- A declaration that is extracted has nothing that offends. -/
theorem offenders_of_interface {d : InterfaceDeclaration} {i : Interface}
    (h : interface .keywordsOnly d = .ok i) : d.offenders = [] := by
  obtain ⟨hname, hparameters, hheritage, -, hmembers, -⟩ := interface_eq_ok.mp h
  rw [InterfaceDeclaration.offenders, hparameters, hheritage, offenders_of_members hmembers]
  cases hd : d.name with
  | identifier text line => rfl
  | other c =>
    rw [hd] at hname
    contradiction

theorem not_unsupported_of_add {new : Interface} {found : List Interface} :
    add new found ≠ .error (.unsupported u) := by
  rw [add_eq]
  split <;> simp

/-- An unsupported construct is the first offender of the first declaration that has one. -/
theorem isAbout_of_all {items : List ModuleItem}
    (h : all .keywordsOnly items = .error (.unsupported u)) :
    ∃ before d after o, items = before ++ .interface d :: after ∧
      (∀ e ∈ declarations before, e.offenders = []) ∧ d.offenders.head? = some o ∧
      u.IsAbout o ∧ u.interface = d.name.identifier? := by
  obtain ⟨before, item, after, found, rfl, hbefore, hitem⟩ := split_of_foldlM_eq_error h
  cases item with
  | other c => contradiction
  | interface d =>
    rcases bind_eq_error.mp hitem with hd | ⟨new, -, hadd⟩
    · obtain ⟨o, ho, habout, hinterface⟩ := isAbout_of_interface hd
      refine ⟨before, d, after, o, rfl, fun e he => ?_, ho, habout, hinterface⟩
      obtain ⟨new, hnew⟩ := exists_mapM_of_all hbefore
      obtain ⟨i, hi⟩ := exists_of_mapM_eq_ok hnew he
      exact offenders_of_interface hi
    · exact absurd hadd not_unsupported_of_add

/-- The first error of some items is their error, whatever follows them. Where nothing is wrong with
the items and those that follow, what is found in the items is found again in its place, with the
same line and with the same properties in front. -/
theorem all_append (r : Resolvers) (items more : List ModuleItem) :
    (∀ e, all r items = .error e → all r (items ++ more) = .error e) ∧
    (∀ found', all r (items ++ more) = .ok found' → ∃ found, all r items = .ok found ∧
      found.map (·.name) <+: found'.map (·.name) ∧
      ∀ i ∈ found, ∃ j, named i.name found' = some j ∧ j.line = i.line ∧
        i.properties <+: j.properties) ∧
    ∀ u, all .keywordsOnly items = .error (.unsupported u) → ∃ before d after o,
      items = before ++ .interface d :: after ∧ (∀ e ∈ declarations before, e.offenders = []) ∧
      d.offenders.head? = some o ∧ u.actual = o.kind ∧ u.line = some o.line ∧
      u.interface = d.name.identifier? := by
  refine ⟨fun e h => ?_, fun found' h => ?_, fun u h => ?_⟩
  · rw [all_append_eq, h]
    rfl
  · obtain ⟨found, hfound, hcontinues⟩ := continues_of_append h
    refine ⟨found, hfound, hcontinues.names, fun i hi => ?_⟩
    obtain ⟨j, hj, hwidens⟩ := hcontinues.exists_widens hi
    have hnamed := named_of_mem h hj
    rw [hwidens.name] at hnamed
    exact ⟨j, hnamed, hwidens.line, hwidens.properties⟩
  · obtain ⟨before, d, after, o, hsplit, hbefore, ho, ⟨hactual, hline⟩, hinterface⟩ := isAbout_of_all h
    exact ⟨before, d, after, o, hsplit, hbefore, ho, hactual, hline, hinterface⟩

/-- A declaration with type parameters and a method. -/
def generic : InterfaceDeclaration :=
  { name := .identifier "Box" 12, typeParameters := some ⟨"TypeParameters", "<T>", 12⟩
    members := [.other ⟨"MethodSignature", "get(): T", 13⟩], bodyLine := 12, line := 12 }

theorem all_append_interleaved :
    (∃ found, all .keywordsOnly (interleaved.take 1) = .ok found ∧
      ∀ i ∈ found, ∃ j, named i.name [user, post] = some j ∧ i.properties <+: j.properties) ∧
    ∀ more, ∃ u, all .keywordsOnly (interleaved ++ [.interface generic] ++ more) =
      .error (.unsupported u) ∧ u.interface = some "Box" ∧ u.line = some 12 := by
  have hall : all .keywordsOnly (interleaved.take 1 ++ interleaved.drop 1) = .ok [user, post] := rfl
  obtain ⟨-, hprefix, -⟩ := all_append .keywordsOnly (interleaved.take 1) (interleaved.drop 1)
  obtain ⟨found, hfound, -, hwidens⟩ := hprefix _ hall
  refine ⟨⟨found, hfound, fun i hi => ?_⟩, fun more => ?_⟩
  · obtain ⟨j, hj, -, hproperties⟩ := hwidens i hi
    exact ⟨j, hj, hproperties⟩
  · obtain ⟨herror, -, -⟩ := all_append .keywordsOnly (interleaved ++ [.interface generic]) more
    exact ⟨_, herror _ rfl, rfl, rfl⟩

end Extraction

end TypeGuards
