import TypeGuards.Proofs.Extraction
import TypeGuards.Proofs.Guard.Decision
/-!
Guards of interfaces with several declarations. Such a guard accepts what the guards of the single
declarations all accept: merging neither drops a property nor changes what is asked of it.
-/
namespace TypeGuards

open Script Extraction

/-- The guard, run as the function it is, gives true. -/
def Interface.Passes (i : Interface) (realm : Realm) (v : Value) : Prop :=
  ∃ g, i.guard = .ok g ∧ g.function.call realm v = .ok (.boolean true)

/-- The text of the guard, read and run, gives true. -/
def Interface.Accepts (i : Interface) (realm : Realm) (v : Value) : Prop :=
  ∃ g f, i.guard = .ok g ∧ Function.ofText g.render = some f ∧ f.call realm v = .ok (.boolean true)

theorem guard_of_name_ne {i : Interface} (h : i.name ≠ "") :
    ∃ g, i.guard = .ok g ∧ g.body = i.checks := by
  have hname : ∃ name, guardName i.name = .ok name := by
    unfold guardName
    split
    next hnil => exact absurd (String.toList_eq_nil_iff.mp hnil) h
    next => exact ⟨_, rfl⟩
  obtain ⟨name, hname⟩ := hname
  exact ⟨⟨name, i.name, i.checks⟩, by rw [Interface.guard, hname]; rfl, rfl⟩

/-- A call gives true for the values described and for no others. -/
theorem call_eq_true_iff {i : Interface} {g : Guard} (h : g.body = i.checks) (realm : Realm)
    (v : Value) : g.function.call realm v = .ok (.boolean true) ↔ i.Describes v := by
  obtain ⟨b, hcall, hb⟩ := call_function h realm v
  rw [hcall, ← hb]
  simp

/-- The guard as a function tells the type of the interface. -/
theorem passes_iff {i : Interface} (h : i.name ≠ "") (realm : Realm) (v : Value) :
    i.Passes realm v ↔ i.Describes v := by
  obtain ⟨g, hguard, hbody⟩ := guard_of_name_ne h
  rw [← call_eq_true_iff hbody realm v]
  constructor
  · rintro ⟨g', hguard', hcall⟩
    obtain rfl : g = g' := Except.ok.inj (hguard.symm.trans hguard')
    exact hcall
  · exact fun hcall => ⟨g, hguard, hcall⟩

/-- The guard as a text, read back, tells the type of the interface. -/
theorem accepts_iff {i : Interface} (hname : IsIdentifier i.name)
    (hproperties : ∀ p ∈ i.properties, IsIdentifier p.name) (realm : Realm) (v : Value) :
    i.Accepts realm v ↔ i.Describes v := by
  obtain ⟨g, hguard, hbody, htext⟩ := exists_guard hname hproperties
  rw [← call_eq_true_iff hbody realm v]
  constructor
  · rintro ⟨g', f, hguard', htext', hcall⟩
    obtain rfl : g = g' := Except.ok.inj (hguard.symm.trans hguard')
    obtain rfl : g.function = f := Option.some.inj (htext.symm.trans htext')
    exact hcall
  · exact fun hcall => ⟨g, g.function, hguard, htext, hcall⟩

/-- To have all properties is to have those of each declaration. -/
theorem describes_iff_forall {i : Interface} {is : List Interface} (hne : is ≠ [])
    (h : ∀ p, p ∈ i.properties ↔ ∃ j ∈ is, p ∈ j.properties) (v : Value) :
    i.Describes v ↔ ∀ j ∈ is, j.Describes v := by
  constructor
  · rintro ⟨identity, properties, rfl, hall⟩ j hj
    exact ⟨identity, properties, rfl, fun p hp => hall p ((h p).mpr ⟨j, hj, hp⟩)⟩
  · intro hall
    obtain ⟨j, hj⟩ := List.exists_mem_of_ne_nil is hne
    obtain ⟨identity, properties, rfl, -⟩ := hall j hj
    refine ⟨identity, properties, rfl, fun p hp => ?_⟩
    obtain ⟨k, hk, hpk⟩ := (h p).mp hp
    obtain ⟨_, _, heq, hholds⟩ := hall k hk
    obtain ⟨-, rfl⟩ := Value.object.inj heq
    exact hholds p hpk

/-- The properties of an interface are those of its declarations taken one by one. -/
theorem exists_parts {r : Resolvers} {items : List ModuleItem} {found : List Interface}
    (h : all r items = .ok found) {i : Interface} (hi : i ∈ found) :
    ∃ is, (declarationsOf i.name items).mapM (interface r) = .ok is ∧ is ≠ [] ∧
      (∀ j ∈ is, j.name = i.name) ∧ ∀ p, p ∈ i.properties ↔ ∃ j ∈ is, p ∈ j.properties := by
  obtain ⟨new, hnew⟩ := exists_mapM_of_all h
  refine ⟨new.filter (·.name = i.name), mapM_declarationsOf hnew i.name, ?_,
    fun j hj => name_of_mem_filter hj, fun p => ?_⟩
  · obtain ⟨first, later, -, hfilter, -⟩ := exists_declarations hnew h hi
    rw [hfilter]
    exact List.cons_ne_nil first later
  · rw [mem_properties_iff h hi, stated_eq hnew, List.mem_flatMap]

/-- A value passes the guard of an interface if and only if it passes the guards of all its
declarations; where names are identifiers, this is what the texts of the guards decide. -/
theorem guard_conjunction (r : Resolvers) (items : List ModuleItem) (found : List Interface)
    (h : all r items = .ok found) (name : String) (hname : name ∈ declaredNames items) :
    ∃ i, named name found = some i ∧
      (∀ realm v, i.Passes realm v ↔
        ∀ d ∈ declarationsOf name items, ∃ j, interface r d = .ok j ∧ j.Passes realm v) ∧
      (IsIdentifier name → (∀ p ∈ stated r name items, IsIdentifier p.name) →
        ∀ realm v, i.Accepts realm v ↔
          ∀ d ∈ declarationsOf name items, ∃ j, interface r d = .ok j ∧ j.Accepts realm v) := by
  obtain ⟨i, hi, rfl, hnamed⟩ := exists_named h hname
  obtain ⟨is, hparts, hne, hnames, hproperties⟩ := exists_parts h hi
  refine ⟨i, hnamed, fun realm v => ?_, fun hidentifier hidentifiers realm v => ?_⟩
  · have hnonempty : ∀ j ∈ is, j.name ≠ "" := by
      intro j hj
      obtain ⟨d, -, hd⟩ := exists_mem_of_mapM_eq_ok hparts hj
      exact (interface_eq_ok.mp hd).2.2.2.1
    obtain ⟨j, hj⟩ := List.exists_mem_of_ne_nil is hne
    have hself : i.name ≠ "" := by
      rw [← hnames j hj]
      exact hnonempty j hj
    rw [passes_iff hself, describes_iff_forall hne hproperties,
      forall_mapM_iff hparts fun k => k.Passes realm v]
    exact forall₂_congr fun k hk => (passes_iff (hnonempty k hk) realm v).symm
  · have hself : ∀ p ∈ i.properties, IsIdentifier p.name := fun p hp =>
      hidentifiers p ((mem_properties_iff h hi).mp hp)
    have hpart : ∀ j ∈ is, ∀ p ∈ j.properties, IsIdentifier p.name := fun j hj p hp =>
      hself p ((hproperties p).mpr ⟨j, hj, hp⟩)
    rw [accepts_iff hidentifier hself, describes_iff_forall hne hproperties,
      forall_mapM_iff hparts fun k => k.Accepts realm v]
    refine forall₂_congr fun k hk => (accepts_iff ?_ (hpart k hk) realm v).symm
    rwa [hnames k hk]

theorem guard_conjunction_interleaved :
    all .keywordsOnly interleaved = .ok [user, post] ∧ "User" ∈ declaredNames interleaved ∧
      ∀ realm v, user.Accepts realm v ↔ ∀ d ∈ declarationsOf "User" interleaved,
        ∃ j, interface .keywordsOnly d = .ok j ∧ j.Accepts realm v := by
  have hall : all .keywordsOnly interleaved = .ok [user, post] := by rfl
  have hname : "User" ∈ declaredNames interleaved := by decide
  have hidentifiers : ∀ p ∈ stated .keywordsOnly "User" interleaved, IsIdentifier p.name := by decide
  obtain ⟨i, hnamed, -, htext⟩ := guard_conjunction .keywordsOnly interleaved _ hall "User" hname
  obtain rfl : user = i := Option.some.inj hnamed
  exact ⟨hall, hname, htext (by decide) hidentifiers⟩

end TypeGuards
