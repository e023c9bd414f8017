import TypeGuards.Proofs.Guard.Mentions
/-!
What the names in a module of guards refer to. All of them refer to what is meant, but for two: the type
that a guard tells of, where the name of the interface is a keyword, and the type of the record, where
an interface that is imported has its name.
-/
namespace TypeGuards

open Script TypeScript

/-! ### What the names are meant to refer to -/

/-- What the names in the guard of an interface are meant to refer to. -/
inductive Meant (specifier : String) (i : Interface) : Use → Referent → Prop
  | parameterType : Meant specifier i ⟨.parameterType, "unknown"⟩ (.primitive .unknown)
  | subject : Meant specifier i ⟨.subject, "value"⟩ .parameter
  | predicate : Meant specifier i ⟨.predicate, i.name⟩ (.imported i.name specifier)
  | value : Meant specifier i ⟨.operand, "value"⟩ .parameter
  | undefined : Meant specifier i ⟨.operand, "undefined"⟩ .ambient
  | record : Meant specifier i ⟨.operand, "record"⟩ .constant
  | cast : Meant specifier i ⟨.cast, "Record"⟩ .ambient
  | key : Meant specifier i ⟨.argument, "string"⟩ (.primitive .string)
  | element : Meant specifier i ⟨.argument, "unknown"⟩ (.primitive .unknown)

/-- All names in a text refer to what is meant. -/
def Hygienic (is : List Interface) (specifier text : String) : Prop :=
  ∃ m, Program.ofText text = some m ∧ ∀ u ∈ Program.mentions text, ∃ i ∈ is,
    guardName i.name = .ok u.head.name ∧ Meant specifier i u.toUse (m.referent u)

/-! ### The names that occur -/

/-- The names that occur in the guard of an interface, with the constants in force. -/
inductive Occurs (i : Interface) : Use → List String → Prop
  | parameterType : Occurs i ⟨.parameterType, "unknown"⟩ []
  | subject : Occurs i ⟨.subject, "value"⟩ []
  | predicate : Occurs i ⟨.predicate, i.name⟩ []
  | value : Occurs i ⟨.operand, "value"⟩ []
  | undefined {constants : List String} : "undefined" ∉ constants →
      Occurs i ⟨.operand, "undefined"⟩ constants
  | record : Occurs i ⟨.operand, "record"⟩ ["record"]
  | cast : i.properties ≠ [] → Occurs i ⟨.cast, "Record"⟩ []
  | key : Occurs i ⟨.argument, "string"⟩ []
  | element : Occurs i ⟨.argument, "unknown"⟩ []

theorem names_mismatch {value wrong : Expression} {kind : Option Primitive}
    (h : mismatch value kind = some wrong) : wrong.names = value.names := by
  unfold mismatch at h
  split at h
  · contradiction
  · obtain rfl := Option.some.inj h
    exact List.append_nil _
  · obtain ⟨tag, -, rfl⟩ := Option.map_eq_some_iff.mp h
    exact List.append_nil _

/-- The condition of a property names the record and the value undefined alone. -/
theorem names_fault {p : Property} {condition : Expression} (h : p.fault = some condition) :
    ∀ n ∈ condition.names, n = "record" ∨ n = "undefined" := by
  simp only [Property.fault] at h
  split at h
  case h_1 => contradiction
  case h_2 wrong _ hmismatch =>
    obtain rfl := Option.some.inj h
    have hnames := names_mismatch hmismatch
    simp [Expression.names, hnames, record]
  case h_3 =>
    obtain rfl := Option.some.inj h
    simp [Expression.names, record]
  case h_4 wrong _ hmismatch =>
    obtain rfl := Option.some.inj h
    have hnames := names_mismatch hmismatch
    simp [Expression.names, hnames, record]

section

variable {i : Interface} {g : Guard} {head : Head} {u : Mention}

theorem occurs_of_mem_checks (h : u ∈ Statement.mentions head [] i.checks) :
    Occurs i u.toUse u.constants ∧ u.head = head := by
  rw [checks_eq, Statement.mentions, Statement.mentions, List.mem_append, List.mem_append] at h
  rcases h with h | h | h
  · obtain ⟨v, hv, rfl⟩ := List.mem_map.mp h
    have hv : v = ⟨.operand, "value"⟩ ∨ v = ⟨.operand, "undefined"⟩ := by
      simpa [Statement.uses, Expression.uses, Expression.names, subject] using hv
    rcases hv with rfl | rfl
    · exact ⟨.value, rfl⟩
    · exact ⟨.undefined List.not_mem_nil, rfl⟩
  · obtain ⟨v, hv, rfl⟩ := List.mem_map.mp h
    have hv : v = ⟨.operand, "value"⟩ := by
      simpa [Statement.uses, Expression.uses, Expression.names, subject] using hv
    subst hv
    exact ⟨.value, rfl⟩
  · rw [Interface.tail, mentions_append, List.mem_append] at h
    by_cases hempty : i.properties = []
    · simp [hempty, faults, Statement.mentions, Statement.uses] at h
    · have hbind : i.properties.isEmpty = false := by simpa using hempty
      rw [hbind, if_neg Bool.false_ne_true] at h
      rcases h with h | h
      · rw [Statement.mentions, Statement.mentions, List.append_nil] at h
        obtain ⟨v, hv, rfl⟩ := List.mem_map.mp h
        simp only [Statement.uses, List.mem_cons, List.not_mem_nil, or_false] at hv
        rcases hv with rfl | rfl | rfl | rfl
        · exact ⟨.value, rfl⟩
        · exact ⟨.cast hempty, rfl⟩
        · exact ⟨.key, rfl⟩
        · exact ⟨.element, rfl⟩
      · have h : u ∈ Statement.mentions head ["record"] (faults i.properties) := h
        obtain ⟨c, hc, n, hn, rfl⟩ := mem_mentions_refusals h
        obtain ⟨p, -, hfault⟩ := List.mem_filterMap.mp hc
        rcases names_fault hfault n hn with rfl | rfl
        · exact ⟨.record, rfl⟩
        · exact ⟨.undefined (show "undefined" ∉ ["record"] by decide), rfl⟩

/-- Every mention in a guard is one that occurs there. -/
theorem occurs_of_mem (hguard : i.guard = .ok g) (h : u ∈ g.mentions) :
    Occurs i u.toUse u.constants ∧ u.head = g.head := by
  obtain ⟨-, hinterface, hbody⟩ := guard_eq_ok hguard
  rw [Guard.mentions, List.mem_append] at h
  rcases h with h | h
  · obtain ⟨v, hv, rfl⟩ := List.mem_map.mp h
    simp only [Guard.headUses, hinterface, List.mem_cons, List.not_mem_nil, or_false] at hv
    rcases hv with rfl | rfl | rfl
    · exact ⟨.parameterType, rfl⟩
    · exact ⟨.subject, rfl⟩
    · exact ⟨.predicate, rfl⟩
  · rw [hbody] at h
    exact occurs_of_mem_checks h

/-- A guard mentions the interface that it tells of. -/
theorem predicate_mem (hguard : i.guard = .ok g) :
    Use.mention g.head [] ⟨.predicate, i.name⟩ ∈ g.mentions := by
  rw [← (guard_eq_ok hguard).2.1]
  exact List.mem_append_left _ (by simp [Guard.headUses])

/-- A guard of properties mentions the type of the record. -/
theorem cast_mem (hguard : i.guard = .ok g) (h : i.properties ≠ []) :
    Use.mention g.head [] ⟨.cast, "Record"⟩ ∈ g.mentions := by
  have hbind : i.properties.isEmpty = false := by simpa using h
  refine List.mem_append_right _ ?_
  rw [(guard_eq_ok hguard).2.2, checks_eq, Interface.tail, hbind]
  simp [Statement.mentions, Statement.uses, Statement.declared]

/-! ### What they refer to -/

variable {is : List Interface} {specifier : String} {m : Program} {r : Referent}

theorem Occurs.properties_ne_nil {use : Use} {constants : List String} (h : Occurs i use constants)
    (hcast : use.role = .cast) : i.properties ≠ [] := by
  cases h with
  | cast hproperties => exact hproperties
  | parameterType | subject | predicate | value | undefined | record | key | element => contradiction

theorem meant_predicate_iff {name : String} : Meant specifier i ⟨.predicate, name⟩ r ↔
    name = i.name ∧ r = .imported name specifier := by
  constructor
  · intro h
    cases h
    exact ⟨rfl, rfl⟩
  · rintro ⟨rfl, rfl⟩
    exact .predicate

theorem meant_cast_iff : Meant specifier i ⟨.cast, "Record"⟩ r ↔ r = .ambient := by
  constructor
  · intro h
    cases h
    rfl
  · rintro rfl
    exact .cast

theorem meant_iff_of_eq {role : Role} {name : String} {r' : Referent} (hr : r = r')
    (hpredicate : role ≠ .predicate) (hcast : role ≠ .cast)
    (h : Meant specifier i ⟨role, name⟩ r') : Meant specifier i ⟨role, name⟩ r ↔
      (role = .predicate → IsTypeName i.name) ∧ (role = .cast → ∀ j ∈ is, j.name ≠ "Record") := by
  rw [hr]
  constructor
  · intro _
    exact ⟨fun h => absurd h hpredicate, fun h => absurd h hcast⟩
  · intro _
    exact h

/-- A name that occurs refers to what is meant, unless it is the type that is told of or the type of the
record. -/
theorem meant_iff (himport : m.imported = some { names := is.map (·.name), origin := specifier })
    (hundefined : "undefined" ∉ m.functions.map (·.name)) (hi : i ∈ is)
    (hparameter : u.head.parameter = "value") (h : Occurs i u.toUse u.constants) :
    Meant specifier i u.toUse (m.referent u) ↔
      (u.role = .predicate → IsTypeName i.name) ∧
        (u.role = .cast → ∀ j ∈ is, j.name ≠ "Record") := by
  obtain ⟨use, head, constants⟩ := u
  dsimp only at h hparameter
  have hunknown := typeReferent_primitive m .unknown
  have hstring := typeReferent_primitive m .string
  cases h with
  | parameterType => exact meant_iff_of_eq hunknown (by decide) (by decide) .parameterType
  | key => exact meant_iff_of_eq hstring (by decide) (by decide) .key
  | element => exact meant_iff_of_eq hunknown (by decide) (by decide) .element
  | subject =>
    have hr : m.referent ⟨⟨.subject, "value"⟩, head, []⟩ = .parameter :=
      valueReferent_parameter List.not_mem_nil hparameter.symm
    exact meant_iff_of_eq hr (by decide) (by decide) .subject
  | value =>
    have hr : m.referent ⟨⟨.operand, "value"⟩, head, []⟩ = .parameter :=
      valueReferent_parameter List.not_mem_nil hparameter.symm
    exact meant_iff_of_eq hr (by decide) (by decide) .value
  | undefined hconstants =>
    have hname : "undefined" ≠ head.parameter := by
      rw [hparameter]
      decide
    have hr : m.referent ⟨⟨.operand, "undefined"⟩, head, constants⟩ = .ambient :=
      valueReferent_ambient hconstants hname hundefined
    exact meant_iff_of_eq hr (by decide) (by decide) .undefined
  | record =>
    have hr : m.referent ⟨⟨.operand, "record"⟩, head, ["record"]⟩ = .constant :=
      valueReferent_constant List.mem_cons_self
    exact meant_iff_of_eq hr (by decide) (by decide) .record
  | predicate =>
    have hname : i.name ∈ is.map (·.name) := List.mem_map_of_mem hi
    have hr : m.referent ⟨⟨.predicate, i.name⟩, head, []⟩ = m.typeReferent i.name := rfl
    rw [meant_predicate_iff, hr, typeReferent_imported himport hname]
    simp
  | cast _ =>
    -- The name is free for a type, so only an import can take it.
    have hfree : IsTypeName "Record" := by decide
    have hr : m.referent ⟨⟨.cast, "Record"⟩, head, []⟩ = m.typeReferent "Record" := rfl
    rw [meant_cast_iff, hr, typeReferent_ambient hfree, himport]
    simp [eq_comm]

end

/-! ### Modules -/

/-- No guard takes the name of the undefined value. -/
theorem guardName_ne_undefined {interface name : String} (h : guardName interface = .ok name) :
    name ≠ "undefined" := by
  unfold guardName at h
  split at h
  · contradiction
  · obtain rfl := Except.ok.inj h
    intro heq
    have hchars := congrArg String.toList heq
    simp at hchars

section

variable {is : List Interface} {i : Interface} {g : Guard} {u : Mention} {specifier text : String}

/-- The names in the text are those in the guards of its interfaces. -/
theorem mem_mentions (hspelled : ∀ i ∈ is, i.IsSpelled) (hspecifier : IsPlainText specifier)
    (h : guardModule is specifier = .ok text) :
    u ∈ Program.mentions text ↔ ∃ i ∈ is, ∃ g, i.guard = .ok g ∧ u ∈ g.mentions := by
  obtain ⟨gs, hgs⟩ := guards_of_guardModule h
  have hguards : guards is = .ok gs := mapM_eq_ok.mpr hgs.each
  rw [hgs.written, mentions_moduleText hspelled hspecifier hguards, List.mem_flatMap]
  constructor
  · rintro ⟨g, hg, hu⟩
    obtain ⟨i, hi, hguard⟩ := exists_mem_of_mapM_eq_ok hguards hg
    exact ⟨i, hi, g, hguard, hu⟩
  · rintro ⟨i, hi, g, hguard, hu⟩
    exact ⟨g, mem_of_mapM_eq_ok hguards hi hguard, hu⟩

theorem exists_guard_of_mem (h : guardModule is specifier = .ok text) (hi : i ∈ is) :
    ∃ g, i.guard = .ok g := by
  obtain ⟨gs, hgs⟩ := guards_of_guardModule h
  exact exists_of_mapM_eq_ok (mapM_eq_ok.mpr hgs.each) hi

theorem name_of_mem (hguard : i.guard = .ok g) (hu : u ∈ g.mentions) :
    guardName i.name = .ok u.head.name := by
  rw [(occurs_of_mem hguard hu).2]
  exact (guard_eq_ok hguard).1

/-- The module is read, and in each guard a name refers to what is meant, unless it is the type that is
told of or the type of the record. -/
theorem exists_program (hspelled : ∀ i ∈ is, i.IsSpelled) (hspecifier : IsPlainText specifier)
    (h : guardModule is specifier = .ok text) : ∃ m, Program.ofText text = some m ∧
      ∀ i ∈ is, ∀ g, i.guard = .ok g → ∀ u ∈ g.mentions,
        (Meant specifier i u.toUse (m.referent u) ↔
          (u.role = .predicate → IsTypeName i.name) ∧
            (u.role = .cast → ∀ j ∈ is, j.name ≠ "Record")) := by
  obtain ⟨gs, hgs⟩ := guards_of_guardModule h
  have hguards : guards is = .ok gs := mapM_eq_ok.mpr hgs.each
  refine ⟨_, hgs.read hspelled hspecifier, fun i hi g hguard u hu => ?_⟩
  have hsome : is.isEmpty = false := by simpa using List.ne_nil_of_mem hi
  obtain ⟨hoccurs, hhead⟩ := occurs_of_mem hguard hu
  apply meant_iff _ _ hi (by rw [hhead]; rfl) hoccurs
  · simp [moduleProgram, hsome]
  · intro hmem
    obtain ⟨f, hf, hname⟩ := List.mem_map.mp hmem
    obtain ⟨g', hg', rfl⟩ := List.mem_map.mp hf
    obtain ⟨j, -, hguard'⟩ := exists_mem_of_mapM_eq_ok hguards hg'
    exact guardName_ne_undefined (guard_eq_ok hguard').1 hname

/-- Names go astray in two ways: an interface has a name that can name no type, or it hides the type
of the record where that is used. -/
theorem hygienic_iff (hspelled : ∀ i ∈ is, i.IsSpelled) (hspecifier : IsPlainText specifier)
    (h : guardModule is specifier = .ok text) : Hygienic is specifier text ↔
      (∀ i ∈ is, IsTypeName i.name) ∧
        ((∃ i ∈ is, i.properties ≠ []) → ∀ j ∈ is, j.name ≠ "Record") := by
  obtain ⟨m, hm, hiff⟩ := exists_program hspelled hspecifier h
  constructor
  · rintro ⟨m', hm', hall⟩
    obtain rfl := Option.some.inj (hm.symm.trans hm')
    constructor
    · intro i hi
      obtain ⟨g, hguard⟩ := exists_guard_of_mem h hi
      have hmem := predicate_mem hguard
      obtain ⟨j, hj, -, hmeant⟩ := hall _ ((mem_mentions hspelled hspecifier h).mpr
        ⟨i, hi, g, hguard, hmem⟩)
      have himported := (meant_predicate_iff.mp hmeant).2
      exact ((hiff i hi g hguard _ hmem).mp (meant_predicate_iff.mpr ⟨rfl, himported⟩)).1 rfl
    · rintro ⟨i, hi, hproperties⟩
      obtain ⟨g, hguard⟩ := exists_guard_of_mem h hi
      have hmem := cast_mem hguard hproperties
      obtain ⟨j, hj, -, hmeant⟩ := hall _ ((mem_mentions hspelled hspecifier h).mpr
        ⟨i, hi, g, hguard, hmem⟩)
      have hambient := meant_cast_iff.mp hmeant
      exact ((hiff i hi g hguard _ hmem).mp (meant_cast_iff.mpr hambient)).2 rfl
  · rintro ⟨hnames, hrecord⟩
    refine ⟨m, hm, fun u hu => ?_⟩
    obtain ⟨i, hi, g, hguard, hmem⟩ := (mem_mentions hspelled hspecifier h).mp hu
    have hoccurs := (occurs_of_mem hguard hmem).1
    exact ⟨i, hi, name_of_mem hguard hmem, (hiff i hi g hguard u hmem).mpr
      ⟨fun _ => hnames i hi, fun hcast => hrecord ⟨i, hi, hoccurs.properties_ne_nil hcast⟩⟩⟩

/-- Each name in a module refers to what is meant, but for the type that a guard tells of, where the
name of the interface is a keyword, and the type of the record, where an interface has its name. So a
module is hygienic if and only if no interface is named by a keyword and none, if a guard makes a
record of the value, by the type of that record. -/
theorem guardModule_hygienic (hspelled : ∀ i ∈ is, i.IsSpelled) (hspecifier : IsPlainText specifier)
    (h : guardModule is specifier = .ok text) : ∃ m, Program.ofText text = some m ∧
      (∀ u ∈ Program.mentions text, ∃ i ∈ is, guardName i.name = .ok u.head.name ∧
        (Meant specifier i u.toUse (m.referent u) ↔
          (u.role = .predicate → IsTypeName i.name) ∧
            (u.role = .cast → ∀ j ∈ is, j.name ≠ "Record"))) ∧
      (∀ i ∈ is, ∃ u ∈ Program.mentions text, guardName i.name = .ok u.head.name ∧
        u.toUse = ⟨.predicate, i.name⟩) ∧
      (∀ i ∈ is, i.properties ≠ [] → ∃ u ∈ Program.mentions text,
        guardName i.name = .ok u.head.name ∧ u.toUse = ⟨.cast, "Record"⟩) ∧
      (Hygienic is specifier text ↔ (∀ i ∈ is, IsTypeName i.name) ∧
        ((∃ i ∈ is, i.properties ≠ []) → ∀ j ∈ is, j.name ≠ "Record")) := by
  obtain ⟨m, hm, hiff⟩ := exists_program hspelled hspecifier h
  have hmem : ∀ {u}, u ∈ Program.mentions text ↔ ∃ i ∈ is, ∃ g, i.guard = .ok g ∧ u ∈ g.mentions :=
    mem_mentions hspelled hspecifier h
  refine ⟨m, hm, fun u hu => ?_, fun i hi => ?_, fun i hi hproperties => ?_,
    hygienic_iff hspelled hspecifier h⟩
  · obtain ⟨i, hi, g, hguard, hu⟩ := hmem.mp hu
    exact ⟨i, hi, name_of_mem hguard hu, hiff i hi g hguard u hu⟩
  · obtain ⟨g, hguard⟩ := exists_guard_of_mem h hi
    have hu := predicate_mem hguard
    exact ⟨_, hmem.mpr ⟨i, hi, g, hguard, hu⟩, name_of_mem hguard hu, rfl⟩
  · obtain ⟨g, hguard⟩ := exists_guard_of_mem h hi
    have hu := cast_mem hguard hproperties
    exact ⟨_, hmem.mpr ⟨i, hi, g, hguard, hu⟩, name_of_mem hguard hu, rfl⟩

/-- Names that are taken for values alone hide no type, and the other way round. -/
def shadows : List Interface :=
  [account, { name := "value" }, { name := "record" }, { name := "isAccount" }]

theorem guardModule_hygienic_shadows : (∀ i ∈ shadows, i.IsSpelled) ∧ IsPlainText "./names.ts" ∧
    ∃ text, guardModule shadows "./names.ts" = .ok text ∧ Hygienic shadows "./names.ts" text := by
  have hspelled : ∀ i ∈ shadows, i.IsSpelled := by
    unfold Interface.IsSpelled
    decide
  have hdistinct : Distinct shadows := checkGuardNames_eq_ok.mp (by decide +kernel)
  obtain ⟨gs, hguards⟩ := exists_guards hdistinct
  have hmodule : guardModule shadows "./names.ts" = .ok _ := guardModule_of_guards hdistinct hguards
  obtain ⟨m, -, -, -, -, hiff⟩ := guardModule_hygienic hspelled (by decide) hmodule
  exact ⟨hspelled, by decide, _, hmodule, hiff.mpr ⟨by decide, fun _ => by decide⟩⟩

def recording : Interface := { name := "Record", properties := [{ name := "a", kind := some .string }] }

theorem guardModule_captures : (∀ i ∈ [recording], i.IsSpelled) ∧ IsPlainText "./m.ts" ∧
    ∃ text, guardModule [recording] "./m.ts" = .ok text ∧ ¬Hygienic [recording] "./m.ts" text ∧
      ∃ m u, Program.ofText text = some m ∧ u ∈ Program.mentions text ∧
        u.toUse = ⟨.cast, "Record"⟩ ∧ m.referent u = .imported "Record" "./m.ts" := by
  have hspelled : ∀ i ∈ [recording], i.IsSpelled := by
    unfold Interface.IsSpelled
    decide
  have hspecifier : IsPlainText "./m.ts" := by decide
  have hdistinct : Distinct [recording] := checkGuardNames_eq_ok.mp (by decide +kernel)
  obtain ⟨gs, hguards⟩ := exists_guards hdistinct
  have hmodule : guardModule [recording] "./m.ts" = .ok _ := guardModule_of_guards hdistinct hguards
  obtain ⟨g, hguard⟩ := exists_guard_of_mem hmodule List.mem_cons_self
  have hcast := cast_mem hguard (by decide)
  refine ⟨hspelled, hspecifier, _, hmodule, ?_, _, _,
    ofText_moduleText hspelled hspecifier hguards, (mem_mentions hspelled hspecifier hmodule).mpr
      ⟨_, List.mem_cons_self, g, hguard, hcast⟩, rfl, ?_⟩
  · rw [hygienic_iff hspelled hspecifier hmodule]
    decide
  · have himport : (moduleProgram [recording] "./m.ts" gs).imported =
        some { names := ["Record"], origin := "./m.ts" } := rfl
    exact (typeReferent_imported himport List.mem_cons_self).mpr (by decide)

end

end TypeGuards
