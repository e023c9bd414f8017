import TypeGuards.Proofs.Guard.Name
import TypeGuards.Proofs.Guard.Reading
import TypeGuards.Proofs.Script.Evaluation
/-!
What guards decide. A guard gives true for the objects that have the properties of the interface,
each of its type as far as that shows at run time, and false for every other value; it never throws.
This is said of the text of the guard, read and run as a function of the language.
-/
namespace TypeGuards

open Script

/-- Whether a value is of a type, as far as that shows at run time. -/
def Primitive.Describes : Primitive → Value → Prop
  | string, v => ∃ s, v = .string s
  | number, v => ∃ x, v = .number x
  | boolean, v => ∃ b, v = .boolean b
  | bigint, v => ∃ n, v = .bigint n
  | symbol, v => ∃ identity, v = .symbol identity
  | undefined, v => v = .undefined
  | null, v => v = .null
  | void, _ | any, _ | unknown, _ | never, _ | object, _ => True

/-- Whether an object has a property as declared, given what it has under each key. -/
def Property.Holds (p : Property) (properties : Units → Option Value) : Prop :=
  (p.optional = false → (properties (units p.name)).isSome = true) ∧
    ∀ k ∈ p.kind, k.Describes ((properties (units p.name)).getD .undefined) ∨
      p.optional = true ∧ (properties (units p.name)).getD .undefined = .undefined

/-- Whether a value is of the type of an interface, as far as that shows at run time. -/
def Interface.Describes (i : Interface) (v : Value) : Prop :=
  ∃ identity properties, v = .object identity properties ∧ ∀ p ∈ i.properties, p.Holds properties

/-! ### Conditions -/

def typeTags : List String :=
  ["undefined", "object", "boolean", "number", "bigint", "string", "symbol", "function"]

theorem typeTag_mem (v : Value) : v.typeTag ∈ typeTags := by
  cases v <;> simp [Value.typeTag, typeTags]

theorem units_inj_of_mem : ∀ a ∈ typeTags, ∀ b ∈ typeTags, units a = units b → a = b := by decide

theorem units_typeTag_iff (v : Value) {tag : String} (htag : tag ∈ typeTags) :
    units v.typeTag = units tag ↔ v.typeTag = tag := by
  constructor
  · exact units_inj_of_mem _ (typeTag_mem v) _ htag
  · exact congrArg units

/-- Values of a type with a tag are the values that have the tag. -/
theorem typeTag_eq_iff (v : Value) {k : Primitive} {tag : String} (htag : k.tag? = some tag) :
    tag ∈ typeTags ∧ (v.typeTag = tag ↔ k.Describes v) := by
  cases k with
  | string | number | boolean | bigint | symbol | undefined =>
    obtain rfl := Option.some.inj htag
    refine ⟨by decide, ?_⟩
    cases v <;> simp [Value.typeTag, Primitive.Describes]
  | null | void | any | unknown | never | object => exact absurd htag (by simp [Primitive.tag?])

theorem tagOf_ok (e : Expr) (v : Value) : tagOf e (.ok v) = .ok (.string (units v.typeTag)) := by
  cases e <;> rfl

section

variable {realm : Realm} {scope : Scope}

theorem eval_differ {a b : Expr} {v w : Value} (ha : a.eval realm scope = .ok v)
    (hb : b.eval realm scope = .ok w) :
    (Expr.differ a b).eval realm scope = .ok (.boolean !(v.same w)) := by
  rw [Expr.eval, ha, hb]
  rfl

theorem eval_typeOf {e : Expr} {v : Value} (h : e.eval realm scope = .ok v) :
    (Expr.typeOf e).eval realm scope = .ok (.string (units v.typeTag)) := by
  rw [Expr.eval, h, tagOf_ok]

theorem same_null_iff (v : Value) : v.same .null = true ↔ v = .null := by
  cases v <;> simp [Value.same]

theorem same_undefined_iff (v : Value) : v.same .undefined = true ↔ v = .undefined := by
  cases v <;> simp [Value.same]

/-- Where the type of a property does not show, every value is of it. -/
theorem describes_of_mismatch {value : Expression} {kind : Option Primitive}
    (h : mismatch value kind = none) (v : Value) : ∀ k ∈ kind, k.Describes v := by
  rintro k rfl
  cases k with
  | void | any | unknown | never | object => trivial
  | string | number | boolean | bigint | symbol | undefined | null =>
    exact absurd h (by simp [mismatch, Primitive.tag?])

/-- The check of a type is true of the values that are not of it, and throws for none. -/
theorem eval_mismatch {value wrong : Expression} {kind : Option Primitive} {v : Value}
    (h : mismatch value kind = some wrong) (hvalue : value.script.eval realm scope = .ok v) :
    ∃ b, wrong.script.eval realm scope = .ok (.boolean b) ∧
      (b = true ↔ ¬ ∀ k ∈ kind, k.Describes v) := by
  cases kind with
  | none => exact absurd h (by simp [mismatch])
  | some k =>
    simp only [Option.mem_def, Option.some.injEq, forall_eq']
    by_cases hnull : k = .null
    · subst hnull
      obtain rfl := Option.some.inj h
      refine ⟨_, eval_differ hvalue rfl, ?_⟩
      rw [Bool.not_eq_true', ← Bool.not_eq_true, same_null_iff]
      rfl
    · have htag : k.tag?.map (fun tag => Expression.differ (.typeOf value) (.text tag)) =
          some wrong := by
        cases k <;> first | exact h | exact absurd rfl hnull
      obtain ⟨tag, hk, rfl⟩ := Option.map_eq_some_iff.mp htag
      obtain ⟨hmem, hiff⟩ := typeTag_eq_iff v hk
      refine ⟨_, eval_differ (eval_typeOf hvalue) rfl, ?_⟩
      rw [Bool.not_eq_true', ← Bool.not_eq_true, ← hiff, ← units_typeTag_iff v hmem]
      simp [Value.same]

/-! ### Properties -/

theorem eval_record (realm : Realm) {v : Value} (h : scope.lookup "record" = some v) :
    record.script.eval realm scope = .ok v := by
  have hvalue : scope.value "record" = .ok v := by rw [Scope.value, h]
  exact hvalue

theorem eval_undefined (realm : Realm) (h : scope.lookup "undefined" = none) :
    Expression.undefined.script.eval realm scope = .ok .undefined := by
  have hvalue : scope.value "undefined" = .ok .undefined := by rw [Scope.value, h]; rfl
  exact hvalue

theorem eval_member (realm : Realm) {identity : Nat} {properties : Units → Option Value}
    (hrecord : scope.lookup "record" = some (.object identity properties)) (key : String) :
    (Expression.member record key).script.eval realm scope =
      .ok ((properties (units key)).getD .undefined) := by
  rw [Expression.script, Expr.eval, eval_record realm hrecord]
  rfl

/-- A key is absent from an object that has nothing under it. -/
theorem eval_absent (realm : Realm) {identity : Nat} {properties : Units → Option Value}
    (hrecord : scope.lookup "record" = some (.object identity properties)) (key : String) :
    (Expression.not (.isIn key record)).script.eval realm scope =
      .ok (.boolean !(properties (units key)).isSome) := by
  rw [Expression.script, Expression.script, Expr.eval, Expr.eval, eval_record realm hrecord]
  rfl

theorem eval_both {a b : Expr} {p q : Bool} (ha : a.eval realm scope = .ok (.boolean p))
    (hb : b.eval realm scope = .ok (.boolean q)) :
    (Expr.both a b).eval realm scope = .ok (.boolean (p && q)) := by
  rw [Expr.eval, ha, hb]
  cases p <;> rfl

theorem eval_either {a b : Expr} {p q : Bool} (ha : a.eval realm scope = .ok (.boolean p))
    (hb : b.eval realm scope = .ok (.boolean q)) :
    (Expr.either a b).eval realm scope = .ok (.boolean (p || q)) := by
  rw [Expr.eval, ha, hb]
  cases p <;> rfl

/-- A property that is never at fault asks for nothing. -/
theorem holds_of_fault_none {p : Property} (h : p.fault = none) (properties : Units → Option Value) :
    p.Holds properties := by
  simp only [Property.fault] at h
  split at h
  case h_1 hoptional hmismatch =>
    refine ⟨fun hrequired => ?_, fun k hk => Or.inl (describes_of_mismatch hmismatch _ k hk)⟩
    rw [hoptional] at hrequired
    exact absurd hrequired (by decide)
  all_goals exact absurd h (by simp)

/-- The condition of a property holds for the objects that do not have the property as declared. -/
theorem eval_fault (realm : Realm) {p : Property} {condition : Expression}
    (h : p.fault = some condition) {identity : Nat} {properties : Units → Option Value}
    (hrecord : scope.lookup "record" = some (.object identity properties))
    (hundefined : scope.lookup "undefined" = none) :
    ∃ b, condition.script.eval realm scope = .ok (.boolean b) ∧
      (b = true ↔ ¬ p.Holds properties) := by
  have hvalue := eval_member realm hrecord p.name
  have habsent := eval_absent realm hrecord p.name
  simp only [Property.fault] at h
  split at h
  case h_1 => exact absurd h (by simp)
  case h_2 wrong hoptional hmismatch =>
    obtain rfl := Option.some.inj h
    obtain ⟨b, hwrong, hb⟩ := eval_mismatch hmismatch hvalue
    have hdiffer := eval_differ hvalue (eval_undefined realm hundefined)
    refine ⟨_, eval_both hdiffer hwrong, ?_⟩
    rw [Bool.and_eq_true, hb, Bool.not_eq_true', ← Bool.not_eq_true, same_undefined_iff]
    simp only [Property.Holds, hoptional, true_and, reduceCtorEq, false_imp_iff]
    cases p.kind <;> simp [and_comm]
  case h_3 hoptional hmismatch =>
    obtain rfl := Option.some.inj h
    refine ⟨_, habsent, ?_⟩
    have hkind := describes_of_mismatch hmismatch ((properties (units p.name)).getD .undefined)
    rw [Bool.not_eq_true', ← Bool.not_eq_true]
    simp only [Property.Holds, hoptional, true_imp_iff, reduceCtorEq, false_and, or_false]
    exact not_congr ⟨fun hsome => ⟨hsome, hkind⟩, And.left⟩
  case h_4 wrong hoptional hmismatch =>
    obtain rfl := Option.some.inj h
    obtain ⟨b, hwrong, hb⟩ := eval_mismatch hmismatch hvalue
    refine ⟨_, eval_either habsent hwrong, ?_⟩
    rw [Bool.or_eq_true, hb, Bool.not_eq_true', ← Bool.not_eq_true]
    simp only [Property.Holds, hoptional, true_imp_iff, reduceCtorEq, false_and, or_false]
    exact Decidable.not_and_iff_not_or_not.symm

/-! ### Bodies -/

/-- A condition that holds ends the function, one that does not leaves everything as it is. -/
theorem execAll_refuseIf {condition : Expression} {b : Bool}
    (h : condition.script.eval realm scope = .ok (.boolean b)) (rest : List Stmt) :
    Stmt.execAll realm scope ((Statement.refuseIf condition).script :: rest) =
      if b then .ok (.returned (.boolean false)) else Stmt.execAll realm scope rest := by
  rw [Stmt.execAll, Statement.script, Stmt.exec, h]
  cases b <;> rfl

theorem execAll_bindRecord (realm : Realm) {v : Value} (h : scope.value "value" = .ok v)
    (rest : List Stmt) :
    Stmt.execAll realm scope (Statement.bindRecord.script :: rest) =
      Stmt.execAll realm (("record", v) :: scope) rest := by
  rw [Stmt.execAll, Statement.script, Stmt.exec, Expr.eval, h]
  rfl

def faults (properties : List Property) : List Statement :=
  (properties.filterMap Property.fault).map .refuseIf ++ [.accept]

theorem faults_cons (p : Property) (rest : List Property) :
    faults (p :: rest) = (p.fault.map Statement.refuseIf).toList ++ faults rest := by
  cases hfault : p.fault <;> simp [faults, hfault]

/-- The checks refuse an object unless all properties hold, and then go on. -/
theorem execAll_faults (realm : Realm) (ps : List Property) {identity : Nat}
    {properties : Units → Option Value}
    (hrecord : scope.lookup "record" = some (.object identity properties))
    (hundefined : scope.lookup "undefined" = none) :
    ∃ b, Stmt.execAll realm scope ((faults ps).map Statement.script) =
        .ok (.returned (.boolean b)) ∧ (b = true ↔ ∀ p ∈ ps, p.Holds properties) := by
  induction ps with
  | nil => exact ⟨true, rfl, by simp⟩
  | cons p ps ih =>
    obtain ⟨b, hrest, hb⟩ := ih
    rw [faults_cons]
    cases hfault : p.fault with
    | none =>
      have hp : p.Holds properties := holds_of_fault_none hfault properties
      exact ⟨b, hrest, by rw [hb, List.forall_mem_cons, and_iff_right hp]⟩
    | some condition =>
      obtain ⟨wrong, hcondition, hwrong⟩ := eval_fault realm hfault hrecord hundefined
      have hexec := execAll_refuseIf hcondition ((faults ps).map Statement.script)
      cases wrong with
      | true =>
        have hp : ¬ p.Holds properties := hwrong.mp rfl
        exact ⟨false, hexec, by simp [hp]⟩
      | false =>
        have hp : p.Holds properties :=
          Classical.not_not.mp fun hp => absurd (hwrong.mpr hp) (by decide)
        exact ⟨b, hexec.trans hrest, by rw [hb, List.forall_mem_cons, and_iff_right hp]⟩

end

def Interface.tail (i : Interface) : List Statement :=
  (if i.properties.isEmpty then [] else [.bindRecord]) ++ faults i.properties

theorem checks_eq (i : Interface) :
    i.checks =
      .refuseIf (.or (.equal subject .null) (.equal subject .undefined)) ::
        .refuseIf (.differ (.typeOf subject) (.text "object")) :: i.tail := by
  simp [Interface.checks, Interface.tail, faults]

/-- What follows the tests for an object decides on its properties. -/
theorem execAll_tail (i : Interface) (realm : Realm) (identity : Nat)
    (properties : Units → Option Value) :
    ∃ b, Stmt.execAll realm [("value", .object identity properties)] (i.tail.map Statement.script) =
        .ok (.returned (.boolean b)) ∧ (b = true ↔ ∀ p ∈ i.properties, p.Holds properties) := by
  unfold Interface.tail
  cases hproperties : i.properties with
  | nil => exact ⟨true, rfl, by simp⟩
  | cons p ps =>
    have hvalue : Scope.value [("value", .object identity properties)] "value" =
        .ok (.object identity properties) := rfl
    have hbind := execAll_bindRecord realm hvalue ((faults (p :: ps)).map Statement.script)
    obtain ⟨b, hfaults, hb⟩ : ∃ b, Stmt.execAll realm
        [("record", .object identity properties), ("value", .object identity properties)]
        ((faults (p :: ps)).map Statement.script) = .ok (.returned (.boolean b)) ∧
          (b = true ↔ ∀ q ∈ p :: ps, q.Holds properties) := execAll_faults realm (p :: ps) rfl rfl
    exact ⟨b, hbind.trans hfaults, hb⟩

/-- The two tests before the properties tell objects from everything else. -/
theorem execAll_checks (i : Interface) (realm : Realm) (v : Value) :
    ∃ b, Stmt.execAll realm [("value", v)] (i.checks.map Statement.script) =
        .ok (.returned (.boolean b)) ∧ (b = true ↔ i.Describes v) := by
  have hsubject : subject.script.eval realm [("value", v)] = .ok v := rfl
  have hempty : (Expression.or (.equal subject .null) (.equal subject .undefined)).script.eval realm
      [("value", v)] = .ok (.boolean (v.same .null || v.same .undefined)) :=
    eval_either rfl rfl
  have htag : (Expression.differ (.typeOf subject) (.text "object")).script.eval realm
      [("value", v)] = .ok (.boolean !decide (v.typeTag = "object")) := by
    have hdiffer := eval_differ (b := .text "object") (eval_typeOf hsubject) rfl
    have hsame : (Value.string (units v.typeTag)).same (.string (units "object")) =
        decide (v.typeTag = "object") := decide_eq_decide.mpr (units_typeTag_iff v (by decide))
    rw [hsame] at hdiffer
    exact hdiffer
  rw [checks_eq, List.map_cons, execAll_refuseIf hempty, List.map_cons, execAll_refuseIf htag]
  cases v with
  | object identity properties =>
    obtain ⟨b, htail, hb⟩ := execAll_tail i realm identity properties
    refine ⟨b, htail, ?_⟩
    rw [hb]
    constructor
    · intro hall
      exact ⟨identity, properties, rfl, hall⟩
    · rintro ⟨_, _, heq, hall⟩
      obtain ⟨-, rfl⟩ := Value.object.inj heq
      exact hall
  | undefined | null | boolean | number | bigint | string | symbol | function =>
    exact ⟨false, rfl, by simp [Interface.Describes]⟩

/-! ### Guards -/

theorem isPlain_record : record.IsPlain := by decide

theorem isPlainText_of_mem_typeTags : ∀ tag ∈ typeTags, IsPlainText tag := by decide

theorem isPlain_mismatch {value wrong : Expression} {kind : Option Primitive}
    (h : mismatch value kind = some wrong) (hvalue : value.IsPlain) (hlevel : 6 ≤ value.level) :
    wrong.IsPlain ∧ wrong.level = 3 := by
  unfold mismatch at h
  split at h
  · exact absurd h (by simp)
  · obtain rfl := Option.some.inj h
    exact ⟨⟨hvalue, trivial, by omega, by simp [Expression.level]⟩, rfl⟩
  · obtain ⟨tag, htag, rfl⟩ := Option.map_eq_some_iff.mp h
    have htext := isPlainText_of_mem_typeTags tag (typeTag_eq_iff .null htag).1
    refine ⟨⟨⟨hvalue, by omega⟩, htext, ?_, ?_⟩, rfl⟩
    all_goals simp [Expression.level]

theorem isPlain_fault {p : Property} {condition : Expression} (h : p.fault = some condition)
    (hname : IsIdentifier p.name) : condition.IsPlain := by
  have hvalue : (Expression.member record p.name).IsPlain := ⟨isPlain_record, by decide, hname⟩
  have habsent : (Expression.not (.isIn p.name record)).IsPlain :=
    ⟨hname.plainText, isPlain_record, by decide⟩
  simp only [Property.fault] at h
  split at h
  case h_1 => exact absurd h (by simp)
  case h_2 wrong _ hmismatch =>
    obtain rfl := Option.some.inj h
    obtain ⟨hwrong, hlevel⟩ := isPlain_mismatch hmismatch hvalue (Nat.le_refl 6)
    refine ⟨⟨hvalue, trivial, ?_, ?_⟩, hwrong, ?_, by omega⟩
    all_goals simp [Expression.level]
  case h_3 =>
    obtain rfl := Option.some.inj h
    exact habsent
  case h_4 wrong _ hmismatch =>
    obtain rfl := Option.some.inj h
    obtain ⟨hwrong, hlevel⟩ := isPlain_mismatch hmismatch hvalue (Nat.le_refl 6)
    exact ⟨habsent, hwrong, by simp [Expression.level], by omega⟩

/-- The checks need no parentheses beyond those that are written. -/
theorem isPlain_checks {i : Interface} (h : ∀ p ∈ i.properties, IsIdentifier p.name) :
    ∀ s ∈ i.checks, s.IsPlain := by
  intro s hs
  have hempty : (Expression.or (.equal subject .null) (.equal subject .undefined)).IsPlain := by
    decide
  have htag : (Expression.differ (.typeOf subject) (.text "object")).IsPlain := by decide
  simp only [checks_eq, Interface.tail, faults, List.mem_cons, List.mem_append, List.mem_map,
    List.mem_filterMap, List.not_mem_nil, or_false] at hs
  rcases hs with rfl | rfl | hs | ⟨condition, ⟨p, hp, hfault⟩, rfl⟩ | rfl
  · exact hempty
  · exact htag
  · split at hs
    · exact absurd hs (List.not_mem_nil)
    · obtain rfl := List.mem_singleton.mp hs
      trivial
  · exact isPlain_fault hfault (h p hp)
  · trivial

/-- An interface whose names are identifiers has a guard, and its text is a function. -/
theorem exists_guard {i : Interface} (hname : IsIdentifier i.name)
    (hproperties : ∀ p ∈ i.properties, IsIdentifier p.name) :
    ∃ g, i.guard = .ok g ∧ g.body = i.checks ∧ Function.ofText g.render = some g.function := by
  obtain ⟨name, hguard, hidentifier⟩ := guardName_of_isIdentifier hname
  refine ⟨⟨name, i.name, i.checks⟩, ?_, rfl, ?_⟩
  · rw [Interface.guard, hguard]
    rfl
  · exact ofText_render _ hidentifier hname (isPlain_checks hproperties)

/-- The guard, as a function, returns for every value and tells whether it is of the type. -/
theorem call_function {i : Interface} {g : Guard} (h : g.body = i.checks) (realm : Realm)
    (v : Value) :
    ∃ b, g.function.call realm v = .ok (.boolean b) ∧ (b = true ↔ i.Describes v) := by
  obtain ⟨b, hbody, hb⟩ := execAll_checks i realm v
  refine ⟨b, ?_, hb⟩
  rw [Function.call, Guard.function, h, hbody]
  rfl

/-- The guard of an interface decides for every value, and without throwing, whether the value is
of the type of the interface. -/
theorem guard_decides (i : Interface) (hname : IsIdentifier i.name)
    (hproperties : ∀ p ∈ i.properties, IsIdentifier p.name) :
    ∃ g, i.guard = .ok g ∧ ∃ f, Function.ofText g.render = some f ∧
      ∀ realm v, ∃ b, f.call realm v = .ok (.boolean b) ∧ (b = true ↔ i.Describes v) := by
  obtain ⟨g, hguard, hbody, htext⟩ := exists_guard hname hproperties
  exact ⟨g, hguard, g.function, htext, call_function hbody⟩

/-- A declaration with an optional property and with one that has to be there, but undefined. -/
def account : Interface :=
  { name := "Account", properties := [⟨"id", some .number, false⟩, ⟨"nick", some .string, true⟩,
      ⟨"closed", some .undefined, false⟩, ⟨"id", some .number, false⟩] }

theorem guard_decides_account :
    ∃ g, account.guard = .ok g ∧ ∃ f, Function.ofText g.render = some f ∧
      ∀ realm, f.call realm .null = .ok (.boolean false) ∧
        f.call realm (.object 0 fun key => if key = units "id" then some (.number 1) else none) =
          .ok (.boolean false) ∧
        f.call realm (.object 0 fun key => if key = units "id" then some (.number 1)
          else if key = units "closed" then some .undefined else none) = .ok (.boolean true) := by
  obtain ⟨g, hguard, f, htext, hcall⟩ := guard_decides account (by decide) (by decide)
  refine ⟨g, hguard, f, htext, fun realm => ?_⟩
  have htrue : ∀ v, account.Describes v → f.call realm v = .ok (.boolean true) := by
    intro v hv
    obtain ⟨b, hb, hiff⟩ := hcall realm v
    rw [hb, hiff.mpr hv]
  have hfalse : ∀ v, ¬ account.Describes v → f.call realm v = .ok (.boolean false) := by
    intro v hv
    obtain ⟨b, hb, hiff⟩ := hcall realm v
    have hnot : b = false := by rwa [← Bool.not_eq_true, hiff]
    rw [hb, hnot]
  obtain ⟨hnick, hclosed, hother⟩ : units "id" ≠ units "nick" ∧ units "id" ≠ units "closed" ∧
      units "nick" ≠ units "closed" := by decide
  refine ⟨hfalse _ ?_, hfalse _ ?_, htrue _ ⟨_, _, rfl, ?_⟩⟩
  · simp [Interface.Describes]
  · simp [Interface.Describes, account, Property.Holds, hclosed.symm]
  · simp [account, Property.Holds, Primitive.Describes, hclosed.symm, hnick.symm, hother]

end TypeGuards
