import TypeGuards.Proofs.Guard.Module
/-!
The lines of a module end in newlines alone, if no name in it and not its specifier has a carriage
return. Upper case makes none.
-/
namespace TypeGuards

open Script TypeScript

def HasNoReturn (text : String) : Prop := '\r' ∉ text.toList

instance (text : String) : Decidable (HasNoReturn text) :=
  inferInstanceAs (Decidable ('\r' ∉ text.toList))

theorem hasNoReturn_append {a b : String} :
    HasNoReturn (a ++ b) ↔ HasNoReturn a ∧ HasNoReturn b := by
  unfold HasNoReturn
  rw [String.toList_append, List.mem_append, not_or]

/-- What holds of a separator's characters holds of all characters if it does of those between. -/
theorem forall_mem_intercalate {P : Char → Prop} {separator : String}
    (hseparator : ∀ c ∈ separator.toList, P c) (texts : List String) :
    (∀ c ∈ (String.intercalate separator texts).toList, P c) ↔
      ∀ text ∈ texts, ∀ c ∈ text.toList, P c := by
  induction texts with
  | nil => simp
  | cons first rest ih =>
    rcases rest with _ | ⟨second, rest⟩
    · simp
    · rw [String.intercalate_cons_cons, String.toList_append, String.toList_append,
        List.forall_mem_append, List.forall_mem_append, ih, List.forall_mem_cons (a := first)]
      exact ⟨fun h => ⟨h.1.1, h.2⟩, fun h => ⟨⟨h.1, hseparator⟩, h.2⟩⟩

theorem hasNoReturn_intercalate {separator : String} {texts : List String}
    (hseparator : HasNoReturn separator) (h : ∀ text ∈ texts, HasNoReturn text) :
    HasNoReturn (String.intercalate separator texts) := by
  simp only [HasNoReturn, ← List.forall_mem_ne'] at hseparator h ⊢
  exact (forall_mem_intercalate hseparator texts).mpr h

theorem hasNoReturn_guardName {name guard : String} (h : guardName name = .ok guard)
    (hname : HasNoReturn name) : HasNoReturn guard := by
  unfold HasNoReturn at hname ⊢
  unfold guardName at h
  split at h
  · contradiction
  · rename_i c rest hchars
    obtain rfl := Except.ok.inj h
    rw [hchars, List.mem_cons, not_or] at hname
    rw [String.toList_ofList]
    simp only [List.cons_append, List.mem_cons, List.mem_append, not_or]
    refine ⟨by decide, by decide, fun hupper => hname.1 ?_, hname.2⟩
    exact (eq_of_mem_upperChar hupper).resolve_left (by decide)

/-! ### Guards -/

theorem hasNoReturn_mismatch {value wrong : Expression} {kind : Option Primitive}
    (h : mismatch value kind = some wrong) (hvalue : HasNoReturn value.render) :
    HasNoReturn wrong.render := by
  unfold mismatch at h
  split at h
  · contradiction
  · obtain rfl := Option.some.inj h
    simp only [Expression.render, hasNoReturn_append]
    exact ⟨⟨hvalue, by decide⟩, by decide⟩
  · obtain ⟨tag, htag, rfl⟩ := Option.map_eq_some_iff.mp h
    have hplain := isPlainText_of_mem_typeTags tag (typeTag_eq_iff .null htag).1
    have htext : HasNoReturn tag := fun hmem => (hplain '\r' hmem).2.2.2 rfl
    simp only [Expression.render, hasNoReturn_append]
    exact ⟨⟨⟨by decide, hvalue⟩, by decide⟩, ⟨by decide, htext⟩, by decide⟩

theorem hasNoReturn_fault {p : Property} {condition : Expression} (h : p.fault = some condition)
    (hname : HasNoReturn p.name) : HasNoReturn condition.render := by
  have hvalue : HasNoReturn (Expression.member record p.name).render := by
    simp only [Expression.render, record, hasNoReturn_append]
    exact ⟨by decide, hname⟩
  have habsent : HasNoReturn (Expression.not (.isIn p.name record)).render := by
    simp only [Expression.render, record, hasNoReturn_append]
    exact ⟨⟨by decide, ⟨⟨by decide, hname⟩, by decide⟩, by decide⟩, by decide⟩
  simp only [Property.fault] at h
  split at h
  case h_1 => contradiction
  case h_2 wrong _ hmismatch =>
    obtain rfl := Option.some.inj h
    have hundefined : HasNoReturn
        (Expression.differ (.member record p.name) .undefined).render :=
      hasNoReturn_append.mpr ⟨hasNoReturn_append.mpr ⟨hvalue, by decide⟩, by decide⟩
    exact hasNoReturn_append.mpr ⟨hasNoReturn_append.mpr ⟨hundefined, by decide⟩,
      hasNoReturn_mismatch hmismatch hvalue⟩
  case h_3 =>
    obtain rfl := Option.some.inj h
    exact habsent
  case h_4 wrong _ hmismatch =>
    obtain rfl := Option.some.inj h
    exact hasNoReturn_append.mpr ⟨hasNoReturn_append.mpr ⟨habsent, by decide⟩,
      hasNoReturn_mismatch hmismatch hvalue⟩

def Interface.HasNoReturn (i : Interface) : Prop :=
  TypeGuards.HasNoReturn i.name ∧ ∀ p ∈ i.properties, TypeGuards.HasNoReturn p.name

instance (i : Interface) : Decidable i.HasNoReturn := inferInstanceAs (Decidable (_ ∧ _))

theorem hasNoReturn_refuseIf {c : Expression} (h : HasNoReturn c.render) :
    ∀ line ∈ (Statement.refuseIf c).lines, HasNoReturn line := by
  simp only [Statement.lines, List.forall_mem_cons, hasNoReturn_append]
  exact ⟨⟨⟨by decide, h⟩, by decide⟩, by decide, by decide, List.forall_mem_nil _⟩

/-- The checks hold no carriage return but those of the names. -/
theorem hasNoReturn_checks {i : Interface} (h : i.HasNoReturn) :
    ∀ s ∈ i.checks, ∀ line ∈ s.lines, HasNoReturn line := by
  intro s hs
  simp only [checks_eq, Interface.tail, faults, List.mem_cons, List.mem_append, List.mem_map,
    List.mem_filterMap, List.not_mem_nil, or_false] at hs
  rcases hs with rfl | rfl | hs | ⟨condition, ⟨p, hp, hfault⟩, rfl⟩ | rfl
  · exact hasNoReturn_refuseIf (by decide)
  · exact hasNoReturn_refuseIf (by decide)
  · split at hs
    · exact absurd hs List.not_mem_nil
    · obtain rfl := List.mem_singleton.mp hs
      decide
  · exact hasNoReturn_refuseIf (hasNoReturn_fault hfault (h.2 p hp))
  · decide

/-- A guard holds no carriage return unless a name does. -/
theorem hasNoReturn_guard {i : Interface} {g : Guard} (hguard : i.guard = .ok g)
    (h : i.HasNoReturn) : HasNoReturn g.render := by
  obtain ⟨hname, hinterface, hbody⟩ := guard_eq_ok hguard
  have hname := hasNoReturn_guardName hname h.1
  have hlines : ∀ line ∈ g.lines, HasNoReturn line := by
    simp only [Guard.lines, hinterface, hbody, toString, List.cons_append, List.nil_append,
      List.forall_mem_cons, hasNoReturn_append]
    refine ⟨by decide, ⟨⟨by decide, h.1⟩, by decide⟩, by decide, ⟨⟨by decide, h.1⟩, by decide⟩,
      by decide, ⟨⟨⟨⟨by decide, hname⟩, by decide⟩, h.1⟩, by decide⟩, ?_⟩
    intro line hline
    rcases List.mem_append.mp hline with hline | hline
    · obtain ⟨s, hs, hline⟩ := List.mem_flatMap.mp hline
      exact hasNoReturn_checks h s hs line hline
    · obtain rfl := List.mem_singleton.mp hline
      decide
  exact hasNoReturn_append.mpr ⟨hasNoReturn_intercalate (by decide) hlines, by decide⟩

/-! ### Modules -/

variable {is : List Interface} {specifier text : String}

theorem hasNoReturn_importLine (h : ∀ i ∈ is, i.HasNoReturn) (hspecifier : HasNoReturn specifier) :
    HasNoReturn (importLine is specifier) := by
  have hnames : HasNoReturn (String.intercalate ", " (is.map (·.name))) := by
    refine hasNoReturn_intercalate (by decide) ?_
    rw [List.forall_mem_map]
    exact fun i hi => (h i hi).1
  have hline : importLine is specifier = "import type \x7b " ++
      String.intercalate ", " (is.map (·.name)) ++ " \x7d from \"" ++ specifier ++ "\";" := rfl
  simp only [hline, hasNoReturn_append]
  exact ⟨⟨⟨⟨by decide, hnames⟩, by decide⟩, hspecifier⟩, by decide⟩

theorem hasNoReturn_guardModule (hmodule : guardModule is specifier = .ok text)
    (h : ∀ i ∈ is, i.HasNoReturn) (hspecifier : HasNoReturn specifier) : HasNoReturn text := by
  obtain ⟨gs, hgs⟩ := guards_of_guardModule hmodule
  rw [hgs.written]
  refine hasNoReturn_intercalate (by decide) ?_
  rw [List.forall_mem_cons]
  refine ⟨by decide, fun part hpart => ?_⟩
  split at hpart
  · exact absurd hpart List.not_mem_nil
  · rcases List.mem_cons.mp hpart with rfl | hpart
    · exact hasNoReturn_append.mpr ⟨hasNoReturn_importLine h hspecifier, by decide⟩
    · obtain ⟨g, hg, rfl⟩ := List.mem_map.mp hpart
      obtain ⟨i, hi, hguard⟩ := exists_mem_of_mapM_eq_ok (mapM_eq_ok.mpr hgs.each) hg
      exact hasNoReturn_guard hguard (h i hi)

end TypeGuards
