import TypeGuards.Proofs.Acceptance
/-!
Which interface a statement declares, told by the node and its children: an interface declares itself,
an export what its declaration declares, and an ambient declaration the interface that is its only
named child.
-/
namespace TypeGuards.Tree

theorem sizeOf_lt_of_mem_children {t c : Tree} (h : c ∈ t.children) : sizeOf c < sizeOf t := by
  cases t with
  | mk type start stop row isNamed field isMissing hasError children =>
    have hlt : sizeOf c < sizeOf children := List.sizeOf_lt_of_mem h
    simp only [mk.sizeOf_spec]
    omega

/-- What holds of a tree if it holds of its children holds of every tree. -/
theorem children_induction {P : Tree → Prop} (h : ∀ t, (∀ c ∈ t.children, P c) → P t) (t : Tree) :
    P t :=
  h t fun c _ => children_induction h c
termination_by sizeOf t
decreasing_by exact sizeOf_lt_of_mem_children ‹c ∈ t.children›

theorem mem_nodes_trans {t i n : Tree} (hi : i ∈ t.nodes) (hn : n ∈ i.nodes) : n ∈ t.nodes := by
  induction t using children_induction with
  | h t ih =>
    rw [nodes_eq] at hi
    rcases List.mem_cons.mp hi with rfl | hi
    · exact hn
    · obtain ⟨c, hc, hi⟩ := mem_nodesIn.mp hi
      exact mem_nodes_of_mem_children hc (ih c hc hi)

theorem declared?_eq (trees : List Tree) : interface?.declared? trees =
    (trees.find? (·.field = some "declaration")).bind interface? := by
  induction trees with
  | nil => rfl
  | cons c rest ih =>
    rw [interface?.declared?, List.find?_cons]
    by_cases hfield : c.field = some "declaration"
    · simp [hfield]
    · simp [hfield, ih]

def ambient? (t : Tree) : Option Tree :=
  match t.namedChildren with
  | [d] => if d.type = "interface_declaration" then some d else none
  | _ => none

/-- An interface is found below any number of exports and at most one ambient declaration. -/
theorem interface?_eq (t : Tree) : t.interface? =
    if t.type = "interface_declaration" then some t
    else if t.type = "export_statement" then (t.child? "declaration").bind interface?
    else if t.type = "ambient_declaration" then t.ambient?
    else none := by
  cases t with
  | mk type start stop row isNamed field isMissing hasError children =>
    rw [interface?, declared?_eq]
    by_cases hexport : type = "export_statement"
    · subst type
      simp only [child?]
      cases (children.find? (·.field = some "declaration")).bind interface? <;> rfl
    · simp only [hexport]
      rfl

theorem ambient?_eq_some {t i : Tree} : t.ambient? = some i ↔
    t.namedChildren = [i] ∧ i.type = "interface_declaration" := by
  unfold ambient?
  rcases t.namedChildren with _ | ⟨d, _ | ⟨e, rest⟩⟩
  · simp
  · by_cases hd : d.type = "interface_declaration"
    · simp only [hd, if_true, Option.some.injEq, List.cons.injEq, and_true]
      constructor
      · rintro rfl
        exact ⟨rfl, hd⟩
      · exact fun h => h.1
    · simp only [hd, if_false, List.cons.injEq, and_true]
      constructor
      · exact fun h => absurd h (by simp)
      · rintro ⟨rfl, hi⟩
        exact absurd hi hd
  · simp

theorem mem_children_of_ambient? {t i : Tree} (h : t.ambient? = some i) : i ∈ t.children := by
  have hmem : i ∈ t.namedChildren := by
    rw [(ambient?_eq_some.mp h).1]
    exact List.mem_singleton_self i
  exact List.mem_of_mem_filter hmem

/-- The interface that a statement declares is inside the statement. -/
theorem mem_nodes_of_interface? {t i : Tree} (h : t.interface? = some i) : i ∈ t.nodes := by
  induction t using children_induction with
  | h t ih =>
    rw [interface?_eq] at h
    split_ifs at h
    · rw [← Option.some.inj h]
      exact mem_nodes_self t
    · obtain ⟨d, hd, hi⟩ := Option.bind_eq_some_iff.mp h
      have hmem := mem_children_of_child? hd
      exact mem_nodes_of_mem_children hmem (ih d hmem hi)
    · exact mem_nodes_of_mem_children (mem_children_of_ambient? h) (mem_nodes_self i)

end TypeGuards.Tree
