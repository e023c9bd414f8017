import TypeGuards.Proofs.Reportable
/-!
The first error of a tree. Searching only inside nodes known to contain an error finds what reading all
nodes in order would find, as long as every node that does contain one is known to. So a text is refused
if and only if its tree marks an error somewhere, and the line told is that of the first.
-/
namespace TypeGuards

namespace Tree

variable {t e : Tree} {trees : List Tree}

/-- Every node with a mark somewhere below it is known to contain an error. Others may be as well. -/
def TellsErrors (t : Tree) : Prop :=
  ∀ n ∈ t.nodes, (∃ e ∈ nodesIn n.children, e.marksError = true) → n.hasError = true

instance (t : Tree) : Decidable t.TellsErrors :=
  inferInstanceAs (Decidable
    (∀ n ∈ t.nodes, (∃ e ∈ nodesIn n.children, e.marksError = true) → n.hasError = true))

theorem TellsErrors.child (h : t.TellsErrors) {c : Tree} (hc : c ∈ t.children) : c.TellsErrors :=
  fun n hn => h n (mem_nodes_of_mem_children hc hn)

/-- The search goes into a node only if it is known to contain an error. -/
theorem firstError?_eq (t : Tree) : t.firstError? =
    if t.marksError then some t
    else if t.hasError then firstErrorIn? t.children
    else none := by
  cases t
  rw [firstError?]

/-- Trees searched one after another are searched as one list of nodes. -/
theorem firstErrorIn?_eq_find? (h : ∀ t ∈ trees, t.firstError? = t.nodes.find? marksError) :
    firstErrorIn? trees = (nodesIn trees).find? marksError := by
  induction trees with
  | nil => rfl
  | cons t rest ih =>
    rw [List.forall_mem_cons] at h
    rw [firstErrorIn?, nodesIn, List.find?_append, h.1, ih h.2]
    cases t.nodes.find? marksError <;> rfl

/-- Leaving out what is not known to contain an error changes nothing. -/
theorem firstError?_eq_find? (h : t.TellsErrors) : t.firstError? = t.nodes.find? marksError := by
  induction t using children_induction with
  | h t ih =>
    have hbelow : firstErrorIn? t.children = (nodesIn t.children).find? marksError :=
      firstErrorIn?_eq_find? fun c hc => ih c hc (h.child hc)
    rw [firstError?_eq, nodes_eq, List.find?_cons]
    cases hmark : t.marksError with
    | true => rfl
    | false =>
      cases herror : t.hasError with
      | true => exact hbelow
      | false =>
        have hnone : (nodesIn t.children).find? marksError = none := by
          refine List.find?_eq_none.mpr fun e he hmarked => ?_
          have hknown := h t (mem_nodes_self t) ⟨e, he, hmarked⟩
          rw [herror] at hknown
          contradiction
        exact hnone.symm

/-- A node marks an error and none before it does, each node standing before those inside it. -/
def IsFirstError (e t : Tree) : Prop :=
  e.marksError = true ∧
    ∃ before after, t.nodes = before ++ e :: after ∧ ∀ n ∈ before, n.marksError = false

/-- What the search finds is the first error there is, as no error hides from it. -/
theorem firstError?_eq_some (h : t.TellsErrors) : t.firstError? = some e ↔ e.IsFirstError t := by
  rw [firstError?_eq_find? h, List.find?_eq_some_iff_append]
  simp [IsFirstError]

/-- The search finds nothing exactly if there is nothing to find. -/
theorem firstError?_eq_none (h : t.TellsErrors) :
    t.firstError? = none ↔ ∀ n ∈ t.nodes, n.marksError = false := by
  rw [firstError?_eq_find? h, List.find?_eq_none]
  simp

end Tree

namespace TypeScript

variable {t : Tree} {parser : Parser} {d : Dialect} {text : String}

/-- A text is refused for its tree alone; a node that cannot be read is another matter. -/
theorem readModule_eq_notTypeScript {node : String} {line : Nat} :
    readModule d text parser = .error (.notTypeScript node line) ↔
      checkTree (parser d text) = .error (.notTypeScript node line) := by
  unfold readModule
  rw [bind_eq_error]
  refine ⟨fun h => h.resolve_right ?_, Or.inl⟩
  rintro ⟨checked, -, hread⟩
  obtain ⟨cause, -, hcause⟩ := mapError_eq_error.mp hread
  contradiction

/-- The search that leaves nodes out is a search of the whole tree. It finds the first node that marks an
error, and nothing if and only if there is none. So a tree is refused, at the line of its first mark, if
and only if it has one, and a tree that is taken has none; whichever parser makes the tree of a text, the
text is refused with it. -/
theorem search_finds_first (h : t.TellsErrors) :
    t.firstError? = t.nodes.find? Tree.marksError ∧
    (∀ e, t.firstError? = some e ↔ e.IsFirstError t) ∧
    (t.firstError? = none ↔ ∀ n ∈ t.nodes, n.marksError = false) ∧
    (∀ cause, checkTree t = .error cause ↔
      ∃ e : Tree, e.IsFirstError t ∧ cause = .notTypeScript e.type (e.row + 1)) ∧
    (∀ t', checkTree t = .ok t' ↔ t' = t ∧ ∀ n ∈ t.nodes, n.marksError = false) ∧
    ∀ (parser : Parser) (d : Dialect) (text : String), parser d text = t → ∀ node line,
      (readModule d text parser = .error (.notTypeScript node line) ↔
        ∃ e : Tree, e.IsFirstError t ∧ node = e.type ∧ line = e.row + 1) := by
  have herror : ∀ cause, checkTree t = .error cause ↔
      ∃ e : Tree, e.IsFirstError t ∧ cause = .notTypeScript e.type (e.row + 1) := by
    intro cause
    simp only [checkTree_eq_error, Tree.firstError?_eq_some h, Tree.line]
  refine ⟨Tree.firstError?_eq_find? h, fun e => Tree.firstError?_eq_some h, Tree.firstError?_eq_none h,
    herror, fun t' => ?_, ?_⟩
  · rw [checkTree_eq_ok, Tree.firstError?_eq_none h, and_comm, eq_comm]
  · rintro parser d text rfl node line
    rw [readModule_eq_notTypeScript, herror]
    simp only [SourceError.notTypeScript.injEq]

/-- A tree that is said to contain errors in a comment, where there are none. Of those there are, one
stands inside the first and one after it. -/
def marked : Tree :=
  ⟨"program", 0, 40, 0, true, none, false, true,
    [⟨"comment", 0, 6, 0, true, none, false, true, []⟩,
     ⟨"lexical_declaration", 7, 20, 1, true, none, false, true,
      [⟨"const", 7, 12, 1, false, none, false, false, []⟩,
       ⟨"variable_declarator", 13, 20, 2, true, none, false, true,
        [⟨"identifier", 13, 20, 2, true, some "name", true, true,
          [⟨"ERROR", 20, 20, 2, true, none, false, true, []⟩]⟩]⟩]⟩,
     ⟨"ERROR", 21, 40, 3, true, none, false, true, []⟩]⟩

theorem search_finds_first_marked : marked.TellsErrors ∧
    readModule .typescript "" (fun _ _ => marked) = .error (.notTypeScript "identifier" 3) := by
  have htells : marked.TellsErrors := by decide +kernel
  obtain ⟨-, hfirst, -, -, -, hread⟩ := search_finds_first htells
  exact ⟨htells, (hread (fun _ _ => marked) .typescript "" rfl "identifier" 3).mpr
    ⟨_, (hfirst _).mp rfl, rfl, rfl⟩⟩

end TypeScript

end TypeGuards
