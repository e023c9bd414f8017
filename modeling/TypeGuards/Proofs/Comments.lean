import TypeGuards.Proofs.Statement
import TypeGuards.TypeScript.Modules
/-!
Comments in syntax trees. A comment is one more named child of its node, without a role. Roles, tokens
and members are found past it; but an ambient declaration declares an interface only if that is its
only named child, and the last named child is read for a type. So what is extracted stays the same, as
long as no comment stands in an ambient declaration of an interface or comes in the way of a type.
-/
namespace TypeGuards

namespace Tree

/-- A comment: a named node in no role and without children, which has a text. -/
structure IsComment (source : List UInt8) (k : Tree) : Prop where
  type : k.type = "comment"
  named : k.isNamed = true
  field : k.field = none
  children : k.children = []
  text : ∃ text, k.text source = .ok text

/-- The same trees in the same order, each one changed in some way, and comments among them. -/
inductive Woven (source : List UInt8) (R : Tree → Tree → Prop) : List Tree → List Tree → Prop
  | nil : Woven source R [] []
  | child {c c' : Tree} {cs cs' : List Tree} : R c c' → Woven source R cs cs' →
      Woven source R (c :: cs) (c' :: cs')
  | comment {k : Tree} {cs cs' : List Tree} : IsComment source k → Woven source R cs cs' →
      Woven source R cs (k :: cs')

/-- A tree with comments put among the children of its nodes. -/
inductive Commented (source : List UInt8) : Tree → Tree → Prop
  | node {t : Tree} {children : List Tree} : Woven source (Commented source) t.children children →
      Commented source t { t with children }

/-- A comment hides the interface of an ambient declaration, which is then not its only named child. -/
inductive Hides : Tree → Tree → Prop
  | ambient {t t' i : Tree} : t.type = "ambient_declaration" → t.ambient? = some i →
      t'.namedChildren.length ≠ 1 → Hides t t'
  | exported {t t' d d' : Tree} : t.type = "export_statement" → t.child? "declaration" = some d →
      t'.child? "declaration" = some d' → Hides d d' → Hides t t'

/-- Comments leave a type as it is: none is read for it, and none stands in a literal that spells a
keyword. -/
structure KeepsType (source : List UInt8) (a a' : Tree) : Prop where
  annotated : Commented source a.annotated a'.annotated
  literal : a.annotated.type = "literal_type" → ∀ c, a.annotated.namedChildren = [c] →
    c.type ∈ literalKeywords → ∃ c', a'.annotated.namedChildren = [c']

/-- Comments leave a member as it is: if it is a property, they leave its type. -/
structure KeepsMember (source : List UInt8) (m m' : Tree) : Prop where
  commented : Commented source m m'
  type : m.type = "property_signature" → ∀ a a', m.child? "type" = some a →
    m'.child? "type" = some a' → KeepsType source a a'

/-- Comments leave a statement as it is: they do not hide its interface, and leave the types in it. -/
structure Keeps (source : List UInt8) (c c' : Tree) : Prop where
  commented : Commented source c c'
  shown : ¬Hides c c'
  members : ∀ i i', c.interface? = some i → c'.interface? = some i' →
    List.Forall₂ (KeepsMember source) i.members i'.members

variable {source : List UInt8} {R : Tree → Tree → Prop} {t t' c c' k i i' m m' a a' : Tree}
  {cs cs' : List Tree} {P : Tree → Bool} {field type : String}

theorem rel_cases {o o' : Option Tree} (h : Option.Rel R o o') :
    (o = none ∧ o' = none) ∨ ∃ c c', o = some c ∧ o' = some c' ∧ R c c' := by
  cases h with
  | none => exact Or.inl ⟨rfl, rfl⟩
  | some hc => exact Or.inr ⟨_, _, rfl, rfl, hc⟩

theorem or_rel {o o' p p' : Option Tree} (h : Option.Rel R o o') (h' : Option.Rel R p p') :
    Option.Rel R (o.or p) (o'.or p') := by
  cases h with
  | none => exact h'
  | some hc => exact .some hc

/-! ### Lists with comments -/

namespace Woven

theorem refl (h : ∀ c ∈ cs, R c c) : Woven source R cs cs := by
  induction cs with
  | nil => exact .nil
  | cons c cs ih =>
    obtain ⟨hc, hcs⟩ := List.forall_mem_cons.mp h
    exact .child hc (ih hcs)

/-- Choosing children by what comments do not change keeps the weaving. -/
theorem filter (h : Woven source R cs cs') (hsame : ∀ c c', R c c' → P c' = P c) :
    Woven source R (cs.filter P) (cs'.filter P) := by
  induction h with
  | nil => exact .nil
  | @child c c' cs cs' hc _ ih =>
    rw [List.filter_cons, List.filter_cons, hsame c c' hc]
    split_ifs
    · exact .child hc ih
    · exact ih
  | @comment k cs cs' hk _ ih =>
    rw [List.filter_cons]
    split_ifs
    · exact .comment hk ih
    · exact ih

/-- Where no comment is among the children, they correspond one by one. -/
theorem forall₂ (h : Woven source R cs cs') (hnone : ∀ k ∈ cs', ¬IsComment source k) :
    List.Forall₂ R cs cs' := by
  induction h with
  | nil => exact .nil
  | child hc _ ih => exact .cons hc (ih (List.forall_mem_cons.mp hnone).2)
  | comment hk _ _ => exact absurd hk (hnone _ List.mem_cons_self)

/-- A choice that leaves comments out does not see them. -/
theorem filter_forall₂ (h : Woven source R cs cs') (hsame : ∀ c c', R c c' → P c' = P c)
    (hcomment : ∀ k, IsComment source k → P k = false) :
    List.Forall₂ R (cs.filter P) (cs'.filter P) := by
  refine (h.filter hsame).forall₂ fun k hk hcommented => ?_
  have hchosen := (List.mem_filter.mp hk).2
  rw [hcomment k hcommented] at hchosen
  contradiction

/-- The first child with some property stays the first, if no comment has the property. -/
theorem find?_rel (h : Woven source R cs cs') (hsame : ∀ c c', R c c' → P c' = P c)
    (hcomment : ∀ k, IsComment source k → P k = false) :
    Option.Rel R (cs.find? P) (cs'.find? P) := by
  induction h with
  | nil => exact .none
  | @child c c' cs cs' hc _ ih =>
    rw [List.find?_cons, List.find?_cons, hsame c c' hc]
    cases P c with
    | false => exact ih
    | true => exact .some hc
  | @comment k cs cs' hk _ ih =>
    rw [List.find?_cons, hcomment k hk]
    exact ih

theorem any_eq (h : Woven source R cs cs') (hsame : ∀ c c', R c c' → P c' = P c)
    (hcomment : ∀ k, IsComment source k → P k = false) : cs'.any P = cs.any P := by
  induction h with
  | nil => rfl
  | @child c c' cs cs' hc _ ih => rw [List.any_cons, List.any_cons, hsame c c' hc, ih]
  | @comment k cs cs' hk _ ih => rw [List.any_cons, hcomment k hk, Bool.false_or, ih]

/-- The last tree is a comment or comes from the last tree. -/
theorem getLast?_rel (h : Woven source R cs cs') : Option.Rel R cs.getLast? cs'.getLast? ∨
    ∃ k, cs'.getLast? = some k ∧ IsComment source k := by
  induction h with
  | nil => exact Or.inl .none
  | @child c c' cs cs' hc _ ih =>
    rw [List.getLast?_cons, List.getLast?_cons]
    rcases ih with hrel | ⟨k, hk, hcomment⟩
    · left
      rcases rel_cases hrel with ⟨hlast, hlast'⟩ | ⟨d, d', hlast, hlast', hd⟩
      · rw [hlast, hlast']
        exact .some hc
      · rw [hlast, hlast']
        exact .some hd
    · right
      rw [hk]
      exact ⟨k, rfl, hcomment⟩
  | @comment k cs cs' hk _ ih =>
    rw [List.getLast?_cons]
    rcases ih with hrel | ⟨k', hk', hcomment⟩
    · rcases rel_cases hrel with ⟨-, hlast'⟩ | ⟨d, d', hlast, hlast', hd⟩
      · right
        rw [hlast']
        exact ⟨k, rfl, hk⟩
      · left
        rw [hlast, hlast']
        exact .some hd
    · right
      rw [hk']
      exact ⟨k', rfl, hcomment⟩

/-- A single child that is no comment was a single child before. -/
theorem eq_singleton (h : Woven source R cs [c']) (hcomment : c'.type ≠ "comment") :
    ∃ c, cs = [c] ∧ R c c' := by
  cases h with
  | child hc hrest =>
    cases hrest
    exact ⟨_, rfl, hc⟩
  | comment hk _ => exact absurd hk.type hcomment

theorem rel_of_singletons (h : Woven source R [c] [c']) : R c c' := by
  cases h with
  | child hc _ => exact hc
  | comment _ hrest => cases hrest

end Woven

/-! ### Trees with comments -/

namespace Commented

theorem refl (t : Tree) : Commented source t t := by
  induction t using children_induction with
  | h t ih =>
    cases t
    exact .node (.refl ih)

theorem woven (h : Commented source t t') : Woven source (Commented source) t.children t'.children := by
  cases h with
  | node hwoven => exact hwoven

theorem type_eq (h : Commented source t t') : t'.type = t.type := by
  cases h
  rfl

theorem field_eq (h : Commented source t t') : t'.field = t.field := by
  cases h
  rfl

theorem isNamed_eq (h : Commented source t t') : t'.isNamed = t.isNamed := by
  cases h
  rfl

theorem line_eq (h : Commented source t t') : t'.line = t.line := by
  cases h
  rfl

theorem text_eq (h : Commented source t t') : t'.text source = t.text source := by
  cases h
  rfl

theorem construct_eq (h : Commented source t t') :
    Construct.ofTree source t' = Construct.ofTree source t := by
  rw [Construct.ofTree, Construct.ofTree, h.type_eq, h.text_eq, h.line_eq]

/-- Comments come in among the named children and displace none of them. -/
theorem namedChildren (h : Commented source t t') :
    Woven source (Commented source) t.namedChildren t'.namedChildren :=
  h.woven.filter fun _ _ hc => hc.isNamed_eq

theorem child?_rel (h : Commented source t t') (field : String) :
    Option.Rel (Commented source) (t.child? field) (t'.child? field) :=
  h.woven.find?_rel (fun _ _ hc => by rw [hc.field_eq]) fun k hk => by simp [hk.field]

theorem ofType_rel (h : Commented source t t') (htype : type ≠ "comment") :
    List.Forall₂ (Commented source) (t.children.filter (·.type = type))
      (t'.children.filter (·.type = type)) :=
  h.woven.filter_forall₂ (fun _ _ hc => by rw [hc.type_eq]) fun k hk => by simp [hk.type, htype.symm]

theorem firstOfType_rel (h : Commented source t t') (htype : type ≠ "comment") :
    Option.Rel (Commented source) (t.children.find? (·.type = type))
      (t'.children.find? (·.type = type)) :=
  h.woven.find?_rel (fun _ _ hc => by rw [hc.type_eq]) fun k hk => by simp [hk.type, htype.symm]

theorem isOptional_eq (h : Commented source t t') : t'.isOptional = t.isOptional :=
  h.woven.any_eq (fun _ _ hc => by rw [hc.type_eq]) fun k hk => by simp [hk.type]

theorem body?_rel (h : Commented source t t') : Option.Rel (Commented source)
    (InterfaceDeclaration.body? t) (InterfaceDeclaration.body? t') :=
  or_rel (h.child?_rel "body") (or_rel (h.firstOfType_rel (by decide)) (h.firstOfType_rel (by decide)))

/-- Comments between members are dropped before members are read. -/
theorem members_rel (h : Commented source t t') :
    List.Forall₂ (Commented source) t.members t'.members := by
  unfold members
  rcases rel_cases h.body?_rel with ⟨hbody, hbody'⟩ | ⟨b, b', hbody, hbody', hb⟩
  · rw [hbody, hbody']
    exact .nil
  · rw [hbody, hbody']
    refine hb.woven.filter_forall₂ (fun _ _ hc => ?_) fun k hk => ?_
    · rw [hc.isNamed_eq, hc.type_eq]
    · simp [hk.type]

theorem name_eq (h : Commented source t t') (type field : String) :
    DeclaredName.ofTree source type t' (t'.child? field) =
      DeclaredName.ofTree source type t (t.child? field) := by
  unfold DeclaredName.ofTree
  rcases rel_cases (h.child?_rel field) with ⟨hname, hname'⟩ | ⟨n, n', hname, hname', hn⟩
  · simp only [hname, hname', h.construct_eq]
  · simp only [hname, hname', hn.type_eq, hn.text_eq, hn.line_eq, hn.construct_eq]

end Commented

/-! ### Types and members -/

theorem keyword?_of_other {text : String} (h : t.type ≠ "literal_type") (htype : t'.type = t.type) :
    t'.keyword? text = t.keyword? text := by
  unfold keyword?
  rw [htype]
  simp only [h, if_false]

/-- Only a literal type looks at how many children it has, so only there a comment matters. -/
theorem keyword?_eq (h : Commented source t t')
    (hliteral : t.type = "literal_type" → ∀ c, t.namedChildren = [c] → c.type ∈ literalKeywords →
      ∃ c', t'.namedChildren = [c']) (text : String) : t'.keyword? text = t.keyword? text := by
  by_cases htype : t.type = "literal_type"
  · have hwoven := h.namedChildren
    ext p
    rw [keyword?_literal htype, keyword?_literal (h.type_eq.trans htype)]
    constructor
    · rintro ⟨c', hc', hname, hp⟩
      rw [hc'] at hwoven
      obtain ⟨c, hc, hcommented⟩ := hwoven.eq_singleton (by
        rw [hname]
        cases p <;> decide)
      exact ⟨c, hc, hcommented.type_eq ▸ hname, hp⟩
    · rintro ⟨c, hc, hname, hp⟩
      have hkeyword : c.type ∈ literalKeywords := by
        rw [hname]
        rcases hp with rfl | rfl <;> decide
      obtain ⟨c', hc'⟩ := hliteral htype c hc hkeyword
      rw [hc, hc'] at hwoven
      exact ⟨c', hc', hwoven.rel_of_singletons.type_eq.trans hname, hp⟩
  · exact keyword?_of_other htype h.type_eq

/-- An annotation that keeps its node is read the same. -/
theorem KeepsType.annotation_eq (h : KeepsType source a a') :
    Annotation.ofTree source a'.annotated = Annotation.ofTree source a.annotated := by
  unfold Annotation.ofTree
  rw [h.annotated.text_eq, h.annotated.type_eq, h.annotated.line_eq]
  simp only [keyword?_eq h.annotated h.literal]

/-- A member that keeps its type is read the same. -/
theorem KeepsMember.member_eq (hkeeps : KeepsMember source m m') :
    Member.ofTree source m' = Member.ofTree source m := by
  have h := hkeeps.commented
  unfold Member.ofTree
  rw [h.type_eq, h.construct_eq, h.line_eq, h.name_eq]
  by_cases htype : m.type = "property_signature"
  · have hoptional := h.isOptional_eq
    unfold isOptional at hoptional
    rw [hoptional]
    rcases rel_cases (h.child?_rel "type") with ⟨hnone, hnone'⟩ | ⟨a, a', ha, ha', -⟩
    · rw [hnone, hnone']
    · have hstated := (hkeeps.type htype a a' ha ha').annotation_eq
      unfold annotated at hstated
      rw [ha, ha']
      simp only [hstated]
  · rw [if_pos htype, if_pos htype]

theorem mapM_eq_of_forall₂ {β : Type} {f : Tree → Reading β} (h : List.Forall₂ R cs cs')
    (hsame : ∀ c c', R c c' → f c' = f c) : cs'.mapM f = cs.mapM f := by
  induction h with
  | nil => rfl
  | cons hc _ ih => rw [List.mapM_cons, List.mapM_cons, hsame _ _ hc, ih]

/-- A declaration is read the same if each of its members keeps its type. -/
theorem declaration_eq (h : Commented source i i')
    (hkeeps : List.Forall₂ (KeepsMember source) i.members i'.members) :
    InterfaceDeclaration.ofTree source i' = InterfaceDeclaration.ofTree source i := by
  have hparameters : (i'.child? "type_parameters").mapM (Construct.ofTree source) =
      (i.child? "type_parameters").mapM (Construct.ofTree source) := by
    rcases rel_cases (h.child?_rel "type_parameters") with ⟨hnone, hnone'⟩ | ⟨c, c', hc, hc', hsame⟩
    · rw [hnone, hnone']
    · rw [hc, hc', Option.mapM_some, Option.mapM_some, hsame.construct_eq]
  have hclauses : ∀ type ≠ "comment", List.Forall₂ (Commented source)
      (i.children.filter (·.type = type)) (i'.children.filter (·.type = type)) :=
    fun _ htype => h.ofType_rel htype
  have hheritage := mapM_eq_of_forall₂ (List.rel_append (hclauses "extends_type_clause" (by decide))
    (hclauses "extends_clause" (by decide))) fun _ _ hc => hc.construct_eq
  have hmembers := mapM_eq_of_forall₂ hkeeps fun _ _ hm => hm.member_eq
  have hbody : ((InterfaceDeclaration.body? i').getD i').line =
      ((InterfaceDeclaration.body? i).getD i).line := by
    rcases rel_cases h.body?_rel with ⟨hnone, hnone'⟩ | ⟨b, b', hb, hb', hsame⟩
    · rw [hnone, hnone']
      exact h.line_eq
    · rw [hb, hb']
      exact hsame.line_eq
  unfold InterfaceDeclaration.ofTree
  simp only [h.name_eq, hparameters, hheritage, members_eq, hmembers, hbody, h.line_eq]

/-! ### Statements -/

/-- An ambient declaration is found again if no comment joins the declared statement. -/
theorem ambient?_rel (h : Commented source t t') (hsingle : t.ambient? ≠ none →
    t'.namedChildren.length = 1) : Option.Rel (Commented source) t.ambient? t'.ambient? := by
  have hwoven := h.namedChildren
  cases hambient : t.ambient? with
  | some i =>
    obtain ⟨hnamed, htype⟩ := ambient?_eq_some.mp hambient
    obtain ⟨i', hnamed'⟩ := List.length_eq_one_iff.mp (hsingle (by rw [hambient]; simp))
    rw [hnamed, hnamed'] at hwoven
    have hi := hwoven.rel_of_singletons
    rw [ambient?_eq_some.mpr ⟨hnamed', hi.type_eq.trans htype⟩]
    exact .some hi
  | none =>
    cases hambient' : t'.ambient? with
    | none => exact .none
    | some i' =>
      obtain ⟨hnamed', htype'⟩ := ambient?_eq_some.mp hambient'
      rw [hnamed'] at hwoven
      obtain ⟨i, hnamed, hi⟩ := hwoven.eq_singleton (by rw [htype']; decide)
      rw [ambient?_eq_some.mpr ⟨hnamed, hi.type_eq.symm.trans htype'⟩] at hambient
      contradiction

/-- A statement with comments declares the same interface unless a comment hides it. -/
theorem interface?_rel (h : Commented source t t') (hshown : ¬Hides t t') :
    Option.Rel (Commented source) t.interface? t'.interface? := by
  induction t using children_induction generalizing t' with
  | h t ih =>
    rw [interface?_eq, interface?_eq, h.type_eq]
    split_ifs with hinterface hexport hambient
    · exact .some h
    · rcases rel_cases (h.child?_rel "declaration") with ⟨hnone, hnone'⟩ | ⟨d, d', hd, hd', hsame⟩
      · rw [hnone, hnone']
        exact .none
      · rw [hd, hd']
        exact ih d (mem_children_of_child? hd) hsame fun hhides =>
          hshown (.exported hexport hd hd' hhides)
    · refine ambient?_rel h fun hsome => ?_
      obtain ⟨i, hi⟩ := Option.ne_none_iff_exists'.mp hsome
      by_contra hmore
      exact hshown (.ambient hambient hi hmore)
    · exact .none

theorem Hides.interface?_ne_none (h : Hides t t') : t.interface? ≠ none := by
  induction h with
  | ambient htype hambient _ =>
    rw [interface?_eq, htype, hambient]
    simp
  | exported htype hd _ _ ih =>
    rw [interface?_eq, htype, hd]
    simpa using ih

/-- A comment next to the declared statement hides the interface. -/
theorem Hides.interface?_eq_none (h : Hides t t') (hcommented : Commented source t t') :
    t'.interface? = none := by
  induction h with
  | @ambient t t' i htype _ hmore =>
    rw [interface?_eq, hcommented.type_eq, htype]
    cases hambient : t'.ambient? with
    | none => simp
    | some i =>
      obtain ⟨hnamed, -⟩ := ambient?_eq_some.mp hambient
      rw [hnamed] at hmore
      exact absurd rfl hmore
  | @exported t t' d d' htype hd hd' _ ih =>
    have hrel := hcommented.child?_rel "declaration"
    rw [hd, hd'] at hrel
    cases hrel with
    | some hsame =>
      rw [interface?_eq, hcommented.type_eq, htype, hd']
      simpa using ih hsame

/-- An item keeps its interface, loses it, or never had one; no comment makes one. -/
theorem interface?_cases (h : Commented source c c') :
    (c.interface? = none ∧ c'.interface? = none) ∨
      (∃ i, c.interface? = some i ∧ c'.interface? = none) ∨
      ∃ i i', c.interface? = some i ∧ c'.interface? = some i' ∧ Commented source i i' := by
  by_cases hhides : Hides c c'
  · obtain ⟨i, hi⟩ := Option.ne_none_iff_exists'.mp hhides.interface?_ne_none
    exact Or.inr (Or.inl ⟨i, hi, hhides.interface?_eq_none h⟩)
  · rcases rel_cases (interface?_rel h hhides) with hnone | hsome
    · exact Or.inl hnone
    · exact Or.inr (Or.inr hsome)

theorem Keeps.item_eq (h : Keeps source c c') :
    ModuleItem.ofTree source c' = ModuleItem.ofTree source c := by
  unfold ModuleItem.ofTree
  rcases rel_cases (interface?_rel h.commented h.shown) with ⟨hnone, hnone'⟩ | ⟨i, i', hi, hi', hsame⟩
  · rw [hnone, hnone']
    simp only [h.commented.construct_eq]
  · rw [hi, hi']
    simp only [declaration_eq hsame (h.members i i' hi hi')]

theorem IsComment.item (h : IsComment source k) :
    ∃ construct, ModuleItem.ofTree source k = .ok (.other construct) := by
  obtain ⟨text, htext⟩ := h.text
  have hnone : k.interface? = none := by
    rw [interface?_eq, h.type]
    simp
  exact ⟨⟨kindName k.type, text, k.line⟩, by rw [ModuleItem.ofTree, hnone, Construct.ofTree, htext]; rfl⟩

/-! ### Modules -/

def declarationsIn (source : List UInt8) (cs : List Tree) : Reading (List InterfaceDeclaration) :=
  (cs.mapM (ModuleItem.ofTree source)).map Extraction.declarations

theorem declarationsIn_cons (c : Tree) (cs : List Tree) : declarationsIn source (c :: cs) =
    (ModuleItem.ofTree source c).bind fun item =>
      (declarationsIn source cs).map (item.declaration?.toList ++ ·) := by
  unfold declarationsIn
  rw [List.mapM_cons]
  cases ModuleItem.ofTree source c with
  | error e => rfl
  | ok item =>
    cases cs.mapM (ModuleItem.ofTree source) with
    | error e => rfl
    | ok items =>
      cases item with
      | other construct => rfl
      | interface d => rfl

theorem declarationsIn_comment (h : IsComment source k) (cs : List Tree) :
    declarationsIn source (k :: cs) = declarationsIn source cs := by
  obtain ⟨construct, hitem⟩ := h.item
  rw [declarationsIn_cons, hitem]
  cases declarationsIn source cs <;> rfl

/-- Items that keep what they declare give the same declarations, comments among them or not. -/
theorem declarationsIn_eq (h : Woven source (Keeps source) cs cs') :
    declarationsIn source cs' = declarationsIn source cs := by
  induction h with
  | nil => rfl
  | @child c c' cs cs' hc _ ih => rw [declarationsIn_cons, declarationsIn_cons, hc.item_eq, ih]
  | @comment k cs cs' hk _ ih => rw [declarationsIn_comment hk, ih]

/-! ### Where comments show -/

/-- No type of a tree is read as a comment is. -/
def HasTypes (t : Tree) : Prop :=
  ∀ n ∈ t.nodes, ∀ a, n.child? "type" = some a → kindName a.annotated.type ≠ kindName "comment"

theorem HasTypes.inside (h : t.HasTypes) (hi : i ∈ t.nodes) : i.HasTypes :=
  fun n hn => h n (mem_nodes_trans hi hn)

/-- An annotation is the keyword it spells, or else has the kind of its node. -/
theorem annotation_eq_ok {a : Annotation} (h : Annotation.ofTree source t = .ok a) :
    ∃ text, t.text source = .ok text ∧ ((∃ p, t.keyword? text = some p ∧ a = .keyword p t.line) ∨
      t.keyword? text = none ∧ a = .other ⟨kindName t.type, text, t.line⟩) := by
  obtain ⟨text, htext, h⟩ := bind_eq_ok.mp h
  refine ⟨text, htext, ?_⟩
  split at h
  · rename_i p hp
    exact Or.inl ⟨p, hp, (Except.ok.inj h).symm⟩
  · rename_i hnone
    exact Or.inr ⟨hnone, (Except.ok.inj h).symm⟩

/-- A comment in the place of a type has the kind of a comment, which no type has. -/
theorem kind_of_comment {a : Annotation} (hk : IsComment source k)
    (h : Annotation.ofTree source k = .ok a) : a.kind = kindName "comment" := by
  obtain ⟨text, -, ⟨p, hp, -⟩ | ⟨-, rfl⟩⟩ := annotation_eq_ok h
  · obtain ⟨hname, hp⟩ := (keyword?_bare (by simp [hk.type]) (by simp [hk.type])
      (by simp [hk.type])).mp hp
    rw [hk.type] at hname
    rcases hp with rfl | rfl
    · exact absurd hname (by decide)
    · exact absurd hname (by decide)
  · rw [← hk.type]
    rfl

theorem annotated_eq (t : Tree) : t.annotated = t.namedChildren.getLast?.getD t :=
  List.getLastD_eq_getLast?

/-- What is read for a type is what was, or a comment. -/
theorem annotated_rel (h : Commented source a a') :
    Commented source a.annotated a'.annotated ∨ IsComment source a'.annotated := by
  rw [annotated_eq, annotated_eq]
  rcases h.namedChildren.getLast?_rel with hrel | ⟨k, hlast, hk⟩
  · left
    rcases rel_cases hrel with ⟨hnone, hnone'⟩ | ⟨c, c', hc, hc', hsame⟩
    · rw [hnone, hnone']
      exact h
    · rw [hc, hc']
      exact hsame
  · right
    rw [hlast]
    exact hk

/-- If a type is read the same, no comment has taken its place. -/
theorem keepsType_of_eq {stated : Annotation} (h : Commented source a a')
    (hread : Annotation.ofTree source a.annotated = .ok stated)
    (hread' : Annotation.ofTree source a'.annotated = .ok stated)
    (hplain : kindName a.annotated.type ≠ kindName "comment") : KeepsType source a a' := by
  rcases annotated_rel h with hannotated | hcomment
  · refine ⟨hannotated, fun htype c hc hkeyword => ?_⟩
    have hliteral : ∃ p, c.type = Primitive.name p ∧ (p = .null ∨ p = .undefined) := by
      rcases List.mem_pair.mp hkeyword with hnull | hundefined
      · exact ⟨.null, hnull, Or.inl rfl⟩
      · exact ⟨.undefined, hundefined, Or.inr rfl⟩
    obtain ⟨p, hname, hp⟩ := hliteral
    obtain ⟨text, -, ⟨q, -, hq⟩ | ⟨hnone, -⟩⟩ := annotation_eq_ok hread
    · -- It spells a keyword, so it does with the comments, and no other node is beside the keyword.
      obtain ⟨text', -, ⟨q', hq', -⟩ | ⟨-, hother⟩⟩ := annotation_eq_ok hread'
      · obtain ⟨c', hc', -⟩ := (keyword?_literal (hannotated.type_eq.trans htype)).mp hq'
        exact ⟨c', hc'⟩
      · rw [hq] at hother
        contradiction
    · rw [(keyword?_literal htype).mpr ⟨c, hc, hname, hp⟩] at hnone
      contradiction
  · exfalso
    have hkind := kind_of_comment hcomment hread'
    obtain ⟨text, -, ⟨p, -, rfl⟩ | ⟨-, rfl⟩⟩ := annotation_eq_ok hread
    · have hne : "KeywordType" ≠ kindName "comment" := by decide
      exact hne hkind
    · exact hplain hkind

theorem annotation_of_member {x : Member} (htype : m.type = "property_signature")
    (ha : m.child? "type" = some a) (h : Member.ofTree source m = .ok x) :
    ∃ s stated, x = .property s ∧ s.annotation = some stated ∧
      Annotation.ofTree source a.annotated = .ok stated := by
  unfold Member.ofTree at h
  rw [if_neg (not_not.mpr htype)] at h
  obtain ⟨key, -, h⟩ := bind_eq_ok.mp h
  rw [ha] at h
  obtain ⟨stated, hstated, h⟩ := bind_eq_ok.mp h
  obtain ⟨read, hread, rfl⟩ := map_eq_ok.mp hstated
  exact ⟨_, read, (Except.ok.inj h).symm, rfl, hread⟩

theorem keepsMember_of_eq {x : Member} (h : Commented source m m')
    (hread : Member.ofTree source m = .ok x) (hread' : Member.ofTree source m' = .ok x)
    (hplain : ∀ a, m.child? "type" = some a → kindName a.annotated.type ≠ kindName "comment") :
    KeepsMember source m m' := by
  refine ⟨h, fun htype a a' ha ha' => ?_⟩
  have hsame := h.child?_rel "type"
  rw [ha, ha'] at hsame
  cases hsame with
  | some hcommented =>
    obtain ⟨s, stated, rfl, hs, hstated⟩ := annotation_of_member htype ha hread
    obtain ⟨s', stated', hx, hs', hstated'⟩ :=
      annotation_of_member (h.type_eq.trans htype) ha' hread'
    rw [← Member.property.inj hx, hs] at hs'
    rw [← Option.some.inj hs'] at hstated'
    exact keepsType_of_eq hcommented hstated hstated' (hplain a ha)

theorem mem_nodes_of_mem_members (h : m ∈ t.members) : m ∈ t.nodes := by
  unfold members at h
  split at h
  · rename_i body hbody
    exact mem_nodes_of_mem_children (mem_children_of_body? hbody)
      (mem_nodes_of_mem_children (List.mem_of_mem_filter h) (mem_nodes_self m))
  · exact absurd h List.not_mem_nil

/-- The converse for members, one by one. -/
theorem keepsMembers_of_eq {xs : List Member} (h : List.Forall₂ (Commented source) cs cs')
    (hread : cs.mapM (Member.ofTree source) = .ok xs)
    (hread' : cs'.mapM (Member.ofTree source) = .ok xs)
    (hplain : ∀ m ∈ cs, ∀ a, m.child? "type" = some a →
      kindName a.annotated.type ≠ kindName "comment") :
    List.Forall₂ (KeepsMember source) cs cs' := by
  rw [mapM_eq_ok] at hread hread'
  induction h generalizing xs with
  | nil => exact .nil
  | cons hm _ ih =>
    obtain ⟨hfirst, hrest⟩ := List.forall_mem_cons.mp hplain
    obtain ⟨x, rest, hx, hxs, rfl⟩ := List.forall₂_cons_left_iff.mp hread
    obtain ⟨hx', hxs'⟩ := List.forall₂_cons.mp hread'
    exact .cons (keepsMember_of_eq hm hx hx' hfirst) (ih hxs hxs' hrest)

/-- If a declaration is read the same, each of its members has kept its type. -/
theorem keepsInterface_of_eq {d : InterfaceDeclaration} (h : Commented source i i')
    (hread : InterfaceDeclaration.ofTree source i = .ok d)
    (hread' : InterfaceDeclaration.ofTree source i' = .ok d) (hplain : i.HasTypes) :
    List.Forall₂ (KeepsMember source) i.members i'.members := by
  have hmembers : ∀ {i : Tree}, InterfaceDeclaration.ofTree source i = .ok d →
      i.members.mapM (Member.ofTree source) = .ok d.members := by
    intro i hread
    obtain ⟨name, -, hread⟩ := bind_eq_ok.mp hread
    obtain ⟨parameters, -, hread⟩ := bind_eq_ok.mp hread
    obtain ⟨heritage, -, hread⟩ := bind_eq_ok.mp hread
    obtain ⟨members, hmembers, hread⟩ := bind_eq_ok.mp hread
    rw [members_eq] at hmembers
    rw [hmembers, ← Except.ok.inj hread]
  exact keepsMembers_of_eq h.members_rel (hmembers hread) (hmembers hread') fun m hm a ha =>
    hplain m (mem_nodes_of_mem_members hm) a ha

theorem declarationsIn_cons_eq_ok {ds : List InterfaceDeclaration} :
    declarationsIn source (c :: cs) = .ok ds ↔ ∃ item rest, ModuleItem.ofTree source c = .ok item ∧
      declarationsIn source cs = .ok rest ∧ item.declaration?.toList ++ rest = ds := by
  rw [declarationsIn_cons]
  cases ModuleItem.ofTree source c with
  | error e => simp [Except.bind]
  | ok item => simp [Except.bind, map_eq_ok]

theorem item_eq_other {item : ModuleItem} (hnone : c.interface? = none)
    (h : ModuleItem.ofTree source c = .ok item) : item.declaration? = none := by
  rw [ModuleItem.ofTree, hnone] at h
  obtain ⟨construct, -, rfl⟩ := map_eq_ok.mp h
  rfl

/-- An item with an interface inside is read as the declaration of that interface. -/
theorem item_eq_interface {item : ModuleItem} (hi : c.interface? = some i)
    (h : ModuleItem.ofTree source c = .ok item) :
    ∃ d, InterfaceDeclaration.ofTree source i = .ok d ∧ item.declaration? = some d := by
  rw [ModuleItem.ofTree, hi] at h
  obtain ⟨d, hd, rfl⟩ := map_eq_ok.mp h
  exact ⟨d, hd, rfl⟩

/-- Comments can hide declarations, not add any. -/
theorem length_declarationsIn_le {ds ds' : List InterfaceDeclaration}
    (h : Woven source (Commented source) cs cs') (hread : declarationsIn source cs = .ok ds)
    (hread' : declarationsIn source cs' = .ok ds') : ds'.length ≤ ds.length := by
  induction h generalizing ds ds' with
  | nil =>
    rw [Except.ok.inj (hread.symm.trans hread')]
  | @child c c' cs cs' hc _ ih =>
    obtain ⟨item, rest, hitem, hrest, rfl⟩ := declarationsIn_cons_eq_ok.mp hread
    obtain ⟨item', rest', hitem', hrest', rfl⟩ := declarationsIn_cons_eq_ok.mp hread'
    have hle := ih hrest hrest'
    rcases interface?_cases hc with ⟨hnone, hnone'⟩ | ⟨i, hi, hnone'⟩ | ⟨i, i', hi, hi', -⟩
    · rw [item_eq_other hnone hitem, item_eq_other hnone' hitem']
      exact hle
    · rw [item_eq_other hnone' hitem', Option.toList_none, List.nil_append, List.length_append]
      exact le_trans hle (Nat.le_add_left _ _)
    · obtain ⟨d, -, hd⟩ := item_eq_interface hi hitem
      obtain ⟨d', -, hd'⟩ := item_eq_interface hi' hitem'
      rw [hd, hd']
      exact Nat.succ_le_succ hle
  | comment hk _ ih =>
    rw [declarationsIn_comment hk] at hread'
    exact ih hread hread'

/-- If the same declarations are read, comments leave all statements as they are. -/
theorem keeps_of_declarationsIn {ds : List InterfaceDeclaration}
    (h : Woven source (Commented source) cs cs') (hplain : ∀ c ∈ cs, c.HasTypes)
    (hread : declarationsIn source cs = .ok ds) (hread' : declarationsIn source cs' = .ok ds) :
    Woven source (Keeps source) cs cs' := by
  induction h generalizing ds with
  | nil => exact .nil
  | @child c c' cs cs' hc hcs ih =>
    obtain ⟨hfirst, hplain⟩ := List.forall_mem_cons.mp hplain
    obtain ⟨item, rest, hitem, hrest, rfl⟩ := declarationsIn_cons_eq_ok.mp hread
    obtain ⟨item', rest', hitem', hrest', hsame⟩ := declarationsIn_cons_eq_ok.mp hread'
    rcases interface?_cases hc with ⟨hnone, hnone'⟩ | ⟨i, hi, hnone'⟩ | ⟨i, i', hi, hi', hcommented⟩
    · rw [item_eq_other hnone hitem, item_eq_other hnone' hitem'] at hsame
      obtain rfl : rest' = rest := hsame
      refine .child ⟨hc, fun hhides => hhides.interface?_ne_none hnone, fun i i' hi _ => ?_⟩
        (ih hplain hrest hrest')
      rw [hnone] at hi
      contradiction
    · -- The declaration that is hidden here would be missing in the end.
      obtain ⟨d, -, hd⟩ := item_eq_interface hi hitem
      rw [hd, item_eq_other hnone' hitem'] at hsame
      have hle := length_declarationsIn_le hcs hrest hrest'
      have hlength : rest'.length = rest.length + 1 := congrArg List.length hsame
      omega
    · obtain ⟨d, hfound, hd⟩ := item_eq_interface hi hitem
      obtain ⟨d', hfound', hd'⟩ := item_eq_interface hi' hitem'
      rw [hd, hd'] at hsame
      obtain ⟨rfl, hrests⟩ := List.cons.inj hsame
      obtain rfl : rest' = rest := hrests
      refine .child ⟨hc, fun hhides => ?_, fun j j' hj hj' => ?_⟩ (ih hplain hrest hrest')
      · rw [hhides.interface?_eq_none hc] at hi'
        contradiction
      · obtain rfl := Option.some.inj (hi.symm.trans hj)
        obtain rfl := Option.some.inj (hi'.symm.trans hj')
        exact keepsInterface_of_eq hcommented hfound hfound' (hfirst.inside (mem_nodes_of_interface? hi))
  | comment hk _ ih =>
    rw [declarationsIn_comment hk] at hread'
    exact .comment hk (ih hplain hread hread')

end Tree

namespace Extraction

/-- Extraction passes over whatever is no declaration. -/
theorem all_eq_foldlM (r : Resolvers) (items : List ModuleItem) : all r items =
    (declarations items).foldlM (fun found d => interface r d >>= fun new => add new found) [] := by
  unfold all
  generalize [] = found
  induction items generalizing found with
  | nil => rfl
  | cons item items ih =>
    cases item with
    | other construct => exact ih found
    | interface d =>
      have hcons : declarations (.interface d :: items) = d :: declarations items := rfl
      rw [hcons, List.foldlM_cons, List.foldlM_cons]
      simp only [ih]
      rfl

end Extraction

namespace Tree

open TypeScript

variable {source : List UInt8} {t t' : Tree}

theorem declarations_of_module {module : Module} (h : Module.ofTree source t = .ok module) :
    declarationsIn source t.namedChildren = .ok (Extraction.declarations module.items) := by
  obtain ⟨items, hitems, heq⟩ := bind_eq_ok.mp h
  rw [declarationsIn, hitems, ← Except.ok.inj heq]
  rfl

/-- The interfaces of a tree are told by the declarations among its statements. -/
theorem interfaces_eq_foldlM (r : Resolvers) (source : List UInt8) (t : Tree) :
    moduleOf source t >>= interfacesOf r =
      (declarationsIn source t.namedChildren).mapError .undecodable >>= fun ds =>
        (ds.foldlM (fun found d => Extraction.interface r d >>= fun new => Extraction.add new found)
          []).mapError .extraction := by
  unfold moduleOf Module.ofTree declarationsIn interfacesOf
  simp only [Extraction.all_eq_foldlM]
  cases t.namedChildren.mapM (ModuleItem.ofTree source) <;> rfl

/-- Comments change nothing of what is extracted if they leave all statements as they are, and
otherwise they change the declarations that are read. -/
theorem extracts_commented (h : Commented source t t') :
    (Woven source (Keeps source) t.namedChildren t'.namedChildren → ∀ r : Resolvers,
      moduleOf source t' >>= interfacesOf r = moduleOf source t >>= interfacesOf r) ∧
    (t.HasTypes → ∀ module module', Module.ofTree source t = .ok module →
      Module.ofTree source t' = .ok module' →
      (Extraction.declarations module'.items = Extraction.declarations module.items ↔
        Woven source (Keeps source) t.namedChildren t'.namedChildren)) := by
  refine ⟨fun hkeeps r => ?_,
    fun hplain module module' hread hread' => ⟨fun hsame => ?_, fun hkeeps => ?_⟩⟩
  · rw [interfaces_eq_foldlM, interfaces_eq_foldlM, declarationsIn_eq hkeeps]
  · have hdeclarations := declarations_of_module hread'
    rw [hsame] at hdeclarations
    exact keeps_of_declarationsIn h.namedChildren
      (fun c hc => hplain.inside (mem_nodes_of_mem_children (List.mem_of_mem_filter hc)
        (mem_nodes_self c))) (declarations_of_module hread) hdeclarations
  · have hdeclarations := declarations_of_module hread'
    rw [declarationsIn_eq hkeeps, declarations_of_module hread] at hdeclarations
    exact (Except.ok.inj hdeclarations).symm

def ambientSource : List UInt8 := Encoding.Utf8.encode "declare /**/ interface A\x7b/**/\x7d".toList

def outerComment : Tree := spanning "comment" 8 12 true none []

def innerComment : Tree := spanning "comment" 25 29 true none []

def ambientInterface (inner : List Tree) : Tree :=
  spanning "interface_declaration" 13 30 true none
    [spanning "interface" 13 22 false none [], spanning "type_identifier" 23 24 true (some "name") [],
     spanning "interface_body" 24 30 true (some "body")
      (spanning "\x7b" 24 25 false none [] :: inner ++ [spanning "\x7d" 29 30 false none []])]

def ambientModule (outer inner : List Tree) : Tree :=
  spanning "program" 0 30 true none
    [spanning "ambient_declaration" 0 30 true none
      (spanning "declare" 0 7 false none [] :: outer ++ [ambientInterface inner])]

theorem outerComment_isComment : IsComment ambientSource outerComment :=
  ⟨rfl, rfl, rfl, rfl, "/**/", by decide +kernel⟩

theorem innerComment_isComment : IsComment ambientSource innerComment :=
  ⟨rfl, rfl, rfl, rfl, "/**/", by decide +kernel⟩

theorem ambientInterface_commented :
    Commented ambientSource (ambientInterface []) (ambientInterface [innerComment]) :=
  .node (.child (.refl _) (.child (.refl _) (.child (.node (.child (.refl _)
    (.comment innerComment_isComment (.child (.refl _) .nil)))) .nil)))

theorem extracts_commented_body :
    Commented ambientSource (ambientModule [] []) (ambientModule [] [innerComment]) ∧
      moduleOf ambientSource (ambientModule [] [innerComment]) >>= interfacesOf .keywordsOnly =
        moduleOf ambientSource (ambientModule [] []) >>= interfacesOf .keywordsOnly := by
  have hstatement : Commented ambientSource
      (spanning "ambient_declaration" 0 30 true none
        [spanning "declare" 0 7 false none [], ambientInterface []])
      (spanning "ambient_declaration" 0 30 true none
        [spanning "declare" 0 7 false none [], ambientInterface [innerComment]]) :=
    .node (.child (.refl _) (.child ambientInterface_commented .nil))
  have hmodule : Commented ambientSource (ambientModule [] []) (ambientModule [] [innerComment]) :=
    .node (.child hstatement .nil)
  refine ⟨hmodule, (extracts_commented hmodule).1 (.child ⟨hstatement, ?_, ?_⟩ .nil) _⟩
  · intro hhides
    cases hhides with
    | ambient _ _ hmore => exact hmore rfl
    | exported htype _ _ _ => exact absurd htype (by decide)
  · intro i i' hi hi'
    obtain rfl := Option.some.inj hi
    obtain rfl := Option.some.inj hi'
    exact .nil

/-- A comment between the keywords hides the interface. -/
theorem comment_hides_interface :
    Commented ambientSource (ambientModule [] []) (ambientModule [outerComment] []) ∧
      moduleOf ambientSource (ambientModule [] []) >>= interfacesOf .keywordsOnly =
        .ok [{ name := "A", properties := [], line := some 1 }] ∧
      moduleOf ambientSource (ambientModule [outerComment] []) >>= interfacesOf .keywordsOnly =
        .ok [] := by
  refine ⟨?_, by decide +kernel, by decide +kernel⟩
  exact .node (.child (.node (.child (.refl _)
    (.comment outerComment_isComment (.child (.refl _) .nil)))) .nil)

end Tree

end TypeGuards
