import TypeGuards.Proofs.Encoding.Utf8
import TypeGuards.Proofs.Extraction
import TypeGuards.Declaration.OfTree
/-!
The interfaces that are accepted, as a grammar on syntax trees. Reading a tree and extracting what
was read together accept this grammar and nothing else, and the interface found has one property for
each member.
-/
namespace TypeGuards

open Encoding

namespace Tree

mutual

/-- The nodes of a tree, each before those inside it. -/
def nodes : Tree → List Tree
  | ⟨type, start, stop, row, isNamed, field, isMissing, hasError, children⟩ =>
      ⟨type, start, stop, row, isNamed, field, isMissing, hasError, children⟩ :: nodesIn children

def nodesIn : List Tree → List Tree
  | [] => []
  | t :: rest => nodes t ++ nodesIn rest

end

theorem nodes_eq (t : Tree) : t.nodes = t :: nodesIn t.children := by
  cases t
  rw [nodes]

theorem mem_nodesIn {n : Tree} {trees : List Tree} :
    n ∈ nodesIn trees ↔ ∃ t ∈ trees, n ∈ t.nodes := by
  induction trees with
  | nil => simp [nodesIn]
  | cons t rest ih => simp [nodesIn, ih]

theorem mem_nodes_self (t : Tree) : t ∈ t.nodes := by
  rw [nodes_eq]
  exact List.mem_cons_self

theorem mem_nodes_of_mem_children {n c t : Tree} (hc : c ∈ t.children) (hn : n ∈ c.nodes) :
    n ∈ t.nodes := by
  rw [nodes_eq]
  exact List.mem_cons_of_mem t (mem_nodesIn.mpr ⟨c, hc, hn⟩)

/-- The nodes of a tree begin and end between characters of a text. -/
def Fits (text : List Char) (t : Tree) : Prop :=
  ∀ n ∈ t.nodes, Utf8.IsBoundary text n.start ∧ Utf8.IsBoundary text n.stop

def identifierTypes : List String := ["type_identifier", "property_identifier"]

/-- No identifier of a tree is empty. -/
def HasNames (source : List UInt8) (t : Tree) : Prop :=
  ∀ n ∈ t.nodes, n.type ∈ identifierTypes → n.text source ≠ .ok ""

/-! ### The grammar -/

/-- A node spells the keyword of a primitive type. -/
inductive Spells (source : List UInt8) (t : Tree) (p : Primitive) : Prop
  | predefined {text : String} : t.type = "predefined_type" → t.text source = .ok text →
      Text.trim text.toList = p.name.toList → Spells source t p
  | identifier {text : String} : t.type = "type_identifier" → t.text source = .ok text →
      Text.trim text.toList = p.name.toList → p = .bigint ∨ p = .undefined → Spells source t p
  | literal {c : Tree} : t.type = "literal_type" → t.namedChildren = [c] → c.type = p.name →
      p = .null ∨ p = .undefined → Spells source t p
  | bare : t.type = p.name → p = .null ∨ p = .undefined → Spells source t p

/-- The type that stands in a type node: its last named child, or the node if it has none. -/
def annotated (t : Tree) : Tree := t.namedChildren.getLastD t

def isOptional (t : Tree) : Bool := t.children.any (·.type = "?")

/-- A node that is accepted as a member of an interface. -/
structure IsPlainMember (source : List UInt8) (t : Tree) : Prop where
  type : t.type = "property_signature"
  name : ∃ n, t.child? "name" = some n ∧ n.type = "property_identifier"
  annotation : ∀ a, t.child? "type" = some a → ∃ p, Spells source a.annotated p

structure DeclaresProperty (source : List UInt8) (t : Tree) (p : Property) : Prop where
  type : t.type = "property_signature"
  name : ∃ n, t.child? "name" = some n ∧ n.type = "property_identifier" ∧ n.text source = .ok p.name
  kind : (t.child? "type" = none ∧ p.kind = none) ∨
    ∃ a k, t.child? "type" = some a ∧ Spells source a.annotated k ∧ p.kind = some k
  optional : p.optional = t.isOptional

/-- The members of an interface: the named nodes of its body other than comments and separators. -/
def members (t : Tree) : List Tree :=
  match InterfaceDeclaration.body? t with
  | some body => body.children.filter fun c => c.isNamed && !(["comment", ";", ","].contains c.type)
  | none => []

structure IsPlainInterface (source : List UInt8) (t : Tree) : Prop where
  name : ∃ n, t.child? "name" = some n ∧ n.type = "type_identifier"
  parameters : t.child? "type_parameters" = none
  heritage : ∀ c ∈ t.children, c.type ≠ "extends_type_clause" ∧ c.type ≠ "extends_clause"
  members : ∀ m ∈ t.members, IsPlainMember source m

structure DeclaresInterface (source : List UInt8) (t : Tree) (i : Interface) : Prop where
  name : ∃ n, t.child? "name" = some n ∧ n.type = "type_identifier" ∧ n.text source = .ok i.name
  line : i.line = some (t.line : Int)
  properties : List.Forall₂ (DeclaresProperty source) t.members i.properties

/-- A tree is read as a declaration from which an interface is extracted. -/
def Reads (source : List UInt8) (t : Tree) (i : Interface) : Prop :=
  ∃ d, ModuleItem.ofTree source t = .ok (.interface d) ∧
    Extraction.interface .keywordsOnly d = .ok i

end Tree

/-! ### Types -/

theorem Primitive.ofName?_eq_some {text : String} {p : Primitive} :
    Primitive.ofName? text = some p ↔ text = p.name := by
  constructor
  · intro h
    have hname := List.find?_some h
    exact (of_decide_eq_true hname).symm
  · rintro rfl
    exact Primitive.ofName?_name p

namespace Tree

variable {source : List UInt8}

theorem literalKeyword_eq_some {text : String} {p : Primitive} :
    (if literalKeywords.contains text then Primitive.ofName? text else none) = some p ↔
      text = p.name ∧ (p = .null ∨ p = .undefined) := by
  constructor
  · intro h
    split_ifs at h with hmem
    have htext := Primitive.ofName?_eq_some.mp h
    refine ⟨htext, ?_⟩
    rw [htext] at hmem
    revert hmem
    cases p <;> decide
  · rintro ⟨rfl, rfl | rfl⟩
    · decide
    · decide

theorem keyword?_predefined {t : Tree} {text : String} (h : t.type = "predefined_type") :
    t.keyword? text = Primitive.ofName? (String.ofList (Text.trim text.toList)) := by
  simp only [keyword?, h]
  cases Primitive.ofName? (String.ofList (Text.trim text.toList)) <;> simp [literalKeywords]

theorem keyword?_identifier {t : Tree} {text : String} {p : Primitive}
    (h : t.type = "type_identifier") : t.keyword? text = some p ↔
      Primitive.ofName? (String.ofList (Text.trim text.toList)) = some p ∧
        (p = .bigint ∨ p = .undefined) := by
  simp only [keyword?, h]
  cases hspelled : Primitive.ofName? (String.ofList (Text.trim text.toList)) with
  | none => simp [literalKeywords]
  | some q => cases q <;> cases p <;> simp [literalKeywords]

theorem keyword?_literal {t : Tree} {text : String} {p : Primitive}
    (h : t.type = "literal_type") : t.keyword? text = some p ↔
      ∃ c, t.namedChildren = [c] ∧ c.type = p.name ∧ (p = .null ∨ p = .undefined) := by
  simp only [keyword?, h]
  rcases hchildren : t.namedChildren with _ | ⟨c, _ | ⟨d, rest⟩⟩
  · simp
  · simpa using literalKeyword_eq_some
  · simp

theorem keyword?_bare {t : Tree} {text : String} {p : Primitive}
    (hpredefined : t.type ≠ "predefined_type")
    (hidentifier : t.type ≠ "type_identifier") (hliteral : t.type ≠ "literal_type") :
    t.keyword? text = some p ↔ t.type = p.name ∧ (p = .null ∨ p = .undefined) := by
  simpa [keyword?, hpredefined, hidentifier, hliteral] using literalKeyword_eq_some

/-- A node is read as a keyword exactly if it spells one, whatever the type of the node. -/
theorem keyword?_eq_some {t : Tree} {text : String} (htext : t.text source = .ok text)
    {p : Primitive} : t.keyword? text = some p ↔ Spells source t p := by
  have hspelled : Primitive.ofName? (String.ofList (Text.trim text.toList)) = some p ↔
      Text.trim text.toList = p.name.toList := by
    rw [Primitive.ofName?_eq_some, ← String.toList_inj, String.toList_ofList]
  have hsame : ∀ text', t.text source = .ok text' → text' = text := fun text' h =>
    Except.ok.inj (h.symm.trans htext)
  have hbare : t.type = p.name → t.type ≠ "predefined_type" ∧ t.type ≠ "type_identifier" ∧
      t.type ≠ "literal_type" := by
    intro h
    rw [h]
    cases p <;> decide
  constructor
  · intro h
    by_cases hpredefined : t.type = "predefined_type"
    · rw [keyword?_predefined hpredefined, hspelled] at h
      exact .predefined hpredefined htext h
    by_cases hidentifier : t.type = "type_identifier"
    · rw [keyword?_identifier hidentifier, hspelled] at h
      exact .identifier hidentifier htext h.1 h.2
    by_cases hliteral : t.type = "literal_type"
    · obtain ⟨c, hc, htype, hp⟩ := (keyword?_literal hliteral).mp h
      exact .literal hliteral hc htype hp
    · obtain ⟨htype, hp⟩ := (keyword?_bare hpredefined hidentifier hliteral).mp h
      exact .bare htype hp
  · intro h
    cases h with
    | predefined htype htext' htrim =>
      obtain rfl := hsame _ htext'
      rw [keyword?_predefined htype, hspelled]
      exact htrim
    | identifier htype htext' htrim hp =>
      obtain rfl := hsame _ htext'
      rw [keyword?_identifier htype, hspelled]
      exact ⟨htrim, hp⟩
    | literal htype hc hname hp => exact (keyword?_literal htype).mpr ⟨_, hc, hname, hp⟩
    | bare htype hp =>
      obtain ⟨hpredefined, hidentifier, hliteral⟩ := hbare htype
      exact (keyword?_bare hpredefined hidentifier hliteral).mpr ⟨htype, hp⟩

/-! ### Reading and extracting -/

/-- Every node of a tree has a text. -/
def Legible (source : List UInt8) (t : Tree) : Prop := ∀ n ∈ t.nodes, ∃ text, n.text source = .ok text

/-- Spans that fit a text cut no character of it, so every node has a text. -/
theorem Fits.legible {text : List Char} {t : Tree} (h : t.Fits text) :
    t.Legible (Utf8.encode text) := by
  intro n hn
  obtain ⟨hstart, hstop⟩ := h n hn
  obtain ⟨part, hpart⟩ := Utf8.exists_slice hstart hstop
  exact ⟨String.ofList part, by rw [Tree.text, hpart, Utf8.decode_encode]; rfl⟩

theorem Legible.child {t c : Tree} (h : t.Legible source) (hc : c ∈ t.children) :
    c.Legible source := fun n hn => h n (mem_nodes_of_mem_children hc hn)

theorem Legible.text {t : Tree} (h : t.Legible source) : ∃ text, t.text source = .ok text :=
  h t (mem_nodes_self t)

theorem mem_children_of_child? {t c : Tree} {field : String} (h : t.child? field = some c) :
    c ∈ t.children := List.mem_of_find?_eq_some h

/-- A legible node can always be described in an error. -/
theorem construct_ofTree {t : Tree} (h : t.Legible source) :
    ∃ c, Construct.ofTree source t = .ok c := by
  obtain ⟨text, htext⟩ := h.text
  exact ⟨⟨kindName t.type, text, t.line⟩, by rw [Construct.ofTree, htext]; rfl⟩

/-- A name is read as an identifier exactly if a node of the right type stands in its role. -/
theorem name_ofTree {t : Tree} (h : t.Legible source) (type field : String) :
    ∃ d, DeclaredName.ofTree source type t (t.child? field) = .ok d ∧
      ∀ s, d.identifier? = some s ↔
        ∃ n, t.child? field = some n ∧ n.type = type ∧ n.text source = .ok s := by
  cases hchild : t.child? field with
  | none =>
    obtain ⟨c, hc⟩ := construct_ofTree h
    refine ⟨.other c, ?_, by simp [DeclaredName.identifier?]⟩
    rw [DeclaredName.ofTree, hc]
    rfl
  | some n =>
    have hn := h.child (mem_children_of_child? hchild)
    by_cases htype : n.type = type
    · obtain ⟨text, htext⟩ := hn.text
      refine ⟨.identifier text n.line, ?_, ?_⟩
      · rw [DeclaredName.ofTree, if_pos htype, htext]
        rfl
      · intro s
        simp [DeclaredName.identifier?, htype, htext]
    · obtain ⟨c, hc⟩ := construct_ofTree hn
      refine ⟨.other c, ?_, by simp [DeclaredName.identifier?, htype]⟩
      rw [DeclaredName.ofTree, if_neg htype, hc]
      rfl

theorem resolve_keywordsOnly {a : Annotation} {p : Primitive} :
    Resolvers.keywordsOnly.resolve a = .ok p ↔ ∃ line, a = .keyword p line := by
  cases a with
  | keyword q line => simp [Extraction.resolve_keyword]
  | other c =>
    obtain ⟨u, -, -, hresolve⟩ := Extraction.exists_resolve_other c
    simp [hresolve]

/-- An annotation resolves to a type exactly if its node spells the keyword of the type. -/
theorem annotation_ofTree {t : Tree} (h : t.Legible source) :
    ∃ a, Annotation.ofTree source t = .ok a ∧
      ∀ p, Resolvers.keywordsOnly.resolve a = .ok p ↔ Spells source t p := by
  obtain ⟨text, htext⟩ := h.text
  cases hkeyword : t.keyword? text with
  | none =>
    refine ⟨.other ⟨kindName t.type, text, t.line⟩, ?_, fun p => ?_⟩
    · rw [ Annotation.ofTree, htext]
      simp only [bind, Except.bind, hkeyword]
      rfl
    · rw [resolve_keywordsOnly, ← keyword?_eq_some htext, hkeyword]
      simp
  | some q =>
    refine ⟨.keyword q t.line, ?_, fun p => ?_⟩
    · rw [ Annotation.ofTree, htext]
      simp only [bind, Except.bind, hkeyword]
      rfl
    · rw [resolve_keywordsOnly, ← keyword?_eq_some htext, hkeyword]
      simp

end Tree

namespace Extraction

theorem kindOf_eq_ok {r : Resolvers} {interface property : String} {a : Option Annotation}
    {k : Option Primitive} : kindOf r interface property a = .ok k ↔
      (a = none ∧ k = none) ∨ ∃ b p, a = some b ∧ r.resolve b = .ok p ∧ k = some p := by
  cases a with
  | none => simp [kindOf, eq_comm]
  | some b =>
    rw [kindOf]
    cases hresolve : r.resolve b <;> simp [hresolve, eq_comm]

/-- What the extraction of a property asks for, as one condition. -/
theorem property_eq_ok {r : Resolvers} {interface : String} {m : Member} {p : Property} :
    property r interface m = .ok p ↔
      ∃ s, m = .property s ∧ s.key.identifier? = some p.name ∧ p.name ≠ "" ∧
        kindOf r interface p.name s.annotation = .ok p.kind ∧ p.optional = s.optional := by
  obtain ⟨pname, pkind, poptional⟩ := p
  cases m with
  | other c => exact iff_of_false refuse_ne_ok (by simp)
  | property s =>
    rw [property]
    cases hkey : s.key with
    | other c => exact iff_of_false refuse_ne_ok (by simp [hkey, DeclaredName.identifier?])
    | identifier name line =>
      simp only [bind_eq_ok, Member.property.injEq, exists_eq_left', hkey,
        DeclaredName.identifier?, Option.some.injEq]
      constructor
      · rintro ⟨kind, hkind, hend⟩
        by_cases hempty : name = ""
        · rw [if_pos hempty] at hend
          exact absurd hend (by simp)
        · rw [if_neg hempty] at hend
          obtain ⟨rfl, rfl, rfl⟩ := Property.mk.inj (Except.ok.inj hend)
          exact ⟨rfl, hempty, hkind, rfl⟩
      · rintro ⟨rfl, hempty, hkind, rfl⟩
        exact ⟨pkind, hkind, if_neg hempty⟩

end Extraction

namespace Tree

variable {source : List UInt8}

theorem Legible.annotated {t : Tree} (h : t.Legible source) : t.annotated.Legible source := by
  unfold Tree.annotated
  cases hlast : t.namedChildren.getLast? with
  | none => rwa [List.getLastD_eq_getLast?, hlast]
  | some c =>
    rw [List.getLastD_eq_getLast?, hlast]
    exact h.child (List.mem_of_mem_filter (List.mem_of_getLast? hlast))

/-- The conditions that extraction makes on a signature are those of the grammar. -/
theorem property_iff_declares {t : Tree} {s : PropertySignature} (htype : t.type = "property_signature")
    (hname : ∀ name, s.key.identifier? = some name ↔
      ∃ n, t.child? "name" = some n ∧ n.type = "property_identifier" ∧ n.text source = .ok name)
    (hkind : ∀ interface property k,
      Extraction.kindOf .keywordsOnly interface property s.annotation = .ok k ↔
        (t.child? "type" = none ∧ k = none) ∨
          ∃ a p, t.child? "type" = some a ∧ Spells source a.annotated p ∧ k = some p)
    (hoptional : s.optional = t.isOptional) (interface : String) (p : Property) :
    Extraction.property .keywordsOnly interface (.property s) = .ok p ↔
      DeclaresProperty source t p ∧ p.name ≠ "" := by
  simp only [Extraction.property_eq_ok, Member.property.injEq, exists_eq_left', hname, hkind,
    hoptional]
  constructor
  · rintro ⟨hnamed, hempty, hstated, hmarked⟩
    exact ⟨⟨htype, hnamed, hstated, hmarked⟩, hempty⟩
  · rintro ⟨hdeclares, hempty⟩
    exact ⟨hdeclares.name, hempty, hdeclares.kind, hdeclares.optional⟩

/-- A legible member is always read, and gives a property exactly if it declares one. -/
theorem member_ofTree {t : Tree} (h : t.Legible source) :
    ∃ m, Member.ofTree source t = .ok m ∧ ∀ interface p,
      Extraction.property .keywordsOnly interface m = .ok p ↔
        DeclaresProperty source t p ∧ p.name ≠ "" := by
  by_cases htype : t.type = "property_signature"
  · obtain ⟨key, hkey, hname⟩ := name_ofTree h "property_identifier" "name"
    cases hchild : t.child? "type" with
    | none =>
      refine ⟨.property { key, optional := t.isOptional, line := t.line }, ?_,
        property_iff_declares htype hname ?_ rfl⟩
      · rw [Member.ofTree, if_neg (not_not.mpr htype), hkey, hchild]
        rfl
      · simp [Extraction.kindOf_eq_ok, hchild]
    | some b =>
      obtain ⟨a, ha, hspells⟩ :=
        annotation_ofTree (h.child (mem_children_of_child? hchild)).annotated
      refine ⟨.property { key, annotation := some a, optional := t.isOptional, line := t.line }, ?_,
        property_iff_declares htype hname ?_ rfl⟩
      · rw [annotated] at ha
        rw [Member.ofTree, if_neg (not_not.mpr htype), hkey, hchild]
        simp only [ha, bind, Except.bind]
        rfl
      · simp [Extraction.kindOf_eq_ok, hspells, hchild]
  · obtain ⟨c, hc⟩ := construct_ofTree h
    refine ⟨.other c, ?_, fun interface p => iff_of_false Extraction.refuse_ne_ok ?_⟩
    · rw [Member.ofTree, if_pos htype, hc]
      rfl
    · rintro ⟨hdeclares, -⟩
      exact htype hdeclares.type

/-- Members give properties one by one and in their order. -/
theorem members_ofTree {trees : List Tree} (h : ∀ t ∈ trees, t.Legible source) :
    ∃ members, trees.mapM (Member.ofTree source) = .ok members ∧ ∀ interface ps,
      members.mapM (Extraction.property .keywordsOnly interface) = .ok ps ↔
        List.Forall₂ (fun t p => DeclaresProperty source t p ∧ p.name ≠ "") trees ps := by
  induction trees with
  | nil =>
    refine ⟨[], rfl, fun interface ps => ?_⟩
    rw [mapM_eq_ok, List.forall₂_nil_left_iff, List.forall₂_nil_left_iff]
  | cons t trees ih =>
    obtain ⟨m, hm, hmember⟩ := member_ofTree (h t List.mem_cons_self)
    obtain ⟨members, hmembers, hproperties⟩ := ih fun c hc => h c (List.mem_cons_of_mem t hc)
    refine ⟨m :: members, mapM_eq_ok.mpr (List.Forall₂.cons hm (mapM_eq_ok.mp hmembers)), ?_⟩
    intro interface ps
    rw [mapM_eq_ok, List.forall₂_cons_left_iff, List.forall₂_cons_left_iff]
    simp only [hmember, ← mapM_eq_ok, hproperties]

theorem members_eq (t : Tree) :
    (((InterfaceDeclaration.body? t).map (·.namedChildren)).getD []).filter (!·.isTrivial) =
      t.members := by
  unfold members
  cases InterfaceDeclaration.body? t with
  | none => rfl
  | some body =>
    simp only [Option.map_some, Option.getD_some, namedChildren, List.filter_filter, isTrivial]
    exact List.filter_congr fun c _ => Bool.and_comm _ _

theorem mem_children_of_body? {t body : Tree} (h : InterfaceDeclaration.body? t = some body) :
    body ∈ t.children := by
  unfold InterfaceDeclaration.body? at h
  rcases Option.or_eq_some_iff.mp h with h | ⟨-, h⟩
  · exact mem_children_of_child? h
  · rcases Option.or_eq_some_iff.mp h with h | ⟨-, h⟩
    · exact List.mem_of_find?_eq_some h
    · exact List.mem_of_find?_eq_some h

theorem Legible.members {t : Tree} (h : t.Legible source) : ∀ m ∈ t.members, m.Legible source := by
  intro m hm
  unfold Tree.members at hm
  split at hm
  case h_1 body hbody =>
    exact (h.child (mem_children_of_body? hbody)).child (List.mem_of_mem_filter hm)
  case h_2 => exact absurd hm List.not_mem_nil

theorem constructs_ofTree {trees : List Tree} (h : ∀ t ∈ trees, t.Legible source) :
    ∃ cs, trees.mapM (Construct.ofTree source) = .ok cs ∧ (cs = [] ↔ trees = []) := by
  obtain ⟨cs, hcs⟩ := exists_mapM_eq_ok fun t ht => construct_ofTree (h t ht)
  have hlength := (mapM_eq_ok.mp hcs).length_eq
  refine ⟨cs, hcs, ?_⟩
  rw [← List.length_eq_zero_iff, ← List.length_eq_zero_iff, hlength]

theorem heritage_eq_nil {t : Tree} :
    t.children.filter (·.type = "extends_type_clause") ++
        t.children.filter (·.type = "extends_clause") = [] ↔
      ∀ c ∈ t.children, c.type ≠ "extends_type_clause" ∧ c.type ≠ "extends_clause" := by
  simp [List.filter_eq_nil_iff, forall_and]

/-- What is read from a tree, and when an interface can be extracted from it. -/
theorem declaration_ofTree {t : Tree} (h : t.Legible source) :
    ∃ d, InterfaceDeclaration.ofTree source t = .ok d ∧ ∀ i,
      Extraction.interface .keywordsOnly d = .ok i ↔
        (∃ n, t.child? "name" = some n ∧ n.type = "type_identifier" ∧ n.text source = .ok i.name) ∧
        t.child? "type_parameters" = none ∧
        (∀ c ∈ t.children, c.type ≠ "extends_type_clause" ∧ c.type ≠ "extends_clause") ∧
        i.name ≠ "" ∧
        List.Forall₂ (fun m p => DeclaresProperty source m p ∧ p.name ≠ "") t.members i.properties ∧
        i.line = some (t.line : Int) := by
  obtain ⟨name, hname, hidentifier⟩ := name_ofTree h "type_identifier" "name"
  obtain ⟨parameters, hparameters, hgeneric⟩ : ∃ parameters,
      (t.child? "type_parameters").mapM (Construct.ofTree source) = .ok parameters ∧
        (parameters = none ↔ t.child? "type_parameters" = none) := by
    cases hchild : t.child? "type_parameters" with
    | none => exact ⟨none, rfl, by simp⟩
    | some c =>
      obtain ⟨construct, hconstruct⟩ := construct_ofTree (h.child (mem_children_of_child? hchild))
      exact ⟨some construct, by rw [Option.mapM_some, hconstruct]; rfl, by simp⟩
  have hlegible : ∀ c ∈ t.children.filter (·.type = "extends_type_clause") ++
      t.children.filter (·.type = "extends_clause"), c.Legible source := by
    intro c hc
    rcases List.mem_append.mp hc with hc | hc
    · exact h.child (List.mem_of_mem_filter hc)
    · exact h.child (List.mem_of_mem_filter hc)
  obtain ⟨heritage, hheritage, hclauses⟩ := constructs_ofTree hlegible
  obtain ⟨members, hmembers, hproperties⟩ := members_ofTree h.members
  refine ⟨{ name, typeParameters := parameters, heritage, members,
            bodyLine := ((InterfaceDeclaration.body? t).getD t).line, line := t.line }, ?_, fun i => ?_⟩
  · rw [InterfaceDeclaration.ofTree, hname]
    simp only [bind, Except.bind, hparameters, hheritage, members_eq, hmembers]
    rfl
  · rw [Extraction.interface_eq_ok, hidentifier, hgeneric, hclauses, heritage_eq_nil, hproperties]

theorem item_ofTree {t : Tree} (htype : t.type = "interface_declaration") :
    ModuleItem.ofTree source t = .interface <$> InterfaceDeclaration.ofTree source t := by
  have hinterface : t.interface? = some t := by
    cases t
    rw [interface?]
    simp only at htype
    simp [htype]
  rw [ModuleItem.ofTree, hinterface]

/-- A member declares some property exactly if it is a plain one. -/
theorem exists_declaresProperty {t : Tree} (h : t.Legible source) :
    (∃ p, DeclaresProperty source t p) ↔ IsPlainMember source t := by
  constructor
  · rintro ⟨p, hp⟩
    obtain ⟨n, hn, htype, -⟩ := hp.name
    refine ⟨hp.type, ⟨n, hn, htype⟩, fun a ha => ?_⟩
    rcases hp.kind with ⟨hnone, -⟩ | ⟨b, k, hb, hspells, -⟩
    · rw [hnone] at ha
      exact absurd ha (by simp)
    · rw [hb] at ha
      obtain rfl := Option.some.inj ha
      exact ⟨k, hspells⟩
  · intro hplain
    obtain ⟨n, hn, htype⟩ := hplain.name
    obtain ⟨name, hname⟩ := (h.child (mem_children_of_child? hn)).text
    cases hchild : t.child? "type" with
    | none => exact ⟨⟨name, none, t.isOptional⟩, hplain.type, ⟨n, hn, htype, hname⟩,
        Or.inl ⟨hchild, rfl⟩, rfl⟩
    | some a =>
      obtain ⟨k, hk⟩ := hplain.annotation a hchild
      exact ⟨⟨name, some k, t.isOptional⟩, hplain.type, ⟨n, hn, htype, hname⟩,
        Or.inr ⟨a, k, hchild, hk, rfl⟩, rfl⟩

/-! ### What is accepted -/

theorem HasNames.child {t c : Tree} (h : t.HasNames source) (hc : c ∈ t.children) :
    c.HasNames source := fun n hn => h n (mem_nodes_of_mem_children hc hn)

theorem HasNames.members {t : Tree} (h : t.HasNames source) :
    ∀ m ∈ t.members, m.HasNames source := by
  intro m hm
  unfold Tree.members at hm
  split at hm
  case h_1 body hbody =>
    exact (h.child (mem_children_of_body? hbody)).child (List.mem_of_mem_filter hm)
  case h_2 => exact absurd hm List.not_mem_nil

theorem HasNames.name_ne {t n : Tree} {name : String} (h : t.HasNames source)
    (hn : t.child? "name" = some n) (htype : n.type ∈ identifierTypes)
    (htext : n.text source = .ok name) : name ≠ "" := by
  rintro rfl
  have hmem := mem_nodes_of_mem_children (mem_children_of_child? hn) (mem_nodes_self n)
  exact h n hmem htype htext

/-- The parser gives no empty name, so the check against empty names is never met. -/
theorem DeclaresProperty.name_ne {t : Tree} {p : Property} (h : DeclaresProperty source t p)
    (hnames : t.HasNames source) : p.name ≠ "" := by
  obtain ⟨n, hn, htype, htext⟩ := h.name
  exact hnames.name_ne hn (by simp [identifierTypes, htype]) htext

/-- What reading asks of an interface, once its tree is known to be legible and named. -/
theorem reads_iff {t : Tree} (htype : t.type = "interface_declaration") (h : t.Legible source)
    (hnames : t.HasNames source) (i : Interface) :
    Reads source t i ↔ t.child? "type_parameters" = none ∧
      (∀ c ∈ t.children, c.type ≠ "extends_type_clause" ∧ c.type ≠ "extends_clause") ∧
      DeclaresInterface source t i := by
  obtain ⟨d, hd, hinterface⟩ := declaration_ofTree h
  have hreads : Reads source t i ↔ Extraction.interface .keywordsOnly d = .ok i := by
    have hitem : ModuleItem.ofTree source t = .ok (.interface d) := by
      rw [item_ofTree htype, hd]
      rfl
    constructor
    · rintro ⟨d', hd', hi⟩
      rw [hitem] at hd'
      rwa [ModuleItem.interface.inj (Except.ok.inj hd')]
    · exact fun hi => ⟨d, hitem, hi⟩
  rw [hreads, hinterface]
  constructor
  · rintro ⟨hname, hparameters, hheritage, -, hproperties, hline⟩
    exact ⟨hparameters, hheritage, hname, hline, hproperties.imp fun m p hp => hp.1⟩
  · rintro ⟨hparameters, hheritage, hdeclares⟩
    obtain ⟨n, hn, hidentifier, htext⟩ := hdeclares.name
    have hname : i.name ≠ "" := hnames.name_ne hn (by simp [identifierTypes, hidentifier]) htext
    refine ⟨⟨n, hn, hidentifier, htext⟩, hparameters, hheritage, hname, ?_, hdeclares.line⟩
    refine List.forall₂_iff_zip.mpr ⟨hdeclares.properties.length_eq, fun {m p} hmem => ?_⟩
    have hp := (List.forall₂_iff_zip.mp hdeclares.properties).2 hmem
    exact ⟨hp, hp.name_ne (hnames.members m (List.of_mem_zip hmem).1)⟩

/-- An interface is accepted if and only if its tree belongs to the grammar, and then it has one
property for each member, in order. -/
theorem reads_iff_isPlainInterface {text : List Char} {t : Tree}
    (htype : t.type = "interface_declaration") (hfits : t.Fits text)
    (hnames : t.HasNames (Utf8.encode text)) :
    ((∃ i, Reads (Utf8.encode text) t i) ↔ IsPlainInterface (Utf8.encode text) t) ∧
      ∀ i, Reads (Utf8.encode text) t i → DeclaresInterface (Utf8.encode text) t i := by
  have hlegible := hfits.legible
  have hreads := reads_iff htype hlegible hnames
  refine ⟨?_, fun i hi => ((hreads i).mp hi).2.2⟩
  constructor
  · rintro ⟨i, hi⟩
    obtain ⟨hparameters, hheritage, hdeclares⟩ := (hreads i).mp hi
    obtain ⟨n, hn, hidentifier, -⟩ := hdeclares.name
    refine ⟨⟨n, hn, hidentifier⟩, hparameters, hheritage, fun m hm => ?_⟩
    rw [← exists_declaresProperty (hlegible.members m hm)]
    exact exists_forall₂.mp ⟨_, hdeclares.properties⟩ m hm
  · intro hplain
    obtain ⟨n, hn, hidentifier⟩ := hplain.name
    obtain ⟨name, hname⟩ := (hlegible.child (mem_children_of_child? hn)).text
    obtain ⟨properties, hproperties⟩ : ∃ ps,
        List.Forall₂ (DeclaresProperty (Utf8.encode text)) t.members ps :=
      exists_forall₂.mpr fun m hm =>
        (exists_declaresProperty (hlegible.members m hm)).mpr (hplain.members m hm)
    exact ⟨⟨name, properties, some t.line⟩, (hreads _).mpr
      ⟨hplain.parameters, hplain.heritage, ⟨n, hn, hidentifier, hname⟩, rfl, hproperties⟩⟩

def spanning (type : String) (start stop : Nat) (isNamed : Bool) (field : Option String)
    (children : List Tree) : Tree :=
  ⟨type, start, stop, 0, isNamed, field, false, false, children⟩

def accentedText : List Char := "interface É\x7b/**/a?:null;b\x7d".toList

def accentedMember : Tree :=
  spanning "property_signature" 17 24 true none
    [spanning "property_identifier" 17 18 true (some "name") [], spanning "?" 18 19 false none [],
     spanning "type_annotation" 19 24 true (some "type")
      [spanning ":" 19 20 false none [],
       spanning "literal_type" 20 24 true none [spanning "null" 20 24 true none []]]]

/-- The tree of the text, in which the name takes two bytes. -/
def accented : Tree :=
  spanning "interface_declaration" 0 27 true none
    [spanning "interface" 0 9 false none [], spanning "type_identifier" 10 12 true (some "name") [],
     spanning "interface_body" 12 27 true (some "body")
      [spanning "\x7b" 12 13 false none [], spanning "comment" 13 17 true none [], accentedMember,
       spanning ";" 24 25 false none [],
       spanning "property_signature" 25 26 true none
        [spanning "property_identifier" 25 26 true (some "name") []],
       spanning "\x7d" 26 27 false none []]]

theorem accented_fits : accented.Fits accentedText := by
  unfold Fits
  decide +kernel

theorem accented_hasNames : accented.HasNames (Utf8.encode accentedText) := by
  unfold HasNames
  decide +kernel

theorem accented_isPlainInterface : IsPlainInterface (Utf8.encode accentedText) accented := by
  refine ⟨⟨_, rfl, rfl⟩, rfl, by decide, fun m hm => ?_⟩
  have hmembers : accented.members = [accentedMember, spanning "property_signature" 25 26 true none
      [spanning "property_identifier" 25 26 true (some "name") []]] := rfl
  rw [hmembers, List.mem_pair] at hm
  rcases hm with rfl | rfl
  · refine ⟨rfl, ⟨_, rfl, rfl⟩, fun a ha => ?_⟩
    obtain rfl := Option.some.inj ha
    exact ⟨.null, .literal rfl rfl rfl (Or.inl rfl)⟩
  · exact ⟨rfl, ⟨_, rfl, rfl⟩, fun a ha => absurd ha nofun⟩

theorem reads_iff_isPlainInterface_accented :
    accented.type = "interface_declaration" ∧ accented.Fits accentedText ∧
      accented.HasNames (Utf8.encode accentedText) ∧
      ∃ i, Reads (Utf8.encode accentedText) accented i ∧
        DeclaresInterface (Utf8.encode accentedText) accented i := by
  obtain ⟨haccepted, hdeclares⟩ :=
    reads_iff_isPlainInterface (t := accented) rfl accented_fits accented_hasNames
  obtain ⟨i, hi⟩ := haccepted.mpr accented_isPlainInterface
  exact ⟨rfl, accented_fits, accented_hasNames, i, hi, hdeclares i hi⟩

end Tree

end TypeGuards
