import TypeGuards.Proofs.Statement
import TypeGuards.Run
/-!
What is wrong with a source can be reported. Where the tree of a text fits it and has a name in every
identifier, reading it never fails, and extraction fails for an unsupported construct or a conflict
alone.
-/
namespace TypeGuards

open Encoding

/-- An error that is about what a source declares. -/
def ExtractionError.IsReportable : ExtractionError → Prop
  | .unsupported _ | .conflict _ => True
  | .emptyName _ | .notPrimitive _ | .other _ _ => False

def Member.key? : Member → Option DeclaredName
  | .property signature => some signature.key
  | .other _ => none

/-- No identifier of a declaration is empty. -/
structure InterfaceDeclaration.IsNamed (d : InterfaceDeclaration) : Prop where
  name : d.name.identifier? ≠ some ""
  keys : ∀ m ∈ d.members, ∀ key, m.key? = some key → key.identifier? ≠ some ""

namespace Extraction

theorem reportable_of_refuse {α : Type} {c : Construct} {expected context : String}
    {about : Option String} {e : ExtractionError}
    (h : (refuse c expected context about : Except ExtractionError α) = .error e) :
    e.IsReportable := by
  rw [← Except.error.inj h]
  trivial

/-- Keywords alone are resolved, and a keyword names a primitive type. -/
theorem reportable_of_kindOf {interface property : String} {a : Option Annotation}
    {e : ExtractionError} (h : kindOf .keywordsOnly interface property a = .error e) :
    e.IsReportable := by
  cases a with
  | none => contradiction
  | some a =>
    rw [kindOf] at h
    split at h
    · contradiction
    · rename_i cause hcause
      rw [← Except.error.inj h]
      cases a with
      | keyword type line => contradiction
      | other c =>
        obtain ⟨u, -, -, hresolve⟩ := exists_resolve_other c
        rw [← Except.error.inj (hresolve.symm.trans hcause)]
        trivial

theorem reportable_of_property {interface : String} {m : Member} {e : ExtractionError}
    (hkey : ∀ key, m.key? = some key → key.identifier? ≠ some "")
    (h : property .keywordsOnly interface m = .error e) : e.IsReportable := by
  cases m with
  | other c => exact reportable_of_refuse h
  | property s =>
    have hkey := hkey s.key rfl
    rw [property] at h
    cases hname : s.key with
    | other c =>
      rw [hname] at h
      exact reportable_of_refuse h
    | identifier name line =>
      rw [hname] at h hkey
      have hne : name ≠ "" := fun hempty => hkey (congrArg some hempty)
      rcases bind_eq_error.mp h with h | ⟨kind, -, h⟩
      · exact reportable_of_kindOf h
      · rw [if_neg hne] at h
        contradiction

/-- With a name on every identifier, an interface is refused only for what it declares. -/
theorem reportable_of_interface {d : InterfaceDeclaration} {e : ExtractionError} (hnamed : d.IsNamed)
    (h : interface .keywordsOnly d = .error e) : e.IsReportable := by
  have hname := hnamed.name
  rw [interface] at h
  split at h
  · exact reportable_of_refuse h
  · rename_i name line hidentifier
    rw [hidentifier] at hname
    have hne : name ≠ "" := fun hempty => hname (congrArg some hempty)
    split at h
    · exact reportable_of_refuse h
    · exact reportable_of_refuse h
    · rcases bind_eq_error.mp h with h | ⟨properties, -, h⟩
      · obtain ⟨m, hm, h⟩ := exists_of_mapM_eq_error h
        exact reportable_of_property (hnamed.keys m hm) h
      · rw [if_neg hne] at h
        contradiction

theorem reportable_of_add {new : Interface} {found : List Interface} {e : ExtractionError}
    (h : add new found = .error e) : e.IsReportable := by
  induction found with
  | nil => contradiction
  | cons i rest ih =>
    rw [add] at h
    split at h
    · split at h
      · contradiction
      · rw [← Except.error.inj h]
        trivial
    · rcases bind_eq_error.mp h with h | ⟨found, -, h⟩
      · exact ih h
      · contradiction

/-- The faults of items with names can all be reported. -/
theorem reportable_of_all {items : List ModuleItem} {e : ExtractionError}
    (hnamed : ∀ d ∈ declarations items, d.IsNamed) (h : all .keywordsOnly items = .error e) :
    e.IsReportable := by
  unfold all at h
  generalize [] = found at h
  induction items generalizing found with
  | nil => contradiction
  | cons item items ih =>
    rw [List.foldlM_cons] at h
    rcases bind_eq_error.mp h with h | ⟨found', -, h⟩
    · cases item with
      | other c => contradiction
      | interface d =>
        rcases bind_eq_error.mp h with h | ⟨new, -, h⟩
        · exact reportable_of_interface (hnamed d List.mem_cons_self) h
        · exact reportable_of_add h
    · refine ih (fun d hd => hnamed d ?_) _ h
      rw [declarations, List.filterMap_cons]
      split
      · exact hd
      · exact List.mem_cons_of_mem _ hd

end Extraction

/-! ### Reading -/

namespace Tree

variable {source : List UInt8} {t : Tree}

theorem Legible.inside {i : Tree} (h : t.Legible source) (hi : i ∈ t.nodes) : i.Legible source :=
  fun n hn => h n (mem_nodes_trans hi hn)

theorem HasNames.inside {i : Tree} (h : t.HasNames source) (hi : i ∈ t.nodes) : i.HasNames source :=
  fun n hn => h n (mem_nodes_trans hi hn)

theorem identifier_ne_empty {type field : String} {d : DeclaredName} (hnames : t.HasNames source)
    (htype : type ∈ identifierTypes)
    (h : DeclaredName.ofTree source type t (t.child? field) = .ok d) : d.identifier? ≠ some "" := by
  unfold DeclaredName.ofTree at h
  split at h
  · rename_i n hn
    split_ifs at h with hsame
    · obtain ⟨text, htext, h⟩ := bind_eq_ok.mp h
      rw [← Except.ok.inj h]
      intro hempty
      have hmem := mem_nodes_of_mem_children (mem_children_of_child? hn) (mem_nodes_self n)
      refine hnames n hmem (hsame ▸ htype) ?_
      rw [htext, Option.some.inj hempty]
    · obtain ⟨c, -, h⟩ := bind_eq_ok.mp h
      rw [← Except.ok.inj h]
      nofun
  · obtain ⟨c, -, h⟩ := bind_eq_ok.mp h
    rw [← Except.ok.inj h]
    nofun

theorem key_ne_empty {m : Member} (hnames : t.HasNames source) (h : Member.ofTree source t = .ok m)
    {key : DeclaredName} (hkey : m.key? = some key) : key.identifier? ≠ some "" := by
  unfold Member.ofTree at h
  split_ifs at h with htype
  · obtain ⟨c, -, h⟩ := bind_eq_ok.mp h
    rw [← Except.ok.inj h] at hkey
    contradiction
  · obtain ⟨name, hname, h⟩ := bind_eq_ok.mp h
    have hread : key = name := by
      simp only at h
      split at h
      · obtain ⟨a, -, h⟩ := bind_eq_ok.mp h
        rw [← Except.ok.inj h] at hkey
        exact (Option.some.inj hkey).symm
      · obtain ⟨a, -, h⟩ := bind_eq_ok.mp h
        rw [← Except.ok.inj h] at hkey
        exact (Option.some.inj hkey).symm
    rw [hread]
    exact identifier_ne_empty hnames (by simp [identifierTypes]) hname

/-- The names of the tree are those of the declaration. -/
theorem isNamed_of_ofTree {d : InterfaceDeclaration} (hnames : t.HasNames source)
    (h : InterfaceDeclaration.ofTree source t = .ok d) : d.IsNamed := by
  unfold InterfaceDeclaration.ofTree at h
  obtain ⟨name, hname, h⟩ := bind_eq_ok.mp h
  obtain ⟨parameters, -, h⟩ := bind_eq_ok.mp h
  obtain ⟨heritage, -, h⟩ := bind_eq_ok.mp h
  obtain ⟨members, hmembers, h⟩ := bind_eq_ok.mp h
  rw [members_eq] at hmembers
  rw [← Except.ok.inj h]
  refine ⟨identifier_ne_empty hnames (by simp [identifierTypes]) hname, fun m hm key hkey => ?_⟩
  obtain ⟨c, hc, hread⟩ := exists_mem_of_mapM_eq_ok hmembers hm
  exact key_ne_empty (hnames.members c hc) hread hkey

theorem exists_item (h : t.Legible source) : ∃ item, ModuleItem.ofTree source t = .ok item := by
  unfold ModuleItem.ofTree
  split
  · rename_i i hi
    obtain ⟨d, hd, -⟩ := declaration_ofTree (h.inside (mem_nodes_of_interface? hi))
    exact ⟨.interface d, by rw [hd]; rfl⟩
  · obtain ⟨c, hc⟩ := construct_ofTree h
    exact ⟨.other c, by rw [hc]; rfl⟩

theorem isNamed_of_item {d : InterfaceDeclaration} (hnames : t.HasNames source)
    (h : ModuleItem.ofTree source t = .ok (.interface d)) : d.IsNamed := by
  unfold ModuleItem.ofTree at h
  split at h
  · rename_i i hi
    obtain ⟨d', hd', heq⟩ := map_eq_ok.mp h
    rw [← ModuleItem.interface.inj heq]
    exact isNamed_of_ofTree (hnames.inside (mem_nodes_of_interface? hi)) hd'
  · obtain ⟨c, -, heq⟩ := map_eq_ok.mp h
    contradiction

/-- A legible tree is always read as a module. -/
theorem exists_module (h : t.Legible source) : ∃ module, Module.ofTree source t = .ok module := by
  have hread : ∀ c ∈ t.namedChildren, ∃ item, ModuleItem.ofTree source c = .ok item :=
    fun c hc => exists_item (h.child (List.mem_of_mem_filter hc))
  obtain ⟨items, hitems⟩ := exists_mapM_eq_ok hread
  exact ⟨{ items, line := t.line }, by rw [Module.ofTree, hitems]; rfl⟩

theorem isNamed_of_module {module : Module} (hnames : t.HasNames source)
    (h : Module.ofTree source t = .ok module) :
    ∀ d ∈ Extraction.declarations module.items, d.IsNamed := by
  obtain ⟨items, hitems, heq⟩ := bind_eq_ok.mp h
  rw [← Except.ok.inj heq]
  intro d hd
  obtain ⟨item, hitem, hdeclared⟩ := List.mem_filterMap.mp hd
  obtain ⟨c, hc, hread⟩ := exists_mem_of_mapM_eq_ok hitems hitem
  cases item with
  | other construct => contradiction
  | interface d' =>
    obtain rfl := Option.some.inj hdeclared
    exact isNamed_of_item (hnames.child (List.mem_of_mem_filter hc)) hread

end Tree

/-! ### Extracting -/

/-- The trees of a parser fit their texts and name their identifiers, except where they mark an
error. -/
def TypeScript.IsSound (parser : TypeScript.Parser) : Prop :=
  ∀ d text, (parser d text).firstError? = none →
    (parser d text).Fits text.toList ∧ (parser d text).HasNames (Utf8.encode text.toList)

theorem TypeScript.checkTree_eq_ok {t t' : Tree} :
    TypeScript.checkTree t = .ok t' ↔ t.firstError? = none ∧ t = t' := by
  unfold TypeScript.checkTree
  cases t.firstError? <;> simp

theorem TypeScript.checkTree_eq_error {t : Tree} {cause : TypeScript.SourceError} :
    TypeScript.checkTree t = .error cause ↔
      ∃ e, t.firstError? = some e ∧ cause = .notTypeScript e.type e.line := by
  unfold TypeScript.checkTree
  cases t.firstError? <;> simp [eq_comm]

/-- A reportable error becomes the failure of its source. -/
theorem failure_of_reportable {e : ExtractionError} (h : e.IsReportable) :
    ∃ f, Run.failureOf? (.extraction e) = some f := by
  cases e with
  | unsupported u => exact ⟨.unsupported u, rfl⟩
  | conflict c => exact ⟨.conflict c, rfl⟩
  | emptyName what => exact h.elim
  | notPrimitive | other => exact h.elim

/-- If a text cannot be extracted, there is a failure to report. -/
theorem exists_failure_of_extract {parser : TypeScript.Parser} (hsound : TypeScript.IsSound parser)
    {d : TypeScript.Dialect} {text : String} {e : TypeScript.SourceError}
    (h : TypeScript.extract d .keywordsOnly text parser = .error e) :
    ∃ f, Run.failureOf? e = some f := by
  rcases bind_eq_error.mp h with h | ⟨module, hmodule, h⟩
  · rcases bind_eq_error.mp h with h | ⟨t, ht, h⟩
    · obtain ⟨marked, -, rfl⟩ := TypeScript.checkTree_eq_error.mp h
      exact ⟨_, rfl⟩
    · obtain ⟨hclean, rfl⟩ := TypeScript.checkTree_eq_ok.mp ht
      obtain ⟨hfits, -⟩ := hsound d text hclean
      obtain ⟨module, hmodule⟩ := Tree.exists_module hfits.legible
      obtain ⟨cause, hcause, -⟩ := mapError_eq_error.mp h
      rw [hmodule] at hcause
      contradiction
  · rcases bind_eq_error.mp h with h | ⟨interfaces, -, h⟩
    · obtain ⟨cause, hcause, rfl⟩ := mapError_eq_error.mp h
      obtain ⟨t, ht, hmodule⟩ := bind_eq_ok.mp hmodule
      obtain ⟨hclean, rfl⟩ := TypeScript.checkTree_eq_ok.mp ht
      obtain ⟨-, hnames⟩ := hsound d text hclean
      have hnamed := Tree.isNamed_of_module hnames (mapError_eq_ok.mp hmodule)
      exact failure_of_reportable (Extraction.reportable_of_all hnamed hcause)
    · contradiction

end TypeGuards
