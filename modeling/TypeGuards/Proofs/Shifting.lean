import TypeGuards.Proofs.Statement
/-!
Text put before a text. A node of the longer text spans the same bytes further on and starts on a
later row. It is read as before, whatever its span is: within the text, beyond its end, or across a
character. Only the lines of what is read and extracted move.
-/
namespace TypeGuards

open Encoding

/-! ### Nodes further on -/

namespace Tree

mutual

def shift (bytes rows : Nat) : Tree → Tree
  | ⟨type, start, stop, row, isNamed, field, isMissing, hasError, children⟩ =>
      ⟨type, start + bytes, stop + bytes, row + rows, isNamed, field, isMissing, hasError,
        shiftAll bytes rows children⟩

def shiftAll (bytes rows : Nat) : List Tree → List Tree
  | [] => []
  | t :: rest => shift bytes rows t :: shiftAll bytes rows rest

end

theorem shiftAll_eq_map (bytes rows : Nat) (trees : List Tree) :
    shiftAll bytes rows trees = trees.map (shift bytes rows) := by
  induction trees with
  | nil => rfl
  | cons t rest ih => rw [shiftAll, ih, List.map_cons]

theorem shift_eq (bytes rows : Nat) (t : Tree) : t.shift bytes rows =
    { t with start := t.start + bytes, stop := t.stop + bytes, row := t.row + rows,
             children := t.children.map (shift bytes rows) } := by
  cases t
  rw [shift, shiftAll_eq_map]

section

variable (bytes rows : Nat) (t : Tree)

@[simp] theorem type_shift : (t.shift bytes rows).type = t.type := by rw [shift_eq]

@[simp] theorem start_shift : (t.shift bytes rows).start = t.start + bytes := by rw [shift_eq]

@[simp] theorem stop_shift : (t.shift bytes rows).stop = t.stop + bytes := by rw [shift_eq]

@[simp] theorem isNamed_shift : (t.shift bytes rows).isNamed = t.isNamed := by rw [shift_eq]

@[simp] theorem field_shift : (t.shift bytes rows).field = t.field := by rw [shift_eq]

@[simp] theorem children_shift : (t.shift bytes rows).children = t.children.map (shift bytes rows) := by
  rw [shift_eq]

@[simp] theorem line_shift : ((t.shift bytes rows).line : Int) = t.line + rows := by
  have hrow : (t.shift bytes rows).row = t.row + rows := by rw [shift_eq]
  unfold line
  omega

@[simp] theorem isTrivial_shift : (t.shift bytes rows).isTrivial = t.isTrivial := by
  rw [isTrivial, type_shift, isTrivial]

@[simp] theorem namedChildren_shift :
    (t.shift bytes rows).namedChildren = t.namedChildren.map (shift bytes rows) := by
  simp [namedChildren, List.filter_map, Function.comp_def]

theorem find?_shift (trees : List Tree) (P : Tree → Bool) (h : ∀ c, P (c.shift bytes rows) = P c) :
    (trees.map (shift bytes rows)).find? P = (trees.find? P).map (shift bytes rows) := by
  have hP : P ∘ shift bytes rows = P := funext h
  rw [List.find?_map, hP]

@[simp] theorem child?_shift (field : String) :
    (t.shift bytes rows).child? field = (t.child? field).map (shift bytes rows) := by
  rw [child?, children_shift, find?_shift _ _ _ _ fun c => by rw [field_shift]]
  rfl

@[simp] theorem body?_shift : InterfaceDeclaration.body? (t.shift bytes rows) =
    (InterfaceDeclaration.body? t).map (shift bytes rows) := by
  have hfirst : ∀ type : String, (t.shift bytes rows).children.find? (·.type = type) =
      (t.children.find? (·.type = type)).map (shift bytes rows) := by
    intro type
    rw [children_shift]
    exact find?_shift _ _ _ _ fun c => by rw [type_shift]
  unfold InterfaceDeclaration.body?
  rw [child?_shift, hfirst, hfirst, Option.map_or, Option.map_or]

theorem ambient?_shift : (t.shift bytes rows).ambient? = t.ambient?.map (shift bytes rows) := by
  unfold ambient?
  rw [namedChildren_shift]
  rcases t.namedChildren with _ | ⟨d, _ | ⟨e, rest⟩⟩
  · rfl
  · by_cases hd : d.type = "interface_declaration"
    · simp [hd]
    · simp [hd]
  · rfl

@[simp] theorem interface?_shift :
    (t.shift bytes rows).interface? = t.interface?.map (shift bytes rows) := by
  induction t using children_induction with
  | h t ih =>
    rw [interface?_eq, interface?_eq t, type_shift]
    by_cases hinterface : t.type = "interface_declaration"
    · rw [if_pos hinterface, if_pos hinterface, Option.map_some]
    rw [if_neg hinterface, if_neg hinterface]
    by_cases hexport : t.type = "export_statement"
    · rw [if_pos hexport, if_pos hexport, child?_shift]
      cases hdeclared : t.child? "declaration" with
      | none => rfl
      | some d => exact ih d (mem_children_of_child? hdeclared)
    rw [if_neg hexport, if_neg hexport]
    by_cases hambient : t.type = "ambient_declaration"
    · rw [if_pos hambient, if_pos hambient, ambient?_shift]
    · rw [if_neg hambient, if_neg hambient, Option.map_none]

@[simp] theorem keyword?_shift (text : String) :
    (t.shift bytes rows).keyword? text = t.keyword? text := by
  unfold keyword?
  rw [type_shift, namedChildren_shift]
  rcases t.namedChildren with _ | ⟨c, _ | ⟨d, rest⟩⟩
  · rfl
  · simp only [List.map_cons, List.map_nil, type_shift]
  · rfl

end

/-- A node is decoded from the same bytes, also where its span is reversed, ends beyond the text or
cuts a character. -/
theorem text_shift (front source : List UInt8) (rows : Nat) (t : Tree) :
    (t.shift front.length rows).text (front ++ source) = t.text source := by
  have hdrop : (front ++ source).drop (t.start + front.length) = source.drop t.start := by
    rw [Nat.add_comm, List.drop_length_add_append]
  unfold text
  rw [start_shift, stop_shift, Nat.add_sub_add_right, hdrop]

end Tree

/-! ### Declarations on later lines -/

def Construct.moved (k : Int) (c : Construct) : Construct := { c with line := c.line + k }

def DeclaredName.moved (k : Int) : DeclaredName → DeclaredName
  | identifier text line => .identifier text (line + k)
  | other c => .other (c.moved k)

def Annotation.moved (k : Int) : Annotation → Annotation
  | keyword type line => .keyword type (line + k)
  | other c => .other (c.moved k)

def PropertySignature.moved (k : Int) (s : PropertySignature) : PropertySignature :=
  { s with key := s.key.moved k, annotation := s.annotation.map ( Annotation.moved k),
           line := s.line + k }

def Member.moved (k : Int) : Member → Member
  | property s => .property (s.moved k)
  | other c => .other (c.moved k)

def InterfaceDeclaration.moved (k : Int) (d : InterfaceDeclaration) : InterfaceDeclaration :=
  { name := d.name.moved k
    typeParameters := d.typeParameters.map (Construct.moved k)
    heritage := d.heritage.map (Construct.moved k)
    members := d.members.map (Member.moved k)
    bodyLine := d.bodyLine + k
    line := d.line + k }

def ModuleItem.moved (k : Int) : ModuleItem → ModuleItem
  | interface d => .interface (d.moved k)
  | other c => .other (c.moved k)

def Module.moved (k : Int) (m : Module) : Module :=
  { items := m.items.map (ModuleItem.moved k), line := m.line + k }

section

variable (front source : List UInt8) (rows : Nat) (t : Tree)

/-- The text of a node moves with its span, and its line with its row. -/
theorem Construct.ofTree_shift :
    Construct.ofTree (front ++ source) (t.shift front.length rows) =
      (Construct.ofTree source t).map (Construct.moved rows) := by
  unfold Construct.ofTree
  rw [Tree.text_shift, Tree.type_shift, Tree.line_shift]
  cases t.text source <;> rfl

theorem DeclaredName.ofTree_shift (nodeType : String) (name : Option Tree) :
    DeclaredName.ofTree (front ++ source) nodeType (t.shift front.length rows)
        (name.map (Tree.shift front.length rows)) =
      (DeclaredName.ofTree source nodeType t name).map (DeclaredName.moved rows) := by
  cases name with
  | none =>
    simp only [Option.map_none, DeclaredName.ofTree, Construct.ofTree_shift]
    cases Construct.ofTree source t <;> rfl
  | some n =>
    simp only [Option.map_some, DeclaredName.ofTree, Tree.type_shift, Tree.text_shift,
      Tree.line_shift, Construct.ofTree_shift]
    by_cases htype : n.type = nodeType
    · rw [if_pos htype, if_pos htype]
      cases n.text source <;> rfl
    · rw [if_neg htype, if_neg htype]
      cases Construct.ofTree source n <;> rfl

/-- Types are read the same behind a prefix, lines apart. -/
theorem Annotation.ofTree_shift :
    Annotation.ofTree (front ++ source) (t.shift front.length rows) =
      ( Annotation.ofTree source t).map ( Annotation.moved rows) := by
  unfold Annotation.ofTree
  rw [Tree.text_shift, Tree.type_shift, Tree.line_shift]
  cases t.text source with
  | error e => rfl
  | ok text =>
    simp only [bind, Except.bind, Tree.keyword?_shift]
    cases t.keyword? text <;> rfl

theorem Tree.annotated_shift : (t.shift front.length rows).annotated =
    t.annotated.shift front.length rows := by
  unfold annotated
  rw [namedChildren_shift, List.getLastD_eq_getLast?, List.getLastD_eq_getLast?, List.getLast?_map,
    Option.getD_map]

theorem Member.ofTree_shift :
    Member.ofTree (front ++ source) (t.shift front.length rows) =
      (Member.ofTree source t).map (Member.moved rows) := by
  have hoptional : (t.shift front.length rows).children.any (·.type = "?") =
      t.children.any (·.type = "?") := by
    simp [List.any_map, Function.comp_def]
  have hannotation : ∀ a : Tree, Annotation.ofTree (front ++ source)
      ((a.shift front.length rows).namedChildren.getLastD (a.shift front.length rows)) =
      ( Annotation.ofTree source (a.namedChildren.getLastD a)).map ( Annotation.moved rows) := by
    intro a
    have hannotated := a.annotated_shift front rows
    unfold Tree.annotated at hannotated
    rw [hannotated, Annotation.ofTree_shift]
  unfold Member.ofTree
  rw [Tree.type_shift, Tree.line_shift, hoptional, Tree.child?_shift, Tree.child?_shift,
    Construct.ofTree_shift, DeclaredName.ofTree_shift]
  by_cases htype : t.type = "property_signature"
  · rw [if_neg (not_not.mpr htype), if_neg (not_not.mpr htype)]
    cases DeclaredName.ofTree source "property_identifier" t (t.child? "name") with
    | error e => rfl
    | ok key =>
      cases t.child? "type" with
      | none => rfl
      | some a =>
        simp only [Option.map_some, hannotation]
        cases Annotation.ofTree source (a.namedChildren.getLastD a) <;> rfl
  · rw [if_pos htype, if_pos htype]
    cases Construct.ofTree source t <;> rfl

/-- Declarations are read the same behind a prefix, lines apart. -/
theorem InterfaceDeclaration.ofTree_shift :
    InterfaceDeclaration.ofTree (front ++ source) (t.shift front.length rows) =
      (InterfaceDeclaration.ofTree source t).map (InterfaceDeclaration.moved rows) := by
  have hparameters : ((t.child? "type_parameters").map (Tree.shift front.length rows)).mapM
      (Construct.ofTree (front ++ source)) =
      ((t.child? "type_parameters").mapM (Construct.ofTree source)).map
        (Option.map (Construct.moved rows)) := by
    cases t.child? "type_parameters" with
    | none => rfl
    | some c =>
      rw [Option.map_some, Option.mapM_some, Option.mapM_some, Construct.ofTree_shift]
      cases Construct.ofTree source c <;> rfl
  have hclauses : ∀ type : String, (t.shift front.length rows).children.filter (·.type = type) =
      (t.children.filter (·.type = type)).map (Tree.shift front.length rows) := by
    intro type
    simp [List.filter_map, Function.comp_def]
  have hinside : (((InterfaceDeclaration.body? t).map (Tree.shift front.length rows)).map
      (·.namedChildren)).getD [] =
      (((InterfaceDeclaration.body? t).map (·.namedChildren)).getD []).map
        (Tree.shift front.length rows) := by
    cases InterfaceDeclaration.body? t with
    | none => rfl
    | some body => exact Tree.namedChildren_shift _ _ body
  have hmembers : ∀ trees : List Tree,
      (trees.map (Tree.shift front.length rows)).filter (!·.isTrivial) =
        (trees.filter (!·.isTrivial)).map (Tree.shift front.length rows) := by
    intro trees
    simp [List.filter_map, Function.comp_def]
  have hbody : ((((InterfaceDeclaration.body? t).map (Tree.shift front.length rows)).getD
      (t.shift front.length rows)).line : Int) = ((InterfaceDeclaration.body? t).getD t).line + rows := by
    rw [Option.getD_map, Tree.line_shift]
  unfold InterfaceDeclaration.ofTree
  simp only [Tree.child?_shift, Tree.body?_shift, Tree.line_shift, DeclaredName.ofTree_shift,
    hparameters, hclauses, hinside, hmembers, hbody, ← List.map_append,
    mapM_map_eq_map (Construct.ofTree_shift front source rows),
    mapM_map_eq_map (Member.ofTree_shift front source rows)]
  cases DeclaredName.ofTree source "type_identifier" t (t.child? "name") with
  | error e => rfl
  | ok name =>
    cases (t.child? "type_parameters").mapM (Construct.ofTree source) with
    | error e => rfl
    | ok typeParameters =>
      cases List.mapM (Construct.ofTree source) (t.children.filter (·.type = "extends_type_clause") ++
          t.children.filter (·.type = "extends_clause")) with
      | error e => rfl
      | ok heritage =>
        cases List.mapM (Member.ofTree source)
          ((((InterfaceDeclaration.body? t).map (·.namedChildren)).getD []).filter
            (!·.isTrivial)) <;> rfl

theorem ModuleItem.ofTree_shift :
    ModuleItem.ofTree (front ++ source) (t.shift front.length rows) =
      (ModuleItem.ofTree source t).map (ModuleItem.moved rows) := by
  unfold ModuleItem.ofTree
  rw [Tree.interface?_shift]
  cases t.interface? with
  | none =>
    simp only [Option.map_none, Construct.ofTree_shift]
    cases Construct.ofTree source t <;> rfl
  | some i =>
    simp only [Option.map_some, InterfaceDeclaration.ofTree_shift]
    cases InterfaceDeclaration.ofTree source i <;> rfl

/-- Modules are read the same behind a prefix, lines apart. -/
theorem Module.ofTree_shift :
    Module.ofTree (front ++ source) (t.shift front.length rows) =
      (Module.ofTree source t).map (Module.moved rows) := by
  unfold Module.ofTree
  rw [Tree.namedChildren_shift, Tree.line_shift,
    mapM_map_eq_map (ModuleItem.ofTree_shift front source rows)]
  cases t.namedChildren.mapM (ModuleItem.ofTree source) <;> rfl

end

/-! ### Extraction on later lines -/

def Interface.moved (k : Int) (i : Interface) : Interface := { i with line := i.line.map (· + k) }

def Conflict.moved (k : Int) (c : Conflict) : Conflict := { c with line := c.line.map (· + k) }

def Unsupported.moved (k : Int) (u : Unsupported) : Unsupported :=
  { u with line := u.line.map (· + k) }

def ResolutionError.moved (k : Int) : ResolutionError → ResolutionError
  | unsupported u => .unsupported (u.moved k)
  | notPrimitive name => .notPrimitive name
  | other kind message => .other kind message

def ExtractionError.moved (k : Int) : ExtractionError → ExtractionError
  | unsupported u => .unsupported (u.moved k)
  | conflict c => .conflict (c.moved k)
  | emptyName what => .emptyName what
  | notPrimitive name => .notPrimitive name
  | other kind message => .other kind message

/-- Resolvers that use the line of an annotation for nothing but to report it. -/
def Resolvers.MoveWithLines (r : Resolvers) : Prop :=
  ∀ (k : Int) (a : Annotation), r.resolve (a.moved k) = (r.resolve a).mapError (ResolutionError.moved k)

theorem Resolvers.keywordsOnly_moveWithLines : keywordsOnly.MoveWithLines := by
  intro k a
  cases a with
  | keyword type line => rfl
  | other c =>
    by_cases hkind : c.kind = "KeywordType"
    · have hkeyword : keywordsOnly.resolver? c.kind = some keyword := by
        rw [hkind]
        rfl
      simp only [resolve, Annotation.moved, Annotation.kind, Construct.moved, hkeyword]
      rfl
    · have hnone : keywordsOnly.resolver? c.kind = none := by
        simp [resolver?, keywordsOnly, List.lookup_cons, beq_eq_false_iff_ne.mpr hkind]
      simp only [resolve, Annotation.moved, Annotation.kind, Construct.moved, hnone]
      rfl

namespace Extraction

variable {α α' β β' : Type} (k : Int)

/-- What extraction gives when every line moves: a result that is changed, or the same error with its
line moved. -/
def moved (change : α → β) : Except ExtractionError α → Except ExtractionError β
  | .ok a => .ok (change a)
  | .error e => .error (e.moved k)

/-- Moving lines commutes with taking one step after another. -/
theorem moved_bind {x : Except ExtractionError α} {f : α → Except ExtractionError β}
    {f' : α' → Except ExtractionError β'} {change : α → α'} {change' : β → β'}
    (h : ∀ a, f' (change a) = moved k change' (f a)) :
    moved k change x >>= f' = moved k change' (x >>= f) := by
  cases x with
  | error e => rfl
  | ok a => exact h a

theorem moved_mapM {f : α → Except ExtractionError β} {f' : α' → Except ExtractionError β'}
    {change : α → α'} {change' : β → β'} (h : ∀ a, f' (change a) = moved k change' (f a))
    (as : List α) : (as.map change).mapM f' = moved k (List.map change') (as.mapM f) := by
  induction as with
  | nil => rfl
  | cons a as ih =>
    rw [List.map_cons, List.mapM_cons, List.mapM_cons, h, ih]
    refine moved_bind k fun b => moved_bind k fun bs => ?_
    rfl

variable {r : Resolvers} (hr : r.MoveWithLines)

include hr

theorem kindOf_moved (interface property : String) (a : Option Annotation) :
    kindOf r interface property (a.map ( Annotation.moved k)) =
      moved k id (kindOf r interface property a) := by
  cases a with
  | none => rfl
  | some a =>
    simp only [Option.map_some, kindOf, hr k a]
    cases r.resolve a with
    | ok p => rfl
    | error e => cases e <;> rfl

theorem property_moved (interface : String) (m : Member) :
    property r interface (m.moved k) = moved k id (property r interface m) := by
  cases m with
  | other c => rfl
  | property s =>
    obtain ⟨key, optional, annotation, line⟩ := s
    cases key with
    | other c => rfl
    | identifier name _ =>
      simp only [Member.moved, PropertySignature.moved, DeclaredName.moved, property,
        kindOf_moved k hr]
      refine moved_bind k fun kind => ?_
      by_cases hname : name = ""
      · rw [if_pos hname, if_pos hname]
        rfl
      · rw [if_neg hname, if_neg hname]
        rfl

/-- Extraction looks at lines only to pass them on. -/
theorem interface_moved (d : InterfaceDeclaration) :
    interface r (d.moved k) = moved k (Interface.moved k) (interface r d) := by
  obtain ⟨name, typeParameters, heritage, members, bodyLine, line⟩ := d
  cases name with
  | other c => rfl
  | identifier name _ =>
    cases typeParameters with
    | some c => rfl
    | none =>
      cases heritage with
      | cons c rest => rfl
      | nil =>
        simp only [InterfaceDeclaration.moved, DeclaredName.moved, Option.map_none, List.map_nil,
          interface, moved_mapM k (property_moved k hr name)]
        refine moved_bind k fun properties => ?_
        by_cases hname : name = ""
        · rw [if_pos hname, if_pos hname]
          rfl
        · rw [if_neg hname, if_neg hname, List.map_id]
          rfl

omit hr

theorem merge_moved (first later : Interface) : (first.moved k).merge (later.moved k) =
    ((first.merge later).map (Interface.moved k)).mapError (Conflict.moved k) := by
  have hall : ∀ known, later.properties.foldlM
      (Interface.addProperty first.name (later.line.map (· + k))) known =
      (later.properties.foldlM (Interface.addProperty first.name later.line) known).mapError
        (Conflict.moved k) := by
    induction later.properties with
    | nil => exact fun _ => rfl
    | cons p rest ih =>
      intro known
      rw [List.foldlM_cons, List.foldlM_cons]
      have hone : Interface.addProperty first.name (later.line.map (· + k)) known p =
          (Interface.addProperty first.name later.line known p).mapError (Conflict.moved k) := by
        unfold Interface.addProperty
        split
        · rfl
        · split <;> rfl
      rw [hone]
      cases Interface.addProperty first.name later.line known p with
      | error c => rfl
      | ok known => exact ih known
  unfold Interface.merge
  simp only [Interface.moved, hall]
  cases later.properties.foldlM (Interface.addProperty first.name later.line) first.properties <;> rfl

/-- Interfaces are joined by their names, so lines move along. -/
theorem add_moved (new : Interface) (found : List Interface) :
    add (new.moved k) (found.map (Interface.moved k)) =
      moved k (List.map (Interface.moved k)) (add new found) := by
  induction found with
  | nil => rfl
  | cons i rest ih =>
    rw [List.map_cons, add, add]
    by_cases hname : i.name = new.name
    · have hmoved : (i.moved k).name = (new.moved k).name := hname
      rw [if_pos hmoved, if_pos hname, merge_moved]
      cases i.merge new <;> rfl
    · have hmoved : (i.moved k).name ≠ (new.moved k).name := hname
      rw [if_neg hmoved, if_neg hname, ih]
      exact moved_bind k fun rest => rfl

include hr

/-- One step of extraction, with all its lines moved. -/
theorem step_moved (found : List Interface) (item : ModuleItem) :
    step r (found.map (Interface.moved k)) (item.moved k) =
      moved k (List.map (Interface.moved k)) (step r found item) := by
  cases item with
  | other c => rfl
  | interface d =>
    simp only [ModuleItem.moved, step, interface_moved k hr]
    exact moved_bind k fun new => add_moved k new found

/-- From items on later lines the same interfaces are extracted, or extraction ends at the same
place. -/
theorem all_moved (items : List ModuleItem) :
    all r (items.map (ModuleItem.moved k)) =
      moved k (List.map (Interface.moved k)) (all r items) := by
  have hrun : ∀ found, (items.map (ModuleItem.moved k)).foldlM (step r)
      (found.map (Interface.moved k)) =
      moved k (List.map (Interface.moved k)) (items.foldlM (step r) found) := by
    induction items with
    | nil => exact fun _ => rfl
    | cons item items ih =>
      intro found
      rw [List.map_cons, List.foldlM_cons, List.foldlM_cons, step_moved k hr]
      exact moved_bind k fun next => ih next
  exact hrun []

end Extraction

/-! ### A text before the text -/

theorem Construct.moved_zero (c : Construct) : c.moved 0 = c := by
  simp [moved]

theorem DeclaredName.moved_zero (d : DeclaredName) : d.moved 0 = d := by
  cases d <;> simp [moved, Construct.moved_zero]

theorem Annotation.moved_zero (a : Annotation) : a.moved 0 = a := by
  cases a <;> simp [moved, Construct.moved_zero]

theorem Member.moved_zero (m : Member) : m.moved 0 = m := by
  cases m with
  | property s =>
    have hannotation : Annotation.moved 0 = id := funext Annotation.moved_zero
    simp [moved, PropertySignature.moved, DeclaredName.moved_zero, hannotation]
  | other c => rw [moved, Construct.moved_zero]

theorem ModuleItem.moved_zero (item : ModuleItem) : item.moved 0 = item := by
  cases item with
  | interface d =>
    have hconstruct : Construct.moved 0 = id := funext Construct.moved_zero
    have hmember : Member.moved 0 = id := funext Member.moved_zero
    simp [moved, InterfaceDeclaration.moved, DeclaredName.moved_zero, hconstruct, hmember]
  | other c => rw [moved, Construct.moved_zero]

theorem Module.moved_zero (m : Module) : m.moved 0 = m := by
  have hitems : ModuleItem.moved 0 = id := funext ModuleItem.moved_zero
  simp [moved, hitems]

/-- A text is read and extracted as it is with another one before it, when its tree is taken further
on by the bytes of that: lines move by the rows, and nothing else changes. Where no row is added, as
with characters of several bytes on the first line, nothing changes at all. -/
theorem reads_after_prefix (front source : List Char) (rows : Nat) (t : Tree) :
    let further (rows : Nat) := Module.ofTree (Utf8.encode (front ++ source))
      (t.shift (Utf8.encode front).length rows)
    further rows = (Module.ofTree (Utf8.encode source) t).map (Module.moved rows) ∧
    further 0 = Module.ofTree (Utf8.encode source) t ∧
    Resolvers.keywordsOnly.MoveWithLines ∧
    ∀ r : Resolvers, r.MoveWithLines → ∀ module, Module.ofTree (Utf8.encode source) t = .ok module →
      ∃ module', further rows = .ok module' ∧ Extraction.all r module'.items =
        Extraction.moved rows (List.map (Interface.moved rows)) (Extraction.all r module.items) := by
  intro further
  have hfurther : ∀ rows : Nat,
      further rows = (Module.ofTree (Utf8.encode source) t).map (Module.moved rows) := by
    intro rows
    have hshift := Module.ofTree_shift (Utf8.encode front) (Utf8.encode source) rows t
    rwa [← Utf8.encode_append] at hshift
  refine ⟨hfurther rows, ?_, Resolvers.keywordsOnly_moveWithLines, ?_⟩
  · have hzero : Module.moved ((0 : Nat) : Int) = id := funext Module.moved_zero
    rw [hfurther, hzero]
    cases Module.ofTree (Utf8.encode source) t <;> rfl
  · intro r hr module hmodule
    refine ⟨module.moved rows, ?_, Extraction.all_moved rows hr module.items⟩
    rw [hfurther, hmodule]
    rfl

/-- The accented interface after a comment with an accent of its own. -/
theorem reads_after_prefix_accented :
    let t := Tree.spanning "program" 0 27 true none [Tree.accented]
    ∃ module, Module.ofTree (Utf8.encode Tree.accentedText) t = .ok module ∧
      Resolvers.keywordsOnly.MoveWithLines ∧
      ∃ module', Module.ofTree (Utf8.encode ("// ü\n".toList ++ Tree.accentedText)) (t.shift 6 1) =
          .ok module' ∧
        Extraction.all .keywordsOnly module'.items = .ok
          [{ name := "É", properties := [⟨"a", some .null, true⟩, ⟨"b", none, false⟩],
             line := some 2 }] := by
  intro t
  have hfirst : (Module.ofTree (Utf8.encode Tree.accentedText) t).map
      (fun module => Extraction.all .keywordsOnly module.items) = .ok (.ok
        [{ name := "É", properties := [⟨"a", some .null, true⟩, ⟨"b", none, false⟩],
           line := some 1 }]) := by decide +kernel
  obtain ⟨module, hmodule, hfound⟩ := map_eq_ok.mp hfirst
  obtain ⟨-, -, hkeywords, hextracts⟩ := reads_after_prefix "// ü\n".toList Tree.accentedText 1 t
  obtain ⟨module', hmodule', hall⟩ := hextracts .keywordsOnly hkeywords module hmodule
  refine ⟨module, hmodule, hkeywords, module', hmodule', ?_⟩
  rw [hall, hfound]
  rfl

end TypeGuards
