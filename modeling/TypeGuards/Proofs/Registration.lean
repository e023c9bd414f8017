import TypeGuards.Proofs.Acceptance
/-!
Registration of resolvers. A call gives a resolver to a kind that has none and fails otherwise, so a
resolver that is there stays, and the first call for a kind decides how it is resolved. What has been
extracted is then extracted again, the same, after any further calls.
-/
namespace TypeGuards

namespace Resolvers

/-- A call of registration: a kind and the resolver for it. -/
abbrev Call := String × KindResolver

/-- The resolvers after a call. One that fails leaves them as they are. -/
def after (r : Resolvers) (c : Call) : Resolvers :=
  match r.register c.1 c.2 with
  | .ok next => next
  | .error _ => r

/-- The resolvers after some calls, each on what those before it left. -/
def registered (calls : List Call) : Resolvers := calls.foldl after keywordsOnly

/-- Every kind is resolved as before; others may have been added. -/
def Extends (r r' : Resolvers) : Prop :=
  ∀ kind f, r.resolver? kind = some f → r'.resolver? kind = some f

variable {r r' : Resolvers} {kind : String} {f : KindResolver} {c : Call} {a : Annotation}

/-! ### One call -/

theorem resolver?_isSome_iff : (r.resolver? kind).isSome ↔ kind ∈ r.kinds := by
  unfold resolver? kinds
  induction r.entries with
  | nil => simp
  | cons entry entries ih =>
    obtain ⟨first, g⟩ := entry
    by_cases hfirst : kind = first
    · simp [hfirst]
    · have hne : (kind == first) = false := beq_eq_false_iff_ne.mpr hfirst
      rw [List.lookup_cons, hne, ih, List.map_cons, List.mem_cons]
      exact ⟨Or.inr, fun h => h.resolve_left hfirst⟩

theorem resolver?_eq_none_iff : r.resolver? kind = none ↔ kind ∉ r.kinds := by
  rw [← resolver?_isSome_iff, Option.not_isSome_iff_eq_none]

/-- Registration fails for the kinds that are there and for no others. -/
theorem register_eq (r : Resolvers) (kind : String) (f : KindResolver) : r.register kind f =
    if kind ∈ r.kinds then .error kind else .ok ⟨r.entries ++ [(kind, f)]⟩ := by
  unfold register
  by_cases hkind : kind ∈ r.kinds
  · obtain ⟨g, hg⟩ := Option.isSome_iff_exists.mp (resolver?_isSome_iff.mpr hkind)
    rw [hg, if_pos hkind]
  · rw [resolver?_eq_none_iff.mpr hkind, if_neg hkind]

theorem after_of_mem (h : c.1 ∈ r.kinds) : r.after c = r := by
  rw [after, register_eq, if_pos h]

theorem after_of_not_mem (h : c.1 ∉ r.kinds) : r.after c = ⟨r.entries ++ [c]⟩ := by
  rw [after, register_eq, if_neg h]

/-- A kind is registered once, and new kinds come last. -/
theorem kinds_after : (r.after c).kinds = if c.1 ∈ r.kinds then r.kinds else r.kinds ++ [c.1] := by
  by_cases hkind : c.1 ∈ r.kinds
  · rw [after_of_mem hkind, if_pos hkind]
  · rw [after_of_not_mem hkind, if_neg hkind, kinds, List.map_append]
    rfl

/-- After a call a kind has the resolver that it had, or else the one of the call. -/
theorem resolver?_after : (r.after c).resolver? kind = (r.resolver? kind).or ([c].lookup kind) := by
  by_cases hmem : c.1 ∈ r.kinds
  · rw [after_of_mem hmem]
    cases hkind : r.resolver? kind with
    | some f => rfl
    | none =>
      have hne : kind ≠ c.1 := by
        intro heq
        rw [heq] at hkind
        exact resolver?_eq_none_iff.mp hkind hmem
      have hlookup : [c].lookup kind = none := by
        rw [List.lookup_cons, beq_eq_false_iff_ne.mpr hne]
        rfl
      rw [hlookup, Option.none_or]
  · rw [after_of_not_mem hmem, resolver?, List.lookup_append]
    rfl

/-! ### All calls -/

theorem resolver?_foldl (calls : List Call) (r : Resolvers) (kind : String) :
    (calls.foldl after r).resolver? kind = (r.resolver? kind).or (calls.lookup kind) := by
  induction calls generalizing r with
  | nil => simp
  | cons c calls ih =>
    have hsplit : (c :: calls).lookup kind = ([c].lookup kind).or (calls.lookup kind) := by
      rw [← List.lookup_append, List.singleton_append]
    rw [List.foldl_cons, ih, resolver?_after, Option.or_assoc, hsplit]

/-- The kinds are those there and the new ones, each where it comes first. -/
theorem kinds_foldl (calls : List Call) (r : Resolvers) (h : r.kinds.eraseDups = r.kinds) :
    (calls.foldl after r).kinds = (r.kinds ++ calls.map (·.1)).eraseDups := by
  induction calls generalizing r with
  | nil => rw [List.foldl_nil, List.map_nil, List.append_nil, h]
  | cons c calls ih =>
    have hkinds : (r.after c).kinds = (r.kinds ++ [c.1]).eraseDups := by
      rw [kinds_after, eraseDups_concat, h]
    have hdistinct : (r.after c).kinds.eraseDups = (r.after c).kinds := by
      rw [hkinds, eraseDups_eraseDups]
    rw [List.foldl_cons, ih _ hdistinct, eraseDups_append_congr (hdistinct.trans hkinds),
      List.append_assoc, List.map_cons, List.singleton_append]

/-- The first resolver of a kind stays, and keywords have theirs from the start. -/
theorem resolver?_registered (calls : List Call) (kind : String) :
    (registered calls).resolver? kind = (("KeywordType", keyword) :: calls).lookup kind := by
  have hfirst : keywordsOnly.resolver? kind = [("KeywordType", keyword)].lookup kind := rfl
  rw [registered, resolver?_foldl, hfirst, ← List.lookup_append, List.singleton_append]

theorem kinds_registered (calls : List Call) :
    (registered calls).kinds = ("KeywordType" :: calls.map (·.1)).eraseDups :=
  kinds_foldl calls keywordsOnly rfl

theorem registered_extends (calls more : List Call) :
    (registered calls).Extends (registered (calls ++ more)) := by
  intro kind f hf
  rw [registered, List.foldl_append, resolver?_foldl]
  rw [registered] at hf
  rw [hf, Option.some_or]

/-! ### What extends resolves -/

theorem resolve_of_resolver? (h : r.resolver? a.kind = some f) : r.resolve a = f a := by
  rw [resolve, h]

/-- A type that resolves goes on to do so, to the same. -/
theorem Extends.resolve_eq_ok (h : r.Extends r') {p : Primitive} (ha : r.resolve a = .ok p) :
    r'.resolve a = .ok p := by
  cases hf : r.resolver? a.kind with
  | some f =>
    rw [resolve_of_resolver? hf] at ha
    rw [resolve_of_resolver? (h a.kind f hf), ha]
  | none =>
    rw [resolve, hf] at ha
    contradiction

end Resolvers

namespace Extraction

open Resolvers

variable {r r' : Resolvers} (h : r.Extends r')

include h

theorem kindOf_mono {interface property : String} {a : Option Annotation} {k : Option Primitive}
    (ha : kindOf r interface property a = .ok k) : kindOf r' interface property a = .ok k := by
  rw [kindOf_eq_ok] at ha ⊢
  rcases ha with hnone | ⟨b, p, hb, hresolve, hk⟩
  · exact Or.inl hnone
  · exact Or.inr ⟨b, p, hb, h.resolve_eq_ok hresolve, hk⟩

theorem property_mono {interface : String} {m : Member} {p : Property}
    (hm : property r interface m = .ok p) : property r' interface m = .ok p := by
  rw [property_eq_ok] at hm ⊢
  obtain ⟨s, hs, hname, hnonempty, hkind, hoptional⟩ := hm
  exact ⟨s, hs, hname, hnonempty, kindOf_mono h hkind, hoptional⟩

theorem interface_mono {d : InterfaceDeclaration} {i : Interface} (hd : interface r d = .ok i) :
    interface r' d = .ok i := by
  rw [interface_eq_ok] at hd ⊢
  obtain ⟨hname, hparameters, hheritage, hnonempty, hmembers, hline⟩ := hd
  have hproperties := (mapM_eq_ok.mp hmembers).imp fun _ _ hm => property_mono h hm
  exact ⟨hname, hparameters, hheritage, hnonempty, mapM_eq_ok.mpr hproperties, hline⟩

theorem step_mono {found next : List Interface} {item : ModuleItem}
    (hstep : step r found item = .ok next) : step r' found item = .ok next := by
  cases item with
  | other c => exact hstep
  | interface d =>
    obtain ⟨new, hnew, hadd⟩ := bind_eq_ok.mp hstep
    exact bind_eq_ok.mpr ⟨new, interface_mono h hnew, hadd⟩

/-- More resolvers leave every extraction that succeeded as it was. -/
theorem foldlM_mono {items : List ModuleItem} {known found : List Interface}
    (hitems : items.foldlM (step r) known = .ok found) :
    items.foldlM (step r') known = .ok found := by
  induction items generalizing known with
  | nil => exact hitems
  | cons item items ih =>
    rw [List.foldlM_cons] at hitems ⊢
    obtain ⟨next, hnext, hrest⟩ := bind_eq_ok.mp hitems
    exact bind_eq_ok.mpr ⟨next, step_mono h hnext, ih hrest⟩

/-- What is extracted is extracted with more resolvers, too. -/
theorem all_mono {items : List ModuleItem} {found : List Interface}
    (hall : all r items = .ok found) : all r' items = .ok found := foldlM_mono h hall

end Extraction

namespace Resolvers

/-- More calls change nothing of what is extracted. A call for a kind that is there fails and leaves
all as it is, any other call adds its kind at the end, and each kind is resolved by the first call
for it, keywords by themselves. -/
theorem registration_conservative (calls more : List Call) :
    (∀ items found, Extraction.all (registered calls) items = .ok found →
      Extraction.all (registered (calls ++ more)) items = .ok found) ∧
    (∀ kind f, if kind ∈ (registered calls).kinds then
        (registered calls).register kind f = .error kind ∧
          registered (calls ++ [(kind, f)]) = registered calls
      else (registered calls).register kind f = .ok (registered (calls ++ [(kind, f)])) ∧
          (registered (calls ++ [(kind, f)])).kinds = (registered calls).kinds ++ [kind]) ∧
    (registered calls).kinds = ("KeywordType" :: calls.map (·.1)).eraseDups ∧
    (∀ a, a.kind ∈ (registered calls).kinds → ∃ f,
      (("KeywordType", keyword) :: calls).lookup a.kind = some f ∧
        (registered calls).resolve a = f a) ∧
    ∀ type line, (registered calls).resolve (.keyword type line) = .ok type := by
  have hresolve : ∀ a f, (("KeywordType", keyword) :: calls).lookup a.kind = some f →
      (registered calls).resolve a = f a := by
    intro a f hf
    rw [← resolver?_registered] at hf
    exact resolve_of_resolver? hf
  refine ⟨fun items found => Extraction.all_mono (registered_extends calls more), ?_,
    kinds_registered calls, ?_, fun type line => ?_⟩
  · intro kind f
    have hcall : registered (calls ++ [(kind, f)]) = (registered calls).after (kind, f) := by
      rw [registered, List.foldl_append]
      rfl
    rw [hcall, kinds_after, register_eq]
    by_cases hkind : kind ∈ (registered calls).kinds
    · rw [if_pos hkind, if_pos hkind]
      exact ⟨rfl, after_of_mem hkind⟩
    · rw [if_neg hkind, if_neg hkind, after_of_not_mem hkind]
      exact ⟨rfl, if_neg hkind⟩
  · intro a ha
    obtain ⟨f, hf⟩ := Option.isSome_iff_exists.mp (resolver?_isSome_iff.mpr ha)
    rw [resolver?_registered] at hf
    exact ⟨f, hf, hresolve a f hf⟩
  · exact hresolve (.keyword type line) keyword rfl

/-- A property of a type that two calls are for, of which the first one resolves it. -/
theorem registration_conservative_twice :
    let calls : List Call := [("TypeReference", fun _ => .ok .object), ("KeywordType", fun _ => .ok .any),
      ("TypeReference", fun _ => .ok .number)]
    let day : Annotation := .other ⟨"TypeReference", "Date", 2⟩
    let items : List ModuleItem := [.interface
      { name := .identifier "A" 1, members := [.property ⟨.identifier "day" 2, false, some day, 2⟩],
        bodyLine := 1, line := 1 }]
    let found : List Interface := [⟨"A", [⟨"day", some .object, false⟩], some 1⟩]
    Extraction.all (registered calls) items = .ok found ∧
      Extraction.all (registered (calls ++ [("UnionType", keyword)])) items = .ok found ∧
      (registered calls).resolve day = .ok .object := by
  intro calls day items found
  have hall : Extraction.all (registered calls) items = .ok found := by rfl
  obtain ⟨hmore, -, -, hresolve, -⟩ := registration_conservative calls [("UnionType", keyword)]
  obtain ⟨f, hf, hday⟩ := hresolve day (by decide)
  obtain rfl : (fun _ => .ok .object) = f := Option.some.inj hf
  exact ⟨hall, hmore items found hall, hday⟩

end Resolvers

end TypeGuards
