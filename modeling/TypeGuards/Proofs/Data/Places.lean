import TypeGuards.Proofs.Data.Store
/-!
The places of a value, by the steps that lead to them from part to part. A shared object stands at several
places, and a value that contains itself has places without end.
-/
namespace TypeGuards

namespace Store

def Value.isScalar : Value → Bool
  | scalar _ => true
  | _ => false

inductive Step where
  | key (key : Scalar)
  | item (n : Nat)
deriving DecidableEq, Repr

def parts (s : Store) (v : Value) : List (Step × Value) :=
  match s.layer v with
  | .list items => items.zipIdx.map fun (w, i) => (.item i, w)
  | .pair a b => [(.item 0, a), (.item 1, b)]
  | .map entries => entries.map fun (k, w) => (.key k, w)
  | _ => []

inductive Leads (s : Store) : Value → List Step → Value → Prop
  | here {v : Value} : Leads s v [] v
  | step {v w u : Value} {step : Step} {rest : List Step} :
      (step, w) ∈ s.parts v → Leads s w rest u → Leads s v (step :: rest) u

def places (s : Store) : Nat → Value → List (List Step × Value)
  | 0, v => [([], v)]
  | depth + 1, v => ([], v) :: (s.parts v).flatMap fun (step, w) =>
      (s.places depth w).map fun (rest, u) => (step :: rest, u)

/-- No object stands at two places of a value. -/
def Unshared (s : Store) (v : Value) : Prop :=
  ∀ n p q, s.Leads v p (.object n) → s.Leads v q (.object n) → p = q

variable {s : Store} {v w : Value} {n : Nat} {step : Step} {p before rest : List Step} {k : Scalar}

theorem leads_nil : s.Leads v [] w ↔ w = v := by
  constructor
  · rintro ⟨⟩
    rfl
  · rintro rfl
    exact .here

/-- A place inside a value is a place inside one of its parts. -/
theorem leads_cons : s.Leads v (step :: rest) w ↔
    ∃ part, (step, part) ∈ s.parts v ∧ s.Leads part rest w := by
  constructor
  · rintro (_ | ⟨hpart, hrest⟩)
    exact ⟨_, hpart, hrest⟩
  · rintro ⟨part, hpart, hrest⟩
    exact .step hpart hrest

/-- Only records have parts under keys. -/
theorem key_mem_parts : (.key k, w) ∈ s.parts v ↔
    ∃ n, v = .object n ∧ (k, w) ∈ (s.mapping n).entries := by
  cases v with
  | scalar | pair => simp [parts, layer]
  | object n =>
    simp only [parts, layer, mapping, mapping?, Value.object.injEq, exists_eq_left']
    cases s.object? n with
    | none => simp
    | some o => cases o <;> simp

theorem leads_key_cons : s.Leads (.object n) (.key k :: rest) w ↔
    ∃ u, (k, u) ∈ (s.mapping n).entries ∧ s.Leads u rest w := by
  rw [leads_cons]
  refine exists_congr fun u => and_congr_left fun _ => ?_
  rw [key_mem_parts]
  simp only [Value.object.injEq, exists_eq_left']

theorem leads_key : s.Leads (.object n) [.key k] w ↔ (k, w) ∈ (s.mapping n).entries := by
  rw [leads_key_cons]
  simp only [leads_nil, exists_eq_right']

/-- What stands under a key of a record that stands under a key of another. -/
theorem leads_member {l : Scalar} : s.Leads (.object n) [.key k, .key l] w ↔
    ∃ j, (k, .object j) ∈ (s.mapping n).entries ∧ (l, w) ∈ (s.mapping j).entries := by
  rw [leads_key_cons]
  constructor
  · intro h
    obtain ⟨u, hu, hlead⟩ := h
    obtain ⟨part, hpart, hend⟩ := leads_cons.mp hlead
    obtain ⟨j, rfl, hmember⟩ := key_mem_parts.mp hpart
    obtain rfl := leads_nil.mp hend
    exact ⟨j, hu, hmember⟩
  · intro h
    obtain ⟨j, hj, hmember⟩ := h
    exact ⟨_, hj, leads_key.mpr hmember⟩

theorem nil_mem_places (depth : Nat) : ([], v) ∈ s.places depth v := by
  cases depth <;> exact List.mem_cons_self

/-- Places with the parts of all that stands there are all the places. -/
theorem Leads.mem_of_closed {places : List (List Step × Value)} (h : s.Leads v p w)
    (hplaces : ∀ e ∈ places, ∀ f ∈ s.parts e.2, (e.1 ++ [f.1], f.2) ∈ places)
    (hv : (before, v) ∈ places) : (before ++ p, w) ∈ places := by
  induction h generalizing before with
  | here => rwa [List.append_nil]
  | step hpart _ ih =>
    rw [List.append_cons]
    exact ih (hplaces _ hv _ hpart)

/-- A finite list of places that is closed under going on shows that nothing is shared. -/
theorem unshared_of_places (depth : Nat)
    (hplaces : ∀ e ∈ s.places depth v, ∀ f ∈ s.parts e.2, (e.1 ++ [f.1], f.2) ∈ s.places depth v)
    (hone : ∀ e ∈ s.places depth v, ∀ f ∈ s.places depth v, e.2 = f.2 → e.2.isScalar = false →
      e.1 = f.1) : s.Unshared v := by
  intro n p q hp hq
  exact hone _ (hp.mem_of_closed hplaces (nil_mem_places depth)) _
    (hq.mem_of_closed hplaces (nil_mem_places depth)) rfl rfl

end Store

end TypeGuards
