import TypeGuards.Proofs.Data.Store
import TypeGuards.Proofs.Logging
/-!
What an edit of a setting can change. It puts a level into records and does nothing else, so that values
of any other shape, and all keys but that of the level, stay as they are however far an edit gets.
-/
namespace TypeGuards.Logging.Override

open Store (Value)

variable {level name : String} {s t u : Store} {m : Mapping} {v key : Value} {n k : Nat}

theorem find?_withLevel : (withLevel level m).find? name =
    if "level" = name then some (.scalar (.text level)) else m.find? name :=
  Mapping.find?_insert

theorem withLevel_withLevel : withLevel level (withLevel level m) = withLevel level m :=
  Mapping.insert_insert

/-- A record that has the level stays as it is, and no other does. -/
theorem withLevel_eq_self :
    withLevel level m = m ↔ m.find? "level" = some (.scalar (.text level)) := by
  constructor
  · intro h
    rw [← h, find?_withLevel, if_pos rfl]
  · exact Mapping.insert_self

/-- A level is the only entry that is changed. -/
theorem mem_withLevel {e : Scalar × Value} (h : e.1 ≠ .text "level") :
    e ∈ (withLevel level m).entries ↔ e ∈ m.entries :=
  Data.mem_insert_of_ne h

theorem level_mem_withLevel :
    (.text "level", .scalar (.text level)) ∈ (withLevel level m).entries :=
  Data.mem_of_find? Data.find?_insert

/-- A record without a level grows. -/
theorem length_withLevel_of_none (h : m.find? "level" = none) :
    (withLevel level m).entries.length = m.entries.length + 1 := by
  have heq : (withLevel level m).entries = m.entries ++ [(.text "level", .scalar (.text level))] :=
    Data.insert_of_none h
  rw [heq, List.length_append, List.length_singleton]

/-- A record with a level keeps its keys in their order. -/
theorem keys_withLevel (h : m.find? "level" = some v) :
    (withLevel level m).entries.map (·.1) = m.entries.map (·.1) := by
  obtain ⟨before, after, heq, hinsert⟩ := Data.exists_insert_eq h
  have hset : (withLevel level m).entries = before ++ (.text "level", .scalar (.text level)) :: after :=
    hinsert _
  rw [hset, heq]
  simp

theorem length_withLevel_of_some (h : m.find? "level" = some v) :
    (withLevel level m).entries.length = m.entries.length := by
  have hkeys := congrArg List.length (@keys_withLevel level m v h)
  rwa [List.length_map, List.length_map] at hkeys

/-! ### Stores before and after -/

/-- Some records have got a level; all other objects are as they were. -/
def Leveled (level : String) (s t : Store) : Prop :=
  ∀ n, t.object? n = s.object? n ∨
    ∃ m, s.object? n = some (.map m) ∧ t.object? n = some (.map (withLevel level m))

theorem Leveled.refl (s : Store) : Leveled level s s := fun _ => Or.inl rfl

/-- Edits one after another have, together, only put a level into records. -/
theorem Leveled.trans (h : Leveled level s t) (h' : Leveled level t u) : Leveled level s u := by
  intro n
  rcases h' n with hsame | ⟨m, hm, hset⟩
  · rw [hsame]
    exact h n
  · rcases h n with hfirst | ⟨m', hm', hfirst⟩
    · rw [hfirst] at hm
      exact Or.inr ⟨m, hm, hset⟩
    · rw [hfirst] at hm
      obtain rfl := Object.map.inj (Option.some.inj hm)
      rw [withLevel_withLevel] at hset
      exact Or.inr ⟨m', hm', hset⟩

theorem leveled_put (h : s.object? n = some (.map m)) :
    Leveled level s (s.put n (.map (withLevel level m))) := by
  intro k
  rw [Store.object?_put]
  split_ifs with hk
  · rw [hk]
    exact Or.inr ⟨m, h, rfl⟩
  · exact Or.inl rfl

theorem Leveled.object?_eq (h : Leveled level s t) (hs : ∀ m, s.object? n ≠ some (.map m)) :
    t.object? n = s.object? n := by
  rcases h n with hsame | ⟨m, hm, -⟩
  · exact hsame
  · exact absurd hm (hs m)

/-- Records stay records, and nothing else becomes one. -/
theorem Leveled.mapping?_eq_none (h : Leveled level s t) :
    t.mapping? v = none ↔ s.mapping? v = none := by
  cases v with
  | scalar | pair => exact Iff.rfl
  | object n =>
    rcases h n with hsame | ⟨m, hm, hset⟩
    · simp only [Store.mapping?, hsame]
    · simp only [Store.mapping?, hm, hset, reduceCtorEq]

theorem Leveled.mapping?_isSome (h : Leveled level s t) :
    (t.mapping? v).isSome ↔ (s.mapping? v).isSome := by
  rw [Option.isSome_iff_ne_none, Option.isSome_iff_ne_none]
  exact not_congr h.mapping?_eq_none

theorem Leveled.mapping (h : Leveled level s t) :
    t.mapping n = s.mapping n ∨
      s.object? n = some (.map (s.mapping n)) ∧ t.mapping n = withLevel level (s.mapping n) := by
  rcases h n with hsame | ⟨m, hm, hset⟩
  · left
    simp only [Store.mapping, Store.mapping?, hsame]
  · rw [Store.mapping_of_object? hm, Store.mapping_of_object? hset]
    exact Or.inr ⟨hm, rfl⟩

theorem Leveled.find? (h : Leveled level s t) (hname : "level" ≠ name) :
    (t.mapping n).find? name = (s.mapping n).find? name := by
  rcases h.mapping (n := n) with hsame | ⟨-, hset⟩
  · rw [hsame]
  · rw [hset, find?_withLevel, if_neg hname]

/-- What is no record looks the same after the edit. -/
theorem Leveled.layer (h : Leveled level s t) (hv : s.mapping? v = none) : t.layer v = s.layer v := by
  cases v with
  | scalar | pair => rfl
  | object n =>
    have hsame : t.object? n = s.object? n := by
      refine h.object?_eq fun m hm => ?_
      rw [Store.mapping?_eq_some.mpr ⟨rfl, hm⟩] at hv
      contradiction
    simp only [Store.layer, hsame]

/-- What is found in a value that is no record does not depend on the entries of records. -/
theorem Leveled.member (h : Leveled level s t) (hv : s.mapping? v = none) :
    Logging.member Value.scalar (t.layer v) (t.layer key) =
      Logging.member Value.scalar (s.layer v) (s.layer key) := by
  rw [h.layer hv]
  cases hkey : s.mapping? key with
  | none => rw [h.layer hkey]
  | some e =>
    obtain ⟨rfl, hm⟩ := Store.mapping?_eq_some.mp (show s.mapping? key = some (e.1, e.2) from hkey)
    have hrecord : ∃ entries entries', s.layer (.object e.1) = .map entries ∧
        t.layer (.object e.1) = .map entries' := by
      rcases h e.1 with hsame | ⟨m, -, hset⟩
      · exact ⟨_, _, by rw [Store.layer, hm], by rw [Store.layer, hsame, hm]⟩
      · exact ⟨_, _, by rw [Store.layer, hm], by rw [Store.layer, hset]⟩
    obtain ⟨entries, entries', hs, ht⟩ := hrecord
    rw [hs, ht]
    unfold Logging.member
    split <;> rfl

end TypeGuards.Logging.Override

namespace TypeGuards.Logging.Edit

open Override
open Store (Value)

variable {α β : Type} {x : Edit α} {f : α → Edit β} {s t : Store} {a : α} {e : Misshape}
  {level : String} {m : Mapping} {n : Nat} {v : Value}

/-! ### Endings -/

/-- What comes of an edit, and the store that it leaves. -/
def ending (x : Edit α) (s : Store) : Except Misshape α × Store := x.run.run s

theorem ending_bind (x : Edit α) (f : α → Edit β) (s : Store) :
    (x >>= f).ending s = match x.ending s with
      | (.ok a, t) => (f a).ending t
      | (.error e, t) => (.error e, t) := by
  unfold ending
  rw [run_bind]
  rcases x.run.run s with ⟨_ | _, t⟩
  · rfl
  · rfl

theorem ending_get_bind (f : Store → Edit α) (s : Store) :
    ((get : Edit Store) >>= f).ending s = (f s).ending s := rfl

@[simp] theorem ending_pure (a : α) (s : Store) : (pure a : Edit α).ending s = (.ok a, s) := rfl

@[simp] theorem ending_throw (e : Misshape) (s : Store) :
    (throw e : Edit α).ending s = (.error e, s) := rfl

@[simp] theorem ending_except (r : Except Misshape α) (s : Store) :
    (liftM r : Edit α).ending s = (r, s) := by
  cases r <;> rfl

def Succeeds (x : Edit α) (s : Store) : Prop := ∃ a t, x.ending s = (.ok a, t)

/-- An edit fails, and the setup does not go on after it. -/
def Escapes (x : Edit α) (s : Store) : Prop := ∃ e t, x.ending s = (.error e, t) ∧ e.isHandled = false

theorem succeeds_congr {y : Edit α} (h : x.ending s = y.ending t) : Succeeds x s ↔ Succeeds y t := by
  unfold Succeeds
  rw [h]

theorem escapes_congr {y : Edit α} (h : x.ending s = y.ending t) : Escapes x s ↔ Escapes y t := by
  unfold Escapes
  rw [h]

/-- A sequence of edits escapes at one of them, after the ones before have ended. -/
theorem escapes_bind : Escapes (x >>= f) s ↔
    Escapes x s ∨ ∃ a t, x.ending s = (.ok a, t) ∧ Escapes (f a) t := by
  unfold Escapes
  rw [ending_bind]
  rcases x.ending s with ⟨e | a, t⟩ <;> simp

theorem not_succeeds_of_error (h : x.ending s = (.error e, t)) : ¬Succeeds x s := by
  simp [Succeeds, h]

theorem not_escapes_of_ok (h : x.ending s = (.ok a, t)) : ¬Escapes x s := by
  simp [Escapes, h]

theorem escapes_of_error (h : x.ending s = (.error e, t)) : Escapes x s ↔ e.isHandled = false := by
  simp [Escapes, h]

/-! ### What edits leave -/

/-- Whatever comes of an edit, it has only put a level into records. -/
def PutsLevels (level : String) (x : Edit α) : Prop := ∀ s, Leveled level s (x.ending s).2

theorem PutsLevels.leveled {r : Except Misshape α} (hx : PutsLevels level x)
    (h : x.ending s = (r, t)) : Leveled level s t := by
  have hput := hx s
  rwa [h] at hput

theorem PutsLevels.bind (hx : PutsLevels level x) (hf : ∀ a, PutsLevels level (f a)) :
    PutsLevels level (x >>= f) := by
  intro s
  have hfirst := hx s
  rw [ending_bind]
  rcases hend : x.ending s with ⟨e | a, t⟩
  · rwa [hend] at hfirst
  · rw [hend] at hfirst
    exact hfirst.trans (hf a t)

theorem putsLevels_get : PutsLevels level (get : Edit Store) := Leveled.refl

theorem putsLevels_pure (a : α) : PutsLevels level (pure a) := Leveled.refl

theorem putsLevels_throw (e : Misshape) : PutsLevels level (throw e : Edit α) := Leveled.refl

theorem putsLevels_except (r : Except Misshape α) : PutsLevels level (liftM r : Edit α) := by
  intro s
  rw [ending_except]
  exact .refl s

end TypeGuards.Logging.Edit

namespace TypeGuards.Logging.Override

open Edit
open Store (Value)

variable {level : String} {s : Store} {m : Mapping} {n : Nat} {v : Value}

theorem setLevel_ending (h : s.mapping? v = some (n, m)) : (setLevel level v).ending s =
    (.ok (), s.put n (.map (withLevel level m))) := by
  unfold setLevel
  rw [ending_get_bind, h]
  rfl

theorem setLevel_ending_of_none (h : s.mapping? v = none) : (setLevel level v).ending s =
    (.error (unassignable (s.layer v)), s) := by
  unfold setLevel
  rw [ending_get_bind, h]
  rfl

theorem putsLevels_setLevel (v : Value) : PutsLevels level (setLevel level v) := by
  intro s
  cases h : s.mapping? v with
  | none =>
    rw [setLevel_ending_of_none h]
    exact .refl s
  | some e =>
    rw [setLevel_ending (n := e.1) (m := e.2) h]
    exact leveled_put (Store.mapping?_eq_some.mp h).2

/-- The loop over loggers only puts levels, also where it stops halfway. -/
theorem putsLevels_setLevelsUnder (n size : Nat) (keys : List Scalar) :
    PutsLevels level (setLevelsUnder level n size keys) := by
  induction keys with
  | nil => exact putsLevels_pure ()
  | cons key rest ih =>
    refine putsLevels_get.bind fun s => (putsLevels_setLevel _).bind fun _ => ?_
    refine putsLevels_get.bind fun t => ?_
    split_ifs
    · exact putsLevels_throw _
    · exact ih

theorem putsLevels_setLevelsAt (v : Value) (keys : List Value) :
    PutsLevels level (setLevelsAt level v keys) := by
  induction keys with
  | nil => exact putsLevels_pure ()
  | cons key rest ih =>
    refine putsLevels_get.bind fun s => (putsLevels_except _).bind fun w => ?_
    exact (putsLevels_setLevel w).bind fun _ => ih

theorem putsLevels_setLevels (v : Value) : PutsLevels level (setLevels level v) := by
  refine putsLevels_get.bind fun s => ?_
  split
  · exact putsLevels_setLevelsUnder _ _ _
  · exact (putsLevels_except _).bind fun keys => putsLevels_setLevelsAt v keys

theorem putsLevels_lowerHandler (number : Int) (v : Value) :
    PutsLevels level (lowerHandler level number v) := by
  refine putsLevels_get.bind fun s => ?_
  split
  · refine (putsLevels_except _).bind fun k => ?_
    split_ifs
    · exact putsLevels_setLevel v
    · exact putsLevels_pure ()
  · exact putsLevels_pure ()

theorem putsLevels_lowerHandlersUnder (number : Int) (n : Nat) (keys : List Scalar) :
    PutsLevels level (lowerHandlersUnder level number n keys) := by
  induction keys with
  | nil => exact putsLevels_pure ()
  | cons key rest ih =>
    exact putsLevels_get.bind fun s => (putsLevels_lowerHandler number _).bind fun _ => ih

theorem putsLevels_lowerHandlers (number : Int) (v : Value) :
    PutsLevels level (lowerHandlers level number v) := by
  refine putsLevels_get.bind fun s => ?_
  split
  · exact putsLevels_lowerHandlersUnder number _ _
  · exact putsLevels_throw _

theorem putsLevels_change {f : Value → Edit Unit} (root : Nat) (name : String)
    (h : ∀ v, PutsLevels level (f v)) : PutsLevels level (change root name f) := by
  refine putsLevels_get.bind fun s => ?_
  split
  · exact h _
  · exact putsLevels_pure ()

/-- However far it gets, putting a level into a setting changes nothing but levels of records. -/
theorem putsLevels_apply (number : Int) (root : Nat) :
    PutsLevels level (Override.apply level number root) := by
  refine (putsLevels_change root "loggers" putsLevels_setLevels).bind fun _ => ?_
  refine (putsLevels_change root "root" putsLevels_setLevel).bind fun _ => ?_
  exact putsLevels_change root "handlers" (putsLevels_lowerHandlers number)

end TypeGuards.Logging.Override

namespace TypeGuards.Logging

variable {level : String} {number : Int} {root : Nat} {s : Store}

/-- What is no level is refused before anything is changed. -/
theorem override_of_unknown (h : Level.number? (Level.upperName level) = none) :
    (override level root).run.run s = (.error (.level level), s) := by
  unfold override
  dsimp only
  rw [h]
  rfl

/-- An override with a level that is one comes down to the edit of the store. -/
theorem override_of_number (h : Level.number? (Level.upperName level) = some number) :
    (override level root).run.run s =
      ((((Override.apply (Level.upperName level) number root).ending s).1).mapError .misshape,
        ((Override.apply (Level.upperName level) number root).ending s).2) := by
  unfold override
  dsimp only
  rw [h]
  rfl

end TypeGuards.Logging
