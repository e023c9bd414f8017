import TypeGuards.Data
/-!
Values whose parts may be shared. Lists, sets and mappings are objects with numbers: what stands in two
places is one object if it has one number, and an object may contain itself.
-/
namespace TypeGuards

namespace Store

inductive Value where
  | scalar (value : Scalar)
  | pair (first second : Value)
  | object (number : Nat)
deriving DecidableEq, Repr, Inhabited

end Store

open Store (Value)

/-- Entries in order, no two with the same key. -/
structure Mapping where
  entries : List (Scalar × Value) := []
  distinct : entries.Pairwise fun e f => e.1.isSameKey f.1 = false := by exact .nil
deriving DecidableEq, Repr

namespace Mapping

instance : Inhabited Mapping := ⟨{}⟩

theorem mem_insert {key : Scalar} {value : Value} {entries : List (Scalar × Value)} {e : Scalar × Value}
    (h : e ∈ Data.insert key value entries) : e.1 = key ∨ ∃ f ∈ entries, f.1 = e.1 := by
  induction entries with
  | nil =>
    obtain rfl := List.mem_singleton.mp h
    exact Or.inl rfl
  | cons first rest ih =>
    rw [Data.insert] at h
    split at h
    · rcases List.mem_cons.mp h with rfl | hrest
      · exact Or.inr ⟨first, List.mem_cons_self, rfl⟩
      · exact Or.inr ⟨e, List.mem_cons_of_mem _ hrest, rfl⟩
    · rcases List.mem_cons.mp h with rfl | hrest
      · exact Or.inr ⟨_, List.mem_cons_self, rfl⟩
      · rcases ih hrest with hkey | ⟨f, hf, hsame⟩
        · exact Or.inl hkey
        · exact Or.inr ⟨f, List.mem_cons_of_mem _ hf, hsame⟩

theorem distinct_insert {key : Scalar} {value : Value} {entries : List (Scalar × Value)}
    (h : entries.Pairwise fun e f => e.1.isSameKey f.1 = false) :
    (Data.insert key value entries).Pairwise fun e f => e.1.isSameKey f.1 = false := by
  induction h with
  | nil => exact List.pairwise_singleton _ _
  | @cons first rest hfirst hrest ih =>
    rw [Data.insert]
    split
    · exact .cons hfirst hrest
    · rename_i hkey
      refine .cons ?_ ih
      intro e he
      rcases mem_insert he with hsame | ⟨f, hf, hsame⟩
      · rw [hsame]
        exact Bool.eq_false_iff.mpr hkey
      · rw [← hsame]
        exact hfirst f hf

def insert (key : Scalar) (value : Value) (m : Mapping) : Mapping :=
  { entries := Data.insert key value m.entries, distinct := distinct_insert m.distinct }

def ofEntries (entries : List (Scalar × Value)) : Mapping :=
  entries.foldl (fun m (k, v) => m.insert k v) {}

def find? (m : Mapping) (key : String) : Option Value := Data.find? m.entries key

def valueOf (m : Mapping) (key : Scalar) : Value :=
  ((m.entries.find? (·.1.isSameKey key)).map (·.2)).getD (.scalar .null)

end Mapping

inductive Object where
  | list (items : List Value)
  | set (items : List Scalar)
  | map (m : Mapping)
deriving DecidableEq, Repr, Inhabited

structure Store where
  objects : List (Nat × Object) := []
deriving DecidableEq, Repr, Inhabited

def Store.Value.toData (object : Nat → Data) : Value → Data
  | scalar s => .scalar s
  | pair a b => .pair (a.toData object) (b.toData object)
  | .object n => object n

def Object.toData (object : Nat → Data) : Object → Data
  | list items => .list (items.map (·.toData object))
  | set items => .set items
  | map m => .map (m.entries.map fun (k, v) => (k, v.toData object))

namespace Store

def object? (s : Store) (n : Nat) : Option Object := s.objects.lookup n

def put (n : Nat) (o : Object) (s : Store) : Store := { objects := replace s.objects }
where
  replace : List (Nat × Object) → List (Nat × Object)
    | [] => [(n, o)]
    | (m, old) :: rest => if m = n then (n, o) :: rest else (m, old) :: replace rest

def mapping? (s : Store) : Value → Option (Nat × Mapping)
  | .object n =>
      match s.object? n with
      | some (.map m) => some (n, m)
      | _ => none
  | _ => none

def mapping (s : Store) (n : Nat) : Mapping := ((s.mapping? (.object n)).map (·.2)).getD {}

def layer (s : Store) : Value → Layer Value
  | .scalar v => .scalar v
  | .pair a b => .pair a b
  | .object n =>
      match s.object? n with
      | some (.list items) => .list items
      | some (.set items) => .set items
      | some (.map m) => .map m.entries
      | none => .scalar .null

/-- An object down to a depth, without what it shares with others. -/
def unfolded (s : Store) : Nat → Nat → Data
  | 0, _ => .null
  | depth + 1, n => ((s.object? n).map (·.toData (s.unfolded depth))).getD .null

/-- A value without what its parts share. One that contains itself is cut off, further in than anything
that is read of it. -/
def data (s : Store) (v : Value) : Data := v.toData (s.unfolded (s.objects.length + 3))

end Store

structure Stored where
  store : Store := {}
  value : Value
deriving Repr, Inhabited

def Stored.data (d : Stored) : Data := d.store.data d.value

end TypeGuards
