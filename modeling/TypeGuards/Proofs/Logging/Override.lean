import TypeGuards.Proofs.Logging.Edit
import TypeGuards.Proofs.Sequence
/-!
Which settings a level cannot be put into, such that setting up logging does not go on after it. All
others take the level or have something else wrong with them.
-/
namespace TypeGuards.Logging

open Store (Value)

/-! ### Members -/

section

variable {α : Type} {ofScalar : Scalar → α} {sequence : String} {items keys : List α} {a : α}
  {d key : Layer α} {e : Misshape}

theorem mem_of_memberAt (h : memberAt sequence items key = .ok a) : a ∈ items := by
  unfold memberAt at h
  split at h
  · split at h
    · split at h
      · rename_i found hfound
        obtain ⟨place, -, hplace⟩ := Option.bind_eq_some_iff.mp hfound
        obtain rfl := Except.ok.inj h
        exact List.mem_of_getElem? hplace
      · contradiction
    · contradiction
  · contradiction

/-- A record is no place in a sequence. -/
theorem memberAt_record_ne_ok {entries : List (Scalar × α)} :
    memberAt sequence items (.map entries) ≠ .ok a := nofun

theorem memberAt_eq_error (h : memberAt sequence items key = .error e) :
    e.isHandled = true ∨ ∃ name, e = .beyondEnd name := by
  unfold memberAt at h
  split at h
  · split at h
    · split at h
      · contradiction
      · exact Or.inr ⟨_, (Except.error.inj h).symm⟩
    · rw [← Except.error.inj h]
      exact Or.inl rfl
  · rw [← Except.error.inj h]
    exact Or.inl rfl

/-- Only reading beyond the end of a sequence is not handled. -/
theorem member_eq_error (h : member ofScalar d key = .error e) :
    e.isHandled = true ∨ ∃ name, e = .beyondEnd name := by
  unfold member at h
  split at h
  · exact memberAt_eq_error h
  · exact memberAt_eq_error h
  · exact memberAt_eq_error h
  · rw [← Except.error.inj h]
    exact Or.inl rfl
  · rw [← Except.error.inj h]
    exact Or.inl rfl

theorem members_eq_error (h : members ofScalar d = .error e) : e.isHandled = true := by
  unfold members at h
  split at h <;> first | contradiction | rw [← Except.error.inj h]; rfl

end

namespace Override

open Edit

variable {level name : String} {number : Int} {s t : Store} {m : Mapping} {n : Nat}
  {d v w key : Value} {items keys : List Value} {entries : List (Scalar × Value)} {e : Misshape}

def LeadsToRecord (s : Store) (d key : Value) : Prop :=
  ∃ v, member Value.scalar (s.layer d) (s.layer key) = .ok v ∧ (s.mapping? v).isSome

theorem exists_layer_eq (h : (s.mapping? v).isSome) : ∃ entries, s.layer v = .map entries := by
  obtain ⟨n, m, rfl, hm⟩ := Store.mapping?_isSome.mp h
  exact ⟨m.entries, by rw [Store.layer, hm]⟩

/-- If all places led to records, one of them would be a record. -/
theorem eq_nil_of_memberAt {sequence : String}
    (h : ∀ key ∈ items, ∃ v, memberAt sequence items (s.layer key) = .ok v ∧ (s.mapping? v).isSome) :
    items = [] := by
  rw [List.eq_nil_iff_forall_not_mem]
  intro key hkey
  obtain ⟨v, hv, hrecord⟩ := h key hkey
  obtain ⟨entries, hentries⟩ := exists_layer_eq hrecord
  obtain ⟨w, hw, -⟩ := h v (mem_of_memberAt hv)
  rw [hentries] at hw
  exact memberAt_record_ne_ok hw

/-- Keys of what is no record do not all lead to records, unless there are none. -/
theorem eq_nil_of_records (hkeys : members Value.scalar (s.layer d) = .ok keys)
    (h : ∀ key ∈ keys, LeadsToRecord s d key) : keys = [] := by
  unfold LeadsToRecord at h
  have hnone : (∀ key v, member Value.scalar (s.layer d) key ≠ .ok v) → keys = [] := by
    intro hnever
    rw [List.eq_nil_iff_forall_not_mem]
    intro key hkey
    obtain ⟨v, hv, -⟩ := h key hkey
    exact hnever _ v hv
  generalize s.layer d = l at hkeys h hnone
  cases l with
  | list items =>
    obtain rfl := Except.ok.inj hkeys
    exact eq_nil_of_memberAt h
  | pair a b =>
    obtain rfl := Except.ok.inj hkeys
    exact eq_nil_of_memberAt h
  | set items => exact hnone nofun
  | map entries => exact hnone nofun
  | scalar value =>
    cases value with
    | bytes bs =>
      obtain rfl := Except.ok.inj hkeys
      exact eq_nil_of_memberAt h
    | text s => exact hnone nofun
    | null | bool | int | float | date | moment => contradiction

/-! ### Levels of loggers -/

theorem unassignable_isHandled (l : Layer Value) : (unassignable l).isHandled = true := by
  unfold unassignable
  split <;> rfl

/-- A level can be put into records and into nothing else. -/
theorem setLevel_succeeds : Succeeds (setLevel level v) s ↔ (s.mapping? v).isSome := by
  cases h : s.mapping? v with
  | none => exact iff_of_false (not_succeeds_of_error (setLevel_ending_of_none h)) Bool.false_ne_true
  | some e => exact iff_of_true ⟨(), _, setLevel_ending (n := e.1) (m := e.2) h⟩ rfl

theorem setLevel_not_escapes : ¬Escapes (setLevel level v) s := by
  cases h : s.mapping? v with
  | none =>
    rw [escapes_of_error (setLevel_ending_of_none h), unassignable_isHandled]
    exact Bool.noConfusion
  | some e => exact not_escapes_of_ok (setLevel_ending (n := e.1) (m := e.2) h)

/-! ### Records of loggers -/

/-- A level is put into the member under the first key, and then into the others if the record has
kept its size. -/
theorem setLevelsUnder_cons_ending {size j : Nat} {m' : Mapping} {k : Scalar} {keys : List Scalar}
    (hv : s.mapping? ((s.mapping n).valueOf k) = some (j, m')) :
    (setLevelsUnder level n size (k :: keys)).ending s =
      if ((s.put j (.map (withLevel level m'))).mapping n).entries.length ≠ size then
        (.error .changedSize, s.put j (.map (withLevel level m')))
      else (setLevelsUnder level n size keys).ending (s.put j (.map (withLevel level m'))) := by
  rw [setLevelsUnder, ending_get_bind, ending_bind, setLevel_ending hv]
  dsimp only
  rw [ending_get_bind]
  split_ifs <;> rfl

/-- A member that is no record ends the loop, in a way that is handled. -/
theorem setLevelsUnder_stops (size : Nat) {k : Scalar} (keys : List Scalar)
    (hv : s.mapping? ((s.mapping n).valueOf k) = none) :
    ¬Succeeds (setLevelsUnder level n size (k :: keys)) s ∧
      ¬Escapes (setLevelsUnder level n size (k :: keys)) s := by
  have hend : (setLevelsUnder level n size (k :: keys)).ending s =
      (.error (unassignable (s.layer ((s.mapping n).valueOf k))), s) := by
    rw [setLevelsUnder, ending_get_bind, ending_bind, setLevel_ending_of_none hv]
  refine ⟨not_succeeds_of_error hend, ?_⟩
  rw [escapes_of_error hend, unassignable_isHandled]
  exact Bool.noConfusion

section

variable {size j : Nat} {m' : Mapping} {k : Scalar} (keys : List Scalar)
  (hv : s.mapping? ((s.mapping n).valueOf k) = some (j, m'))

include hv

/-- The loop escapes once the level of a member has made the record grow. -/
theorem setLevelsUnder_escapes
    (hsize : ((s.put j (.map (withLevel level m'))).mapping n).entries.length ≠ size) :
    ¬Succeeds (setLevelsUnder level n size (k :: keys)) s ∧
      Escapes (setLevelsUnder level n size (k :: keys)) s := by
  have hend := @setLevelsUnder_cons_ending level s n size j m' k keys hv
  rw [if_pos hsize] at hend
  exact ⟨not_succeeds_of_error hend, (escapes_of_error hend).mpr rfl⟩

/-- The loop goes on with the other members while the record keeps its size. -/
theorem setLevelsUnder_goesOn
    (hsize : ((s.put j (.map (withLevel level m'))).mapping n).entries.length = size) :
    (Succeeds (setLevelsUnder level n size (k :: keys)) s ↔
      Succeeds (setLevelsUnder level n size keys) (s.put j (.map (withLevel level m')))) ∧
    (Escapes (setLevelsUnder level n size (k :: keys)) s ↔
      Escapes (setLevelsUnder level n size keys) (s.put j (.map (withLevel level m')))) := by
  have hend := @setLevelsUnder_cons_ending level s n size j m' k keys hv
  rw [if_neg (not_not_intro hsize)] at hend
  exact ⟨succeeds_congr hend, escapes_congr hend⟩

end

/-- A record without a level that is a member of itself grows while it is gone through. -/
theorem setLevelsUnder_of_none {m₀ : Mapping} (hlevel : m₀.find? "level" = none)
    (hentries : ∀ e ∈ entries, e ∈ m₀.entries) (h : Leveled level s t)
    (ht : t.object? n = some (.map m₀)) :
    (Succeeds (setLevelsUnder level n m₀.entries.length (entries.map (·.1))) t ↔
      ∀ e ∈ entries, (s.mapping? e.2).isSome ∧ e.2 ≠ .object n) ∧
    (Escapes (setLevelsUnder level n m₀.entries.length (entries.map (·.1))) t ↔
      ∃ before e after, entries = before ++ e :: after ∧
        (∀ e ∈ before, (s.mapping? e.2).isSome) ∧ e.2 = .object n) := by
  induction entries generalizing t with
  | nil =>
    exact ⟨iff_of_true ⟨(), t, rfl⟩ (List.forall_mem_nil _),
      iff_of_false (not_escapes_of_ok rfl) (by simp)⟩
  | cons first rest ih =>
    obtain ⟨k, v⟩ := first
    obtain ⟨hfirst, hrest⟩ := List.forall_mem_cons.mp hentries
    have hvalue : (t.mapping n).valueOf k = v := by
      rw [Store.mapping_of_object? ht, Mapping.valueOf_of_mem hfirst]
    rw [exists_split_cons, List.forall_mem_cons, List.map_cons]
    cases hv : t.mapping? v with
    | none =>
      obtain ⟨hfails, hhandled⟩ := setLevelsUnder_stops m₀.entries.length (rest.map (·.1)) (hvalue ▸ hv)
      have hs : s.mapping? v = none := h.mapping?_eq_none.mp hv
      have hself : v ≠ .object n := by
        intro hvn
        rw [Store.mapping?_eq_some.mpr ⟨hvn, ht⟩] at hv
        contradiction
      exact ⟨iff_of_false hfails (by simp [hs]), iff_of_false hhandled (by simp [hs, hself])⟩
    | some found =>
      obtain ⟨j, m'⟩ := found
      obtain ⟨rfl, hj⟩ := Store.mapping?_eq_some.mp hv
      have hsome : (s.mapping? (.object j)).isSome := h.mapping?_isSome.mp (by rw [hv]; rfl)
      rw [← hvalue] at hv
      by_cases hjn : j = n
      · subst hjn
        obtain rfl := Store.map_unique ht hj
        have hput : (t.put j (.map (withLevel level m₀))).mapping j = withLevel level m₀ :=
          Store.mapping_of_object? (by rw [Store.object?_put, if_pos rfl])
        obtain ⟨hfails, hescapes⟩ := setLevelsUnder_escapes (rest.map (·.1)) hv
          (by rw [hput, length_withLevel_of_none hlevel]; exact Nat.succ_ne_self _)
        exact ⟨iff_of_false hfails (by simp), iff_of_true hescapes (Or.inl rfl)⟩
      · have hput : (t.put j (.map (withLevel level m'))).object? n = some (.map m₀) := by
          rw [Store.object?_put, if_neg (Ne.symm hjn), ht]
        obtain ⟨hsucceeds, hescapes⟩ := setLevelsUnder_goesOn (rest.map (·.1)) hv
          (by rw [Store.mapping_of_object? hput])
        obtain ⟨hsucceeds', hescapes'⟩ := ih hrest (h.trans (leveled_put hj)) hput
        have hself : Value.object j ≠ .object n := by simpa using hjn
        constructor
        · rw [hsucceeds, hsucceeds']
          simp [hsome, hself]
        · rw [hescapes, hescapes']
          simp [hsome, hself]

/-- Where a record is a member of itself, no level comes after it. -/
def LevelFirst (n : Nat) (entries : List (Scalar × Value)) : Prop :=
  ∀ before k after, entries = before ++ (k, .object n) :: after → ∀ e ∈ after, e.1 ≠ .text "level"

theorem levelFirst_cons {first : Scalar × Value} : LevelFirst n (first :: entries) ↔
    (first.2 = .object n → ∀ e ∈ entries, e.1 ≠ .text "level") ∧ LevelFirst n entries := by
  constructor
  · intro h
    refine ⟨?_, fun before k after heq => h (first :: before) k after (by rw [heq]; rfl)⟩
    intro hfirst
    exact h [] first.1 entries (by rw [← hfirst]; rfl)
  · rintro ⟨hfirst, hrest⟩ (_ | ⟨first', before⟩) k after heq
    · obtain ⟨rfl, rfl⟩ := List.cons.inj heq
      exact hfirst rfl
    · exact hrest before k after (List.cons.inj heq).2

/-- What stands under a key, unless a level has been put in its place. -/
theorem valueOf_withLevel_of_mem {m₀ : Mapping} {k : Scalar} {v : Value} (h : (k, v) ∈ m₀.entries)
    (isSet : Bool) (hkey : ¬(isSet = true ∧ k = .text "level")) :
    (if isSet then withLevel level m₀ else m₀).valueOf k = v := by
  apply Mapping.valueOf_of_mem
  split_ifs with hset
  · exact (mem_withLevel fun hk => hkey ⟨hset, hk⟩).mpr h
  · exact h

/-- A record gets the level that is put into a member if it is the member itself, and keeps it. -/
theorem object?_put_withLevel {j : Nat} {m₀ m' : Mapping} {isSet : Bool}
    (ht : t.object? n = some (.map (if isSet then withLevel level m₀ else m₀)))
    (hj : t.object? j = some (.map m')) : (t.put j (.map (withLevel level m'))).object? n =
      some (.map (if isSet || decide (j = n) then withLevel level m₀ else m₀)) := by
  rw [Store.object?_put]
  by_cases hjn : j = n
  · subst hjn
    obtain rfl := Store.map_unique ht hj
    rw [if_pos rfl]
    cases isSet <;> simp [withLevel_withLevel]
  · rw [if_neg (Ne.symm hjn), ht]
    simp [hjn]

/-- A record with a level keeps its size. If it is a member of itself, its level is a text from then on,
and no record that could get one. -/
theorem setLevelsUnder_of_some {m₀ : Mapping} {l : Value} (hlevel : m₀.find? "level" = some l)
    (hentries : ∀ e ∈ entries, e ∈ m₀.entries) (h : Leveled level s t) (isSet : Bool)
    (ht : t.object? n = some (.map (if isSet then withLevel level m₀ else m₀))) :
    (Succeeds (setLevelsUnder level n m₀.entries.length (entries.map (·.1))) t ↔
      (∀ e ∈ entries, (s.mapping? e.2).isSome) ∧
        (isSet = true → ∀ e ∈ entries, e.1 ≠ .text "level") ∧ LevelFirst n entries) ∧
    ¬Escapes (setLevelsUnder level n m₀.entries.length (entries.map (·.1))) t := by
  induction entries generalizing t isSet with
  | nil =>
    refine ⟨iff_of_true ⟨(), t, rfl⟩ ⟨List.forall_mem_nil _, fun _ => List.forall_mem_nil _, ?_⟩,
      not_escapes_of_ok rfl⟩
    intro before k after heq
    simp at heq
  | cons first rest ih =>
    obtain ⟨k, v⟩ := first
    obtain ⟨hfirst, hrest⟩ := List.forall_mem_cons.mp hentries
    rw [List.forall_mem_cons, levelFirst_cons, List.map_cons]
    dsimp only
    by_cases hover : isSet = true ∧ k = .text "level"
    · obtain ⟨rfl, rfl⟩ := hover
      have hvalue : (t.mapping n).valueOf (.text "level") = .scalar (.text level) := by
        rw [Store.mapping_of_object? ht]
        exact Mapping.valueOf_of_mem level_mem_withLevel
      obtain ⟨hfails, hhandled⟩ := setLevelsUnder_stops m₀.entries.length (rest.map (·.1))
        (show t.mapping? ((t.mapping n).valueOf (.text "level")) = none by rw [hvalue]; rfl)
      refine ⟨iff_of_false hfails ?_, hhandled⟩
      intro hall
      exact hall.2.1 rfl _ List.mem_cons_self rfl
    have hvalue : (t.mapping n).valueOf k = v := by
      rw [Store.mapping_of_object? ht, valueOf_withLevel_of_mem hfirst isSet hover]
    cases hv : t.mapping? v with
    | none =>
      obtain ⟨hfails, hhandled⟩ := setLevelsUnder_stops m₀.entries.length (rest.map (·.1)) (hvalue ▸ hv)
      have hs : s.mapping? v = none := h.mapping?_eq_none.mp hv
      exact ⟨iff_of_false hfails (by simp [hs]), hhandled⟩
    | some found =>
      obtain ⟨j, m'⟩ := found
      obtain ⟨rfl, hj⟩ := Store.mapping?_eq_some.mp hv
      have hsome : (s.mapping? (.object j)).isSome := h.mapping?_isSome.mp (by rw [hv]; rfl)
      rw [← hvalue] at hv
      have hput := object?_put_withLevel ht hj
      have hsize : ((t.put j (.map (withLevel level m'))).mapping n).entries.length =
          m₀.entries.length := by
        rw [Store.mapping_of_object? hput]
        split_ifs
        · exact length_withLevel_of_some hlevel
        · rfl
      obtain ⟨hsucceeds, hescapes⟩ := setLevelsUnder_goesOn (rest.map (·.1)) hv hsize
      obtain ⟨hsucceeds', hescapes'⟩ := ih hrest (h.trans (leveled_put hj)) _ hput
      rw [hsucceeds, hsucceeds', hescapes]
      refine ⟨?_, hescapes'⟩
      simp only [hsome, true_and, Bool.or_eq_true, decide_eq_true_eq, Value.object.injEq,
        List.forall_mem_cons]
      constructor
      · rintro ⟨hrecords, hnone, hlast⟩
        refine ⟨hrecords, fun hset => ⟨fun hk => hover ⟨hset, hk⟩, hnone (Or.inl hset)⟩, ?_, hlast⟩
        intro hjn
        exact hnone (Or.inr hjn)
      · rintro ⟨hrecords, hnone, hself, hlast⟩
        refine ⟨hrecords, ?_, hlast⟩
        rintro (hset | hjn)
        · exact (hnone hset).2
        · exact hself hjn

/-! ### Loggers of any shape -/

/-- Values that take a level for every logger: records of records, or nothing at all. A record that is a
member of itself has a level already, and not after itself. -/
inductive TakesLevels (s : Store) : Value → Prop
  | records {n : Nat} {m : Mapping} : s.object? n = some (.map m) →
      (∀ e ∈ m.entries, (s.mapping? e.2).isSome) →
      ((∃ k, (k, .object n) ∈ m.entries) → (m.find? "level").isSome) → LevelFirst n m.entries →
      TakesLevels s (.object n)
  | nothing {v : Value} : s.mapping? v = none → members Value.scalar (s.layer v) = .ok [] →
      TakesLevels s v

def IsBeyondEnd (s : Store) (d key : Value) : Prop :=
  ∃ name, member Value.scalar (s.layer d) (s.layer key) = .error (.beyondEnd name)

/-- A sequence that is read beyond its end, after records only. -/
inductive RunsOut (s : Store) (d : Value) : Prop
  | at {before after : List Value} {key : Value} :
      members Value.scalar (s.layer d) = .ok (before ++ key :: after) →
      (∀ k ∈ before, LeadsToRecord s d k) → IsBeyondEnd s d key → RunsOut s d

/-- A record without a level that is a member of itself, after records only. -/
inductive Grows (s : Store) : Value → Prop
  | at {n : Nat} {m : Mapping} {before after : List (Scalar × Value)} {k : Scalar} :
      s.object? n = some (.map m) → m.find? "level" = none →
      m.entries = before ++ (k, .object n) :: after → (∀ e ∈ before, (s.mapping? e.2).isSome) →
      Grows s (.object n)

theorem setLevelsAt_cons_ending {key : Value} {keys : List Value} :
    (setLevelsAt level d (key :: keys)).ending s =
      match member Value.scalar (s.layer d) (s.layer key) with
      | .error e => (.error e, s)
      | .ok v => (setLevel level v >>= fun _ => setLevelsAt level d keys).ending s := by
  rw [setLevelsAt, ending_get_bind, ending_bind, ending_except]
  rcases member Value.scalar (s.layer d) (s.layer key) with _ | _
  · rfl
  · rfl

/-- How the loop over a sequence ends is told by the first key that leads to no record. -/
theorem setLevelsAt_outcome (hd : s.mapping? d = none) (h : Leveled level s t) :
    (Succeeds (setLevelsAt level d keys) t ↔ ∀ key ∈ keys, LeadsToRecord s d key) ∧
    (Escapes (setLevelsAt level d keys) t ↔ ∃ before key after, keys = before ++ key :: after ∧
      (∀ k ∈ before, LeadsToRecord s d k) ∧ IsBeyondEnd s d key) := by
  induction keys generalizing t with
  | nil =>
    exact ⟨iff_of_true ⟨(), t, rfl⟩ (List.forall_mem_nil _),
      iff_of_false (not_escapes_of_ok rfl) (by simp)⟩
  | cons key rest ih =>
    have hend := @setLevelsAt_cons_ending level t d key rest
    rw [h.member hd] at hend
    rw [List.forall_mem_cons, exists_split_cons]
    unfold LeadsToRecord IsBeyondEnd at *
    cases hmember : member Value.scalar (s.layer d) (s.layer key) with
    | error e =>
      rw [hmember] at hend
      refine ⟨iff_of_false (not_succeeds_of_error hend) (by simp), ?_⟩
      rw [escapes_of_error hend]
      rcases member_eq_error hmember with hhandled | ⟨name, rfl⟩
      · refine iff_of_false (by simp [hhandled]) ?_
        rintro (⟨name, hname⟩ | ⟨⟨v, hv, -⟩, -⟩)
        · obtain rfl := Except.error.inj hname
          contradiction
        · contradiction
      · exact iff_of_true rfl (Or.inl ⟨name, rfl⟩)
    | ok v =>
      rw [hmember] at hend
      dsimp only at hend
      rw [ending_bind] at hend
      cases hv : t.mapping? v with
      | none =>
        rw [setLevel_ending_of_none hv] at hend
        have hs : s.mapping? v = none := h.mapping?_eq_none.mp hv
        refine ⟨iff_of_false (not_succeeds_of_error hend) (by simp [hs]), ?_⟩
        rw [escapes_of_error hend, unassignable_isHandled]
        exact iff_of_false Bool.noConfusion (by simp [hs])
      | some found =>
        rw [setLevel_ending (n := found.1) (m := found.2) hv] at hend
        have hsome : (s.mapping? v).isSome := h.mapping?_isSome.mp (by rw [hv]; rfl)
        have hput : Leveled level s (t.put found.1 (.map (withLevel level found.2))) :=
          h.trans (leveled_put (Store.mapping?_eq_some.mp hv).2)
        obtain ⟨hsucceeds, hescapes⟩ := ih hput
        constructor
        · rw [succeeds_congr hend, hsucceeds]
          simp [hsome]
        · rw [escapes_congr hend, hescapes]
          simp [hsome]

theorem setLevels_ending_record (h : s.object? n = some (.map m)) :
    (setLevels level (.object n)).ending s =
      (setLevelsUnder level n m.entries.length (m.entries.map (·.1))).ending s := by
  unfold setLevels
  rw [ending_get_bind, Store.mapping?_eq_some.mpr ⟨rfl, h⟩]

theorem setLevels_ending_other (h : s.mapping? d = none) : (setLevels level d).ending s =
    match members Value.scalar (s.layer d) with
      | .error e => (.error e, s)
      | .ok keys => (setLevelsAt level d keys).ending s := by
  unfold setLevels
  rw [ending_get_bind, h]
  dsimp only
  rw [ending_bind, ending_except]
  rcases members Value.scalar (s.layer d) with _ | _
  · rfl
  · rfl

theorem takesLevels_record (h : s.object? n = some (.map m)) : TakesLevels s (.object n) ↔
    (∀ e ∈ m.entries, (s.mapping? e.2).isSome) ∧
      ((∃ k, (k, .object n) ∈ m.entries) → (m.find? "level").isSome) ∧ LevelFirst n m.entries := by
  constructor
  · intro htakes
    cases htakes with
    | records hm hrecords hself hfirst =>
      obtain rfl := Store.map_unique h hm
      exact ⟨hrecords, hself, hfirst⟩
    | nothing hnone =>
      rw [Store.mapping?_eq_some.mpr ⟨rfl, h⟩] at hnone
      contradiction
  · intro hall
    obtain ⟨hrecords, hself, hfirst⟩ := hall
    exact .records h hrecords hself hfirst

theorem grows_record (h : s.object? n = some (.map m)) : Grows s (.object n) ↔
    m.find? "level" = none ∧ ∃ before e after, m.entries = before ++ e :: after ∧
      (∀ e ∈ before, (s.mapping? e.2).isSome) ∧ e.2 = .object n := by
  constructor
  · intro hgrows
    obtain ⟨hm, hlevel, heq, hbefore⟩ := hgrows
    obtain rfl := Store.map_unique h hm
    exact ⟨hlevel, _, _, _, heq, hbefore, rfl⟩
  · intro hgrows
    obtain ⟨hlevel, before, ⟨k, v⟩, after, heq, hbefore, rfl⟩ := hgrows
    exact .at h hlevel heq hbefore

/-- How the loop over a record ends: well, or because the record grows under it. -/
theorem setLevels_record (h : s.object? n = some (.map m)) :
    (Succeeds (setLevels level (.object n)) s ↔ TakesLevels s (.object n)) ∧
    (Escapes (setLevels level (.object n)) s ↔ Grows s (.object n)) := by
  rw [succeeds_congr (setLevels_ending_record h), escapes_congr (setLevels_ending_record h),
    takesLevels_record h, grows_record h]
  cases hlevel : m.find? "level" with
  | none =>
    obtain ⟨hsucceeds, hescapes⟩ :=
      @setLevelsUnder_of_none level s s n m.entries m hlevel (fun _ => id) (.refl s) h
    refine ⟨hsucceeds.trans ?_, hescapes.trans (by simp)⟩
    simp only [Option.isSome_none, Bool.false_eq_true, imp_false, not_exists]
    constructor
    · intro hall
      refine ⟨fun e he => (hall e he).1, fun k hk => (hall _ hk).2 rfl, ?_⟩
      intro before k after heq
      exact absurd rfl (hall (k, .object n) (by rw [heq]; simp)).2
    · rintro ⟨hrecords, hself, -⟩ ⟨k, v⟩ he
      refine ⟨hrecords _ he, ?_⟩
      rintro rfl
      exact hself k he
  | some l =>
    obtain ⟨hsucceeds, hescapes⟩ :=
      @setLevelsUnder_of_some level s s n m.entries m l hlevel (fun _ => id) (.refl s) false h
    exact ⟨hsucceeds.trans (by simp), iff_of_false hescapes (by simp)⟩

/-- How the loop ends over what is no record. -/
theorem setLevels_other (h : s.mapping? d = none) :
    (Succeeds (setLevels level d) s ↔ members Value.scalar (s.layer d) = .ok []) ∧
    (Escapes (setLevels level d) s ↔ RunsOut s d) := by
  unfold Succeeds Escapes
  rw [setLevels_ending_other h]
  cases hkeys : members Value.scalar (s.layer d) with
  | error e =>
    dsimp only
    refine ⟨by simp, iff_of_false ?_ ?_⟩
    · simp [members_eq_error hkeys]
    · rintro ⟨hruns, -, -⟩
      rw [hkeys] at hruns
      contradiction
  | ok keys =>
    dsimp only
    obtain ⟨hsucceeds, hescapes⟩ := @setLevelsAt_outcome level s s d keys h (.refl s)
    constructor
    · refine hsucceeds.trans ⟨fun hall => ?_, fun hnil => ?_⟩
      · rw [eq_nil_of_records hkeys hall]
      · obtain rfl := Except.ok.inj hnil
        exact List.forall_mem_nil _
    · refine hescapes.trans ⟨?_, ?_⟩
      · rintro ⟨before, key, after, rfl, hbefore, hend⟩
        exact .at hkeys hbefore hend
      · rintro ⟨hruns, hbefore, hend⟩
        obtain rfl := Except.ok.inj (hkeys.symm.trans hruns)
        exact ⟨_, _, _, rfl, hbefore, hend⟩

theorem setLevels_succeeds : Succeeds (setLevels level d) s ↔ TakesLevels s d := by
  cases hd : s.mapping? d with
  | some found =>
    obtain ⟨n, m, rfl, hm⟩ := Store.mapping?_isSome.mp (by rw [hd]; rfl)
    exact (setLevels_record hm).1
  | none =>
    refine (setLevels_other hd).1.trans ⟨.nothing hd, fun h => ?_⟩
    cases h with
    | records hm =>
      rw [Store.mapping?_eq_some.mpr ⟨rfl, hm⟩] at hd
      contradiction
    | nothing _ hkeys => exact hkeys

/-- The loop over loggers escapes in two ways only. -/
theorem setLevels_escapes : Escapes (setLevels level d) s ↔ RunsOut s d ∨ Grows s d := by
  cases hd : s.mapping? d with
  | some found =>
    obtain ⟨n, m, rfl, hm⟩ := Store.mapping?_isSome.mp (by rw [hd]; rfl)
    refine (setLevels_record hm).2.trans (or_iff_right ?_).symm
    intro hruns
    obtain ⟨-, -, name, hname⟩ := hruns
    rw [Store.layer, hm] at hname
    cases hname
  | none =>
    refine (setLevels_other hd).2.trans (or_iff_left ?_).symm
    intro hgrows
    obtain ⟨hm⟩ := hgrows
    rw [Store.mapping?_eq_some.mpr ⟨rfl, hm⟩] at hd
    contradiction

/-! ### Levels of handlers -/

theorem handlerNumber_isHandled {l : Layer Value} (h : handlerNumber l = .error e) :
    e.isHandled = true := by
  unfold handlerNumber at h
  split at h
  · split at h
    · rw [← Except.error.inj h]
      rfl
    · split_ifs at h
      rw [← Except.error.inj h]
      rfl
  · rw [← Except.error.inj h]
    rfl

theorem lowerHandler_not_escapes : ¬Escapes (lowerHandler level number v) s := by
  unfold lowerHandler Escapes
  rw [ending_get_bind]
  split
  · rename_i current _
    rw [ending_bind, ending_except]
    rcases hnumber : handlerNumber (s.layer current) with e | k
    · simp [handlerNumber_isHandled hnumber]
    · dsimp only
      split_ifs
      · exact setLevel_not_escapes
      · simp
  · simp

theorem lowerHandlersUnder_not_escapes {keys : List Scalar} :
    ¬Escapes (lowerHandlersUnder level number n keys) s := by
  induction keys generalizing s with
  | nil => exact not_escapes_of_ok rfl
  | cons key rest ih =>
    unfold lowerHandlersUnder Escapes
    rw [ending_get_bind]
    refine fun h => (escapes_bind.mp h).elim lowerHandler_not_escapes ?_
    rintro ⟨-, t, -, hrest⟩
    exact ih hrest

/-- Handlers that are no record have no entries to go through. -/
theorem lowerHandlers_escapes : Escapes (lowerHandlers level number v) s ↔ s.mapping? v = none := by
  unfold lowerHandlers Escapes
  rw [ending_get_bind]
  cases hv : s.mapping? v with
  | none => exact iff_of_true ⟨_, _, rfl, rfl⟩ rfl
  | some found => exact iff_of_false lowerHandlersUnder_not_escapes (by simp)

/-! ### Settings -/

section

variable {root : Nat} {f : Value → Edit Unit}

theorem succeeds_change : Succeeds (change root name f) s ↔
    ∀ v, (s.mapping root).find? name = some v → Succeeds (f v) s := by
  unfold change Succeeds
  rw [ending_get_bind]
  cases (s.mapping root).find? name <;> simp

theorem escapes_change : Escapes (change root name f) s ↔
    ∃ v, (s.mapping root).find? name = some v ∧ Escapes (f v) s := by
  unfold change Escapes
  rw [ending_get_bind]
  cases (s.mapping root).find? name <;> simp

/-- Settings that a level cannot be put into, without going on after it: a sequence in the place of
loggers is read beyond its end, loggers grow while they are gone through, or something else than a record
is in the place of handlers. -/
inductive Misshapen (s : Store) (root : Nat) : Prop
  | beyond {v : Value} : (s.mapping root).find? "loggers" = some v → RunsOut s v → Misshapen s root
  | growing {v : Value} : (s.mapping root).find? "loggers" = some v → Grows s v → Misshapen s root
  | handlers {v : Value} : (∀ l, (s.mapping root).find? "loggers" = some l → TakesLevels s l) →
      (∀ r, (s.mapping root).find? "root" = some r → (s.mapping? r).isSome) →
      (s.mapping root).find? "handlers" = some v → s.mapping? v = none → Misshapen s root

/-- The edit of a setting escapes exactly if the setting is misshapen. -/
theorem apply_escapes : Escapes (Override.apply level number root) s ↔ Misshapen s root := by
  have hput := @putsLevels_change level _ root "loggers" (@putsLevels_setLevels level)
  have hput' := @putsLevels_change level _ root "root" (@putsLevels_setLevel level)
  unfold Override.apply
  constructor
  · intro h
    rcases escapes_bind.mp h with h | ⟨⟨⟩, t, ht, h⟩
    · obtain ⟨v, hv, hescapes⟩ := escapes_change.mp h
      rcases setLevels_escapes.mp hescapes with hruns | hgrows
      · exact .beyond hv hruns
      · exact .growing hv hgrows
    rcases escapes_bind.mp h with h | ⟨⟨⟩, u, hu, h⟩
    · obtain ⟨v, -, hescapes⟩ := escapes_change.mp h
      exact absurd hescapes setLevel_not_escapes
    obtain ⟨v, hv, hescapes⟩ := escapes_change.mp h
    have hst := hput.leveled ht
    have hsu := hst.trans (hput'.leveled hu)
    rw [hsu.find? (by decide)] at hv
    refine .handlers ?_ ?_ hv (hsu.mapping?_eq_none.mp (lowerHandlers_escapes.mp hescapes))
    · intro l hl
      exact setLevels_succeeds.mp (succeeds_change.mp ⟨(), t, ht⟩ l hl)
    · intro r hr
      rw [← hst.find? (by decide)] at hr
      exact hst.mapping?_isSome.mp (setLevel_succeeds.mp (succeeds_change.mp ⟨(), u, hu⟩ r hr))
  · intro h
    cases h with
    | beyond hv hruns =>
      exact escapes_bind.mpr
        (Or.inl (escapes_change.mpr ⟨_, hv, setLevels_escapes.mpr (Or.inl hruns)⟩))
    | growing hv hgrows =>
      exact escapes_bind.mpr
        (Or.inl (escapes_change.mpr ⟨_, hv, setLevels_escapes.mpr (Or.inr hgrows)⟩))
    | handlers htakes hrecord hv hother =>
      have hloggers : Succeeds (change root "loggers" (setLevels level)) s :=
        succeeds_change.mpr fun l hl => setLevels_succeeds.mpr (htakes l hl)
      obtain ⟨⟨⟩, t, ht⟩ := hloggers
      have hst := hput.leveled ht
      have hroot : Succeeds (change root "root" (setLevel level)) t := by
        refine succeeds_change.mpr fun r hr => setLevel_succeeds.mpr (hst.mapping?_isSome.mpr ?_)
        rw [hst.find? (by decide)] at hr
        exact hrecord r hr
      obtain ⟨⟨⟩, u, hu⟩ := hroot
      have hsu := hst.trans (hput'.leveled hu)
      refine escapes_bind.mpr (Or.inr ⟨(), t, ht, escapes_bind.mpr (Or.inr ⟨(), u, hu, ?_⟩)⟩)
      refine escapes_change.mpr ⟨_, ?_, lowerHandlers_escapes.mpr (hsu.mapping?_eq_none.mpr hother)⟩
      rwa [hsu.find? (by decide)]

end

end Override

end TypeGuards.Logging
