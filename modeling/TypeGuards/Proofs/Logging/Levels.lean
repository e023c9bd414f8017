import TypeGuards.Proofs.Data.Places
import TypeGuards.Proofs.Logging.Override
/-!
What a level changes in a setting whose loggers and handlers are records: loggers and the root get it, and
handlers with a higher one are lowered to it. All else stays, and nothing is left to do a second time, if
no record that is changed in one of these places stands anywhere else. Records that are shared can be in
the way of that.
-/
namespace TypeGuards.Logging

namespace Override

open Edit Store

variable {level name : String} {number : Int} {s t u : Store} {root n j k : Nat} {m m' : Mapping}
  {v w : Value} {p : List Store.Step} {P Q : Nat → Prop} {entries : List (Scalar × Value)}

/-! ### What is asked of a level -/

/-- A record with a level gets a lower one and keeps all else; any other record stays. -/
inductive Lowered (level : String) (number : Int) (m : Mapping) : Mapping → Prop
  | unlevelled : m.find? "level" = none → Lowered level number m m
  | kept {name : String} {k : Int} : m.find? "level" = some (.scalar (.text name)) →
      Level.number? name = some k → k ≤ number → Lowered level number m m
  | lowered {name : String} {k : Int} : m.find? "level" = some (.scalar (.text name)) →
      Level.number? name = some k → number < k → Lowered level number m (withLevel level m)

/-- The level of a record, if it has one, is the name of a level. -/
def HasLevelName (m : Mapping) : Prop :=
  ∀ l, m.find? "level" = some l → ∃ name k, l = .scalar (.text name) ∧ Level.number? name = some k

def IsRecord (s : Store) (R : Mapping → Prop) (v : Value) : Prop :=
  ∃ n m, v = .object n ∧ s.object? n = some (.map m) ∧ R m

/-- A setting in which loggers and handlers are records of records, the root is a record, and the levels
of handlers are levels. -/
structure Levelable (s : Store) (root : Nat) : Prop where
  loggers {v : Value} : (s.mapping root).find? "loggers" = some v →
    IsRecord s (fun m => ∀ e ∈ m.entries, (s.mapping? e.2).isSome) v
  rootLogger {v : Value} : (s.mapping root).find? "root" = some v → (s.mapping? v).isSome
  handlers {v : Value} : (s.mapping root).find? "handlers" = some v →
    IsRecord s (fun m => ∀ e ∈ m.entries, IsRecord s HasLevelName e.2) v

/-- The places of the loggers and of the root. -/
inductive LoggerPlace : List Store.Step → Prop
  | root : LoggerPlace [.key (.text "root")]
  | member (key : Scalar) : LoggerPlace [.key (.text "loggers"), .key key]

inductive HandlerPlace : List Store.Step → Prop
  | member (key : Scalar) : HandlerPlace [.key (.text "handlers"), .key key]

/-- The places of what a level may be put in the place of. -/
inductive LevelPlace : List Store.Step → Prop
  | under {p : List Store.Step} (rest : List Store.Step) : LoggerPlace p →
      LevelPlace (p ++ .key (.text "level") :: rest)

structure OtherPlace (p : List Store.Step) : Prop where
  not_logger : ¬LoggerPlace p
  not_handler : ¬HandlerPlace p
  not_level : ¬LevelPlace p

def StandsAt (place : List Store.Step → Prop) (s : Store) (root n : Nat) : Prop :=
  ∃ p, place p ∧ s.Leads (.object root) p (.object n)

/-- A setting with a level put into it: loggers and the root have the level, handlers are lowered to it,
and what stands anywhere else is as before. -/
structure Overridden (level : String) (number : Int) (s t : Store) (root : Nat) : Prop where
  loggers {n : Nat} : StandsAt LoggerPlace s root n →
    ∃ m, s.object? n = some (.map m) ∧ t.object? n = some (.map (withLevel level m))
  handlers {n : Nat} : StandsAt HandlerPlace s root n →
    ∃ m m', s.object? n = some (.map m) ∧ t.object? n = some (.map m') ∧ Lowered level number m m'
  others {n : Nat} : StandsAt OtherPlace s root n → t.object? n = s.object? n

def HasLevel (level : String) (s : Store) (n : Nat) : Prop :=
  (s.mapping n).find? "level" = some (.scalar (.text level))

def IsHigher (number : Int) (s : Store) (n : Nat) : Prop :=
  ∃ name k, HasLevel name s n ∧ Level.number? name = some k ∧ number < k

/-- No record is shared in a way that a level could be seen where it is not meant to be. -/
structure Separate (level : String) (number : Int) (s : Store) (root : Nat) : Prop where
  loggers {n : Nat} : StandsAt LoggerPlace s root n → StandsAt OtherPlace s root n → HasLevel level s n
  handlers {n : Nat} : StandsAt HandlerPlace s root n → StandsAt OtherPlace s root n →
    ¬IsHigher number s n
  both {n : Nat} : StandsAt LoggerPlace s root n → StandsAt HandlerPlace s root n →
    IsHigher number s n ∨ HasLevel level s n

/-! ### Places -/

theorem standsAt_logger : StandsAt LoggerPlace s root n ↔
    (s.mapping root).find? "root" = some (.object n) ∨
      ∃ j k, (s.mapping root).find? "loggers" = some (.object j) ∧
        (k, .object n) ∈ (s.mapping j).entries := by
  constructor
  · intro h
    obtain ⟨p, hp, hlead⟩ := h
    cases hp with
    | root => exact Or.inl (Mapping.find?_eq_some.mpr (leads_key.mp hlead))
    | member key =>
      obtain ⟨j, hj, hmember⟩ := leads_member.mp hlead
      exact Or.inr ⟨j, key, Mapping.find?_eq_some.mpr hj, hmember⟩
  · intro h
    rcases h with hroot | ⟨j, key, hj, hmember⟩
    · exact ⟨_, .root, leads_key.mpr (Mapping.find?_eq_some.mp hroot)⟩
    · exact ⟨_, .member key, leads_member.mpr ⟨j, Mapping.find?_eq_some.mp hj, hmember⟩⟩

theorem standsAt_handler : StandsAt HandlerPlace s root n ↔
    ∃ j k, (s.mapping root).find? "handlers" = some (.object j) ∧
      (k, .object n) ∈ (s.mapping j).entries := by
  constructor
  · intro h
    obtain ⟨p, hp, hlead⟩ := h
    obtain ⟨key⟩ := hp
    obtain ⟨j, hj, hmember⟩ := leads_member.mp hlead
    exact ⟨j, key, Mapping.find?_eq_some.mpr hj, hmember⟩
  · intro h
    obtain ⟨j, key, hj, hmember⟩ := h
    exact ⟨_, .member key, leads_member.mpr ⟨j, Mapping.find?_eq_some.mp hj, hmember⟩⟩

/-! ### Levels that are set -/

/-- A level has been put into some records and nothing else has changed. If all of them had it, the store
is the same. -/
structure Sets (level : String) (P : Nat → Prop) (s t : Store) : Prop where
  set {n : Nat} : P n → ∃ m, s.object? n = some (.map m) ∧ t.object? n = some (.map (withLevel level m))
  kept {n : Nat} : ¬P n → t.object? n = s.object? n
  same : (∀ n, P n → HasLevel level s n) → t = s

theorem Sets.congr (h : Sets level P s t) (hPQ : ∀ n, P n ↔ Q n) : Sets level Q s t := by
  rwa [← funext fun n => propext (hPQ n)]

theorem sets_of_none (h : ∀ n, ¬P n) : Sets level P s s :=
  ⟨fun hn => absurd hn (h _), fun _ => rfl, fun _ => rfl⟩

/-- One record gets the level. -/
theorem sets_put (h : s.object? n = some (.map m)) :
    Sets level (· = n) s (s.put n (.map (withLevel level m))) := by
  refine ⟨?_, ?_, ?_⟩
  · rintro _ rfl
    exact ⟨m, h, by rw [object?_put, if_pos rfl]⟩
  · intro j hj
    rw [object?_put, if_neg hj]
  · intro hall
    have hlevel := hall n rfl
    rw [HasLevel, mapping_of_object? h] at hlevel
    rw [withLevel_eq_self.mpr hlevel]
    exact put_self h

/-- Sets of records that get the level one after another are joined. -/
theorem Sets.trans (h : Sets level P s t) (h' : Sets level Q t u) :
    Sets level (fun n => P n ∨ Q n) s u := by
  refine ⟨?_, ?_, ?_⟩
  · intro n hn
    by_cases hQ : Q n
    · obtain ⟨m, hm, hset⟩ := h'.set hQ
      by_cases hP : P n
      · obtain ⟨m', hm', hfirst⟩ := h.set hP
        obtain rfl := map_unique hm hfirst
        exact ⟨m', hm', by rw [hset, withLevel_withLevel]⟩
      · exact ⟨m, by rw [← h.kept hP, hm], hset⟩
    · obtain ⟨m, hm, hset⟩ := h.set (hn.resolve_right hQ)
      exact ⟨m, hm, by rw [h'.kept hQ, hset]⟩
  · intro n hn
    rw [h'.kept fun hQ => hn (Or.inr hQ), h.kept fun hP => hn (Or.inl hP)]
  · intro hall
    obtain rfl := h.same fun n hn => hall n (Or.inl hn)
    exact h'.same fun n hn => hall n (Or.inr hn)

theorem Sets.leveled (h : Sets level P s t) : Leveled level s t := by
  intro n
  by_cases hn : P n
  · exact Or.inr (h.set hn)
  · exact Or.inl (h.kept hn)

theorem Sets.mapping_kept (h : Sets level P s t) (hn : ¬P n) : t.mapping n = s.mapping n := by
  simp only [mapping, mapping?, h.kept hn]

theorem Sets.hasLevel (h : Sets level P s t) (hn : P n) : HasLevel level t n := by
  obtain ⟨m, -, hm⟩ := h.set hn
  rw [HasLevel, mapping_of_object? hm, find?_withLevel, if_pos rfl]

theorem HasLevel.not_isHigher (hlevel : Level.number? level = some number) (h : HasLevel level s n) :
    ¬IsHigher number s n := by
  rintro ⟨name, k, hname, hk, hlt⟩
  have heq := hname.symm.trans h
  simp only [Option.some.injEq, Value.scalar.injEq, Scalar.text.injEq] at heq
  rw [heq, hlevel] at hk
  exact Int.ne_of_lt hlt (Option.some.inj hk)

/-- A record that has got a level has none above it. -/
theorem Sets.isHigher_iff (hlevel : Level.number? level = some number) (h : Sets level P s t) :
    IsHigher number t n ↔ IsHigher number s n ∧ ¬P n := by
  by_cases hn : P n
  · exact iff_of_false ((h.hasLevel hn).not_isHigher hlevel) fun hboth => hboth.2 hn
  · unfold IsHigher HasLevel
    rw [h.mapping_kept hn, and_iff_left hn]

theorem IsRecord.leveled {R : Mapping → Prop} (h : Leveled level s t) (hv : IsRecord s R v)
    (hR : ∀ m, R m → R (withLevel level m)) : IsRecord t R v := by
  obtain ⟨n, m, rfl, hn, hm⟩ := hv
  rcases h n with hsame | ⟨m', hm', hset⟩
  · exact ⟨n, m, rfl, hsame.trans hn, hm⟩
  · obtain rfl := map_unique hn hm'
    exact ⟨n, _, rfl, hset, hR m hm⟩

theorem hasLevelName_withLevel (hlevel : Level.number? level = some number) :
    HasLevelName (withLevel level m) := by
  intro l hl
  rw [find?_withLevel, if_pos rfl] at hl
  exact ⟨level, number, (Option.some.inj hl).symm, hlevel⟩

/-! ### Members in turn -/

/-- The members of a record of records get a level, if it is not one of them itself. -/
theorem setLevelsUnder_sets (hn : s.object? n = some (.map m))
    (hentries : ∀ e ∈ entries, e ∈ m.entries ∧ (s.mapping? e.2).isSome ∧ e.2 ≠ .object n) :
    ∃ t, (setLevelsUnder level n m.entries.length (entries.map (·.1))).ending s = (.ok (), t) ∧
      Sets level (fun k => ∃ key, (key, .object k) ∈ entries) s t := by
  induction entries generalizing s with
  | nil => exact ⟨s, rfl, sets_of_none (by simp)⟩
  | cons first rest ih =>
    obtain ⟨key, v⟩ := first
    obtain ⟨⟨hfirst, hrecord, hself⟩, hrest⟩ := List.forall_mem_cons.mp hentries
    obtain ⟨j, m', rfl, hj⟩ := mapping?_isSome.mp hrecord
    have hvalue : s.mapping? ((s.mapping n).valueOf key) = some (j, m') := by
      rw [mapping_of_object? hn, Mapping.valueOf_of_mem hfirst]
      exact mapping?_eq_some.mpr ⟨rfl, hj⟩
    have hput := @sets_put level s j m' hj
    have hkept : (s.put j (.map (withLevel level m'))).object? n = some (.map m) := by
      rw [hput.kept fun heq => hself (congrArg Value.object heq.symm), hn]
    obtain ⟨t, hend, ht⟩ := ih hkept fun e he =>
      ⟨(hrest e he).1, hput.leveled.mapping?_isSome.mpr (hrest e he).2.1, (hrest e he).2.2⟩
    refine ⟨t, ?_, (hput.trans ht).congr fun k => ?_⟩
    · rw [List.map_cons, setLevelsUnder_cons_ending hvalue, mapping_of_object? hkept,
        if_neg (not_not_intro rfl)]
      exact hend
    · simp [exists_or]

theorem handlerNumber_levels :
    ∀ p ∈ Level.numbers, handlerNumber (.scalar (.text p.1)) = .ok p.2 := by decide +kernel

/-- No name of a level is the name of anything else. -/
theorem handlerNumber_level {k : Int} (h : Level.number? name = some k) :
    handlerNumber (.scalar (.text name)) = .ok k := by
  obtain ⟨before, after, heq, -⟩ := List.lookup_eq_some_iff.mp h
  exact handlerNumber_levels (name, k) (by rw [heq]; simp)

/-- A handler gets the level exactly if its own is higher. -/
theorem lowerHandler_sets (hj : s.object? j = some (.map m)) (hm : HasLevelName m) :
    ∃ t, (lowerHandler level number (.object j)).ending s = (.ok (), t) ∧
      Sets level (fun k => k = j ∧ IsHigher number s k) s t := by
  have hmapping := mapping_of_object? hj
  unfold lowerHandler
  rw [ending_get_bind, mapping?_eq_some.mpr ⟨rfl, hj⟩, Option.bind_some]
  cases hl : m.find? "level" with
  | none =>
    refine ⟨s, rfl, sets_of_none ?_⟩
    rintro _ ⟨rfl, name, k, hname, -⟩
    rw [HasLevel, hmapping, hl] at hname
    contradiction
  | some l =>
    obtain ⟨name, k, rfl, hk⟩ := hm l hl
    have hnumber : handlerNumber (s.layer (.scalar (.text name))) = .ok k := handlerNumber_level hk
    have hhigher : IsHigher number s j ↔ number < k := by
      constructor
      · rintro ⟨name', k', hname, hk', hlt⟩
        rw [HasLevel, hmapping, hl] at hname
        simp only [Option.some.injEq, Value.scalar.injEq, Scalar.text.injEq] at hname
        rw [← hname, hk] at hk'
        rwa [Option.some.inj hk']
      · intro hlt
        exact ⟨name, k, by rw [HasLevel, hmapping, hl], hk, hlt⟩
    dsimp only
    rw [ending_bind, ending_except, hnumber]
    dsimp only
    by_cases hlt : number < k
    · rw [if_pos hlt, setLevel_ending (mapping?_eq_some.mpr ⟨rfl, hj⟩)]
      refine ⟨_, rfl, (sets_put hj).congr fun k => ?_⟩
      constructor
      · rintro rfl
        exact ⟨rfl, hhigher.mpr hlt⟩
      · exact And.left
    · rw [if_neg hlt]
      refine ⟨s, rfl, sets_of_none ?_⟩
      rintro _ ⟨rfl, h⟩
      exact hlt (hhigher.mp h)

/-- The members of a record of handlers that have a higher level get another, if it is none of them
itself. -/
theorem lowerHandlersUnder_sets (hlevel : Level.number? level = some number)
    (hn : s.object? n = some (.map m))
    (hentries : ∀ e ∈ entries, e ∈ m.entries ∧ IsRecord s HasLevelName e.2)
    (hself : ∀ key, (key, .object n) ∈ entries → ¬IsHigher number s n) :
    ∃ t, (lowerHandlersUnder level number n (entries.map (·.1))).ending s = (.ok (), t) ∧
      Sets level (fun k => (∃ key, (key, .object k) ∈ entries) ∧ IsHigher number s k) s t := by
  induction entries generalizing s with
  | nil => exact ⟨s, rfl, sets_of_none (by simp)⟩
  | cons first rest ih =>
    obtain ⟨key, v⟩ := first
    obtain ⟨⟨hfirst, j, m', rfl, hj, hm'⟩, hrest⟩ := List.forall_mem_cons.mp hentries
    have hvalue : (s.mapping n).valueOf key = .object j := by
      rw [mapping_of_object? hn, Mapping.valueOf_of_mem hfirst]
    obtain ⟨s', hstep, hs'⟩ := @lowerHandler_sets level number s j m' hj hm'
    have hkept : s'.object? n = some (.map m) := by
      rw [hs'.kept ?_, hn]
      rintro ⟨rfl, hhigher⟩
      exact hself key List.mem_cons_self hhigher
    obtain ⟨t, hend, ht⟩ := ih hkept
      (fun e he => ⟨(hrest e he).1,
        (hrest e he).2.leveled hs'.leveled fun _ _ => hasLevelName_withLevel hlevel⟩)
      (fun key' hmem h => hself key' (List.mem_cons_of_mem _ hmem) ((hs'.isHigher_iff hlevel).mp h).1)
    refine ⟨t, ?_, (hs'.trans ht).congr fun k => ?_⟩
    · rw [List.map_cons, lowerHandlersUnder, ending_get_bind, ending_bind, hvalue, hstep]
      exact hend
    · rw [hs'.isHigher_iff hlevel]
      by_cases hkj : k = j
      · simp [hkj]
      · simp [hkj]

/-! ### Settings -/

/-- The records that a level is put into. -/
def Changed (number : Int) (s : Store) (root n : Nat) : Prop :=
  StandsAt LoggerPlace s root n ∨ StandsAt HandlerPlace s root n ∧ IsHigher number s n

theorem change_sets {f : Value → Edit Unit} {R : Value → Nat → Prop}
    (h : ∀ v, (s.mapping root).find? name = some v →
      ∃ t, (f v).ending s = (.ok (), t) ∧ Sets level (R v) s t) :
    ∃ t, (change root name f).ending s = (.ok (), t) ∧
      Sets level (fun n => ∃ v, (s.mapping root).find? name = some v ∧ R v n) s t := by
  unfold change
  rw [ending_get_bind]
  cases hfound : (s.mapping root).find? name with
  | none => exact ⟨s, rfl, sets_of_none (by simp)⟩
  | some v =>
    obtain ⟨t, hend, ht⟩ := h v hfound
    exact ⟨t, hend, ht.congr (by simp)⟩

/-- All loggers get the level, if their record is not one of them. -/
theorem setLevels_sets (hj : s.object? j = some (.map m))
    (hrecords : ∀ e ∈ m.entries, (s.mapping? e.2).isSome)
    (hself : ∀ key, (key, .object j) ∉ m.entries) :
    ∃ t, (setLevels level (.object j)).ending s = (.ok (), t) ∧
      Sets level (fun n => ∃ key, (key, .object n) ∈ (s.mapping j).entries) s t := by
  have hmembers : ∀ e ∈ m.entries, e ∈ m.entries ∧ (s.mapping? e.2).isSome ∧ e.2 ≠ .object j := by
    rintro ⟨key, v⟩ he
    refine ⟨he, hrecords _ he, ?_⟩
    rintro rfl
    exact hself key he
  obtain ⟨t, hend, ht⟩ := @setLevelsUnder_sets level s j m m.entries hj hmembers
  refine ⟨t, by rw [setLevels_ending_record hj, hend], ?_⟩
  rwa [mapping_of_object? hj]

/-- The handlers above the level get it, if their record is not one of them. -/
theorem lowerHandlers_sets (hlevel : Level.number? level = some number)
    (hj : s.object? j = some (.map m)) (hrecords : ∀ e ∈ m.entries, IsRecord s HasLevelName e.2)
    (hself : ∀ key, (key, .object j) ∈ m.entries → ¬IsHigher number s j) :
    ∃ t, (lowerHandlers level number (.object j)).ending s = (.ok (), t) ∧
      Sets level (fun n => (∃ key, (key, .object n) ∈ (s.mapping j).entries) ∧ IsHigher number s n)
        s t := by
  obtain ⟨t, hend, ht⟩ := lowerHandlersUnder_sets hlevel hj (fun e he => ⟨he, hrecords e he⟩) hself
  refine ⟨t, ?_, by rwa [mapping_of_object? hj]⟩
  unfold lowerHandlers
  rw [ending_get_bind, mapping?_eq_some.mpr ⟨rfl, hj⟩]
  exact hend

/-- The records of loggers and of handlers get no level themselves, so they can be gone through. -/
def Keeps (number : Int) (s : Store) (root : Nat) : Prop :=
  ∀ j, (s.mapping root).find? "loggers" = some (.object j) ∨
    (s.mapping root).find? "handlers" = some (.object j) → ¬Changed number s root j

/-- The change of the loggers, in terms of their places in the setting. -/
theorem loggers_sets (h : Levelable s root) (hkeeps : Keeps number s root) :
    ∃ t, (change root "loggers" (setLevels level)).ending s = (.ok (), t) ∧
      Sets level (fun n => ∃ j key, (s.mapping root).find? "loggers" = some (.object j) ∧
        (key, .object n) ∈ (s.mapping j).entries) s t := by
  have hset : ∀ v, (s.mapping root).find? "loggers" = some v →
      ∃ t, (setLevels level v).ending s = (.ok (), t) ∧
        Sets level (fun n => ∃ j key, v = .object j ∧ (key, .object n) ∈ (s.mapping j).entries) s t := by
    intro v hv
    obtain ⟨j, m, rfl, hj, hrecords⟩ := h.loggers hv
    have hself : ∀ key, (key, .object j) ∉ m.entries := by
      intro key hkey
      rw [← mapping_of_object? hj] at hkey
      exact hkeeps j (Or.inl hv) (Or.inl (standsAt_logger.mpr (Or.inr ⟨j, key, hv, hkey⟩)))
    obtain ⟨t, hend, ht⟩ := @setLevels_sets level s j m hj hrecords hself
    exact ⟨t, hend, ht.congr (by simp)⟩
  obtain ⟨t, hend, ht⟩ := change_sets hset
  refine ⟨t, hend, ht.congr fun n => ?_⟩
  constructor
  · rintro ⟨_, hv, j, key, rfl, hkey⟩
    exact ⟨j, key, hv, hkey⟩
  · rintro ⟨j, key, hv, hkey⟩
    exact ⟨_, hv, j, key, rfl, hkey⟩

theorem rootLogger_sets (h : ∀ v, (s.mapping root).find? "root" = some v → (s.mapping? v).isSome) :
    ∃ t, (change root "root" (setLevel level)).ending s = (.ok (), t) ∧
      Sets level (fun n => (s.mapping root).find? "root" = some (.object n)) s t := by
  have hset : ∀ v, (s.mapping root).find? "root" = some v →
      ∃ t, (setLevel level v).ending s = (.ok (), t) ∧ Sets level (fun n => v = .object n) s t := by
    intro v hv
    obtain ⟨n, m, rfl, hn⟩ := mapping?_isSome.mp (h v hv)
    exact ⟨_, setLevel_ending (mapping?_eq_some.mpr ⟨rfl, hn⟩),
      (sets_put hn).congr fun n => by simp [eq_comm]⟩
  obtain ⟨t, hend, ht⟩ := change_sets hset
  exact ⟨t, hend, ht.congr (by simp)⟩

/-- Handlers are judged by the levels they have once loggers got theirs, which differ from those
before only where records are shared. -/
theorem handlers_sets (hlevel : Level.number? level = some number) (h : Levelable s root)
    (hkeeps : Keeps number s root) (ht : Sets level (StandsAt LoggerPlace s root) s t) :
    ∃ u, (change root "handlers" (lowerHandlers level number)).ending t = (.ok (), u) ∧
      Sets level (fun n => StandsAt HandlerPlace s root n ∧ IsHigher number t n) t u := by
  have hset : ∀ v, (t.mapping root).find? "handlers" = some v →
      ∃ u, (lowerHandlers level number v).ending t = (.ok (), u) ∧
        Sets level (fun n => (∃ j key, v = .object j ∧ (key, .object n) ∈ (s.mapping j).entries) ∧
          IsHigher number t n) t u := by
    intro v hv
    rw [ht.leveled.find? (by decide)] at hv
    obtain ⟨j, m, rfl, hj, hrecords⟩ := h.handlers hv
    have hnot : ¬StandsAt LoggerPlace s root j := fun hl => hkeeps j (Or.inr hv) (Or.inl hl)
    have hself : ∀ key, (key, .object j) ∈ m.entries → ¬IsHigher number t j := by
      intro key hkey hhigher
      rw [← mapping_of_object? hj] at hkey
      exact hkeeps j (Or.inr hv) (Or.inr
        ⟨standsAt_handler.mpr ⟨j, key, hv, hkey⟩, ((ht.isHigher_iff hlevel).mp hhigher).1⟩)
    obtain ⟨u, hend, hu⟩ := lowerHandlers_sets hlevel ((ht.kept hnot).trans hj)
      (fun e he => (hrecords e he).leveled ht.leveled fun _ _ => hasLevelName_withLevel hlevel) hself
    rw [ht.mapping_kept hnot] at hu
    exact ⟨u, hend, hu.congr (by simp)⟩
  obtain ⟨u, hend, hu⟩ := change_sets hset
  refine ⟨u, hend, hu.congr fun n => ?_⟩
  rw [ht.leveled.find? (by decide), standsAt_handler]
  constructor
  · rintro ⟨_, hv, ⟨j, key, rfl, hkey⟩, hhigher⟩
    exact ⟨⟨j, key, hv, hkey⟩, hhigher⟩
  · rintro ⟨⟨j, key, hv, hkey⟩, hhigher⟩
    exact ⟨_, hv, ⟨j, key, rfl, hkey⟩, hhigher⟩

/-- A level is put into every logger, the root and the handlers that have a higher one, wherever else
they may stand. -/
theorem apply_sets (hlevel : Level.number? level = some number) (h : Levelable s root)
    (hkeeps : Keeps number s root) : ∃ t, (Override.apply level number root).ending s = (.ok (), t) ∧
      Sets level (Changed number s root) s t := by
  obtain ⟨t₁, hend₁, h₁⟩ := @loggers_sets level number s root h hkeeps
  have hroot : ∀ v, (t₁.mapping root).find? "root" = some v → (t₁.mapping? v).isSome := by
    intro v hv
    rw [h₁.leveled.find? (by decide)] at hv
    exact h₁.leveled.mapping?_isSome.mpr (h.rootLogger hv)
  obtain ⟨t₂, hend₂, h₂⟩ := @rootLogger_sets level t₁ root hroot
  have hloggers : Sets level (StandsAt LoggerPlace s root) s t₂ := by
    refine (h₁.trans h₂).congr fun n => ?_
    rw [standsAt_logger, h₁.leveled.find? (by decide)]
    exact or_comm
  obtain ⟨t₃, hend₃, h₃⟩ := handlers_sets hlevel h hkeeps hloggers
  refine ⟨t₃, ?_, (hloggers.trans h₃).congr fun n => ?_⟩
  · unfold Override.apply
    rw [ending_bind, hend₁]
    dsimp only
    rw [ending_bind, hend₂]
    exact hend₃
  · rw [Changed, hloggers.isHigher_iff hlevel]
    by_cases hn : StandsAt LoggerPlace s root n <;> simp [hn]

/-! ### A second time -/

theorem standsAt_logger_of_sets (hkeeps : Keeps number s root)
    (ht : Sets level (Changed number s root) s t) :
    StandsAt LoggerPlace t root n ↔ StandsAt LoggerPlace s root n := by
  rw [standsAt_logger, standsAt_logger, ht.leveled.find? (by decide), ht.leveled.find? (by decide)]
  refine or_congr_right (exists_congr fun j => exists_congr fun key => and_congr_right fun hv => ?_)
  rw [ht.mapping_kept (hkeeps j (Or.inl hv))]

theorem standsAt_handler_of_sets (hkeeps : Keeps number s root)
    (ht : Sets level (Changed number s root) s t) :
    StandsAt HandlerPlace t root n ↔ StandsAt HandlerPlace s root n := by
  rw [standsAt_handler, standsAt_handler, ht.leveled.find? (by decide)]
  refine exists_congr fun j => exists_congr fun key => and_congr_right fun hv => ?_
  rw [ht.mapping_kept (hkeeps j (Or.inr hv))]

/-- No handler has a higher level than one that has been put in. -/
theorem changed_of_sets (hlevel : Level.number? level = some number) (hkeeps : Keeps number s root)
    (ht : Sets level (Changed number s root) s t) :
    Changed number t root n ↔ StandsAt LoggerPlace s root n := by
  rw [Changed, standsAt_logger_of_sets hkeeps ht, standsAt_handler_of_sets hkeeps ht,
    ht.isHigher_iff hlevel]
  refine or_iff_left ?_
  rintro ⟨hhandler, hhigher, hnot⟩
  exact hnot (Or.inr ⟨hhandler, hhigher⟩)

/-- A setting that has been overridden can be overridden again. -/
theorem Levelable.of_sets (hlevel : Level.number? level = some number) (h : Levelable s root)
    (hkeeps : Keeps number s root) (ht : Sets level (Changed number s root) s t) :
    Levelable t root := by
  have hlev := ht.leveled
  refine ⟨fun {v} hv => ?_, fun {v} hv => ?_, fun {v} hv => ?_⟩
  · rw [hlev.find? (by decide)] at hv
    obtain ⟨j, m, rfl, hj, hrecords⟩ := h.loggers hv
    have hkept := (ht.kept (hkeeps j (Or.inl hv))).trans hj
    exact ⟨j, m, rfl, hkept, fun e he => hlev.mapping?_isSome.mpr (hrecords e he)⟩
  · rw [hlev.find? (by decide)] at hv
    exact hlev.mapping?_isSome.mpr (h.rootLogger hv)
  · rw [hlev.find? (by decide)] at hv
    obtain ⟨j, m, rfl, hj, hrecords⟩ := h.handlers hv
    have hkept := (ht.kept (hkeeps j (Or.inr hv))).trans hj
    exact ⟨j, m, rfl, hkept, fun e he =>
      (hrecords e he).leveled hlev fun _ _ => hasLevelName_withLevel hlevel⟩

/-- An override for a second time finds every level in place and changes nothing. -/
theorem apply_again (hlevel : Level.number? level = some number) (h : Levelable s root)
    (hkeeps : Keeps number s root) (ht : Sets level (Changed number s root) s t) :
    (Override.apply level number root).ending t = (.ok (), t) := by
  have hchanged : ∀ n, Changed number t root n → HasLevel level t n := fun n hn =>
    ht.hasLevel (Or.inl ((changed_of_sets hlevel hkeeps ht).mp hn))
  have hkeeps' : Keeps number t root := by
    intro j hj hn
    rw [ht.leveled.find? (by decide), ht.leveled.find? (by decide)] at hj
    exact hkeeps j hj (Or.inl ((changed_of_sets hlevel hkeeps ht).mp hn))
  obtain ⟨u, hend, hu⟩ := apply_sets hlevel (h.of_sets hlevel hkeeps ht) hkeeps'
  rw [hend, hu.same hchanged]

/-! ### Sharing -/

theorem LoggerPlace.not_handler (h : LoggerPlace p) : ¬HandlerPlace p := by
  rintro ⟨key⟩
  generalize hp : [Store.Step.key (.text "handlers"), .key key] = p at h
  cases h <;> simp at hp

theorem otherPlace_key (h : name ≠ "root") : OtherPlace [.key (.text name)] := by
  refine ⟨?_, nofun, ?_⟩
  · rintro ⟨⟩
    exact h rfl
  · intro hlevel
    generalize hp : [Store.Step.key (.text name)] = p at hlevel
    cases hlevel with
    | under rest hlogger => cases hlogger <;> simp at hp

/-- A record of records has no level. -/
theorem IsRecord.not_hasLevel {R : Value → Prop}
    (h : IsRecord s (fun m => ∀ e ∈ m.entries, R e.2) (.object j)) (hR : ¬R (.scalar (.text level))) : ¬HasLevel level s j := by
  intro hlevel
  obtain ⟨_, m, hj, hm, hrecords⟩ := h
  obtain rfl := Value.object.inj hj
  rw [HasLevel, mapping_of_object? hm] at hlevel
  exact hR (hrecords _ (Mapping.find?_eq_some.mp hlevel))

theorem Levelable.not_hasLevel (h : Levelable s root)
    (hj : (s.mapping root).find? "loggers" = some (.object j) ∨
      (s.mapping root).find? "handlers" = some (.object j)) : ¬HasLevel level s j := by
  rcases hj with hv | hv
  · exact (h.loggers hv).not_hasLevel (R := fun v => (s.mapping? v).isSome) Bool.noConfusion
  · exact (h.handlers hv).not_hasLevel (R := IsRecord s HasLevelName) nofun

/-- Records that hold loggers or handlers have no level, for no level is put in their place. -/
theorem Separate.keeps (hsep : Separate level number s root) (h : Levelable s root) :
    Keeps number s root := by
  intro j hj hchanged
  have hother : StandsAt OtherPlace s root j := by
    rcases hj with hv | hv
    · exact ⟨_, otherPlace_key (by decide), leads_key.mpr (Mapping.find?_eq_some.mp hv)⟩
    · exact ⟨_, otherPlace_key (by decide), leads_key.mpr (Mapping.find?_eq_some.mp hv)⟩
  rcases hchanged with hlogger | ⟨hhandler, hhigher⟩
  · exact h.not_hasLevel hj (hsep.loggers hlogger hother)
  · exact hsep.handlers hhandler hother hhigher

theorem Levelable.handler (h : Levelable s root) (hn : StandsAt HandlerPlace s root n) :
    ∃ m, s.object? n = some (.map m) ∧ HasLevelName m := by
  obtain ⟨j, key, hv, hkey⟩ := standsAt_handler.mp hn
  obtain ⟨_, m, hj, hm, hrecords⟩ := h.handlers hv
  obtain rfl := Value.object.inj hj
  rw [mapping_of_object? hm] at hkey
  obtain ⟨_, m', hn, hm', hname⟩ := hrecords _ hkey
  obtain rfl := Value.object.inj hn
  exact ⟨m', hm', hname⟩

theorem lowered_of_not_isHigher (hm : s.object? n = some (.map m)) (hname : HasLevelName m)
    (h : ¬IsHigher number s n) : Lowered level number m m := by
  cases hl : m.find? "level" with
  | none => exact .unlevelled hl
  | some l =>
    obtain ⟨name, k, rfl, hk⟩ := hname l hl
    refine .kept hl hk (Int.not_lt.mp fun hlt => h ⟨name, k, ?_, hk, hlt⟩)
    rw [HasLevel, mapping_of_object? hm, hl]

theorem lowered_withLevel (hlevel : Level.number? level = some number)
    (hm : s.object? n = some (.map m)) (h : IsHigher number s n ∨ HasLevel level s n) :
    Lowered level number m (withLevel level m) := by
  unfold IsHigher HasLevel at h
  rw [mapping_of_object? hm] at h
  rcases h with ⟨name, k, hl, hk, hlt⟩ | hl
  · exact .lowered hl hk hlt
  · rw [withLevel_eq_self.mpr hl]
    exact .kept hl hlevel (Int.le_refl number)

/-- Without sharing in the wrong place, each record gets what is meant for its place. -/
theorem Separate.overridden (hlevel : Level.number? level = some number)
    (hsep : Separate level number s root) (h : Levelable s root)
    (ht : Sets level (Changed number s root) s t) : Overridden level number s t root := by
  refine ⟨fun {n} hn => ht.set (Or.inl hn), fun {n} hn => ?_, fun {n} hn => ?_⟩
  · obtain ⟨m, hm, hname⟩ := h.handler hn
    by_cases hchanged : Changed number s root n
    · obtain ⟨m', hm', hset⟩ := ht.set hchanged
      obtain rfl := map_unique hm hm'
      refine ⟨m, _, hm, hset, lowered_withLevel hlevel hm ?_⟩
      rcases hchanged with hlogger | ⟨-, hhigher⟩
      · exact hsep.both hlogger hn
      · exact Or.inl hhigher
    · exact ⟨m, m, hm, (ht.kept hchanged).trans hm,
        lowered_of_not_isHigher hm hname fun hhigher => hchanged (Or.inr ⟨hn, hhigher⟩)⟩
  · by_cases hchanged : Changed number s root n
    · obtain ⟨m, hm, hset⟩ := ht.set hchanged
      rcases hchanged with hlogger | ⟨hhandler, hhigher⟩
      · have hhas := hsep.loggers hlogger hn
        rw [HasLevel, mapping_of_object? hm] at hhas
        rw [hset, hm, withLevel_eq_self.mpr hhas]
      · exact absurd hhigher (hsep.handlers hhandler hn)
    · exact ht.kept hchanged

theorem Lowered.not_isHigher (hlevel : Level.number? level = some number)
    (hm : s.object? n = some (.map m)) (h : Lowered level number m m') (hsame : m' = m) :
    ¬IsHigher number s n := by
  have hmapping := mapping_of_object? hm
  intro hhigher
  have hhigher' := hhigher
  obtain ⟨name, k, hname, hk, hlt⟩ := hhigher'
  rw [HasLevel, hmapping] at hname
  cases h with
  | unlevelled hnone =>
    rw [hnone] at hname
    contradiction
  | kept hname' hk' hle =>
    have heq := hname.symm.trans hname'
    simp only [Option.some.injEq, Value.scalar.injEq, Scalar.text.injEq] at heq
    rw [heq, hk'] at hk
    exact Int.not_lt.mpr hle (Option.some.inj hk ▸ hlt)
  | lowered =>
    have hlevel' : HasLevel level s n := by
      rw [HasLevel, hmapping]
      exact withLevel_eq_self.mp hsame
    exact hlevel'.not_isHigher hlevel hhigher

theorem Lowered.isHigher_or (hm : s.object? n = some (.map m)) (h : Lowered level number m m')
    (hset : m' = withLevel level m) : IsHigher number s n ∨ HasLevel level s n := by
  unfold IsHigher HasLevel
  rw [mapping_of_object? hm]
  cases h with
  | unlevelled | kept => exact Or.inr (withLevel_eq_self.mp hset.symm)
  | lowered hname hk hlt => exact Or.inl ⟨_, _, hname, hk, hlt⟩

/-- An override that comes out as meant has met no sharing in the wrong place. -/
theorem Overridden.separate (hlevel : Level.number? level = some number)
    (h : Overridden level number s t root) : Separate level number s root := by
  refine ⟨fun {n} hlogger hother => ?_, fun {n} hhandler hother => ?_,
    fun {n} hlogger hhandler => ?_⟩
  · obtain ⟨m, hm, hset⟩ := h.loggers hlogger
    have hsame := map_unique hset ((h.others hother).trans hm)
    rw [HasLevel, mapping_of_object? hm]
    exact withLevel_eq_self.mp hsame
  · obtain ⟨m, m', hm, hset, hlowered⟩ := h.handlers hhandler
    have hsame := map_unique hset ((h.others hother).trans hm)
    exact hlowered.not_isHigher hlevel hm hsame
  · obtain ⟨m, hm, hset⟩ := h.loggers hlogger
    obtain ⟨m₁, m', hm₁, hset', hlowered⟩ := h.handlers hhandler
    obtain rfl := map_unique hm hm₁
    exact hlowered.isHigher_or hm (map_unique hset' hset)

/-- Nothing is in the way of a level in a setting without shared records. -/
theorem separate_of_unshared (h : s.Unshared (.object root)) : Separate level number s root := by
  refine ⟨?_, ?_, ?_⟩
  · rintro n ⟨p, hp, hlead⟩ ⟨q, hq, hlead'⟩
    rw [h n p q hlead hlead'] at hp
    exact absurd hp hq.not_logger
  · rintro n ⟨p, hp, hlead⟩ ⟨q, hq, hlead'⟩
    rw [h n p q hlead hlead'] at hp
    exact absurd hp hq.not_handler
  · rintro n ⟨p, hp, hlead⟩ ⟨q, hq, hlead'⟩
    rw [h n p q hlead hlead'] at hp
    exact absurd hq hp.not_handler

end Override

open Override Edit
open Store (Value)

/-- A level that is asked for, in any case, is put into every logger and the root, handlers that have a
higher one are lowered to it, all else is as before, and to ask for it again changes nothing: so it is if
and only if no record is shared between places of which one is to change and another is not. What is no
level is refused, and nothing has changed. -/
theorem override_levels {s : Store} {root : Nat} (h : Levelable s root) (level : String) :
    (∀ number, Level.number? (Level.upperName level) = some number →
      ((∃ t, (override level root).run.run s = (.ok (), t) ∧
          Overridden (Level.upperName level) number s t root ∧
          (override level root).run.run t = (.ok (), t)) ↔
        Separate (Level.upperName level) number s root)) ∧
    (Level.number? (Level.upperName level) = none →
      (override level root).run.run s = (.error (.level level), s)) := by
  refine ⟨fun number hlevel => ⟨?_, fun hsep => ?_⟩, override_of_unknown⟩
  · rintro ⟨t, -, hoverridden, -⟩
    exact hoverridden.separate hlevel
  · have hkeeps := hsep.keeps h
    obtain ⟨t, hend, ht⟩ := apply_sets hlevel h hkeeps
    refine ⟨t, ?_, hsep.overridden hlevel h ht, ?_⟩
    · rw [override_of_number hlevel, hend]
      rfl
    · rw [override_of_number hlevel, apply_again hlevel h hkeeps ht]
      rfl

/-- A setting with handlers above a level, below it, on a par with it and without one. -/
def graded (audit : String) (logger root : List (Scalar × Value)) : Store where
  objects :=
    [(0, .map (.ofEntries [(.text "version", .scalar (.int 1)), (.text "handlers", .object 1),
       (.text "root", .object 6), (.text "loggers", .object 7)])),
     (1, .map (.ofEntries [(.text "console", .object 2), (.text "audit", .object 3),
       (.text "file", .object 4), (.text "null", .object 5)])),
     (2, .map (.ofEntries [(.text "level", .scalar (.text "DEBUG"))])),
     (3, .map (.ofEntries [(.text "level", .scalar (.text audit)), (.text "stream", .scalar .null)])),
     (4, .map (.ofEntries [(.text "level", .scalar (.text "WARNING"))])),
     (5, .map (.ofEntries [])),
     (6, .map (.ofEntries root)),
     (7, .map (.ofEntries [(.text "tsguard", .object 8)])),
     (8, .map (.ofEntries logger))]

def gradedSetting : Store := graded "ERROR" [] [(.text "level", .scalar (.text "INFO"))]

theorem unshared_gradedSetting : gradedSetting.Unshared (.object 0) :=
  Store.unshared_of_places 3 (by decide +kernel) (by decide +kernel)

theorem levelable_gradedSetting : Levelable gradedSetting 0 := by
  have hname : ∀ name k, Level.number? name = some k →
      ∀ m : Mapping, m.find? "level" = some (.scalar (.text name)) → HasLevelName m := by
    intro name k hk m hm l hl
    rw [hm] at hl
    exact ⟨name, k, (Option.some.inj hl).symm, hk⟩
  refine ⟨fun {v} hv => ?_, fun {v} hv => ?_, fun {v} hv => ?_⟩
  · obtain rfl := Option.some.inj hv
    exact ⟨7, _, rfl, rfl, by decide⟩
  · obtain rfl := Option.some.inj hv
    rfl
  · obtain rfl := Option.some.inj hv
    refine ⟨1, _, rfl, rfl, ?_⟩
    rintro e (_ | ⟨_, _ | ⟨_, _ | ⟨_, _ | ⟨_, ⟨⟩⟩⟩⟩⟩)
    · exact ⟨2, _, rfl, rfl, hname "DEBUG" 10 rfl _ rfl⟩
    · exact ⟨3, _, rfl, rfl, hname "ERROR" 40 rfl _ rfl⟩
    · exact ⟨4, _, rfl, rfl, hname "WARNING" 30 rfl _ rfl⟩
    · exact ⟨5, _, rfl, rfl, nofun⟩

theorem override_levels_graded :
    ∃ t, (override "Warn" 0).run.run gradedSetting = (.ok (), t) ∧
      Overridden "WARN" 30 gradedSetting t 0 ∧ (override "Warn" 0).run.run t = (.ok (), t) ∧
      t = graded "WARN" [(.text "level", .scalar (.text "WARN"))]
        [(.text "level", .scalar (.text "WARN"))] ∧
      (override "loud" 0).run.run gradedSetting = (.error (.level "loud"), gradedSetting) := by
  have hwarn : Level.upperName "Warn" = "WARN" := by decide
  obtain ⟨t, hrun, hoverridden, hagain⟩ := ((override_levels levelable_gradedSetting "Warn").1 30
    (by decide)).mpr (separate_of_unshared unshared_gradedSetting)
  rw [hwarn] at hoverridden
  have hgraded : (override "Warn" 0).run.run gradedSetting = (.ok (), graded "WARN"
      [(.text "level", .scalar (.text "WARN"))] [(.text "level", .scalar (.text "WARN"))]) := rfl
  exact ⟨t, hrun, hoverridden, hagain, congrArg Prod.snd (hrun.symm.trans hgraded),
    (override_levels levelable_gradedSetting "loud").2 (by decide)⟩

def sharing (level : String) (root : List (Scalar × Value)) : Store where
  objects :=
    [(0, .map (.ofEntries [(.text "version", .scalar (.int 1)), (.text "handlers", .object 1),
       (.text "loggers", .object 3), (.text "root", .object 4)])),
     (1, .map (.ofEntries [(.text "h", .object 2)])),
     (2, .map (.ofEntries [(.text "class", .scalar (.text "logging.StreamHandler")),
       (.text "level", .scalar (.text level))])),
     (3, .map (.ofEntries [(.text "a", .object 2)])),
     (4, .map (.ofEntries ((.text "handlers", .object 5) :: root))),
     (5, .list [.scalar (.text "h")])]

theorem levelable_sharing : Levelable (sharing "DEBUG" []) 0 := by
  refine ⟨fun {v} hv => ?_, fun {v} hv => ?_, fun {v} hv => ?_⟩
  · obtain rfl := Option.some.inj hv
    exact ⟨3, _, rfl, rfl, by decide⟩
  · obtain rfl := Option.some.inj hv
    rfl
  · obtain rfl := Option.some.inj hv
    refine ⟨1, _, rfl, rfl, ?_⟩
    rintro e (_ | ⟨_, ⟨⟩⟩)
    exact ⟨2, _, rfl, rfl, fun l hl => ⟨"DEBUG", 10, (Option.some.inj hl).symm, rfl⟩⟩

theorem not_isHigher_sharing : ¬IsHigher 40 (sharing "DEBUG" []) 2 := by
  rintro ⟨name, k, hname, hk, hlt⟩
  obtain rfl : "DEBUG" = name := by simpa using Option.some.inj hname
  obtain rfl := Option.some.inj hk
  contradiction

/-- The handler holds back what it let through before, since the level of the logger is its own. -/
theorem override_levels_sharing : Levelable (sharing "DEBUG" []) 0 ∧
    (override "error" 0).run.run (sharing "DEBUG" []) =
      (.ok (), sharing "ERROR" [(.text "level", .scalar (.text "ERROR"))]) ∧
    ¬∃ t, (override "error" 0).run.run (sharing "DEBUG" []) = (.ok (), t) ∧
      Overridden "ERROR" 40 (sharing "DEBUG" []) t 0 ∧ (override "error" 0).run.run t = (.ok (), t) := by
  refine ⟨levelable_sharing, rfl, ?_⟩
  rintro ⟨t, -, hoverridden, -⟩
  have hlogger : StandsAt LoggerPlace (sharing "DEBUG" []) 0 2 :=
    standsAt_logger.mpr (Or.inr ⟨3, .text "a", rfl, List.mem_cons_self⟩)
  have hhandler : StandsAt HandlerPlace (sharing "DEBUG" []) 0 2 :=
    standsAt_handler.mpr ⟨1, .text "h", rfl, List.mem_cons_self⟩
  rcases (hoverridden.separate rfl).both hlogger hhandler with hhigher | hlevel
  · exact not_isHigher_sharing hhigher
  · rw [HasLevel] at hlevel
    contradiction

end TypeGuards.Logging
