import TypeGuards.Proofs.Sequence
import TypeGuards.Run.Source
/-!
What actions do to the progress of a run. An action is taken apart at its binds: it returns if and
only if all its parts do, and it aborts where the first of them does; a total action never aborts. A
quiet action leaves the files and the standard output alone, also if it aborts. A silent action is
both total and quiet.
-/
namespace TypeGuards.Action

variable {α β : Type} {x : Action α} {f : α → Action β} {s t u : Progress} {a : α} {b : β}
  {e : Abort}

/-- What comes of an action that begins in a state, and the state it ends in. -/
def ending (x : Action α) (s : Progress) : Except Abort α × Progress := x.run.run s

/-- An action that begins in one state returns a result and ends in another. -/
def Returns (x : Action α) (s : Progress) (a : α) (t : Progress) : Prop := x.ending s = (.ok a, t)

def Aborts (x : Action α) (s : Progress) (e : Abort) (t : Progress) : Prop :=
  x.ending s = (.error e, t)

/-- A sequence runs its second part only after a result of the first, on what that left behind. -/
theorem ending_bind (x : Action α) (f : α → Action β) (s : Progress) :
    (x >>= f).ending s = match x.ending s with
      | (.ok a, t) => (f a).ending t
      | (.error e, t) => (.error e, t) := by
  unfold ending
  rw [ExceptT.run_bind, StateT.run_bind]
  rcases x.run.run s with ⟨_ | _, t⟩
  · rfl
  · rfl

@[simp] theorem ending_pure (a : α) (s : Progress) : (pure a : Action α).ending s = (.ok a, s) := rfl

@[simp] theorem ending_throw (e : Abort) (s : Progress) :
    (throw e : Action α).ending s = (.error e, s) := rfl

@[simp] theorem ending_get (s : Progress) : (get : Action Progress).ending s = (.ok s, s) := rfl

@[simp] theorem ending_modify (g : Progress → Progress) (s : Progress) :
    (modify g : Action Unit).ending s = (.ok (), g s) := rfl

@[simp] theorem ending_print (text : String) (s : Progress) :
    (print text).ending s = (.ok (), { s with output := s.output ++ text }) := rfl

theorem exists_returns (h : (x.ending s).1.toOption.isSome) : ∃ a t, x.Returns s a t := by
  rcases hend : x.ending s with ⟨e | a, t⟩
  · rw [hend] at h
    contradiction
  · exact ⟨a, t, hend⟩

/-- The inversion lemma of sequences: what each part returned and did can be told apart. -/
theorem returns_bind :
    (x >>= f).Returns s b u ↔ ∃ a t, x.Returns s a t ∧ (f a).Returns t b u := by
  simp only [Returns, ending_bind]
  rcases x.ending s with ⟨_ | _, t⟩ <;> simp

/-- A sequence aborts in its first part, or in its second after the first has returned. -/
theorem aborts_bind : (x >>= f).Aborts s e u ↔
    x.Aborts s e u ∨ ∃ a t, x.Returns s a t ∧ (f a).Aborts t e u := by
  simp only [Aborts, Returns, ending_bind]
  rcases x.ending s with ⟨_ | _, t⟩ <;> simp

@[simp] theorem returns_pure {a' : α} : (pure a' : Action α).Returns s a t ↔ a' = a ∧ s = t := by
  simp [Returns]

@[simp] theorem not_returns_throw : ¬(throw e : Action α).Returns s a t := by simp [Returns]

@[simp] theorem returns_get : (get : Action Progress).Returns s u t ↔ s = u ∧ s = t := by
  simp [Returns]

@[simp] theorem returns_modify {g : Progress → Progress} {i : Unit} :
    (modify g : Action Unit).Returns s i t ↔ g s = t := by
  simp [Returns]

@[simp] theorem returns_print {text : String} {i : Unit} :
    (print text).Returns s i t ↔ { s with output := s.output ++ text } = t := by
  simp [Returns]

@[simp] theorem returns_orAbort {ε : Type} {wrap : ε → Abort} {r : Except ε α} :
    (orAbort wrap r).Returns s a t ↔ r = .ok a ∧ s = t := by
  cases r <;> simp [orAbort]

theorem aborts_orAbort {ε : Type} {wrap : ε → Abort} {r : Except ε α} :
    (orAbort wrap r).Aborts s e t ↔ (∃ cause, r = .error cause ∧ wrap cause = e) ∧ s = t := by
  cases r <;> simp [orAbort, Aborts]

theorem returns_mapM_nil {bs : List β} :
    (([] : List α).mapM f).Returns s bs t ↔ bs = [] ∧ s = t := by
  rw [List.mapM_nil, returns_pure, eq_comm]

/-- A loop that returns has returned from its first step and then from the others. -/
theorem returns_mapM_cons {as : List α} {bs : List β} :
    ((a :: as).mapM f).Returns s bs u ↔
      ∃ b t rest, (f a).Returns s b t ∧ (as.mapM f).Returns t rest u ∧ bs = b :: rest := by
  rw [List.mapM_cons]
  simp only [returns_bind, returns_pure]
  constructor
  · rintro ⟨b, t, hb, rest, u, hrest, rfl, rfl⟩
    exact ⟨b, t, rest, hb, hrest, rfl⟩
  · rintro ⟨b, t, rest, hb, hrest, rfl⟩
    exact ⟨b, t, hb, rest, u, hrest, rfl, rfl⟩

/-- Every action ends in one of the two ways. -/
theorem returns_or_aborts (x : Action α) (s : Progress) :
    (∃ a t, x.Returns s a t) ∨ ∃ e t, x.Aborts s e t := by
  unfold Returns Aborts
  rcases x.ending s with ⟨e | a, t⟩
  · exact Or.inr ⟨e, t, rfl⟩
  · exact Or.inl ⟨a, t, rfl⟩

theorem Returns.not_aborts (h : x.Returns s a t) : ¬x.Aborts s e u := by
  intro haborts
  have hends := h.symm.trans haborts
  simp at hends

/-- Actions are deterministic. -/
theorem Returns.unique {a' : α} (h : x.Returns s a t) (h' : x.Returns s a' u) : a = a' ∧ t = u := by
  have hends := h.symm.trans h'
  simpa using hends

@[simp] theorem aborts_throw {e' : Abort} :
    (throw e' : Action α).Aborts s e t ↔ e' = e ∧ s = t := by
  simp [Aborts]

/-- A loop aborts at its first step, or at a later one after the first has returned. -/
theorem aborts_mapM_cons {as : List α} : ((a :: as).mapM f).Aborts s e u ↔
    (f a).Aborts s e u ∨ ∃ b t, (f a).Returns s b t ∧ (as.mapM f).Aborts t e u := by
  rw [List.mapM_cons]
  simp only [aborts_bind]
  constructor
  · rintro (hfirst | ⟨b, t, hb, hrest | ⟨bs, v, -, hend⟩⟩)
    · exact Or.inl hfirst
    · exact Or.inr ⟨b, t, hb, hrest⟩
    · exact absurd hend (Returns.not_aborts (returns_pure.mpr ⟨rfl, rfl⟩))
  · rintro (hfirst | ⟨b, t, hb, hrest⟩)
    · exact Or.inl hfirst
    · exact Or.inr ⟨b, t, hb, Or.inl hrest⟩

/-! ### Actions that never abort -/

def Total (x : Action α) : Prop := ∀ s, ∃ a t, x.Returns s a t

theorem Total.not_aborts (hx : x.Total) : ¬x.Aborts s e t := by
  obtain ⟨a, u, hreturns⟩ := hx s
  exact hreturns.not_aborts

theorem total_pure : (pure a : Action α).Total := fun s => ⟨a, s, rfl⟩

theorem total_get : (get : Action Progress).Total := fun s => ⟨s, s, rfl⟩

theorem total_modify {g : Progress → Progress} : (modify g : Action Unit).Total :=
  fun s => ⟨(), g s, rfl⟩

theorem total_print {text : String} : (print text).Total := total_modify

@[simp] theorem not_aborts_pure : ¬(pure a : Action α).Aborts s e t := total_pure.not_aborts

@[simp] theorem not_aborts_get : ¬(get : Action Progress).Aborts s e t := total_get.not_aborts

@[simp] theorem not_aborts_modify {g : Progress → Progress} :
    ¬(modify g : Action Unit).Aborts s e t := total_modify.not_aborts

theorem Total.bind (hx : x.Total) (hf : ∀ a, (f a).Total) : (x >>= f).Total := by
  intro s
  obtain ⟨a, t, ha⟩ := hx s
  obtain ⟨b, u, hb⟩ := hf a t
  exact ⟨b, u, returns_bind.mpr ⟨a, t, ha, hb⟩⟩

/-! ### Quiet actions -/

/-- An action leaves the files and the standard output as they are, whatever comes of it. -/
def Quiet (x : Action α) : Prop :=
  ∀ s, (x.ending s).2.files = s.files ∧ (x.ending s).2.output = s.output

theorem Quiet.returns (hx : x.Quiet) (h : x.Returns s a t) :
    t.files = s.files ∧ t.output = s.output := by
  have hs := hx s
  rwa [h] at hs

theorem quiet_pure : (pure a : Action α).Quiet := fun _ => ⟨rfl, rfl⟩

theorem quiet_throw : (throw e : Action α).Quiet := fun _ => ⟨rfl, rfl⟩

theorem quiet_get : (get : Action Progress).Quiet := fun _ => ⟨rfl, rfl⟩

theorem quiet_tell {level : Logging.Level} {logger activity message : String} :
    (tell level logger activity message).Quiet := fun _ => ⟨rfl, rfl⟩

theorem Quiet.bind (hx : x.Quiet) (hf : ∀ a, (f a).Quiet) : (x >>= f).Quiet := by
  intro s
  have hs := hx s
  rw [ending_bind]
  rcases hend : x.ending s with ⟨e | a, t⟩
  · rw [hend] at hs
    exact hs
  · rw [hend] at hs
    obtain ⟨hfiles, houtput⟩ := hf a t
    exact ⟨hfiles.trans hs.1, houtput.trans hs.2⟩

/-- A loop over quiet actions is quiet. -/
theorem Quiet.mapM (hf : ∀ a, (f a).Quiet) (as : List α) : (as.mapM f).Quiet := by
  induction as with
  | nil => exact quiet_pure
  | cons a as ih =>
    rw [List.mapM_cons]
    exact (hf a).bind fun _ => ih.bind fun _ => quiet_pure

/-! ### Silent actions -/

/-- An action always returns, and leaves the files and the standard output as they are. -/
structure Silent (x : Action α) : Prop where
  quiet : x.Quiet
  total : x.Total

/-- A silent action changes no file and prints nothing. -/
theorem Silent.returns (hx : x.Silent) (h : x.Returns s a t) :
    t.files = s.files ∧ t.output = s.output := hx.quiet.returns h

theorem Silent.not_aborts (hx : x.Silent) : ¬x.Aborts s e t := hx.total.not_aborts

theorem silent_pure : (pure a : Action α).Silent := ⟨quiet_pure, total_pure⟩

theorem silent_get : (get : Action Progress).Silent := ⟨quiet_get, total_get⟩

theorem silent_modify {g : Progress → Progress}
    (h : ∀ s, (g s).files = s.files ∧ (g s).output = s.output) : (modify g : Action Unit).Silent :=
  ⟨h, total_modify⟩

theorem silent_tell {level : Logging.Level} {logger activity message : String} :
    (tell level logger activity message).Silent := ⟨quiet_tell, total_modify⟩

theorem Silent.bind (hx : x.Silent) (hf : ∀ a, (f a).Silent) : (x >>= f).Silent :=
  ⟨hx.quiet.bind fun a => (hf a).quiet, hx.total.bind fun a => (hf a).total⟩

end TypeGuards.Action
