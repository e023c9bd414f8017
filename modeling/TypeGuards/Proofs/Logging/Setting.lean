import TypeGuards.Proofs.Logging
import TypeGuards.Proofs.Logging.Override
/-!
What can be wrong with a setting that is applied. Setting up logging goes on after all of it.
-/
namespace TypeGuards.Logging

/-! ### Parts of a setup -/

section

variable {α β : Type} {x : Setup α} {f : α → Setup β} {e : Fault}

/-- The setup goes on after whatever is wrong with a part of it. -/
def Handles (x : Setup α) : Prop := ∀ ls e t, x.run.run ls = (.error e, t) → e.isHandled = true

/-- A sequence of parts handles what each of them does. -/
theorem Handles.bind (hx : Handles x) (hf : ∀ a, Handles (f a)) : Handles (x >>= f) := by
  intro ls e t h
  rw [run_bind] at h
  rcases hend : x.run.run ls with ⟨cause | a, u⟩
  · rw [hend] at h
    obtain rfl := Except.error.inj (Prod.mk.inj h).1
    exact hx ls cause u hend
  · rw [hend] at h
    exact hf a u e t h

/-- A part that always ends with a value. -/
theorem handles_of_ok (h : ∀ ls, ∃ a t, x.run.run ls = (.ok a, t)) : Handles x := by
  intro ls e t hend
  obtain ⟨a, u, hok⟩ := h ls
  rw [hok] at hend
  have hnever := (Prod.mk.inj hend).1
  contradiction

theorem handles_pure (a : α) : Handles (pure a) := handles_of_ok fun ls => ⟨a, ls, rfl⟩

theorem handles_get : Handles (get : Setup Loggers) := handles_of_ok fun ls => ⟨ls, ls, rfl⟩

theorem handles_modify (g : Loggers → Loggers) : Handles (modify g : Setup Unit) :=
  handles_of_ok fun ls => ⟨(), g ls, rfl⟩

theorem handles_state (m : StateM Loggers α) : Handles (liftM m : Setup α) :=
  handles_of_ok fun ls => ⟨(m.run ls).1, (m.run ls).2, rfl⟩

theorem handles_throw (h : e.isHandled = true) : Handles (throw e : Setup α) := by
  intro ls cause t hend
  rwa [← Except.error.inj (Prod.mk.inj hend).1]

/-- What comes after a fault is not done. -/
theorem handles_throw_bind (h : e.isHandled = true) : Handles ((throw e : Setup α) >>= f) := by
  intro ls cause t hend
  rw [run_bind] at hend
  rwa [← Except.error.inj (Prod.mk.inj hend).1]

theorem handles_except {r : Except Fault α} (h : ∀ e, r = .error e → e.isHandled = true) :
    Handles (liftM r : Setup α) := by
  intro ls e t hend
  exact h e (Prod.mk.inj hend).1

theorem handles_forIn {as : List α} {b : β} {step : α → β → Setup (ForInStep β)}
    (h : ∀ a b, Handles (step a b)) : Handles (forIn as b step) := by
  induction as generalizing b with
  | nil => exact handles_pure b
  | cons a as ih =>
    rw [List.forIn_cons]
    refine (h a b).bind ?_
    intro next
    cases next with
    | done b => exact handles_pure b
    | yield b => exact ih

end

namespace Setting

variable {part : Part} {config entries : Entries} {key : String} {e : Fault}

/-! ### What is made -/

theorem membersOf_isHandled (h : membersOf part config key = .error e) : e.isHandled = true := by
  unfold membersOf at h
  split at h
  · contradiction
  · contradiction
  · split at h
    · contradiction
    · rw [← Except.error.inj h]
      rfl
    · rename_i cause hcause
      rw [← Except.error.inj h]
      exact members_eq_error hcause

theorem makeAll_isHandled {α : Type} {make : Entries → Option α}
    (h : makeAll part make entries = .error e) : e.isHandled = true := by
  obtain ⟨⟨name, d⟩, -, hone⟩ := exists_of_mapM_eq_error h
  dsimp only at hone
  split at hone
  · split at hone
    · contradiction
    · rw [← Except.error.inj hone]
      rfl
  · rw [← Except.error.inj hone]
    rfl

theorem unordered?_cons (first second : Scalar × Data) (rest : Entries) : ∃ same : Bool,
    unordered? (first :: second :: rest) = if same then unordered? (second :: rest) else
      some (.notComparable (fullTypeName (.scalar second.1 : Layer Data))
        (fullTypeName (.scalar first.1 : Layer Data))) :=
  ⟨_, rfl⟩

theorem unordered?_isHandled {cause : Misshape} (h : unordered? entries = some cause) :
    cause.isHandled = true := by
  induction entries with
  | nil => contradiction
  | cons first rest ih =>
    cases rest with
    | nil => contradiction
    | cons second rest =>
      obtain ⟨same, hcons⟩ := unordered?_cons first second rest
      rw [hcons] at h
      split_ifs at h
      · exact ih h
      · rw [← Option.some.inj h]
        rfl

theorem make_isHandled (h : make config = .error e) : e.isHandled = true := by
  unfold make at h
  rcases bind_eq_error.mp h with h | ⟨formatters, -, h⟩
  · exact membersOf_isHandled h
  rcases bind_eq_error.mp h with h | ⟨formats, -, h⟩
  · exact makeAll_isHandled h
  rcases bind_eq_error.mp h with h | ⟨filters, -, h⟩
  · exact membersOf_isHandled h
  rcases bind_eq_error.mp h with h | ⟨parts, -, h⟩
  · exact makeAll_isHandled h
  rcases bind_eq_error.mp h with h | ⟨entries, -, h⟩
  · exact membersOf_isHandled h
  dsimp only at h
  split at h
  · rename_i cause hcause
    rw [← Except.error.inj h]
    exact unordered?_isHandled hcause
  · rcases bind_eq_error.mp h with h | ⟨handlers, -, h⟩
    · exact makeAll_isHandled h
    · contradiction

/-! ### What is set -/

theorem handles_configureNamed (made : Option Made) (name : Scalar) (d : Data) :
    Handles (configureNamed made name d) := by
  unfold configureNamed
  dsimp only
  split
  · refine (handles_state _).bind ?_
    intro isSet
    cases isSet with
    | true => exact handles_modify _
    | false => exact handles_throw rfl
  · exact handles_throw rfl

theorem handles_configureRoot (made : Option Made) : Handles (configureRoot made config) := by
  unfold configureRoot
  split
  · exact handles_pure ()
  · refine (handles_state _).bind ?_
    intro isSet
    cases isSet with
    | true => exact handles_pure ()
    | false => exact handles_throw rfl

theorem handles_changeHandler (name : Scalar) (d : Data) : Handles (changeHandler name d) := by
  unfold changeHandler
  refine handles_get.bind ?_
  intro ls
  dsimp only
  split_ifs
  · exact handles_throw_bind rfl
  · split
    · split
      · exact handles_pure ()
      · exact handles_throw rfl
      · exact handles_modify _
    · exact handles_throw rfl

/-- The steps of a loop that keeps nothing. -/
theorem handles_loop {entries : Entries} {step : Scalar → Data → Setup Unit}
    (h : ∀ name d, Handles (step name d)) :
    Handles (forIn entries PUnit.unit fun (name, d) _ => do
      step name d
      pure (ForInStep.yield PUnit.unit)) := by
  apply handles_forIn
  intro entry _
  exact (h entry.1 entry.2).bind fun _ => handles_pure _

/-- A full setting is applied, or fails in a way that is handled. -/
theorem handles_replace : Handles (replace config) := by
  unfold replace
  refine (handles_modify _).bind ?_
  intro _
  refine (handles_except fun e => make_isHandled).bind ?_
  intro made
  refine (handles_except fun e => membersOf_isHandled).bind ?_
  intro entries
  refine (handles_loop fun name d => handles_configureNamed _ name d).bind ?_
  intro _
  refine (handles_modify _).bind ?_
  intro _
  exact handles_configureRoot _

/-- The same for a setting that only adjusts what is there. -/
theorem handles_adjust : Handles (adjust config) := by
  have hrest : ∀ entries : Entries, Handles (do
      for (name, d) in entries do
        changeHandler name d
      for (name, d) in ← membersOf .logger config "loggers" do
        configureNamed none name d
      configureRoot none config) := by
    intro entries
    refine (handles_loop fun name d => handles_changeHandler name d).bind ?_
    intro _
    refine (handles_except fun e => membersOf_isHandled).bind ?_
    intro loggers
    refine (handles_loop fun name d => handles_configureNamed _ name d).bind ?_
    intro _
    exact handles_configureRoot _
  unfold adjust
  dsimp only
  split
  · exact hrest []
  · exact hrest _
  · split
    · exact hrest []
    · exact handles_throw_bind rfl
    · rename_i cause hcause
      exact handles_throw_bind (members_eq_error hcause)

/-- Setting up logging goes on after whatever is wrong with a setting that is applied. -/
theorem handles_apply (config : Entries) : Handles (apply config) := by
  unfold apply
  dsimp only
  split
  · exact handles_throw rfl
  · split_ifs
    · exact handles_throw_bind rfl
    · exact handles_throw_bind rfl
    · exact handles_adjust
    · exact handles_replace

end Setting

end TypeGuards.Logging
