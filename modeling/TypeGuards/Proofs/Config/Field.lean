import TypeGuards.Config.OfFile
import TypeGuards.Proofs.Data.Store
import TypeGuards.Proofs.Sequence
/-!
Configurations field by field. Each field has a value of its own type, and what a value states for a
field is told apart from how it is checked. A configuration is valid if and only if all its fields are
and nothing else is stated.
-/
namespace TypeGuards

namespace Data

inductive Spells : Data → String → Prop
  | text (s : String) : Spells (.text s) s
  | bytes {bytes : List UInt8} {chars : List Char} : Encoding.Utf8.decode bytes = .ok chars →
      Spells (.scalar (.bytes bytes)) (String.ofList chars)

inductive Lists : Data → List Data → Prop
  | list (items : List Data) : Lists (.list items) items
  | set (items : List Scalar) : Lists (.set items) (items.map .scalar)

inductive OrNull {α : Type} (states : Data → α → Prop) : Data → Option α → Prop
  | null : OrNull states .null none
  | some {d : Data} {a : α} : states d a → d ≠ .null → OrNull states d (some a)

end Data

namespace Checked

variable {α β : Type} {d : Data} {check : Data → Checked α}

theorem both_eq_ok {x : Checked α} {y : Checked β} {a : α} {b : β} :
    both x y = .ok (a, b) ↔ x = .ok a ∧ y = .ok b := by
  cases x <;> cases y <;> simp [both]

theorem under_eq_ok {x : Checked α} {step : Step} {a : α} : x.under step = .ok a ↔ x = .ok a := by
  cases x <;> simp [under]

theorem text_eq_ok {s : String} : text d = .ok s ↔ d.Spells s := by
  constructor
  · intro h
    unfold text at h
    split at h
    · obtain rfl := Except.ok.inj h
      exact .text _
    · split at h
      · rename_i hdecode
        obtain rfl := Except.ok.inj h
        exact .bytes hdecode
      · contradiction
    · contradiction
  · rintro (_ | hdecode)
    · rfl
    · simp only [text, hdecode]

theorem listFrom_eq_ok {place : Nat} {items : List Data} {as : List α} :
    listFrom check place items = .ok as ↔ List.Forall₂ (fun d a => check d = .ok a) items as := by
  induction items generalizing place as with
  | nil => simp [listFrom, eq_comm]
  | cons d rest ih =>
    rw [listFrom]
    constructor
    · intro h
      split at h
      · rename_i a bs hboth
        obtain ⟨ha, hbs⟩ := both_eq_ok.mp hboth
        obtain rfl := Except.ok.inj h
        exact .cons (under_eq_ok.mp ha) (ih.mp hbs)
      · contradiction
    · intro h
      cases h with
      | cons ha hbs => rw [both_eq_ok.mpr ⟨under_eq_ok.mpr ha, ih.mpr hbs⟩]

/-- A list is accepted if its items are, and it has an item for each of them. -/
theorem list_eq_ok {as : List α} : list check d = .ok as ↔
    ∃ items, d.Lists items ∧ List.Forall₂ (fun d a => check d = .ok a) items as := by
  constructor
  · intro h
    unfold list at h
    split at h
    · exact ⟨_, .list _, listFrom_eq_ok.mp h⟩
    · exact ⟨_, .set _, listFrom_eq_ok.mp h⟩
    · contradiction
  · rintro ⟨items, hitems, hall⟩
    cases hitems with
    | list => exact listFrom_eq_ok.mpr hall
    | set => exact listFrom_eq_ok.mpr hall

/-- A value that may be null is null, or one that the check accepts. -/
theorem optional_eq_ok {a : Option α} : optional check d = .ok a ↔
    Data.OrNull (fun d a => check d = .ok a) d a := by
  constructor
  · intro h
    unfold optional at h
    split at h
    · obtain rfl := Except.ok.inj h
      exact .null
    · rename_i hnull
      obtain ⟨b, hb, rfl⟩ := map_eq_ok.mp h
      exact .some hb hnull
  · rintro (_ | ⟨ha, hnull⟩)
    · rfl
    · unfold optional
      split
      · exact absurd rfl hnull
      · exact map_eq_ok.mpr ⟨_, ha, rfl⟩

end Checked

namespace Config

inductive Field where
  | pattern
  | outputDir
  | encoding
  | dialect
  | debug
deriving DecidableEq

namespace Field

def name : Field → String
  | pattern => "output_pattern"
  | outputDir => "output_dir"
  | encoding => "encoding"
  | dialect => "dialect"
  | debug => "debug"

def Value : Field → Type
  | pattern | encoding => String
  | outputDir => Option Path
  | dialect => Option TypeScript.Dialect
  | debug => List DebugOutput

def value (c : Config) : (f : Field) → f.Value
  | pattern => c.pattern
  | outputDir => c.outputDir
  | encoding => c.encoding
  | dialect => c.dialect
  | debug => c.debug

/-- What a value states for a field: a pattern is not blank, an encoding is known, a dialect may be
written in any case with blanks around it, and each debug output is named. -/
def States [Platform] : (f : Field) → Data → f.Value → Prop
  | pattern, d, s => d.Spells s ∧ Text.trim s.toList ≠ []
  | outputDir, d, p => Data.OrNull (fun d p => ∃ s, d = .text s ∧ p = Path.ofString s) d p
  | encoding, d, s => d.Spells s ∧ ∃ scheme, Encoding.lookUp s = .ok scheme
  | dialect, d, x => Data.OrNull (fun d x => ∃ s, d.Spells s ∧
      String.ofList (Text.lower (Text.trim s.toList)) = x.name) d x
  | debug, d, xs => ∃ items, d.Lists items ∧ List.Forall₂ (fun item x => item = .text x.name) items xs

def Accepts [Platform] (f : Field) (d : Data) : Prop := ∃ v, f.States d v

def check [Platform] : (f : Field) → Data → Checked f.Value
  | pattern => checkPattern
  | outputDir => Checked.optional checkPath
  | encoding => checkEncoding
  | dialect => Checked.optional checkDialect
  | debug => checkDebug

variable {platform : Platform}

theorem ofName?_eq_some {text : String} {x : TypeScript.Dialect} :
    TypeScript.Dialect.ofName? text = some x ↔ text = x.name := by
  constructor
  · intro h
    have hname := List.find?_some h
    exact (of_decide_eq_true hname).symm
  · rintro rfl
    cases x <;> rfl

/-- The check of a pattern accepts what states one. -/
theorem checkPattern_eq_ok {d : Data} {s : String} :
    checkPattern d = .ok s ↔ pattern.States d s := by
  unfold checkPattern
  constructor
  · intro h
    obtain ⟨t, ht, h⟩ := bind_eq_ok.mp h
    split at h
    · contradiction
    · rename_i hblank
      obtain rfl := Except.ok.inj h
      exact ⟨Checked.text_eq_ok.mp ht, hblank⟩
  · rintro ⟨hspells, hblank⟩
    exact bind_eq_ok.mpr ⟨s, Checked.text_eq_ok.mpr hspells, if_neg hblank⟩

theorem checkPath_eq_ok {d : Data} {p : Path} :
    checkPath d = .ok p ↔ ∃ s, d = .text s ∧ p = Path.ofString s := by
  unfold checkPath
  constructor
  · intro h
    split at h
    · exact ⟨_, rfl, (Except.ok.inj h).symm⟩
    · contradiction
  · rintro ⟨s, rfl, rfl⟩
    rfl

/-- The check of an encoding accepts the names that the registry knows. -/
theorem checkEncoding_eq_ok {d : Data} {s : String} :
    checkEncoding d = .ok s ↔ encoding.States d s := by
  unfold checkEncoding
  constructor
  · intro h
    obtain ⟨t, ht, h⟩ := bind_eq_ok.mp h
    split at h
    · rename_i scheme hscheme
      obtain rfl := Except.ok.inj h
      exact ⟨Checked.text_eq_ok.mp ht, scheme, hscheme⟩
    · contradiction
    · contradiction
  · rintro ⟨hspells, scheme, hscheme⟩
    refine bind_eq_ok.mpr ⟨s, Checked.text_eq_ok.mpr hspells, ?_⟩
    rw [hscheme]

/-- A dialect is named in any case, with blanks around it or without. -/
theorem checkDialect_eq_ok {d : Data} {x : TypeScript.Dialect} : checkDialect d = .ok x ↔
    ∃ s, d.Spells s ∧ String.ofList (Text.lower (Text.trim s.toList)) = x.name := by
  unfold checkDialect
  constructor
  · intro h
    obtain ⟨s, hs, h⟩ := bind_eq_ok.mp h
    split at h
    · rename_i y hname
      obtain rfl := Except.ok.inj h
      exact ⟨s, Checked.text_eq_ok.mp hs, ofName?_eq_some.mp hname⟩
    · contradiction
  · rintro ⟨s, hspells, hname⟩
    refine bind_eq_ok.mpr ⟨s, Checked.text_eq_ok.mpr hspells, ?_⟩
    rw [ofName?_eq_some.mpr hname]

theorem oneOf_eq_ok {d : Data} {x : DebugOutput} :
    Checked.oneOf (DebugOutput.all.map (·.name)) DebugOutput.ofName? d = .ok x ↔
      d = .text x.name := by
  unfold Checked.oneOf
  constructor
  · intro h
    split at h
    · rename_i s
      split at h
      · rename_i y hname
        obtain rfl := Except.ok.inj h
        have hdecide := List.find?_some (p := fun x : DebugOutput => decide (x.name = s)) hname
        rw [of_decide_eq_true hdecide]
        rfl
      · contradiction
    · contradiction
  · rintro rfl
    cases x
    rfl

/-- A value that is checked is taken for what it states. -/
theorem check_eq_ok (f : Field) {d : Data} {v : f.Value} : f.check d = .ok v ↔ f.States d v := by
  cases f with
  | pattern => exact checkPattern_eq_ok
  | outputDir =>
    simp only [check, States, ← checkPath_eq_ok]
    exact Checked.optional_eq_ok
  | encoding => exact checkEncoding_eq_ok
  | dialect =>
    simp only [check, States, ← checkDialect_eq_ok]
    exact Checked.optional_eq_ok
  | debug =>
    simp only [check, States, ← oneOf_eq_ok]
    exact Checked.list_eq_ok

end Field

/-! ### Entries -/

variable {platform : Platform} {entries m m' : List (Scalar × Data)} {c : Config}

def isField (key : Scalar) : Bool := fieldNames.any fun name => key = .text name

theorem isField_iff {key : Scalar} : isField key = true ↔ ∃ f : Field, key = .text f.name := by
  simp only [isField, fieldNames, List.any_cons, List.any_nil, Bool.or_eq_true, decide_eq_true_eq,
    Bool.false_eq_true, or_false]
  constructor
  · rintro (rfl | rfl | rfl | rfl | rfl)
    exacts [⟨.pattern, rfl⟩, ⟨.outputDir, rfl⟩, ⟨.encoding, rfl⟩, ⟨.dialect, rfl⟩, ⟨.debug, rfl⟩]
  · rintro ⟨f, rfl⟩
    cases f <;> simp [Field.name]

def others (entries : List (Scalar × Data)) : List (Scalar × Data) :=
  entries.filter fun e => !isField e.1

/-- No entry is left over exactly if each has the name of a field. -/
theorem others_eq_nil : others entries = [] ↔ ∀ e ∈ entries, ∃ f : Field, e.1 = .text f.name := by
  simp [others, List.filter_eq_nil_iff, isField_iff]

theorem unknownEntry_eq_nil {e : Scalar × Data} : unknownEntry e = [] ↔ isField e.1 = true := by
  obtain ⟨k, v⟩ := e
  cases k with
  | text name =>
    simp only [unknownEntry, isField, List.any_eq_true, decide_eq_true_eq, Scalar.text.injEq,
      List.contains_iff_mem]
    split
    · simp [*]
    · simp [*]
  | null | bool | int | float | bytes | date | moment => simp [unknownEntry, isField]

/-- Only entries that are no fields are unknown. -/
theorem flatMap_others : (others entries).flatMap unknownEntry = entries.flatMap unknownEntry := by
  induction entries with
  | nil => rfl
  | cons e rest ih =>
    unfold others at ih ⊢
    rw [List.filter_cons, List.flatMap_cons]
    by_cases h : isField e.1 = true
    · rw [if_neg (by simp [h]), ih, unknownEntry_eq_nil.mpr h, List.nil_append]
    · rw [if_pos (by simp [h]), List.flatMap_cons, ih]

theorem checkNoOthers_eq_ok : checkNoOthers entries = .ok () ↔ others entries = [] := by
  unfold checkNoOthers
  rw [← flatMap_others]
  constructor
  · intro h
    split at h
    · rename_i hnil
      rw [List.flatMap_eq_nil_iff] at hnil
      refine List.eq_nil_iff_forall_not_mem.mpr fun e he => ?_
      have hfield := unknownEntry_eq_nil.mp (hnil e he)
      have hother := (List.mem_filter.mp he).2
      rw [hfield] at hother
      contradiction
    · contradiction
  · intro h
    rw [h]
    rfl

/-- A configuration is what its fields are checked to be. -/
theorem ofEntries_eq_ok : ofEntries entries = .ok c ↔
    (∀ f : Field, Checked.field entries f.name (f.value {}) f.check = .ok (f.value c)) ∧
      others entries = [] := by
  rw [← checkNoOthers_eq_ok]
  unfold ofEntries
  constructor
  · intro h
    obtain ⟨⟨pattern, outputDir, encoding, dialect, debug, known⟩, hboth, h⟩ := bind_eq_ok.mp h
    obtain rfl := Except.ok.inj h
    simp only [Checked.both_eq_ok] at hboth
    obtain ⟨hpattern, hdir, hencoding, hdialect, hdebug, hknown⟩ := hboth
    refine ⟨fun f => ?_, hknown⟩
    cases f
    exacts [hpattern, hdir, hencoding, hdialect, hdebug]
  · rintro ⟨hfields, hknown⟩
    refine bind_eq_ok.mpr ⟨(c.pattern, c.outputDir, c.encoding, c.dialect, c.debug, ()), ?_, rfl⟩
    simp only [Checked.both_eq_ok]
    exact ⟨hfields .pattern, hfields .outputDir, hfields .encoding, hfields .dialect,
      hfields .debug, hknown⟩

end Config

end TypeGuards
