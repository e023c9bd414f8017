import TypeGuards.Proofs.Guard.LineEndings
import TypeGuards.Proofs.Script.Literal
import TypeGuards.Proofs.Specifier
/-!
The line by which a module imports its source. The specifier stands in it as it is, so that the line is
one line, and its string denotes the specifier, unless a step on the way to the source has a character in
it that ends lines, or a quote or a backslash.
-/
namespace TypeGuards

open TypeGuards.Path Script TypeScript

variable {is : List Interface} {workDir source : Path} {target : Option Path} {P : Char → Prop}
  {text s : String}

namespace Path

/-! ### Steps that are named -/

/-- The steps of a source that its specifier names: without a target its name, and with one the steps
below what leads to the directory of the target too. -/
def namedSteps (workDir source : Path) : Option Path → List String
  | none => [source.name]
  | some t => (dropCommon (resolve workDir t).parent.steps (resolve workDir source).steps).2

/-- The characters of a relative path are those of its steps, with slashes and dots. -/
theorem forall_mem_toString {p : Path} (hdot : P '.') (hslash : P '/') (hrelative : p.slashes = 0) :
    (∀ c ∈ p.toString.toList, P c) ↔ ∀ step ∈ p.steps, ∀ c ∈ step.toList, P c := by
  have hseparator : ∀ c ∈ "/".toList, P c := List.forall_mem_singleton.mpr hslash
  rw [toString_of_relative hrelative]
  split_ifs with hsteps
  · rw [hsteps]
    exact iff_of_true (List.forall_mem_singleton.mpr hdot) (List.forall_mem_nil _)
  · exact forall_mem_intercalate hseparator p.steps

/-- Of the characters of a specifier, only dots and slashes do not come from the steps it names. -/
theorem forall_mem_specifier (workDir source : Path) (target : Option Path) (hdot : P '.')
    (hslash : P '/') : (∀ c ∈ (specifier workDir source target).toList, P c) ↔
      ∀ step ∈ namedSteps workDir source target, ∀ c ∈ step.toList, P c := by
  have hhere : ∀ s : String, (∀ c ∈ ("./" ++ s).toList, P c) ↔ ∀ c ∈ s.toList, P c := by
    intro s
    rw [String.toList_append, List.forall_mem_append]
    exact and_iff_right (List.forall_mem_cons.mpr ⟨hdot, List.forall_mem_singleton.mpr hslash⟩)
  cases target with
  | none =>
    rw [namedSteps, List.forall_mem_singleton]
    exact hhere source.name
  | some t =>
    have hup : ∀ step ∈ (dropCommon (resolve workDir t).parent.steps
        (resolve workDir source).steps).1.map (fun _ => ".."), ∀ c ∈ step.toList, P c := by
      intro step hstep
      obtain ⟨-, -, rfl⟩ := List.mem_map.mp hstep
      exact List.forall_mem_cons.mpr ⟨hdot, List.forall_mem_singleton.mpr hdot⟩
    have hway : (∀ c ∈ (importWay workDir source t).toString.toList, P c) ↔
        ∀ step ∈ namedSteps workDir source (some t), ∀ c ∈ step.toList, P c := by
      rw [forall_mem_toString hdot hslash rfl, importWay, steps_way, List.forall_mem_append]
      exact and_iff_right hup
    rcases specifier_cases workDir source t with hdown | ⟨hsame, -⟩
    · rw [hdown, hhere, hway]
    · rw [hsame, hway]

end Path

/-! ### The line -/

def importHead (is : List Interface) : String :=
  "import type \x7b " ++ String.intercalate ", " (is.map (·.name)) ++ " \x7d from "

theorem toList_importHead : (importHead is).toList = "import type \x7b ".toList ++
    (String.intercalate ", " (is.map (·.name))).toList ++ " \x7d from ".toList := by
  have hhead : importHead is = "import type \x7b " ++ String.intercalate ", " (is.map (·.name)) ++
      " \x7d from " := rfl
  rw [hhead, String.toList_append, String.toList_append]

theorem toList_importLine_eq : (importLine is s).toList =
    (importHead is).toList ++ '"' :: (s.toList ++ ['"', ';']) := by
  have hline : importLine is s = "import type \x7b " ++
      String.intercalate ", " (is.map (·.name)) ++ " \x7d from \"" ++ s ++ "\";" := rfl
  have hfrom : " \x7d from \"".toList = " \x7d from ".toList ++ ['"'] := by decide
  have hend : "\";".toList = ['"', ';'] := by decide
  rw [hline, toList_importHead]
  simp only [String.toList_append, hfrom, hend, List.append_assoc, List.cons_append, List.nil_append]

/-- No identifier holds a line end. -/
theorem isOneLine_of_isIdentifier {name : String} (h : IsIdentifier name) : IsOneLine name := by
  intro c hc
  have hletter := List.all_eq_true.mp h.1 c hc
  rw [Bool.not_eq_true', isPunctuation] at hletter
  rw [Bool.eq_false_iff]
  intro hend
  have hcases : c = '\n' ∨ c = '\r' ∨ c = '\u2028' ∨ c = '\u2029' := by
    simpa [endsLine, or_assoc] using hend
  rcases hcases with rfl | rfl | rfl | rfl <;> exact absurd hletter (by decide)

/-- The line is broken by its specifier or not at all. -/
theorem isOneLine_importHead (hnames : ∀ i ∈ is, IsIdentifier i.name) :
    IsOneLine (importHead is) := by
  have hopen : IsOneLine "import type \x7b " := by decide
  have hbetween : IsOneLine ", " := by decide
  have hclose : IsOneLine " \x7d from " := by decide
  rw [IsOneLine, toList_importHead, List.forall_mem_append, List.forall_mem_append]
  refine ⟨⟨hopen, ?_⟩, hclose⟩
  rw [forall_mem_intercalate hbetween, List.forall_mem_map]
  exact fun i hi => isOneLine_of_isIdentifier (hnames i hi)

/-- A module with interfaces is its banner, an empty line, and the line of its import before the rest. -/
theorem toList_guardModule (hsome : is ≠ []) (h : guardModule is s = .ok text) :
    ∃ rest, text.toList = banner.toList ++ '\n' :: '\n' ::
      ((importHead is).toList ++ '"' :: (s.toList ++ '"' :: ';' :: '\n' :: rest)) := by
  obtain ⟨gs, hgs⟩ := guards_of_guardModule h
  obtain ⟨rest, hrest⟩ : ∃ rest, (String.intercalate "\n"
      ((importLine is s ++ "\n") :: gs.map Guard.render)).toList =
        (importLine is s).toList ++ '\n' :: rest := by
    cases gs.map Guard.render with
    | nil => exact ⟨[], by rw [String.intercalate_singleton, String.toList_append]; rfl⟩
    | cons first more =>
      refine ⟨'\n' :: (String.intercalate "\n" (first :: more)).toList, ?_⟩
      rw [String.intercalate_cons_cons]
      simp only [String.toList_append, List.append_assoc]
      rfl
  refine ⟨rest, ?_⟩
  rw [hgs.written, moduleText, if_neg (by simpa using hsome), String.intercalate_cons_cons,
    String.toList_append, String.toList_append, String.toList_append, hrest, toList_importLine_eq]
  simp only [List.append_assoc, List.cons_append, List.nil_append]
  rfl

/-- Of the lines of a module, the third is its import if and only if its specifier has no line end. -/
theorem lines_import {rest : List Char} (hnames : ∀ i ∈ is, IsIdentifier i.name) :
    (lines (banner.toList ++ '\n' :: '\n' ::
      ((importHead is).toList ++ '"' :: (s.toList ++ '"' :: ';' :: '\n' :: rest))))[2]? =
        some (importLine is s).toList ↔ IsOneLine s := by
  have hbanner : IsOneLine banner := by decide +kernel
  have hline : lines ((importHead is).toList ++ '"' :: (s.toList ++ '"' :: ';' :: '\n' :: rest)) =
      lines ((importLine is s).toList ++ '\n' :: rest) := by
    rw [toList_importLine_eq]
    simp only [List.append_assoc, List.cons_append, List.nil_append]
  have hends : IsOneLine (importLine is s) ↔ IsOneLine s := by
    have hend : ∀ c ∈ ['"', ';'], endsLine c = false :=
      List.forall_mem_cons.mpr ⟨rfl, List.forall_mem_singleton.mpr rfl⟩
    rw [IsOneLine, toList_importLine_eq, List.forall_mem_append, List.forall_mem_cons,
      List.forall_mem_append]
    exact ⟨fun h => h.2.2.1, fun h => ⟨isOneLine_importHead hnames, rfl, h, hend⟩⟩
  rw [lines_append hbanner, lines_newline, hline, ← hends]
  constructor
  · intro h
    exact endsLine_of_mem_lines (List.mem_of_getElem? (i := 0) h)
  · intro h
    rw [lines_append h]
    rfl

/-- The import of a module is one line of it, the third, if and only if no step that the specifier names
holds a line end. Its string ends at the last quote of that line and denotes the specifier if and only if
every such step is plain text. -/
theorem guardModule_imports (hsome : is ≠ []) (hnames : ∀ i ∈ is, IsIdentifier i.name)
    (h : guardModule is (specifier workDir source target) = .ok text) :
    ((lines text.toList)[2]? = some (importLine is (specifier workDir source target)).toList ↔
      ∀ step ∈ namedSteps workDir source target, IsOneLine step) ∧
    ∃ rest, text.toList = banner.toList ++ '\n' :: '\n' :: ((importHead is).toList ++ '"' ::
        ((specifier workDir source target).toList ++ '"' :: ';' :: '\n' :: rest)) ∧
      (literal ((specifier workDir source target).toList ++ '"' :: ';' :: '\n' :: rest) =
          some (units (specifier workDir source target), ';' :: '\n' :: rest) ↔
        ∀ step ∈ namedSteps workDir source target, IsPlainText step) := by
  obtain ⟨rest, htext⟩ := toList_guardModule hsome h
  refine ⟨?_, rest, htext, ?_⟩
  · rw [htext, lines_import hnames]
    exact forall_mem_specifier workDir source target rfl rfl
  · rw [units_eq, literal_eq_iff]
    exact forall_mem_specifier workDir source target (by decide) (by decide)

/-- Blanks, apostrophes and letters of any alphabet stand for themselves. -/
theorem guardModule_imports_spaced : ∃ text, guardModule [{ name := "User" }]
      (specifier (ofString "/w") (ofString "src/it's ä.ts") (some (ofString "gen/a.ts"))) = .ok text ∧
    (lines text.toList)[2]? =
      some (importLine [{ name := "User" }] "../src/it's ä.ts").toList ∧
    ∃ rest, text.toList = banner.toList ++ '\n' :: '\n' :: ((importHead [{ name := "User" }]).toList ++
        '"' :: ("../src/it's ä.ts".toList ++ '"' :: ';' :: '\n' :: rest)) ∧
      literal ("../src/it's ä.ts".toList ++ '"' :: ';' :: '\n' :: rest) =
        some (units "../src/it's ä.ts", ';' :: '\n' :: rest) := by
  have hspecifier : specifier (ofString "/w") (ofString "src/it's ä.ts") (some (ofString "gen/a.ts")) =
      "../src/it's ä.ts" := by decide +kernel
  obtain ⟨text, hmodule⟩ : ∃ text, guardModule [{ name := "User" }] (specifier (ofString "/w")
      (ofString "src/it's ä.ts") (some (ofString "gen/a.ts"))) = .ok text := ⟨_, rfl⟩
  obtain ⟨hline, rest, htext, hliteral⟩ := guardModule_imports (by decide) (by decide) hmodule
  have hends := hline.mpr (by decide +kernel)
  have hdenotes := hliteral.mpr (by decide +kernel)
  rw [hspecifier] at hends htext hdenotes
  exact ⟨text, hmodule, hends, rest, htext, hdenotes⟩

/-- A quote in a name ends the string, and a letter behind a backslash may stand for something else. -/
theorem guardModule_imports_quoted :
    (∃ text rest, guardModule [{ name := "A" }] (specifier .root (ofString "a\"b.ts") none) = .ok text ∧
      text.toList = banner.toList ++ '\n' :: '\n' ::
        ((importHead [{ name := "A" }]).toList ++ '"' :: ("./a\"b.ts\"".toList ++ ';' :: '\n' :: rest)) ∧
      literal ("./a\"b.ts\"".toList ++ ';' :: '\n' :: rest) =
        some (units "./a", "b.ts\"".toList ++ ';' :: '\n' :: rest)) ∧
    ∃ text rest, guardModule [{ name := "A" }] (specifier .root (ofString "a\\tb.ts") none) = .ok text ∧
      text.toList = banner.toList ++ '\n' :: '\n' ::
        ((importHead [{ name := "A" }]).toList ++ '"' :: ("./a\\tb.ts\"".toList ++ ';' :: '\n' :: rest)) ∧
      literal ("./a\\tb.ts\"".toList ++ ';' :: '\n' :: rest) =
        some (units "./a\tb.ts", ';' :: '\n' :: rest) := by
  constructor
  · obtain ⟨text, hmodule⟩ : ∃ text, guardModule [{ name := "A" }]
      (specifier .root (ofString "a\"b.ts") none) = .ok text := ⟨_, rfl⟩
    obtain ⟨rest, htext⟩ := toList_guardModule (by decide) hmodule
    have hplain : IsPlainText "./a" := by decide
    exact ⟨text, rest, hmodule, htext, (literal_eq_iff "./a".toList _).mpr hplain⟩
  · obtain ⟨text, hmodule⟩ : ∃ text, guardModule [{ name := "A" }]
      (specifier .root (ofString "a\\tb.ts") none) = .ok text := ⟨_, rfl⟩
    obtain ⟨rest, htext⟩ := toList_guardModule (by decide) hmodule
    refine ⟨text, rest, hmodule, htext, ?_⟩
    have hplain : IsPlainText "b.ts" := by decide
    have hend := (literal_eq_iff "b.ts".toList (';' :: '\n' :: rest)).mpr hplain
    have hescape : escape ("tb.ts".toList ++ '"' :: ';' :: '\n' :: rest) =
        some ([9], "b.ts".toList ++ '"' :: ';' :: '\n' :: rest) := rfl
    change literal ('.' :: '/' :: 'a' :: '\\' :: ("tb.ts".toList ++ '"' :: ';' :: '\n' :: rest)) = _
    rw [literal_plain (by decide), literal_plain (by decide), literal_plain (by decide),
      literal_escape hescape, hend]
    rfl

end TypeGuards
