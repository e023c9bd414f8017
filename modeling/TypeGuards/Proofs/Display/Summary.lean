import TypeGuards.Display.Summary
import TypeGuards.Proofs.Display.Markup
/-!
The summary of a run: when it can be made, and what it shows. The paths in the table are read as texts
with styles, unlike the values in the panels below it.
-/
namespace TypeGuards.Display

variable {width : Nat} {rules : Markup.Rules} {outcomes : List Outcome} {o : Outcome}

namespace Markup

/-- A text without brackets and colons has nothing in it that could stand for anything else. -/
theorem isLiteral_of_not_mem {text : List Char} (hopen : '[' ∉ text) (hbetween : ':' ∉ text) :
    IsLiteral rules text := by
  refine ⟨?_, ?_, ?_⟩
  · rintro ⟨rest, body, hrest, hbody⟩
    have hbracket : '[' ∈ rest := by
      rw [tagBody?_eq_some hbody]
      simp
    exact hopen (hrest.subset hbracket)
  · intro hescape
    exact hopen (hescape.subset (by simp))
  · intro name hname
    have hcolon : ':' ∈ (items text).flatMap Item.chars :=
      List.mem_flatMap.mpr ⟨_, hname, by simp [Item.chars]⟩
    rw [flatMap_items] at hcolon
    exact absurd hcolon hbetween

/-- Numbers are shown as they are under all rules. -/
theorem shown_number (n : Nat) : shown (toString n).toList rules = .ok (toString n).toList := by
  have hdigit : ∀ c ∈ (toString n).toList, c.isDigit = true := by
    intro c hc
    rw [Nat.toString_eq_repr, Nat.toList_repr] at hc
    exact Nat.isDigit_of_mem_toDigits (by decide) (by decide) hc
  have hliteral : IsLiteral rules (toString n).toList := by
    refine isLiteral_of_not_mem (fun hc => ?_) fun hc => ?_
    · exact absurd (hdigit _ hc) (by decide)
    · exact absurd (hdigit _ hc) (by decide)
  have hshown : dropControls (toString n).toList = (toString n).toList := by
    refine List.filter_eq_self.mpr fun c hc => ?_
    have hrange := hdigit c hc
    simp [Char.isDigit, UInt32.le_iff_toNat_le] at hrange
    simp only [isDropped, Char.toNat]
    simp
    omega
  rw [shown_eq_self_iff.mpr hliteral, hshown]

/-- A tag without a value is never at fault, whatever its name. -/
theorem fault?_bare (name : String) : rules.fault? ⟨name, []⟩ = none := by simp [Rules.fault?]

theorem span_eq_self {name : List Char} (h : '=' ∉ name) :
    name.span (fun a => decide (a ≠ '=')) = (name, []) := by
  have hall : ∀ a ∈ name, decide (a ≠ '=') = true := by
    intro a ha
    exact decide_eq_true (ne_of_mem_of_not_mem ha h)
  rw [List.span_eq_takeWhile_dropWhile, List.takeWhile_eq_self_iff.mpr hall,
    List.dropWhile_eq_nil_iff.mpr hall]

/-- A style that is ended by its name shows what is in it, whatever it is known as. -/
theorem shownPieces_styled {c : Char} {name text : List Char} (position : Nat)
    (hname : '=' ∉ c :: name) (hstart : c ≠ '/') (htrim : Text.trim (c :: name) = c :: name)
    (hshown : dropControls text = text) (hliteral : IsLiteral rules text) :
    shownPieces rules [] [.tag 0 (c :: name), .text text, .tag position ('/' :: c :: name)] =
      .ok text := by
  have hend : '=' ∉ '/' :: c :: name := by
    rw [List.mem_cons, not_or]
    exact ⟨by decide, hname⟩
  have htext : dropControls (rules.withPictures (unescaped text)) = text := by
    rw [unescaped_eq_self hliteral.no_escape, withPictures_eq_iff.mpr hliteral.no_picture, hshown]
  simp only [shownPieces, span_eq_self hname, span_eq_self hend, htrim, htext, close, List.drop_nil]
  split
  · rename_i heq
    exact absurd (List.cons.inj heq).1 hstart
  · simp [fault?_bare, bind, Except.bind, pure, Except.pure]

end Markup

namespace Summary

def outputText (o : Outcome) : String := (o.output.map Path.toString).getD "-"

def rowWith (o : Outcome) (source output : List Char) : List (List Char) :=
  [source, (if o.success then "ok" else "failed").toList, (toString o.interfaces.length).toList, output]

/-- What is read of an outcome for its row. -/
inductive Reads (rules : Markup.Rules) (o : Outcome) : List (List Char) → Prop
  | row {source output : List Char} : Markup.shown o.source.toString.toList rules = .ok source →
      Markup.shown (outputText o).toList rules = .ok output → Reads rules o (rowWith o source output)

/-- The states of outcomes are shown as they are meant, whatever their styles are known as. -/
theorem shown_status : Markup.shown
    (if o.success then "[green]ok[/green]" else "[red]failed[/red]").toList rules =
      .ok (if o.success then "ok" else "failed").toList := by
  split
  · exact Markup.shownPieces_styled 9 (by decide) (by decide) (by decide) (by decide)
      (Markup.isLiteral_of_not_mem (by decide) (by decide))
  · exact Markup.shownPieces_styled 11 (by decide) (by decide) (by decide) (by decide)
      (Markup.isLiteral_of_not_mem (by decide) (by decide))

/-- The cells of a row are read if and only if the paths among them are. -/
theorem mapM_cells_eq_ok {row : List (List Char)} :
    (cells o).mapM (fun cell => Markup.shown cell.toList rules) = .ok row ↔ Reads rules o row := by
  rw [mapM_eq_ok, cells]
  constructor
  · intro h
    obtain _ | ⟨hsource, _ | ⟨hstatus, _ | ⟨hcount, _ | ⟨houtput, ⟨⟩⟩⟩⟩⟩ := h
    obtain rfl := Except.ok.inj (shown_status.symm.trans hstatus)
    obtain rfl := Except.ok.inj ((Markup.shown_number _).symm.trans hcount)
    exact .row hsource houtput
  · rintro ⟨hsource, houtput⟩
    exact .cons hsource (.cons shown_status (.cons (Markup.shown_number _) (.cons houtput .nil)))

/-- Rows of columns that are computed one after another. -/
theorem mapM_columns {ε α : Type} {f : Nat → α → Except ε (List Char)} {as : List α} {count : Nat}
    {columns : List (List (List Char))}
    (h : (List.range count).mapM (fun n => as.mapM (f n)) = .ok columns) :
    List.Forall₂ (fun a row => (List.range count).mapM (fun n => f n a) = .ok row) as
      (rowsOf as.length columns) := by
  rw [mapM_eq_ok] at h
  rw [List.forall₂_iff_get]
  refine ⟨by simp [rowsOf], fun i hi hrow => ?_⟩
  have hrow : (rowsOf as.length columns).get ⟨i, hrow⟩ = columns.map (·.getD i []) := by
    simp [rowsOf]
  rw [hrow, mapM_eq_ok, List.forall₂_map_right_iff]
  refine h.imp fun n column hcolumn => ?_
  rw [mapM_eq_ok] at hcolumn
  have hcell := hcolumn.get hi (hcolumn.length_eq ▸ hi)
  simpa [List.getD_eq_getElem?_getD, List.getElem?_eq_getElem (hcolumn.length_eq ▸ hi)] using hcell

theorem cells_eq (o : Outcome) :
    (List.range layout.length).map (fun n => (cells o).getD n "") = cells o := rfl

/-- The columns are read if and only if all rows are, and then they hold the rows. -/
theorem table_eq_ok {ls : List String} : table width rules outcomes = .ok ls ↔
    ∃ rows, List.Forall₂ (Reads rules) outcomes rows ∧ ls = lines width rows := by
  have hcells : ∀ (o : Outcome) (row : List (List Char)), Reads rules o row ↔
      (List.range layout.length).mapM
        (fun n => Markup.shown ((cells o).getD n "").toList rules) = .ok row := by
    intro o row
    rw [← mapM_cells_eq_ok, ← cells_eq o, List.mapM_map]
    rfl
  have hcolumns : columns rules outcomes = (List.range layout.length).mapM fun n =>
      outcomes.mapM fun o => Markup.shown ((cells o).getD n "").toList rules := by
    simp only [columns, List.mapM_map]
    rfl
  have hrows : ∀ columns, Summary.columns rules outcomes = .ok columns →
      List.Forall₂ (Reads rules) outcomes (rowsOf outcomes.length columns) := by
    intro columns h
    rw [hcolumns] at h
    exact (mapM_columns h).imp fun o row hrow => (hcells o row).mpr hrow
  unfold table
  constructor
  · intro h
    obtain ⟨columns, hread, hlines⟩ := bind_eq_ok.mp h
    exact ⟨_, hrows columns hread, (Except.ok.inj hlines).symm⟩
  · rintro ⟨rows, hall, hlines⟩
    have hread : ∃ columns, Summary.columns rules outcomes = .ok columns := by
      rw [hcolumns]
      refine exists_mapM_eq_ok fun n hn => exists_mapM_eq_ok fun o ho => ?_
      obtain ⟨row, hrow⟩ := exists_forall₂.mp ⟨rows, hall⟩ o ho
      exact exists_of_mapM_eq_ok ((hcells o row).mp hrow) hn
    obtain ⟨columns, hread⟩ := hread
    have hmapM : ∀ rows, List.Forall₂ (Reads rules) outcomes rows → outcomes.mapM (fun o =>
        (cells o).mapM fun cell => Markup.shown cell.toList rules) = .ok rows := by
      intro rows hall
      exact mapM_eq_ok.mpr (hall.imp fun o row h => mapM_cells_eq_ok.mpr h)
    have hsame : rows = rowsOf outcomes.length columns :=
      Except.ok.inj ((hmapM rows hall).symm.trans (hmapM _ (hrows columns hread)))
    rw [hlines, hsame]
    exact bind_eq_ok.mpr ⟨columns, hread, rfl⟩

/-- A summary cannot be made only because of a path. -/
theorem table_eq_error {e : MarkupError} (h : table width rules outcomes = .error e) : ∃ o ∈ outcomes,
    Markup.shown o.source.toString.toList rules = .error e ∨
      Markup.shown (outputText o).toList rules = .error e := by
  rcases bind_eq_error.mp h with h | ⟨read, -, h⟩
  · obtain ⟨n, hn, h⟩ := exists_of_mapM_eq_error h
    obtain ⟨cell, hcell, h⟩ := exists_of_mapM_eq_error h
    obtain ⟨o, ho, rfl⟩ := List.mem_map.mp hcell
    refine ⟨o, ho, ?_⟩
    have hplace : n = 0 ∨ n = 1 ∨ n = 2 ∨ n = 3 := by
      have hlt : n < 4 := List.mem_range.mp hn
      omega
    rcases hplace with rfl | rfl | rfl | rfl
    · exact Or.inl h
    · exact absurd (shown_status.symm.trans h) nofun
    · exact absurd ((Markup.shown_number _).symm.trans h) nofun
    · exact Or.inr h
  · contradiction

/-- The row of an outcome with its paths as they stand, but for control characters. -/
def literalRow (o : Outcome) : List (List Char) :=
  rowWith o (dropControls o.source.toString.toList) (dropControls (outputText o).toList)

/-- A row can be read as the paths of an outcome exactly if markup leaves both as they are. -/
theorem reads_literalRow : Reads rules o (literalRow o) ↔
    Markup.IsLiteral rules o.source.toString.toList ∧ Markup.IsLiteral rules (outputText o).toList := by
  rw [← Markup.shown_eq_self_iff, ← Markup.shown_eq_self_iff]
  constructor
  · intro h
    generalize hrow : literalRow o = row at h
    obtain ⟨hsource, houtput⟩ := h
    simp only [literalRow, rowWith, List.cons.injEq, true_and, and_true] at hrow
    rw [hrow.1, hrow.2]
    exact ⟨hsource, houtput⟩
  · rintro ⟨hsource, houtput⟩
    exact .row hsource houtput

end Summary

open Summary

/-- A summary is made if and only if the paths in it can be read as texts with styles, and only they
stand in its way. It has a row for each outcome, with what is read of its paths, and then a panel for
each failure. The rows show the paths as they stand if and only if all of them are literal. -/
theorem summary_shows (width : Nat) (rules : Markup.Rules) (outcomes : List Outcome) :
    (∀ ls, summary width outcomes rules = .ok ls ↔ ∃ rows, List.Forall₂ (Reads rules) outcomes rows ∧
      ls = (head (widths width rows) ++ rows.flatMap (row '│' '│' '│' (widths width rows)) ++
          [edge '└' '─' '┴' '┘' (widths width rows)]).map String.ofList ++
        outcomes.flatMap (failurePanel width)) ∧
    ((∃ ls, summary width outcomes rules = .ok ls) ↔ ∀ o ∈ outcomes, ∃ row, Reads rules o row) ∧
    (∀ e, summary width outcomes rules = .error e → ∃ o ∈ outcomes,
      Markup.shown o.source.toString.toList rules = .error e ∨
        Markup.shown (outputText o).toList rules = .error e) ∧
    (List.Forall₂ (Reads rules) outcomes (outcomes.map literalRow) ↔
      ∀ o ∈ outcomes, Markup.IsLiteral rules o.source.toString.toList ∧
        Markup.IsLiteral rules (outputText o).toList) := by
  have hsummary : ∀ ls, summary width outcomes rules = .ok ls ↔
      ∃ rows, List.Forall₂ (Reads rules) outcomes rows ∧
        ls = lines width rows ++ outcomes.flatMap (failurePanel width) := by
    intro ls
    unfold summary
    constructor
    · intro h
      obtain ⟨made, htable, hls⟩ := bind_eq_ok.mp h
      obtain ⟨rows, hrows, hlines⟩ := table_eq_ok.mp htable
      rw [hlines] at hls
      exact ⟨rows, hrows, (Except.ok.inj hls).symm⟩
    · rintro ⟨rows, hrows, hls⟩
      rw [hls]
      exact bind_eq_ok.mpr ⟨lines width rows, table_eq_ok.mpr ⟨rows, hrows, rfl⟩, rfl⟩
  refine ⟨hsummary, ?_, ?_, ?_⟩
  · rw [← exists_forall₂]
    constructor
    · rintro ⟨ls, h⟩
      obtain ⟨rows, hrows, -⟩ := (hsummary ls).mp h
      exact ⟨rows, hrows⟩
    · rintro ⟨rows, hrows⟩
      exact ⟨_, (hsummary _).mpr ⟨rows, hrows, rfl⟩⟩
  · intro e h
    rcases bind_eq_error.mp h with h | ⟨made, -, h⟩
    · exact table_eq_error h
    · contradiction
  · rw [List.forall₂_map_right_iff, List.forall₂_same]
    exact forall₂_congr fun o _ => reads_literalRow

def smiling : Markup.Rules where
  picture? name := if name = "smile".toList then some ['😄'] else none
  picture_shown name picture h := by
    split_ifs at h with hname
    obtain rfl := Option.some.inj h
    rw [hname]
    decide

/-- Its paths have a bracket that starts no tag, and a name between colons that is no picture's. -/
def upright : Outcome :=
  { source := .ofString "[Id].ts", output := some (.ofString ":smiley:-guard.ts") }

theorem summary_shows_upright : (∀ o ∈ [upright], ∃ row, Reads smiling o row) ∧
    (∃ ls, summary 120 [upright] smiling = .ok ls) ∧
    Markup.IsLiteral smiling "[Id].ts".toList ∧
    ¬ Markup.IsLiteral smiling ":smile:-guard.ts".toList := by
  have hreads : Reads smiling upright (literalRow upright) :=
    .row (by decide +kernel) (by decide +kernel)
  have hall : ∀ o ∈ [upright], ∃ row, Reads smiling o row := by
    intro o ho
    rw [List.mem_singleton.mp ho]
    exact ⟨_, hreads⟩
  obtain ⟨-, hmade, -, hliteral⟩ := summary_shows 120 smiling [upright]
  refine ⟨hall, hmade.mpr hall, (hliteral.mp (.cons hreads .nil) upright List.mem_cons_self).1, ?_⟩
  rw [← Markup.shown_eq_self_iff]
  decide +kernel

/-- The path ends a style that was not started. -/
def closing : Outcome := { source := .ofString "[/x]a.ts", interfaces := ["A"] }

/-- A step of the path is taken for a style. -/
def bracketed : Outcome := { source := .ofString "app/[id]/page.ts" }

theorem summary_closing : summary 120 [closing] = .error (.notOpen "[/x]" 0) ∧
    Reads .plain bracketed (rowWith bracketed "app//page.ts".toList "-".toList) := by
  refine ⟨by decide +kernel, .row ?_ ?_⟩
  · decide +kernel
  · decide +kernel

end TypeGuards.Display
