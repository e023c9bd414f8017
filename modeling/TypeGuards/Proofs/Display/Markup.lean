import Mathlib.Algebra.Order.BigOperators.Group.List
import Mathlib.Algebra.Order.Group.Nat
import Mathlib.Data.List.TakeDrop
import Mathlib.Data.List.TakeWhile
import TypeGuards.Display.Markup
import TypeGuards.Proofs.Parts
import TypeGuards.Proofs.Sequence
/-!
Which texts are shown as they stand where styles are allowed. Whatever a tag, a backslash before a
bracket or a picture takes the place of is lost, so that a text is shown as it stands if and only if it
holds none of them.
-/
namespace TypeGuards.Display

variable {a b text : List Char}

/-- Control characters are dropped one by one. -/
theorem dropControls_append : dropControls (a ++ b) = dropControls a ++ dropControls b :=
  List.filter_append a b

theorem length_dropControls_append :
    (dropControls (a ++ b)).length = (dropControls a).length + (dropControls b).length := by
  rw [dropControls_append, List.length_append]

/-- A character that is shown counts. -/
theorem length_dropControls_cons {c : Char} (hc : isDropped c = false) :
    (dropControls (c :: text)).length = (dropControls text).length + 1 := by
  unfold dropControls
  rw [List.filter_cons, if_pos (by simp [hc]), List.length_cons]

theorem dropControls_flatMap {α : Type} {f : α → List Char} {as : List α} :
    dropControls (as.flatMap f) = as.flatMap fun a => dropControls (f a) :=
  List.filter_flatMap

/-- Texts that are put together alike, from parts of which none is longer, have the same parts. -/
theorem eq_of_flatMap_eq {α : Type} {f g : α → List Char} {as : List α}
    (hle : ∀ a ∈ as, (f a).length ≤ (g a).length) (heq : as.flatMap f = as.flatMap g) :
    ∀ a ∈ as, f a = g a := by
  induction as with
  | nil => exact fun a ha => absurd ha List.not_mem_nil
  | cons a as ih =>
    obtain ⟨ha, has⟩ := List.forall_mem_cons.mp hle
    have hrest : (as.flatMap f).length ≤ (as.flatMap g).length := by
      rw [List.length_flatMap, List.length_flatMap]
      exact List.sum_le_sum has
    rw [List.flatMap_cons, List.flatMap_cons] at heq
    have hlength := congrArg List.length heq
    rw [List.length_append, List.length_append] at hlength
    obtain ⟨hfirst, htail⟩ := List.append_inj heq (by omega)
    exact List.forall_mem_cons.mpr ⟨hfirst, ih has htail⟩

namespace Markup

variable {name body : List Char} {rest : List Char} {c : Char} {rules : Rules}

/-! ### Pictures -/

theorem codeName?_eq_some (h : codeName? text = some name) :
    text = (Item.code name).chars ++ text.drop (name.length + 2) := by
  unfold codeName? at h
  split at h
  · rename_i rest
    rw [List.span_eq_takeWhile_dropWhile] at h
    simp only at h
    split_ifs at h with hafter
    obtain rfl := Option.some.inj h
    obtain ⟨tail, htail⟩ := List.head?_eq_some_iff.mp hafter
    have hrest := List.takeWhile_append_dropWhile (l := rest)
      (p := fun c => decide (c ≠ ':') && !Text.isTrimmed c)
    rw [htail] at hrest
    generalize rest.takeWhile _ = name at hrest
    subst hrest
    simp [Item.chars]
  · contradiction

/-- The items of a text make up the text. -/
theorem flatMap_items (text : List Char) : (items text).flatMap Item.chars = text := by
  fun_induction items text with
  | case1 => rfl
  | case2 c rest name hname ih =>
    rw [List.flatMap_cons, ih]
    exact (codeName?_eq_some hname).symm
  | case3 c rest hname ih =>
    rw [List.flatMap_cons, ih]
    rfl

/-- A part of a text is shown as it is, unless it is a code for which there is a picture. -/
theorem shownItem_eq_iff (item : Item) : dropControls (rules.shownItem item) = dropControls item.chars ↔
    ∀ name, item = .code name → rules.picture? name = none := by
  cases item with
  | char c => simp [Rules.shownItem, Item.chars]
  | code name =>
    cases hpicture : rules.picture? name with
    | none => simp [Rules.shownItem, hpicture]
    | some picture =>
      simp [Rules.shownItem, hpicture, (rules.picture_shown name picture hpicture).2]

theorem length_shownItem_le (item : Item) :
    (dropControls (rules.shownItem item)).length ≤ (dropControls item.chars).length := by
  cases item with
  | char c => exact Nat.le_refl _
  | code name =>
    cases hpicture : rules.picture? name with
    | none => simp [Rules.shownItem, hpicture]
    | some picture =>
      simpa [Rules.shownItem, hpicture] using (rules.picture_shown name picture hpicture).1

/-- A picture is never longer than its code. -/
theorem length_withPictures_le (rules : Rules) (text : List Char) :
    (dropControls (rules.withPictures text)).length ≤ (dropControls text).length := by
  conv_rhs => rw [← flatMap_items text]
  unfold Rules.withPictures
  rw [dropControls_flatMap, dropControls_flatMap, List.length_flatMap, List.length_flatMap]
  exact List.sum_le_sum fun item _ => length_shownItem_le item

/-- A text is shown without pictures if no code in it stands for one. -/
theorem withPictures_eq_iff : dropControls (rules.withPictures text) = dropControls text ↔
    ∀ name, .code name ∈ items text → rules.picture? name = none := by
  have htext : dropControls text = (items text).flatMap fun item => dropControls item.chars := by
    rw [← dropControls_flatMap, flatMap_items]
  unfold Rules.withPictures
  rw [dropControls_flatMap, htext]
  constructor
  · intro h name hname
    exact (shownItem_eq_iff _).mp (eq_of_flatMap_eq (fun item _ => length_shownItem_le item) h _ hname)
      name rfl
  · intro h
    refine List.flatMap_congr fun item hitem => (shownItem_eq_iff item).mpr ?_
    rintro name rfl
    exact h name hitem

/-! ### Brackets that stand for themselves -/

/-- A bracket in a text stands for itself. -/
def HasEscape (text : List Char) : Prop := ['\\', '['] <:+: text

theorem escape_ne_nil : ['\\', '['] ≠ [] := by decide

theorem unescaped_eq_self (h : ¬ HasEscape text) : unescaped text = text :=
  Text.replaceAll_of_not_infix h

/-- A backslash before a bracket is dropped. -/
theorem unescaped_escape (rest : List Char) :
    unescaped (['\\', '['] ++ rest) = '[' :: unescaped rest :=
  Text.replaceAll_append escape_ne_nil rest

theorem unescaped_cons (h : ¬['\\', '['] <+: c :: rest) :
    unescaped (c :: rest) = c :: unescaped rest :=
  Text.replaceAll_cons_of_not_begins h

/-- What stands before a bracket that stands for itself is lost. -/
theorem length_unescaped_escape (rest : List Char) :
    (dropControls (unescaped (['\\', '['] ++ rest))).length =
      (dropControls (unescaped rest)).length + 1 ∧
    (dropControls (['\\', '['] ++ rest)).length = (dropControls rest).length + 2 := by
  rw [unescaped_escape, length_dropControls_cons (by decide)]
  exact ⟨rfl, by rw [length_dropControls_append, Nat.add_comm]; rfl⟩

theorem length_dropControls_single (c : Char) (rest : List Char) : (dropControls (c :: rest)).length =
    (dropControls [c]).length + (dropControls rest).length :=
  length_dropControls_append (a := [c])

/-- Dropping backslashes adds nothing. -/
theorem length_unescaped_le (text : List Char) :
    (dropControls (unescaped text)).length ≤ (dropControls text).length := by
  induction text using Text.reading_induction escape_ne_nil with
  | nil => simp [unescaped, Text.replaceAll]
  | whole rest ih =>
    obtain ⟨hafter, hbefore⟩ := length_unescaped_escape rest
    omega
  | single c rest hnot ih =>
    rw [unescaped_cons hnot, length_dropControls_single, length_dropControls_single c rest]
    omega

/-- A bracket that stands for itself loses what is before it. -/
theorem length_unescaped_lt (h : HasEscape text) :
    (dropControls (unescaped text)).length < (dropControls text).length := by
  induction text using Text.reading_induction escape_ne_nil with
  | nil => exact absurd h (by simp [HasEscape])
  | whole rest _ =>
    have hrest := length_unescaped_le rest
    obtain ⟨hafter, hbefore⟩ := length_unescaped_escape rest
    omega
  | single c rest hnot ih =>
    have hrest := ih ((List.infix_cons_iff.mp h).resolve_left hnot)
    rw [unescaped_cons hnot, length_dropControls_single, length_dropControls_single c rest]
    omega

/-! ### Tags -/

def HasTag (text : List Char) : Prop := ∃ rest body, rest <:+ text ∧ tagBody? rest = some body

/-- A tag is its body between brackets. -/
theorem tagBody?_eq_some (h : tagBody? text = some body) :
    text = ['['] ++ body ++ [']'] ++ text.drop (body.length + 2) := by
  unfold tagBody? at h
  split at h
  · rename_i c rest
    rw [List.span_eq_takeWhile_dropWhile] at h
    simp only [Bool.and_eq_true, decide_eq_true_eq] at h
    split_ifs at h with hafter
    obtain rfl := Option.some.inj h
    obtain ⟨tail, htail⟩ := List.head?_eq_some_iff.mp hafter.2
    have hrest := List.takeWhile_append_dropWhile (l := rest)
      (p := fun a => decide (a ≠ ']') && decide (a ≠ '['))
    rw [htail] at hrest
    generalize rest.takeWhile _ = inner at hrest
    subst hrest
    simp
  · contradiction

theorem hasTag_cons : HasTag (c :: rest) ↔ tagBody? (c :: rest) ≠ none ∨ HasTag rest := by
  unfold HasTag
  rw [Option.ne_none_iff_exists']
  constructor
  · rintro ⟨part, body, hpart, hbody⟩
    rcases List.suffix_cons_iff.mp hpart with rfl | hpart
    · exact Or.inl ⟨body, hbody⟩
    · exact Or.inr ⟨part, body, hpart, hbody⟩
  · rintro (⟨body, hbody⟩ | ⟨part, body, hpart, hbody⟩)
    · exact ⟨_, body, List.suffix_refl _, hbody⟩
    · exact ⟨part, body, hpart.trans (List.suffix_cons c rest), hbody⟩

theorem not_hasTag_nil : ¬ HasTag [] := by
  rintro ⟨part, body, hpart, hbody⟩
  rw [List.suffix_nil.mp hpart] at hbody
  contradiction

/-- No tag starts with a backslash. -/
theorem hasTag_slashes (n : Nat) : HasTag (List.replicate n '\\' ++ rest) ↔ HasTag rest := by
  induction n with
  | zero => rfl
  | succ n ih =>
    rw [List.replicate_succ, List.cons_append, hasTag_cons, ih]
    simp [tagBody?]

/-! ### Pieces -/

/-- How many characters of a piece may be shown. -/
def Piece.weight : Piece → Nat
  | .text chars => (dropControls chars).length
  | .tag _ _ => 0

def weight : List Piece → Nat
  | [] => 0
  | p :: ps => p.weight + weight ps

theorem weight_cons (p : Piece) (ps : List Piece) : weight (p :: ps) = p.weight + weight ps := rfl

theorem weight_append (ps qs : List Piece) : weight (ps ++ qs) = weight ps + weight qs := by
  induction ps with
  | nil => exact (Nat.zero_add _).symm
  | cons p ps ih => rw [List.cons_append, weight_cons, weight_cons, ih, Nat.add_assoc]

theorem weight_plain (text : List Char) : weight (plain text) = (dropControls text).length := by
  unfold plain
  split_ifs with h
  · rw [h]
    rfl
  · simp [weight, Piece.weight]

theorem length_dropControls_slashes (n : Nat) :
    (dropControls (List.replicate n '\\')).length = n := by
  induction n with
  | zero => rfl
  | succ n ih => rw [List.replicate_succ, length_dropControls_cons (by decide), ih]

/-- A text begins with some backslashes. -/
theorem exists_slashes (text : List Char) : ∃ n rest,
    text.span (fun c => decide (c = '\\')) = (List.replicate n '\\', rest) ∧
      text = List.replicate n '\\' ++ rest ∧ rest.length ≤ text.length := by
  refine ⟨(text.takeWhile fun c => decide (c = '\\')).length,
    text.dropWhile fun c => decide (c = '\\'), ?_⟩
  have hslashes : text.takeWhile (fun c => decide (c = '\\')) =
      List.replicate (text.takeWhile fun c => decide (c = '\\')).length '\\' := by
    rw [List.eq_replicate_iff]
    exact ⟨rfl, fun c hc => by simpa using List.mem_takeWhile_imp hc⟩
  rw [List.span_eq_takeWhile_dropWhile, ← hslashes]
  exact ⟨rfl, List.takeWhile_append_dropWhile.symm, List.length_dropWhile_le _ _⟩

section

variable {fuel position n : Nat} {before : List Char}

/-- A tag comes out as text if an odd number of backslashes stand before it. -/
theorem pieces_tag (hspan : text.span (fun c => decide (c = '\\')) = (List.replicate n '\\', rest))
    (htag : tagBody? rest = some body) : pieces (fuel + 1) position before text =
      plain before.reverse ++ plain (List.replicate (n / 2) '\\') ++
        [if n % 2 = 1 then .text (['['] ++ body ++ [']']) else .tag (position + n) body] ++
        pieces fuel (position + n + body.length + 2) [] (rest.drop (body.length + 2)) := by
  simp only [pieces, hspan, htag, List.length_replicate]

theorem pieces_end (hspan : text.span (fun c => decide (c = '\\')) = (List.replicate n '\\', [])) :
    pieces (fuel + 1) position before text = plain (before.reverse ++ List.replicate n '\\') := by
  simp only [pieces, hspan]
  rfl

/-- Where no tag starts, one character goes on. -/
theorem pieces_step
    (hspan : text.span (fun c => decide (c = '\\')) = (List.replicate n '\\', c :: rest))
    (htag : tagBody? (c :: rest) = none) : pieces (fuel + 1) position before text =
      pieces fuel (position + n + 1) (c :: (List.replicate n '\\' ++ before)) rest := by
  simp only [pieces, hspan, htag, List.length_replicate]

/-- What is before a text in which no tag starts, with some of the text put to it. -/
theorem reverse_step : (c :: (List.replicate n '\\' ++ before)).reverse ++ rest =
    before.reverse ++ (List.replicate n '\\' ++ c :: rest) := by
  simp

theorem weight_tag_lt (hbody : tagBody? rest = some body) (position : Nat) :
    (dropControls (List.replicate (n / 2) '\\')).length +
        (if n % 2 = 1 then Piece.text (['['] ++ body ++ [']']) else .tag position body).weight +
        (dropControls (rest.drop (body.length + 2))).length <
      (dropControls (List.replicate n '\\' ++ rest)).length := by
  have hrest := congrArg (fun a => (dropControls a).length) (tagBody?_eq_some hbody)
  simp only [length_dropControls_append] at hrest
  have hopen : (dropControls ['[']).length = 1 := rfl
  have hclose : (dropControls [']']).length = 1 := rfl
  rw [length_dropControls_append, length_dropControls_slashes, length_dropControls_slashes]
  split_ifs with hodd
  · simp only [Piece.weight, length_dropControls_append]
    omega
  · simp only [Piece.weight]
    omega

/-- Where a tag starts, less is shown, if no more is shown of what follows it than there is. -/
theorem weight_pieces_tag_lt
    (hspan : text.span (fun c => decide (c = '\\')) = (List.replicate n '\\', rest))
    (htext : text = List.replicate n '\\' ++ rest) (htag : tagBody? rest = some body)
    (hafter : weight (pieces fuel (position + n + body.length + 2) [] (rest.drop (body.length + 2))) ≤
      (dropControls (rest.drop (body.length + 2))).length) :
    weight (pieces (fuel + 1) position before text) < (dropControls (before.reverse ++ text)).length := by
  have hlt := weight_tag_lt (n := n) htag (position + n)
  rw [← htext] at hlt
  rw [pieces_tag hspan htag, weight_append, weight_append, weight_append, weight_plain, weight_plain,
    length_dropControls_append]
  simp only [weight]
  omega

/-- No more of a text is shown than there is. -/
theorem weight_pieces_le (fuel position : Nat) (before text : List Char) :
    weight (pieces fuel position before text) ≤ (dropControls (before.reverse ++ text)).length := by
  induction fuel generalizing position before text with
  | zero => exact Nat.zero_le _
  | succ fuel ih =>
    obtain ⟨n, rest, hspan, htext, -⟩ := exists_slashes text
    cases htag : tagBody? rest with
    | some body =>
      exact (weight_pieces_tag_lt hspan htext htag (ih _ [] _)).le
    | none =>
      cases rest with
      | nil =>
        rw [pieces_end hspan, weight_plain, htext, List.append_nil]
      | cons c rest =>
        rw [pieces_step hspan htag]
        conv_rhs => rw [htext, ← reverse_step]
        exact ih _ _ _

/-- Of a text in which a tag starts less is shown. -/
theorem weight_pieces_lt (position : Nat) (before : List Char) (hfuel : text.length < fuel)
    (htags : HasTag text) :
    weight (pieces fuel position before text) < (dropControls (before.reverse ++ text)).length := by
  induction fuel generalizing position before text with
  | zero => contradiction
  | succ fuel ih =>
    obtain ⟨n, rest, hspan, htext, hlength⟩ := exists_slashes text
    cases htag : tagBody? rest with
    | some body =>
      exact weight_pieces_tag_lt hspan htext htag (weight_pieces_le fuel _ [] _)
    | none =>
      rw [htext, hasTag_slashes] at htags
      cases rest with
      | nil => exact absurd htags not_hasTag_nil
      | cons c rest =>
        rw [pieces_step hspan htag]
        conv_rhs => rw [htext, ← reverse_step]
        refine ih _ _ ?_ ((hasTag_cons.mp htags).resolve_left (not_not_intro htag))
        rw [List.length_cons] at hlength
        omega

/-- A text without tags is one plain piece. -/
theorem pieces_eq_plain (hfuel : text.length < fuel) (htags : ¬ HasTag text) :
    pieces fuel position before text = plain (before.reverse ++ text) := by
  induction fuel generalizing position before text with
  | zero => contradiction
  | succ fuel ih =>
    obtain ⟨n, rest, hspan, htext, hlength⟩ := exists_slashes text
    rw [htext, hasTag_slashes] at htags
    cases rest with
    | nil => rw [pieces_end hspan, htext, List.append_nil]
    | cons c rest =>
      rw [hasTag_cons, not_or, not_not] at htags
      rw [pieces_step hspan htags.1]
      conv_rhs => rw [htext, ← reverse_step]
      refine ih ?_ htags.2
      rw [List.length_cons] at hlength
      omega

end

/-! ### What is shown -/

/-- Tags take no place in what is shown, so it is no longer than the text. -/
theorem length_shownPieces_le {opened : List Started} {ps : List Piece} {shown : List Char}
    (h : shownPieces rules opened ps = .ok shown) : shown.length ≤ weight ps := by
  induction ps generalizing opened shown with
  | nil =>
    rw [← Except.ok.inj h]
    exact Nat.zero_le _
  | cons p ps ih =>
    rw [weight_cons]
    cases p with
    | text chars =>
      obtain ⟨more, hmore, hshown⟩ := bind_eq_ok.mp h
      rw [← Except.ok.inj hshown, List.length_append]
      have hpictures := length_withPictures_le rules (unescaped chars)
      have hescapes := length_unescaped_le chars
      have hrest := ih hmore
      simp only [Piece.weight]
      omega
    | tag position body =>
      obtain ⟨opened', h⟩ : ∃ opened', shownPieces rules opened' ps = .ok shown := by
        unfold shownPieces at h
        simp only at h
        split at h
        · split_ifs at h
          · split at h
            · contradiction
            · split at h
              · contradiction
              · exact ⟨_, h⟩
          · split at h
            · split at h
              · contradiction
              · exact ⟨_, h⟩
            · contradiction
        · exact ⟨_, h⟩
      exact Nat.le_trans (ih h) (Nat.le_add_left _ _)

/-- A text without tags, without brackets that stand for themselves and without pictures. -/
structure IsLiteral (rules : Rules) (text : List Char) : Prop where
  no_tag : ¬ HasTag text
  no_escape : ¬ HasEscape text
  no_picture : ∀ name, .code name ∈ items text → rules.picture? name = none

/-- A text without tags is always shown, with pictures for its codes. -/
theorem shown_of_not_hasTag (h : ¬ HasTag text) :
    shown text rules = .ok (dropControls (rules.withPictures (unescaped text))) := by
  unfold shown
  rw [pieces_eq_plain (Nat.lt_succ_self _) h, List.reverse_nil, List.nil_append, plain]
  split_ifs with hnil
  · rw [hnil]
    simp [shownPieces, unescaped, Text.replaceAll, Rules.withPictures, items, dropControls]
  · simp [shownPieces, pure, Except.pure, bind, Except.bind]

/-- A text is shown as it stands, but for control characters, if and only if it is literal. -/
theorem shown_eq_self_iff : shown text rules = .ok (dropControls text) ↔ IsLiteral rules text := by
  constructor
  · intro h
    have htags : ¬ HasTag text := by
      intro htags
      have hle := length_shownPieces_le h
      have hlt := weight_pieces_lt 0 [] (Nat.lt_succ_self text.length) htags
      exact absurd hle (Nat.not_le.mpr hlt)
    rw [shown_of_not_hasTag htags] at h
    have hshown := Except.ok.inj h
    have hescape : ¬ HasEscape text := by
      intro hescape
      have hlt := length_unescaped_lt hescape
      have hle := length_withPictures_le rules (unescaped text)
      rw [hshown] at hle
      omega
    rw [unescaped_eq_self hescape] at hshown
    exact ⟨htags, hescape, withPictures_eq_iff.mp hshown⟩
  · rintro ⟨htags, hescape, hpicture⟩
    rw [shown_of_not_hasTag htags, unescaped_eq_self hescape, withPictures_eq_iff.mpr hpicture]

end Markup

end TypeGuards.Display
