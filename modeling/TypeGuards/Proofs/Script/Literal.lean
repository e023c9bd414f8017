import Mathlib.Data.List.TakeWhile
import TypeGuards.Proofs.Script.Evaluation
/-!
The lines of a text of the language, and string literals with their escapes, as they are read behind the
quote that opens them. An escape stands for less than it takes, so that a literal denotes exactly the
characters in it if and only if it holds nothing that is not read as it is.
-/
namespace TypeGuards.Script

open TypeScript

/-! ### Lines -/

/-- Puts a character in front of the first line. -/
def inFront (c : Char) : List (List Char) → List (List Char)
  | line :: more => (c :: line) :: more
  | [] => [[c]]

/-- The lines of a text; a carriage return and the newline after it end one line. -/
def lines : List Char → List (List Char)
  | [] => [[]]
  | '\r' :: '\n' :: rest => [] :: lines rest
  | c :: rest => if endsLine c then [] :: lines rest else inFront c (lines rest)

/-- A text without line ends. -/
def IsOneLine (text : String) : Prop := ∀ c ∈ text.toList, endsLine c = false

instance (text : String) : Decidable (IsOneLine text) := List.decidableBAll _ _

section

variable {line rest : List Char} {c : Char}

theorem lines_newline : lines ('\n' :: rest) = [] :: lines rest := by
  rw [lines]
  · rfl
  · nofun

theorem lines_cons (hc : endsLine c = false) : lines (c :: rest) = inFront c (lines rest) := by
  rw [lines, if_neg (by simp [hc])]
  rintro rest' rfl
  exact absurd hc (by decide)

/-- A line without line ends is read up to the newline that ends it. -/
theorem lines_append (h : ∀ c ∈ line, endsLine c = false) :
    lines (line ++ '\n' :: rest) = line :: lines rest := by
  induction line with
  | nil => exact lines_newline
  | cons c line ih =>
    obtain ⟨hc, hline⟩ := List.forall_mem_cons.mp h
    rw [List.cons_append, lines_cons hc, ih hline]
    rfl

/-- No line holds a line end. -/
theorem endsLine_of_mem_lines {text : List Char} (h : line ∈ lines text) :
    ∀ c ∈ line, endsLine c = false := by
  fun_induction lines text generalizing line with
  | case1 => simp_all
  | case2 rest ih =>
    rcases List.mem_cons.mp h with rfl | h
    · exact List.forall_mem_nil _
    · exact ih h
  | case3 c rest _ hc ih =>
    rcases List.mem_cons.mp h with rfl | h
    · exact List.forall_mem_nil _
    · exact ih h
  | case4 c rest _ hc ih =>
    have hc : endsLine c = false := Bool.eq_false_iff.mpr hc
    cases hlines : lines rest with
    | nil =>
      rw [hlines, inFront, List.mem_singleton] at h
      rw [h]
      exact List.forall_mem_singleton.mpr hc
    | cons first more =>
      rw [hlines] at h ih
      rcases List.mem_cons.mp h with rfl | h
      · exact List.forall_mem_cons.mpr ⟨hc, ih List.mem_cons_self⟩
      · exact ih (List.mem_cons_of_mem first h)

end

/-! ### Units -/

def pointUnits (n : Nat) : Units :=
  if n < 0x10000 then [n.toUInt16]
  else [(0xd800 + (n - 0x10000) / 1024).toUInt16, (0xdc00 + (n - 0x10000) % 1024).toUInt16]

def charUnits (text : List Char) : Units := text.flatMap fun c => pointUnits c.toNat

theorem units_eq (text : String) : units text = charUnits text.toList := rfl

theorem charUnits_cons (c : Char) (rest : List Char) :
    charUnits (c :: rest) = pointUnits c.toNat ++ charUnits rest := rfl

theorem charUnits_append (a b : List Char) : charUnits (a ++ b) = charUnits a ++ charUnits b :=
  List.flatMap_append

theorem length_pointUnits (n : Nat) : 1 ≤ (pointUnits n).length ∧ (pointUnits n).length ≤ 2 := by
  unfold pointUnits
  split <;> simp

/-- A text has no fewer units than characters. -/
theorem length_le_charUnits (text : List Char) : text.length ≤ (charUnits text).length := by
  induction text with
  | nil => exact Nat.le_refl 0
  | cons c rest ih =>
    have hc := (length_pointUnits c.toNat).1
    rw [charUnits_cons, List.length_append, List.length_cons]
    omega

/-! ### Escapes -/

def hexDigit? (c : Char) : Option Nat :=
  if isDigit c then some (c.toNat - '0'.toNat)
  else if 'a' ≤ c ∧ c ≤ 'f' then some (c.toNat - 'a'.toNat + 10)
  else if 'A' ≤ c ∧ c ≤ 'F' then some (c.toNat - 'A'.toNat + 10)
  else none

def hexNumber? (digits : List Char) : Option Nat :=
  if digits = [] then none else digits.foldlM (fun n c => (hexDigit? c).map (16 * n + ·)) 0

/-- The letters that stand for control characters behind a backslash. -/
def letterEscapes : List (Char × UInt16) :=
  [('b', 8), ('t', 9), ('n', 10), ('v', 11), ('f', 12), ('r', 13)]

def fixedHex (count : Nat) (text : List Char) : Option (Units × List Char) :=
  if text.length < count then none
  else (hexNumber? (text.take count)).map fun n => (pointUnits n, text.drop count)

def bracedHex (text : List Char) : Option (Units × List Char) :=
  match text.dropWhile (· ≠ '\x7d') with
  | _ :: after =>
      (hexNumber? (text.takeWhile (· ≠ '\x7d'))).bind fun n =>
        if n ≤ 0x10ffff then some (pointUnits n, after) else none
  | [] => none

/-- What stands behind a backslash: its units, and what follows. A line end there is passed over. -/
def escape : List Char → Option (Units × List Char)
  | [] => none
  | 'x' :: rest => fixedHex 2 rest
  | 'u' :: '\x7b' :: rest => bracedHex rest
  | 'u' :: rest => fixedHex 4 rest
  | '0' :: rest => if rest.head?.any isDigit then none else some ([0], rest)
  | '\r' :: '\n' :: rest => some ([], rest)
  | c :: rest =>
      if endsLine c then some ([], rest)
      else if isDigit c then none
      else some (((letterEscapes.lookup c).map ([·])).getD (pointUnits c.toNat), rest)

theorem charUnits_take {text : List Char} {count : Nat} (h : count ≤ text.length) :
    count ≤ (charUnits (text.take count)).length := by
  have hlength := length_le_charUnits (text.take count)
  rwa [List.length_take, Nat.min_eq_left h] at hlength

/-- An escape by number stands for no more than two units, and takes its digits. -/
theorem fixedHex_eq_some {text after : List Char} {count : Nat} {value : Units}
    (h : fixedHex count text = some (value, after)) :
    ∃ taken, text = taken ++ after ∧ value.length ≤ 2 ∧ count ≤ (charUnits taken).length := by
  unfold fixedHex at h
  split_ifs at h with hcount
  obtain ⟨n, -, hn⟩ := Option.map_eq_some_iff.mp h
  obtain ⟨rfl, rfl⟩ := Prod.mk.inj hn
  exact ⟨text.take count, (List.take_append_drop count text).symm, (length_pointUnits n).2,
    charUnits_take (Nat.not_lt.mp hcount)⟩

theorem bracedHex_eq_some {text after : List Char} {value : Units}
    (h : bracedHex text = some (value, after)) :
    ∃ taken, text = taken ++ after ∧ value.length ≤ 2 := by
  unfold bracedHex at h
  split at h
  · rename_i brace rest hrest
    obtain ⟨n, -, hn⟩ := Option.bind_eq_some_iff.mp h
    split_ifs at hn
    obtain ⟨rfl, rfl⟩ := Prod.mk.inj (Option.some.inj hn)
    refine ⟨text.takeWhile (· ≠ '\x7d') ++ [brace], ?_, (length_pointUnits n).2⟩
    rw [List.append_assoc, List.singleton_append, ← hrest, List.takeWhile_append_dropWhile]
  · contradiction

/-- An escape stands for no more than it takes. -/
theorem escape_shrinks {text after : List Char} {value : Units} (h : escape text = some (value, after)) :
    ∃ taken, text = taken ++ after ∧ value.length ≤ (charUnits taken).length := by
  unfold escape at h
  split at h
  · contradiction
  · obtain ⟨taken, rfl, hvalue, htaken⟩ := fixedHex_eq_some h
    refine ⟨'x' :: taken, rfl, ?_⟩
    rw [charUnits_cons, List.length_append]
    omega
  · obtain ⟨taken, rfl, hvalue⟩ := bracedHex_eq_some h
    refine ⟨'u' :: '\x7b' :: taken, rfl, Nat.le_trans hvalue ?_⟩
    have hlength := length_le_charUnits ('u' :: '\x7b' :: taken)
    simp only [List.length_cons] at hlength
    omega
  · obtain ⟨taken, rfl, hvalue, htaken⟩ := fixedHex_eq_some h
    refine ⟨'u' :: taken, rfl, ?_⟩
    rw [charUnits_cons, List.length_append]
    omega
  · split_ifs at h
    obtain ⟨rfl, rfl⟩ := Prod.mk.inj (Option.some.inj h)
    exact ⟨['0'], rfl, Nat.le_refl _⟩
  · obtain ⟨rfl, rfl⟩ := Prod.mk.inj (Option.some.inj h)
    exact ⟨['\r', '\n'], rfl, Nat.zero_le _⟩
  · rename_i c rest _ _ _ _ _
    split_ifs at h
    · obtain ⟨rfl, rfl⟩ := Prod.mk.inj (Option.some.inj h)
      exact ⟨[c], rfl, Nat.zero_le _⟩
    · obtain ⟨hvalue, rfl⟩ := Prod.mk.inj (Option.some.inj h)
      refine ⟨[c], rfl, ?_⟩
      rw [← hvalue, charUnits_cons, List.length_append]
      cases letterEscapes.lookup c with
      | none => exact Nat.le_add_right _ _
      | some n => exact Nat.le_trans (length_pointUnits c.toNat).1 (Nat.le_add_right _ _)

/-! ### Literals -/

/-- What is denoted by a literal, read behind the quote that opens it, and what follows the quote that
closes it. -/
def literal (text : List Char) : Option (Units × List Char) :=
  match text with
  | [] => none
  | c :: rest =>
      if c = '"' then some ([], rest)
      else if c = '\n' ∨ c = '\r' then none
      else if c = '\\' then
        match _hescape : escape rest with
        | some (value, after) => (literal after).map fun (more, left) => (value ++ more, left)
        | none => none
      else (literal rest).map fun (more, left) => (pointUnits c.toNat ++ more, left)
termination_by text.length
decreasing_by
  · obtain ⟨taken, rfl, -⟩ := escape_shrinks _hescape
    simp +arith
  · simp

example : literal "a\\x41\\u0041\\u\x7b1f600\x7d\\\nb\\\"\\/\"; c".toList =
    some (units "aAA😀b\"/", "; c".toList) := by decide +kernel

/-- A character that is read as it is in a literal. -/
def IsPlainChar (c : Char) : Prop := c ≠ '"' ∧ c ≠ '\\' ∧ c ≠ '\n' ∧ c ≠ '\r'

instance (c : Char) : Decidable (IsPlainChar c) := inferInstanceAs (Decidable (_ ∧ _))

section

variable {text before after left : List Char} {value : Units} {c : Char}

theorem literal_quote : literal ('"' :: after) = some ([], after) := by
  rw [literal, if_pos rfl]

/-- A plain character of a literal stands for itself. -/
theorem literal_plain (hc : IsPlainChar c) : literal (c :: after) =
    (literal after).map fun (more, left) => (pointUnits c.toNat ++ more, left) := by
  rw [literal, if_neg hc.1, if_neg (not_or.mpr hc.2.2), if_neg hc.2.1]

theorem literal_escape {rest : List Char} (h : escape rest = some (value, after)) :
    literal ('\\' :: rest) = (literal after).map fun (more, left) => (value ++ more, left) := by
  rw [literal, if_neg (by decide), if_neg (by decide), if_pos rfl]
  split
  · rename_i value' after' h'
    obtain ⟨rfl, rfl⟩ := Prod.mk.inj (Option.some.inj (h'.symm.trans h))
    rfl
  · rename_i hnone
    rw [h] at hnone
    contradiction

/-- What is read up to the closing quote denotes no more than it takes, and less if there is a backslash
in it; without one it is plain. -/
theorem literal_shrinks (h : literal text = some (value, left)) :
    ∃ taken, text = taken ++ '"' :: left ∧ value.length ≤ (charUnits taken).length ∧
      ('\\' ∈ taken → value.length < (charUnits taken).length) ∧
      ('\\' ∉ taken → ∀ c ∈ taken, IsPlainChar c) := by
  fun_induction literal text generalizing value left with
  | case1 => contradiction
  | case2 rest =>
    obtain ⟨rfl, rfl⟩ := Prod.mk.inj (Option.some.inj h)
    exact ⟨[], rfl, Nat.le_refl 0, fun hmem => absurd hmem List.not_mem_nil,
      fun _ => List.forall_mem_nil _⟩
  | case3 => contradiction
  | case4 rest value' after hescape _ _ ih =>
    obtain ⟨⟨more, end'⟩, hmore, hpair⟩ := Option.map_eq_some_iff.mp h
    obtain ⟨rfl, rfl⟩ := Prod.mk.inj hpair
    obtain ⟨escaped, rfl, hescaped⟩ := escape_shrinks hescape
    obtain ⟨taken, rfl, htaken, -⟩ := ih hmore
    have hlength : (value' ++ more).length < (charUnits ('\\' :: escaped ++ taken)).length := by
      have hslash := (length_pointUnits '\\'.toNat).1
      simp only [List.cons_append, charUnits_cons, charUnits_append, List.length_append]
      omega
    refine ⟨'\\' :: escaped ++ taken, ?_, hlength.le, fun _ => hlength, fun hnone => ?_⟩
    · rw [List.cons_append, List.cons_append, List.append_assoc]
    · exact absurd (List.mem_append_left taken List.mem_cons_self) hnone
  | case5 => contradiction
  | case6 c rest hquote hend hslash ih =>
    obtain ⟨⟨more, end'⟩, hmore, hpair⟩ := Option.map_eq_some_iff.mp h
    obtain ⟨rfl, rfl⟩ := Prod.mk.inj hpair
    obtain ⟨taken, rfl, hle, hless, hplain⟩ := ih hmore
    have hlength : (charUnits (c :: taken)).length =
        (pointUnits c.toNat).length + (charUnits taken).length := by
      rw [charUnits_cons, List.length_append]
    refine ⟨c :: taken, rfl, ?_⟩
    rw [List.length_append, hlength]
    refine ⟨Nat.add_le_add_left hle _, fun hmem => ?_, fun hnone => ?_⟩
    · have hrest : '\\' ∈ taken := (List.mem_cons.mp hmem).resolve_left (Ne.symm hslash)
      exact Nat.add_lt_add_left (hless hrest) _
    · rw [List.mem_cons, not_or] at hnone
      exact List.forall_mem_cons.mpr ⟨⟨hquote, hslash, not_or.mp hend⟩, hplain hnone.2⟩

/-- A literal denotes exactly the characters in it, up to its closing quote, if and only if all of them
are read as they are. -/
theorem literal_eq_iff (text after : List Char) :
    literal (text ++ '"' :: after) = some (charUnits text, after) ↔ ∀ c ∈ text, IsPlainChar c := by
  constructor
  · intro h
    obtain ⟨taken, htaken, -, hless, hplain⟩ := literal_shrinks h
    obtain rfl := List.append_cancel_right htaken
    refine hplain fun hmem => ?_
    exact absurd (hless hmem) (Nat.lt_irrefl _)
  · intro h
    induction text with
    | nil => exact literal_quote
    | cons c text ih =>
      obtain ⟨hc, htext⟩ := List.forall_mem_cons.mp h
      rw [List.cons_append, literal_plain hc, ih htext]
      rfl

end

end TypeGuards.Script
