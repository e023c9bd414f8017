import Mathlib.Tactic.SplitIfs
import TypeGuards.Encoding.Utf16
import TypeGuards.Proofs.Encoding.Utf8
/-!
UTF-16 read back. Bytes are read with the low byte first if and only if they were written so. What
is refused for want of a mark is a text written without one.
-/
namespace TypeGuards.Encoding.Utf16

open Utf8 (toNat_toUInt8)

variable {a b c d : UInt8} {u : Nat} {rest : List UInt8} {done : List Char} {position : Nat}

theorem unit_lt : Order.lowFirst.unit a b < 0x10000 := by
  have ha := a.toNat_lt
  have hb := b.toNat_lt
  simp only [Order.unit]
  omega

theorem unitBytes_unit : unitBytes (Order.lowFirst.unit a b) = [a, b] := by
  have ha := a.toNat_lt
  have hb := b.toNat_lt
  have hhigh : Order.lowFirst.unit a b / 256 = b.toNat := by
    simp only [Order.unit]
    omega
  have hlow : (Order.lowFirst.unit a b).toUInt8 = a := by
    rw [← UInt8.toNat_inj]
    simp only [Order.unit, Nat.toUInt8, UInt8.toNat_ofNat']
    omega
  rw [unitBytes, hhigh, hlow]
  simp

/-- Every unit is made of two bytes, in which it can be read again. -/
theorem exists_unitBytes (h : u < 0x10000) :
    ∃ a b, unitBytes u = [a, b] ∧ Order.lowFirst.unit a b = u := by
  refine ⟨_, _, rfl, ?_⟩
  have hhigh : (u / 256).toUInt8.toNat = u / 256 := toNat_toUInt8 (by omega)
  have hlow : u.toUInt8.toNat = u % 256 := by simp [Nat.toUInt8]
  simp only [Order.unit, hhigh, hlow]
  omega

theorem isHigh_iff : isHigh u = true ↔ 0xd800 ≤ u ∧ u < 0xdc00 := by simp [isHigh]

theorem isLow_iff : isLow u = true ↔ 0xdc00 ≤ u ∧ u < 0xe000 := by simp [isLow]

/-! ### Characters -/

theorem encodeChar_one {c : Char} (h : c.toNat < 0x10000) : encodeChar c = unitBytes c.toNat := by
  simp only [encodeChar]
  rw [if_pos h]

/-- A character beyond the first plane is written as a pair of units. -/
theorem encodeChar_pair {c : Char} (h : ¬c.toNat < 0x10000) : encodeChar c =
    unitBytes (0xd800 + (c.toNat - 0x10000) / 1024) ++
      unitBytes (0xdc00 + (c.toNat - 0x10000) % 1024) := by
  simp only [encodeChar]
  rw [if_neg h]

/-- Decoding takes the bytes of a character off the front. -/
theorem decodeFrom_encodeChar (c : Char) (position : Nat) (done : List Char) (rest : List UInt8) :
    ∃ next, decodeFrom .lowFirst position done (encodeChar c ++ rest) =
      decodeFrom .lowFirst next (c :: done) rest := by
  have hvalid : c.toNat < 0xd800 ∨ (0xdfff < c.toNat ∧ c.toNat < 0x110000) := c.valid
  have hchar := Char.ofNat_toNat c
  by_cases h : c.toNat < 0x10000
  · obtain ⟨a, b, hbytes, hunit⟩ := exists_unitBytes h
    have hlow : ¬isLow c.toNat = true := by
      rw [isLow_iff]
      omega
    have hhigh : ¬isHigh c.toNat = true := by
      rw [isHigh_iff]
      omega
    refine ⟨position + 2, ?_⟩
    rw [encodeChar_one h, hbytes, List.cons_append, List.singleton_append, decodeFrom.eq_def]
    simp only [hunit, hlow, hhigh, hchar, if_false, Bool.false_eq_true]
  · obtain ⟨a, b, hfirst, hunit⟩ :=
      exists_unitBytes (u := 0xd800 + (c.toNat - 0x10000) / 1024) (by omega)
    obtain ⟨a', b', hsecond, hunit'⟩ :=
      exists_unitBytes (u := 0xdc00 + (c.toNat - 0x10000) % 1024) (by omega)
    have hhigh : isHigh (0xd800 + (c.toNat - 0x10000) / 1024) = true := by
      rw [isHigh_iff]
      omega
    have hnot : ¬isLow (0xd800 + (c.toNat - 0x10000) / 1024) = true := by
      rw [isLow_iff]
      omega
    have hlow : isLow (0xdc00 + (c.toNat - 0x10000) % 1024) = true := by
      rw [isLow_iff]
      omega
    have hvalue : 0x10000 + (0xd800 + (c.toNat - 0x10000) / 1024 - 0xd800) * 1024 +
        (0xdc00 + (c.toNat - 0x10000) % 1024 - 0xdc00) = c.toNat := by omega
    refine ⟨position + 4, ?_⟩
    rw [encodeChar_pair h, hfirst, hsecond, List.append_assoc, List.cons_append,
      List.singleton_append, List.cons_append, List.singleton_append, decodeFrom.eq_def]
    simp only [hunit, hunit', hhigh, hnot, hlow, hvalue, hchar, if_true, if_false,
      Bool.false_eq_true]

/-- What has been written is read back. -/
theorem decodeFrom_written (text done : List Char) (position : Nat) :
    decodeFrom .lowFirst position done (text.flatMap encodeChar) = .ok (done.reverse ++ text) := by
  induction text generalizing done position with
  | nil => simp [decodeFrom]
  | cons c text ih =>
    obtain ⟨next, hnext⟩ := decodeFrom_encodeChar c position done (text.flatMap encodeChar)
    rw [List.flatMap_cons, hnext, ih]
    simp

theorem encodeChar_unit (hlow : ¬isLow (Order.lowFirst.unit a b) = true)
    (hhigh : ¬isHigh (Order.lowFirst.unit a b) = true) :
    encodeChar (Char.ofNat (Order.lowFirst.unit a b)) = [a, b] := by
  have hlt : Order.lowFirst.unit a b < 0x10000 := unit_lt
  rw [isLow_iff] at hlow
  rw [isHigh_iff] at hhigh
  have hvalue : (Char.ofNat (Order.lowFirst.unit a b)).toNat = Order.lowFirst.unit a b := by
    apply Utf8.toNat_ofNat
    unfold Nat.isValidChar
    omega
  rw [encodeChar_one (by rwa [hvalue]), hvalue, unitBytes_unit]

/-- A pair of units is the one in which its character is written. -/
theorem encodeChar_units (hhigh : isHigh (Order.lowFirst.unit a b) = true)
    (hlow : isLow (Order.lowFirst.unit c d) = true) :
    encodeChar (Char.ofNat (0x10000 + (Order.lowFirst.unit a b - 0xd800) * 1024 +
      (Order.lowFirst.unit c d - 0xdc00))) = [a, b, c, d] := by
  rw [isHigh_iff] at hhigh
  rw [isLow_iff] at hlow
  have hvalue : (Char.ofNat (0x10000 + (Order.lowFirst.unit a b - 0xd800) * 1024 +
      (Order.lowFirst.unit c d - 0xdc00))).toNat =
        0x10000 + (Order.lowFirst.unit a b - 0xd800) * 1024 +
          (Order.lowFirst.unit c d - 0xdc00) := by
    apply Utf8.toNat_ofNat
    unfold Nat.isValidChar
    omega
  have hfirst : 0xd800 + (0x10000 + (Order.lowFirst.unit a b - 0xd800) * 1024 +
      (Order.lowFirst.unit c d - 0xdc00) - 0x10000) / 1024 = Order.lowFirst.unit a b := by omega
  have hsecond : 0xdc00 + (0x10000 + (Order.lowFirst.unit a b - 0xd800) * 1024 +
      (Order.lowFirst.unit c d - 0xdc00) - 0x10000) % 1024 = Order.lowFirst.unit c d := by omega
  rw [encodeChar_pair (by rw [hvalue]; omega), hvalue, hfirst, hsecond, unitBytes_unit,
    unitBytes_unit]
  rfl

/-- What is read was written. -/
theorem written_of_decodeFrom {bytes : List UInt8} {chars : List Char}
    (h : decodeFrom .lowFirst position done bytes = .ok chars) :
    ∃ text, chars = done.reverse ++ text ∧ bytes = text.flatMap encodeChar := by
  fun_induction decodeFrom .lowFirst position done bytes with
  | case1 position done =>
    obtain rfl := Except.ok.inj h
    exact ⟨[], by simp, rfl⟩
  | case2 | case3 | case5 | case6 => contradiction
  | case4 position done a b u hlow hhigh c d rest v hsecond n ih =>
    obtain ⟨text, rfl, rfl⟩ := ih h
    refine ⟨Char.ofNat n :: text, by simp, ?_⟩
    rw [List.flatMap_cons, encodeChar_units hhigh hsecond]
    rfl
  | case7 position done a b rest u hlow hhigh ih =>
    obtain ⟨text, rfl, rfl⟩ := ih h
    refine ⟨Char.ofNat u :: text, by simp, ?_⟩
    rw [List.flatMap_cons, encodeChar_unit hlow hhigh]
    rfl

/-! ### Texts without a mark -/

/-- The bytes of a text, low byte first, that does not begin as a mark does in either order. -/
def Unmarked (bytes : List UInt8) : Prop :=
  ∃ c text, bytes = (c :: text).flatMap encodeChar ∧ c.toNat ≠ 0xfeff ∧ c.toNat ≠ 0xfffe

/-- Two bytes are the mark in one order exactly if they are its reverse in the other. -/
theorem isMark_iff : Order.highFirst.unit a b = mark ↔ Order.lowFirst.unit a b = 0xfffe := by
  have ha := a.toNat_lt
  have hb := b.toNat_lt
  simp only [Order.unit, mark]
  omega

/-- The first unit of a character is the character itself or the first of a pair. -/
theorem exists_first_unit (c : Char) : ∃ a b more, encodeChar c = a :: b :: more ∧
    (Order.lowFirst.unit a b = c.toNat ∨
      0x10000 ≤ c.toNat ∧ Order.lowFirst.unit a b < 0xdc00) := by
  have hvalid : c.toNat < 0xd800 ∨ (0xdfff < c.toNat ∧ c.toNat < 0x110000) := c.valid
  by_cases h : c.toNat < 0x10000
  · obtain ⟨a, b, hbytes, hunit⟩ := exists_unitBytes h
    exact ⟨a, b, [], by rw [encodeChar_one h, hbytes], Or.inl hunit⟩
  · obtain ⟨a, b, hbytes, hunit⟩ :=
      exists_unitBytes (u := 0xd800 + (c.toNat - 0x10000) / 1024) (by omega)
    exact ⟨a, b, _, by rw [encodeChar_pair h, hbytes]; rfl, Or.inr ⟨by omega, by omega⟩⟩

/-- The first unit decides on the order; without a mark nothing can be told. -/
theorem decode_cons_cons : decode (a :: b :: rest) =
    if Order.lowFirst.unit a b = 0xfeff then reading (decodeFrom .lowFirst 2 [] rest)
    else if Order.lowFirst.unit a b = 0xfffe then reading (decodeFrom .highFirst 2 [] rest)
    else
      match decodeFrom .lowFirst 0 [] (a :: b :: rest) with
      | .ok _ => .unmarked
      | .error e => .undecodable e := by
  rw [decode]
  simp only [isMark_iff]
  rfl

theorem reading_ne_unmarked {r : Except DecodeError (List Char)} : reading r ≠ .unmarked := by
  cases r <;> nofun

/-- A text is refused for want of a mark if and only if it was written without one. -/
theorem decode_eq_unmarked {bytes : List UInt8} : decode bytes = .unmarked ↔ Unmarked bytes := by
  constructor
  · intro h
    rcases bytes with _ | ⟨a, _ | ⟨b, rest⟩⟩
    · exact absurd (show reading (decodeFrom .lowFirst 0 [] []) = .unmarked from h)
        reading_ne_unmarked
    · exact absurd (show reading (decodeFrom .lowFirst 0 [] [a]) = .unmarked from h)
        reading_ne_unmarked
    rw [decode_cons_cons] at h
    split_ifs at h with hmark hother
    · exact absurd h reading_ne_unmarked
    · exact absurd h reading_ne_unmarked
    split at h
    · rename_i chars hchars
      obtain ⟨text, -, hbytes⟩ := written_of_decodeFrom hchars
      rcases text with _ | ⟨c, text⟩
      · contradiction
      obtain ⟨a', b', more, hc, hunit⟩ := exists_first_unit c
      have hfirst := hbytes
      rw [List.flatMap_cons, hc] at hfirst
      simp only [List.cons_append, List.cons.injEq] at hfirst
      obtain ⟨rfl, rfl, -⟩ := hfirst
      exact ⟨c, text, hbytes, by omega, by omega⟩
    · contradiction
  · rintro ⟨c, text, rfl, hmark, hother⟩
    obtain ⟨a, b, more, hc, hunit⟩ := exists_first_unit c
    have hbytes : (c :: text).flatMap encodeChar = a :: b :: (more ++ text.flatMap encodeChar) := by
      rw [List.flatMap_cons, hc]
      rfl
    have hdecode := decodeFrom_written (c :: text) [] 0
    rw [hbytes] at hdecode ⊢
    rw [decode_cons_cons, if_neg (by omega), if_neg (by omega), hdecode]

end TypeGuards.Encoding.Utf16
